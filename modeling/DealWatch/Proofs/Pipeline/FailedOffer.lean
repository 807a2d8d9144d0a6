import DealWatch.Proofs.Listing.Title
import DealWatch.Proofs.Number.Bounds
import DealWatch.Proofs.Pipeline.Match

/-!
# What an offer that fails leaves behind

Each row that the match stage writes is there from then on, also if it fails later. A listing that
cannot be stored leaves nothing (`Listing.Unstorable` says why it cannot). Otherwise there are two
reasons to fail: a price that cannot be read or stored (`Listing.Overpriced`), and a rule that
accepts the listing but cannot be identified, so that its match cannot be stored. By then the post
is in the store, and with such a rule the title as well.

`failed_offer_leaves` says what is left, and what comes of the next offer. The ways of the match
stage that fail are gone through one by one. One of them is no way at all: `RuleSet.exists_select`
says that the rules never fail for a title that was stored, since the numbers of its price are
words, and words are in the range of double-precision numbers.
-/

namespace DealWatch

/-- What is wrong with a count of votes. -/
inductive BadVotes : Binary64 → Failure → Prop
  /-- It is no number. -/
  | unknown {neg : Bool} : BadVotes (.nan neg) .nanCount
  /-- It is infinite. -/
  | endless {neg : Bool} : BadVotes (.infinite neg) .infiniteCount
  /-- What stands before its point is no word. -/
  | wide {x : Binary64} {n : Int} : x.truncate? = some n → isWord n = false →
      BadVotes x .wideInteger

namespace Listing

/-- What keeps a listing from being stored. -/
inductive Unstorable (l : Listing) : Failure → Prop
  | votes {e : Failure} : BadVotes l.downs e ∨ BadVotes l.ups e → Unstorable l e
  /-- The time at which it was posted is no number. -/
  | undated : l.created.isNan = true → Unstorable l .integrity
  /-- One of its texts has halves of surrogate pairs. -/
  | unencodable {fault : EncodingFault} :
      some fault ∈ [l.faults.id, l.faults.flair, l.faults.title, l.faults.url] →
      Unstorable l (.unencodable fault)

/-- What is wrong with the price in the title of a listing. -/
inductive Overpriced (l : Listing) : Failure → Prop
  /-- A number has more digits than can be read. -/
  | unreadable {parts : TitleParts} : FirstTitleCut l.title.toList parts → ¬ parts.Fits →
      Overpriced l .longInteger
  /-- A number is no word. -/
  | wide {parts : TitleParts} : FirstTitleCut l.title.toList parts → parts.Fits →
      isWord (parts.said l.id).dollars = false ∨ isWord (parts.said l.id).cents = false →
      Overpriced l .wideInteger

end Listing

/-! ### The post -/

namespace Store

theorem badVotes_of_wholeVotes {x : Binary64} {e : Failure} (h : wholeVotes x = .error e) :
    BadVotes x e := by
  cases x with
  | nan neg =>
    cases h
    exact .unknown
  | infinite neg =>
    cases h
    exact .endless
  | finite neg m e' => cases h

theorem truncate?_of_wholeVotes {x : Binary64} {n : Int} (h : wholeVotes x = .ok n) :
    x.truncate? = some n := by
  cases x with
  | nan neg => cases h
  | infinite neg => cases h
  | finite neg m e => exact congrArg some (Except.ok.inj h)

theorem requireWhole_eq_error {fault? : Option EncodingFault} {e : Failure}
    (h : requireWhole fault? = .error e) : ∃ fault, fault? = some fault ∧ e = .unencodable fault := by
  cases fault? with
  | none => cases h
  | some fault => exact ⟨fault, rfl, (Except.error.inj h).symm⟩

theorem requireWord_eq_error {i : Int} {e : Failure} (h : requireWord i = .error e) :
    isWord i = false ∧ e = .wideInteger := by
  unfold requireWord at h
  split at h
  · cases h
  · rename_i hwide
    exact ⟨(Bool.not_eq_true _).mp hwide, (Except.error.inj h).symm⟩

/-- The steps of writing a row are gone through up to the one that fails. -/
theorem unstorable_of_postOf {l : Listing} {e : Failure} (h : postOf l = .error e) :
    l.Unstorable e := by
  have hfault {fault? : Option EncodingFault} (h : requireWhole fault? = .error e)
      (hmem : fault? ∈ [l.faults.id, l.faults.flair, l.faults.title, l.faults.url]) :
      l.Unstorable e := by
    obtain ⟨fault, rfl, rfl⟩ := requireWhole_eq_error h
    exact .unencodable hmem
  obtain h | ⟨downs, hdowns, h⟩ := bind_eq_error.1 h
  · exact .votes (.inl (badVotes_of_wholeVotes h))
  obtain h | ⟨ups, hups, h⟩ := bind_eq_error.1 h
  · exact .votes (.inr (badVotes_of_wholeVotes h))
  obtain h | ⟨_, -, h⟩ := bind_eq_error.1 h
  · exact hfault h (by simp)
  obtain h | ⟨_, -, h⟩ := bind_eq_error.1 h
  · obtain ⟨hwide, rfl⟩ := requireWord_eq_error h
    exact .votes (.inl (.wide (truncate?_of_wholeVotes hdowns) hwide))
  obtain h | ⟨_, -, h⟩ := bind_eq_error.1 h
  · exact hfault h (by simp)
  obtain h | ⟨_, -, h⟩ := bind_eq_error.1 h
  · exact hfault h (by simp)
  obtain h | ⟨_, -, h⟩ := bind_eq_error.1 h
  · obtain ⟨hwide, rfl⟩ := requireWord_eq_error h
    exact .votes (.inr (.wide (truncate?_of_wholeVotes hups) hwide))
  obtain h | ⟨_, -, h⟩ := bind_eq_error.1 h
  · exact hfault h (by simp)
  split at h
  · rename_i hnan
    cases h
    exact .undated hnan
  · cases h

end Store

/-! ### The title -/

/-- A title with a price is read if the price fits, and fails otherwise. -/
theorem extractTitle_of_parts {title : String} {parts : TitleParts}
    (h : titleParts? title.toList = some parts) (postId : String) :
    (parts.Fits ∧ extractTitle title postId = .ok (some (parts.said postId))) ∨
      (¬ parts.Fits ∧ extractTitle title postId = .error .longInteger) := by
  unfold extractTitle
  rw [h]
  by_cases hfits : parts.Fits
  · refine .inl ⟨hfits, ?_⟩
    simp only [TitleParts.toTitle_of_fits hfits]
    rfl
  · refine .inr ⟨hfits, ?_⟩
    simp only [TitleParts.toTitle_of_not_fits hfits]
    rfl

theorem exists_parts_of_extractTitle {title postId : String}
    (h : extractTitle title postId ≠ .ok none) :
    ∃ parts, titleParts? title.toList = some parts := by
  cases hparts : titleParts? title.toList with
  | none =>
    refine absurd ?_ h
    rw [extractTitle, hparts]
  | some parts => exact ⟨parts, rfl⟩

theorem overpriced_of_extractTitle {l : Listing} {e : Failure}
    (h : extractTitle l.title l.id = .error e) : l.Overpriced e := by
  obtain ⟨parts, hparts⟩ := exists_parts_of_extractTitle (by rw [h]; nofun)
  obtain ⟨-, hread⟩ | ⟨hlong, hread⟩ := extractTitle_of_parts hparts l.id
  · rw [h] at hread
    cases hread
  · rw [h] at hread
    cases hread
    exact .unreadable (titleParts?_eq_some_iff.1 hparts) hlong

theorem overpriced_of_titleRow {l : Listing} {t : ParsedTitle} {e : Failure}
    (ht : extractTitle l.title l.id = .ok (some t)) (h : Store.titleRow t = .error e) :
    l.Overpriced e := by
  obtain ⟨parts, hparts⟩ := exists_parts_of_extractTitle (by rw [ht]; nofun)
  obtain ⟨hfits, hread⟩ | ⟨-, hread⟩ := extractTitle_of_parts hparts l.id
  · rw [ht] at hread
    obtain rfl := Option.some.inj (Except.ok.inj hread)
    rw [Store.titleRow] at h
    split at h
    · cases h
    · cases h
      rename_i hwide
      rw [Bool.and_eq_true, Classical.not_and_iff_not_or_not, Bool.not_eq_true, Bool.not_eq_true]
        at hwide
      exact .wide (titleParts?_eq_some_iff.1 hparts) hfits hwide
  · rw [ht] at hread
    cases hread

/-! ### The rules -/

/-- A title that can be stored has a price. -/
theorem ParsedTitle.exists_price {t row : ParsedTitle} (h : Store.titleRow t = .ok row) :
    ∃ price, t.price = .ok price := by
  have hwords : isWord t.dollars = true ∧ isWord t.cents = true := by
    rw [Store.titleRow] at h
    split at h
    · rename_i hwords
      simpa using hwords
    · cases h
  obtain ⟨dollars, hdollars⟩ := Binary64.exists_ofInt?_of_isWord hwords.1
  obtain ⟨cents, hcents⟩ := Binary64.exists_ofInt?_of_isWord hwords.2
  refine ⟨dollars.add (Binary64.tenth.mul cents), ?_⟩
  rw [price, price?, hcents, hdollars]
  rfl

theorem Rule.exists_acceptsTitle (r : Rule) {t : ParsedTitle} {price : Binary64}
    (h : t.price = .ok price) : ∃ accepted, r.acceptsTitle t = .ok accepted := by
  unfold acceptsTitle
  rw [h]
  split
  · exact ⟨_, rfl⟩
  split
  · exact ⟨_, rfl⟩
  · exact ⟨_, rfl⟩

theorem RuleSet.exists_selectFrom (l : Listing) {t : ParsedTitle} {price : Binary64}
    (h : t.price = .ok price) (rules : List Rule) :
    ∃ found, selectFrom l t rules = .ok found := by
  induction rules with
  | nil => exact ⟨none, rfl⟩
  | cons r rules ih =>
    rw [selectFrom]
    split
    · obtain ⟨accepted, haccepted⟩ := r.exists_acceptsTitle h
      rw [haccepted]
      cases accepted with
      | true => exact ⟨some r, rfl⟩
      | false => exact ih
    · exact ih

/-- **The rules never fail** for a title that can be stored. -/
theorem RuleSet.exists_select (rules : RuleSet) (l : Listing) {t row : ParsedTitle}
    (h : Store.titleRow t = .ok row) : ∃ found, rules.select l t = .ok found := by
  obtain ⟨price, hprice⟩ := ParsedTitle.exists_price h
  exact exists_selectFrom l hprice rules.rules

/-! ### Offers that fail -/

/-- The ways in which the match stage fails, with the store that each leaves. -/
inductive Failing (rules : RuleSet) (l : Listing) (s : Store) (e : Failure) : Store → Prop
  | refused : Store.postOf l = .error e → Failing rules l s e s
  | overpriced {p : Post} : Store.postOf l = .ok p → l.id ∉ s.postIds → l.Overpriced e →
      Failing rules l s e { s with posts := s.posts ++ [p] }
  | unidentified {p : Post} {t : ParsedTitle} {r : Rule} : Store.postOf l = .ok p →
      l.id ∉ s.postIds → extractTitle l.title l.id = .ok (some t) → l.id ∉ s.titleIds →
      rules.select l t = .ok (some r) → r.flaw? = some e →
      Failing rules l s e { s with posts := s.posts ++ [p], titles := s.titles ++ [t] }

theorem Processing.failing {rules : RuleSet} {l : Listing} {now : Int} {s s' : Store} {e : Failure}
    (h : Processing rules l now s (.error e) s') : Failing rules l s e s' := by
  cases h with
  | refused hp => exact .refused hp
  | unreadable hp hid ht => exact .overpriced hp hid (overpriced_of_extractTitle ht)
  | unstorable hp hid ht hrow => exact .overpriced hp hid (overpriced_of_titleRow ht hrow)
  | undecided _ _ _ hrow _ hsel =>
    obtain ⟨found, hfound⟩ := rules.exists_select l hrow
    rw [hsel] at hfound
    cases hfound
  | unidentified hp hid ht _ htid hsel hflaw => exact .unidentified hp hid ht htid hsel hflaw

/-- **An offer that fails** writes at most the post and the title of its listing. If the listing
cannot be stored, all tables are as before, and it fails at every offer. Otherwise the listing is a
new one and its post is written: it counts as seen, so nothing comes of the next offer. Then either
its price cannot be read or stored, and nothing else is written; or the rule that accepts it cannot
be identified, and its title is written as well. -/
theorem failed_offer_leaves {rules : RuleSet} {l : Listing} {s : Store} {o : Outside} {e : Failure}
    (h : ((processListing rules l).runWith s o).1 = .error e) :
    let after := ((processListing rules l).runWith s o).2.1
    after.rules = s.rules ∧ after.hits = s.hits ∧
    ((l.Unstorable e ∧ after.posts = s.posts ∧ after.titles = s.titles ∧
        ∀ rules' o', ((processListing rules' l).runWith after o').1 = .error e ∧
          ((processListing rules' l).runWith after o').2.1 = after) ∨
      (l.id ∉ s.postIds ∧ (∃ p, Store.postOf l = .ok p ∧ after.posts = s.posts ++ [p]) ∧
        ((l.Overpriced e ∧ after.titles = s.titles) ∨
          ∃ t r, extractTitle l.title l.id = .ok (some t) ∧ l.id ∉ s.titleIds ∧
            after.titles = s.titles ++ [t] ∧ rules.select l t = .ok (some r) ∧
            r.tryFingerprint = .error e) ∧
        ∀ rules' o', ((processListing rules' l).runWith after o').1 = .ok none ∧
          ((processListing rules' l).runWith after o').2.1 = after)) := by
  intro after
  have hrun := processing_of_run rules l s o
  rw [h] at hrun
  have hfailing : Failing rules l s e after := hrun.failing
  -- once its post is there, a listing is known whatever else is
  have hnext {p : Post} (hp : Store.postOf l = .ok p) (hposts : after.posts = s.posts ++ [p]) :
      ∀ rules' o', ((processListing rules' l).runWith after o').1 = .ok none ∧
        ((processListing rules' l).runWith after o').2.1 = after := by
    intro rules' o'
    have hknown : l.id ∈ after.postIds := by
      rw [Store.postIds, hposts]
      simp [Store.postOf_id hp]
    obtain ⟨o'', hnext⟩ := processListing_of_known hp hknown rules' o'
    rw [hnext]
    exact ⟨rfl, rfl⟩
  generalize after = s' at hfailing hnext
  cases hfailing with
  | refused hp =>
    refine ⟨rfl, rfl, .inl ⟨Store.unstorable_of_postOf hp, rfl, rfl, fun rules' o' => ?_⟩⟩
    rw [processListing_of_refused hp]
    exact ⟨rfl, rfl⟩
  | overpriced hp hid hprice =>
    exact ⟨rfl, rfl, .inr ⟨hid, ⟨_, hp, rfl⟩, .inl ⟨hprice, rfl⟩, hnext hp rfl⟩⟩
  | unidentified hp hid ht htid hsel hflaw =>
    exact ⟨rfl, rfl, .inr ⟨hid, ⟨_, hp, rfl⟩,
      .inr ⟨_, _, ht, htid, rfl, hsel, Rule.tryFingerprint_of_flaw hflaw⟩, hnext hp rfl⟩⟩

/-- The price of this listing has twenty digits before its point. -/
theorem failed_offer_leaves_post :
    ∃ (l : Listing) (o : Outside) (e : Failure),
      ((processListing .empty l).runWith .empty o).1 = .error e ∧ l.Overpriced e ∧
      ((processListing .empty l).runWith .empty o).2.1.counts = ⟨1, 0, 0, 0⟩ ∧
      ∀ rules o', ((processListing rules l).runWith
        ((processListing .empty l).runWith .empty o).2.1 o').1 = .ok none := by
  let l : Listing := { (default : Listing) with title := "[GPU] x $99999999999999999999" }
  let o : Outside := default
  have hfail : ((processListing .empty l).runWith .empty o).1.toOption = none := by decide +kernel
  have hcounts : ((processListing .empty l).runWith .empty o).2.1.counts = ⟨1, 0, 0, 0⟩ := by
    decide +kernel
  cases hresult : ((processListing .empty l).runWith .empty o).1 with
  | ok found =>
    rw [hresult] at hfail
    cases hfail
  | error e =>
    obtain ⟨-, -, ⟨-, hposts, -⟩ | ⟨-, -, ⟨hprice, -⟩ | ⟨t, r, -, -, -, hsel, -⟩, hnext⟩⟩ :=
      failed_offer_leaves hresult
    · -- there is a post that was not there before
      rw [Store.counts, hposts] at hcounts
      cases hcounts
    · exact ⟨l, o, e, hresult, hprice, hcounts, fun rules o' => (hnext rules o').1⟩
    · -- there is no rule
      cases hsel

/-- An offer may fail and leave a row that was not there, so that nothing comes of the next one. -/
theorem offer_not_atomic :
    ∃ (rules : RuleSet) (l : Listing) (s : Store) (o : Outside),
      ((processListing rules l).runWith s o).1.toOption = none ∧
      ((processListing rules l).runWith s o).2.1 ≠ s ∧
      ((processListing rules l).runWith ((processListing rules l).runWith s o).2.1 o).1.toOption =
        some none :=
  ⟨.empty, { (default : Listing) with title := "[GPU] x $99999999999999999999" }, .empty, default,
    by decide +kernel, by decide +kernel, by decide +kernel⟩

end DealWatch
