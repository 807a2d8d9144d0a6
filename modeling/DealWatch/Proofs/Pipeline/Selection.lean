import DealWatch.Proofs.Pipeline.Match
import Mathlib.Data.List.Basic

/-!
# Which listings are returned

Listings that are offered one after the other are returned as a specification says that knows only
the store before the first of them: a listing whose post is stored or was offered before is passed
over, then one without a title that is new, and of the rules the first that accepts counts.

`processAll` offers listings one after the other. `Store.selected` is what the specification returns
for a listing, and `Store.withListings` the store with the rows that it adds.
`returned_iff_selected` says which listings are returned and what the tables hold afterwards.

The proof is by induction on the list. `processing_selected` is the step for one listing; what has to
be seen then is that the rest of the list goes on as if the store were still the one from before,
with the first listing among those that were offered. For this the keys of the rows that the first
listing added are those of the listing itself (`processAll_expected`). An offer that fails is left
out: the hypothesis is that none does.
-/

namespace DealWatch

/-! ### The specification -/

/-- Whether a rule is satisfied by a listing and its title. -/
def Rule.accepts (r : Rule) (l : Listing) (t : ParsedTitle) : Bool :=
  r.acceptsListing l && (r.acceptsTitle t).toOption == some true

/-- What the title of a listing says, if it can be read. -/
def Listing.readTitle? (l : Listing) : Option ParsedTitle :=
  (extractTitle l.title l.id).toOption.join

namespace Store

/-- The title of a listing, if it can be read and none is stored under its key. -/
def newTitle? (s : Store) (l : Listing) : Option ParsedTitle :=
  if l.id ∈ s.titleIds then none else l.readTitle?

/-- What is returned for a listing that was not seen before: the first rule that accepts it. -/
def selected (s : Store) (rules : RuleSet) (l : Listing) : Option MatchingPost :=
  (s.newTitle? l).bind fun t =>
    (rules.rules.find? fun r => r.accepts l t).map fun r => ⟨r, l, t⟩

/-- The record of what is returned for a listing, unless one with its key is stored. -/
def newHit? (s : Store) (rules : RuleSet) (l : Listing) (now : Int) : Option MatchRecord :=
  (s.selected rules l).bind fun m =>
    if (m.rule.fingerprint, l.id) ∈ s.hitKeys then none
    else some ⟨m.rule.fingerprint, l.id, now⟩

/-- The store with the rows for some listings that were not seen before. -/
def withListings (s : Store) (rules : RuleSet) (ls : List (Listing × Outside)) : Store :=
  { s with
    posts := s.posts ++ ls.filterMap fun x => (postOf x.1).toOption
    titles := s.titles ++ ls.filterMap fun x => s.newTitle? x.1
    hits := s.hits ++ ls.filterMap fun x => s.newHit? rules x.1 x.2.now }

end Store

/-- The listings whose keys are neither among some keys nor those of a listing before. -/
def unseen (seen : List String) : List (Listing × Outside) → List (Listing × Outside)
  | [] => []
  | x :: rest => if x.1.id ∈ seen then unseen seen rest else x :: unseen (x.1.id :: seen) rest

/-- Offers listings one after the other, each with its own clock and journal. The results are those
of all calls, also of calls after one that failed. -/
def processAll (rules : RuleSet) :
    List (Listing × Outside) → Store → List (Outcome (Option MatchingPost)) × Store
  | [], s => ([], s)
  | (l, o) :: rest, s =>
    let run := (processListing rules l).runWith s o
    let more := processAll rules rest run.2.1
    (run.1 :: more.1, more.2)

/-! ### The rules -/

/-- If no rule fails, the first that accepts is found. -/
theorem selectFrom_eq_find? {l : Listing} {t : ParsedTitle} {rules : List Rule} {x : Option Rule}
    (h : RuleSet.selectFrom l t rules = .ok x) : x = rules.find? fun r => r.accepts l t := by
  induction rules with
  | nil =>
    cases h
    rfl
  | cons r rules ih =>
    rw [RuleSet.selectFrom] at h
    rw [List.find?_cons]
    cases hl : r.acceptsListing l with
    | false =>
      have hr : r.accepts l t = false := by rw [Rule.accepts, hl, Bool.false_and]
      rw [hr]
      rw [hl] at h
      exact ih h
    | true =>
      rw [hl] at h
      cases ht : r.acceptsTitle t with
      | error e =>
        rw [ht] at h
        cases h
      | ok accepted =>
        have hr : r.accepts l t = accepted := by
          rw [Rule.accepts, hl, ht]
          cases accepted <;> rfl
        rw [hr]
        rw [ht] at h
        cases accepted with
        | true =>
          cases h
          rfl
        | false => exact ih h

/-! ### One listing -/

namespace Store

variable {s : Store} {rules : RuleSet} {l : Listing} {o : Outside}

theorem newTitle?_of_titled (h : l.id ∈ s.titleIds) : s.newTitle? l = none := if_pos h

theorem newTitle?_eq {t : Option ParsedTitle} (hid : l.id ∉ s.titleIds)
    (h : extractTitle l.title l.id = .ok t) : s.newTitle? l = t := by
  rw [newTitle?, if_neg hid, Listing.readTitle?, h]
  cases t <;> rfl

theorem newTitle?_of_untitled (h : extractTitle l.title l.id = .ok none) :
    s.newTitle? l = none := by
  by_cases hid : l.id ∈ s.titleIds
  · exact newTitle?_of_titled hid
  · exact newTitle?_eq hid h

theorem selected_of_none (h : s.newTitle? l = none) : s.selected rules l = none := by
  rw [selected, h, Option.bind_none]

theorem selected_eq {t : ParsedTitle} {r : Option Rule} (ht : s.newTitle? l = some t)
    (hr : rules.select l t = .ok r) : s.selected rules l = r.map fun r => ⟨r, l, t⟩ := by
  rw [selected, ht, Option.bind_some, ← selectFrom_eq_find? hr]

theorem newHit?_of_none {now : Int} (h : s.selected rules l = none) :
    s.newHit? rules l now = none := by
  rw [newHit?, h, Option.bind_none]

/-- The rows for one listing. -/
theorem withListings_single {p : Post} (hp : postOf l = .ok p) :
    s.withListings rules [(l, o)] =
      { s with
        posts := s.posts ++ [p]
        titles := s.titles ++ (s.newTitle? l).toList
        hits := s.hits ++ (s.newHit? rules l o.now).toList } := by
  have hone {α β : Type} (f : α → Option β) (a : α) : [a].filterMap f = (f a).toList := by
    cases h : f a <;> simp [h]
  rw [withListings, hone, hone, hone, hp]
  rfl

/-- A listing for which nothing is selected adds at most its title to its post. -/
theorem withListings_unselected {p : Post} (hp : postOf l = .ok p)
    (h : s.selected rules l = none) :
    s.withListings rules [(l, o)] =
      { s with posts := s.posts ++ [p], titles := s.titles ++ (s.newTitle? l).toList } := by
  rw [withListings_single hp, newHit?_of_none h, Option.toList_none, List.append_nil]

end Store

/-- **One listing** that does not fail: it is passed over if its post is stored, and otherwise
returned as selected, with the rows that belong to it. -/
theorem processing_selected {rules : RuleSet} {l : Listing} {s s' : Store} {o : Outside}
    {m : Option MatchingPost} (h : Processing rules l o.now s (.ok m) s') :
    m = (if l.id ∈ s.postIds then none else s.selected rules l) ∧
      s' = s.withListings rules (unseen s.postIds [(l, o)]) := by
  have hnew (hid : l.id ∉ s.postIds) : unseen s.postIds [(l, o)] = [(l, o)] := by
    rw [unseen, if_neg hid, unseen]
  cases h with
  | known hp hid =>
    rw [if_pos hid, unseen, if_pos hid]
    exact ⟨rfl, by simp [unseen, Store.withListings]⟩
  | untitled hp hid ht =>
    have htitle : s.newTitle? l = none := Store.newTitle?_of_untitled ht
    have hsel : s.selected rules l = none := Store.selected_of_none htitle
    rw [if_neg hid, hnew hid, Store.withListings_unselected hp hsel, htitle, hsel]
    exact ⟨rfl, by simp⟩
  | retitled hp hid ht hrow htid =>
    have htitle := Store.newTitle?_of_titled htid
    have hsel : s.selected rules l = none := Store.selected_of_none htitle
    rw [if_neg hid, hnew hid, Store.withListings_unselected hp hsel, htitle, hsel]
    exact ⟨rfl, by simp⟩
  | unmatched hp hid ht hrow htid hr =>
    have htitle := Store.newTitle?_eq htid ht
    have hsel : s.selected rules l = none := Store.selected_eq htitle hr
    rw [if_neg hid, hnew hid, Store.withListings_unselected hp hsel, htitle, hsel]
    exact ⟨rfl, rfl⟩
  | @matched p t row r hp hid ht hrow htid hr =>
    have htitle := Store.newTitle?_eq htid ht
    have hsel := Store.selected_eq htitle hr
    rw [if_neg hid, hnew hid, Store.withListings_single hp, htitle, hsel]
    refine ⟨rfl, ?_⟩
    -- the record may be stored already, although the listing is new
    by_cases hkey : (r.fingerprint, l.id) ∈ s.hitKeys
    · rw [Store.insertMatch_known (by exact hkey), Store.newHit?, hsel]
      simp [hkey]
    · rw [Store.insertMatch_new (by exact hkey), Store.newHit?, hsel]
      simp [hkey]

/-- A listing that does not fail can be stored. -/
theorem postOf_of_processing {rules : RuleSet} {l : Listing} {s s' : Store} {now : Int}
    {m : Option MatchingPost} (h : Processing rules l now s (.ok m) s') :
    ∃ p, Store.postOf l = .ok p := by
  cases h with
  | known hp => exact ⟨_, hp⟩
  | untitled hp => exact ⟨_, hp⟩
  | retitled hp => exact ⟨_, hp⟩
  | unmatched hp => exact ⟨_, hp⟩
  | matched hp => exact ⟨_, hp⟩

/-! ### All listings -/

namespace Store

variable {s : Store} {rules : RuleSet} {ls : List (Listing × Outside)}

theorem newTitle?_postId {l : Listing} {t : ParsedTitle} (h : s.newTitle? l = some t) :
    t.postId = l.id := by
  unfold newTitle? Listing.readTitle? at h
  split at h
  · cases h
  · cases ht : extractTitle l.title l.id with
    | error e =>
      rw [ht] at h
      cases h
    | ok t' =>
      rw [ht] at h
      cases h
      exact extractTitle_postId ht

theorem newHit?_postId {l : Listing} {now : Int} {m : MatchRecord}
    (h : s.newHit? rules l now = some m) : m.postId = l.id := by
  unfold newHit? at h
  obtain ⟨m', -, hm'⟩ := Option.bind_eq_some_iff.1 h
  split at hm'
  · cases hm'
  · rw [← Option.some.inj hm']

/-- Rows for some listings change nothing for the titles of others. -/
theorem mem_titleIds_withListings {id : String} (h : id ∉ ls.map (·.1.id)) :
    id ∈ (s.withListings rules ls).titleIds ↔ id ∈ s.titleIds := by
  rw [withListings, titleIds, List.map_append, List.mem_append, titleIds]
  refine or_iff_left fun hmem => ?_
  obtain ⟨t, ht, rfl⟩ := List.mem_map.1 hmem
  obtain ⟨x, hx, hxt⟩ := List.mem_filterMap.1 ht
  exact h (List.mem_map.2 ⟨x, hx, (newTitle?_postId hxt).symm⟩)

/-- Rows for some listings change nothing for the records of others. -/
theorem mem_hitKeys_withListings {fp id : String} (h : id ∉ ls.map (·.1.id)) :
    (fp, id) ∈ (s.withListings rules ls).hitKeys ↔ (fp, id) ∈ s.hitKeys := by
  rw [withListings, hitKeys, List.map_append, List.mem_append, hitKeys]
  refine or_iff_left fun hmem => ?_
  obtain ⟨m, hm, hkey⟩ := List.mem_map.1 hmem
  obtain ⟨x, hx, hxm⟩ := List.mem_filterMap.1 hm
  exact h (List.mem_map.2 ⟨x, hx, (newHit?_postId hxm).symm.trans (Prod.mk.inj hkey).2⟩)

theorem newTitle?_withListings {l : Listing} (h : l.id ∉ ls.map (·.1.id)) :
    (s.withListings rules ls).newTitle? l = s.newTitle? l := by
  simp only [newTitle?, mem_titleIds_withListings h]

theorem selected_withListings {l : Listing} (h : l.id ∉ ls.map (·.1.id)) :
    (s.withListings rules ls).selected rules l = s.selected rules l := by
  rw [selected, newTitle?_withListings h, selected]

theorem newHit?_withListings {l : Listing} (h : l.id ∉ ls.map (·.1.id)) (now : Int) :
    (s.withListings rules ls).newHit? rules l now = s.newHit? rules l now := by
  simp only [newHit?, selected_withListings h, mem_hitKeys_withListings h]

/-- Rows for listings with other keys are added to those from before. -/
theorem withListings_append {more : List (Listing × Outside)}
    (h : ∀ x ∈ more, x.1.id ∉ ls.map (·.1.id)) :
    (s.withListings rules ls).withListings rules more = s.withListings rules (ls ++ more) := by
  have htitles : more.filterMap (fun x => (s.withListings rules ls).newTitle? x.1) =
      more.filterMap fun x => s.newTitle? x.1 :=
    List.filterMap_congr fun x hx => newTitle?_withListings (h x hx)
  have hhits : more.filterMap (fun x => (s.withListings rules ls).newHit? rules x.1 x.2.now) =
      more.filterMap fun x => s.newHit? rules x.1 x.2.now :=
    List.filterMap_congr fun x hx => newHit?_withListings (h x hx) x.2.now
  rw [withListings, htitles, hhits]
  simp only [withListings, List.filterMap_append, List.append_assoc]

/-- The keys of the posts after some listings, all of which can be stored. -/
theorem postIds_withListings_single {l : Listing} {o : Outside} {p : Post} (hp : postOf l = .ok p) :
    (s.withListings rules [(l, o)]).postIds = s.postIds ++ [l.id] := by
  rw [withListings_single hp, postIds, List.map_append, postIds, ← postOf_id hp]
  rfl

end Store

theorem notMem_of_mem_unseen {seen : List String} {ls : List (Listing × Outside)}
    {x : Listing × Outside} (h : x ∈ unseen seen ls) : x.1.id ∉ seen := by
  induction ls generalizing seen with
  | nil => cases h
  | cons y ls ih =>
    rw [unseen] at h
    split at h
    · exact ih h
    · rename_i hy
      obtain rfl | h := List.mem_cons.1 h
      · exact hy
      · exact fun hx => ih h (List.mem_cons_of_mem _ hx)

theorem unseen_congr {seen seen' : List String} (h : ∀ id, id ∈ seen ↔ id ∈ seen')
    (ls : List (Listing × Outside)) : unseen seen ls = unseen seen' ls := by
  induction ls generalizing seen seen' with
  | nil => rfl
  | cons x ls ih =>
    have hcons : ∀ id, id ∈ x.1.id :: seen ↔ id ∈ x.1.id :: seen' := by
      intro id
      rw [List.mem_cons, List.mem_cons, h]
    rw [unseen, unseen, ih h, ih hcons]
    simp only [h]

theorem unseen_cons_of_seen {seen : List String} {x : Listing × Outside} (h : x.1.id ∈ seen)
    (ls : List (Listing × Outside)) : unseen seen (x :: ls) = unseen seen ls := by
  rw [unseen, if_pos h]

theorem unseen_cons_of_new {seen : List String} {x : Listing × Outside} (h : x.1.id ∉ seen)
    (ls : List (Listing × Outside)) :
    unseen seen (x :: ls) = x :: unseen (seen ++ [x.1.id]) ls := by
  have hsame : ∀ id, id ∈ x.1.id :: seen ↔ id ∈ seen ++ [x.1.id] := by
    intro id
    rw [List.mem_cons, List.mem_append, List.mem_singleton, or_comm]
  rw [unseen, if_neg h, unseen_congr hsame]

/-- What the specification says of a listing that is offered after others. -/
def expected (s : Store) (rules : RuleSet) (before : List (Listing × Outside)) (l : Listing) :
    Option MatchingPost :=
  if l.id ∈ s.postIds ∨ l.id ∈ before.map (·.1.id) then none else s.selected rules l

section Expected

variable {s : Store} {rules : RuleSet} {l l' : Listing} {o : Outside}

/-- A listing whose post is stored makes no difference for those after it. -/
theorem expected_cons_of_seen (h : l.id ∈ s.postIds) (before : List (Listing × Outside)) :
    expected s rules ((l, o) :: before) l' = expected s rules before l' := by
  have hiff : l'.id ∈ s.postIds ∨ l'.id ∈ ((l, o) :: before).map (·.1.id) ↔
      l'.id ∈ s.postIds ∨ l'.id ∈ before.map (·.1.id) := by
    rw [List.map_cons, List.mem_cons]
    constructor
    · rintro (h' | h' | h')
      · exact .inl h'
      · exact .inl (h' ▸ h)
      · exact .inr h'
    · rintro (h' | h')
      · exact .inl h'
      · exact .inr (.inr h')
  simp only [expected, hiff]

/-- With the rows of a new listing, those after it are judged as if it came before them. -/
theorem expected_withListings_single {p : Post} (hp : Store.postOf l = .ok p)
    (before : List (Listing × Outside)) :
    expected (s.withListings rules [(l, o)]) rules before l' =
      expected s rules ((l, o) :: before) l' := by
  have hiff : l'.id ∈ (s.withListings rules [(l, o)]).postIds ∨ l'.id ∈ before.map (·.1.id) ↔
      l'.id ∈ s.postIds ∨ l'.id ∈ ((l, o) :: before).map (·.1.id) := by
    rw [Store.postIds_withListings_single hp, List.mem_append, List.mem_singleton, List.map_cons,
      List.mem_cons, or_assoc]
  by_cases hseen : l'.id ∈ s.postIds ∨ l'.id ∈ ((l, o) :: before).map (·.1.id)
  · rw [expected, expected, if_pos (hiff.2 hseen), if_pos hseen]
  · rw [expected, expected, if_neg (mt hiff.1 hseen), if_neg hseen]
    refine Store.selected_withListings fun hmem => hseen (.inr ?_)
    rw [List.map_singleton, List.mem_singleton] at hmem
    rw [hmem]
    exact List.mem_cons_self

end Expected

variable {rules : RuleSet} {s : Store}

/-- **All listings**, if no call fails: each is returned as expected, and the rows of those that
were not seen before are added. -/
theorem processAll_expected {ls : List (Listing × Outside)}
    (h : ∀ x ∈ (processAll rules ls s).1, ∃ m, x = Except.ok m) :
    (processAll rules ls s).1.length = ls.length ∧
    (∀ i l o, ls[i]? = some (l, o) →
      (processAll rules ls s).1[i]? = some (Except.ok (expected s rules (ls.take i) l))) ∧
    (processAll rules ls s).2 = s.withListings rules (unseen s.postIds ls) := by
  induction ls generalizing s with
  | nil =>
    refine ⟨rfl, fun i l o hi => ?_, ?_⟩
    · cases hi
    · simp [processAll, unseen, Store.withListings]
  | cons x rest ih =>
    obtain ⟨l, o⟩ := x
    rw [processAll] at h ⊢
    have hrun := processing_of_run rules l s o
    generalize (processListing rules l).runWith s o = run at hrun h ⊢
    obtain ⟨y, s', o'⟩ := run
    obtain ⟨m, rfl⟩ := h y List.mem_cons_self
    obtain ⟨p, hp⟩ := postOf_of_processing hrun
    obtain ⟨rfl, rfl⟩ := processing_selected hrun
    obtain ⟨hlen, hresults, hstore⟩ := ih fun x hx => h x (List.mem_cons_of_mem _ hx)
    refine ⟨congrArg (· + 1) hlen, ?_, ?_⟩
    · -- what is expected after this listing is what is expected of the store that it left
      intro i l' o'' hi
      cases i with
      | zero =>
        cases hi
        simp [expected]
      | succ i =>
        have hrest := hresults i l' o'' hi
        simp only [List.getElem?_cons_succ, List.take_succ_cons]
        rw [hrest]
        by_cases hid : l.id ∈ s.postIds
        · rw [unseen_cons_of_seen hid, expected_cons_of_seen hid]
          simp [unseen, Store.withListings]
        · rw [unseen_cons_of_new hid, unseen, expected_withListings_single hp]
    · -- the rows of the others are those that they would have added to the store before
      simp only at hstore ⊢
      rw [hstore]
      by_cases hid : l.id ∈ s.postIds
      · rw [unseen_cons_of_seen hid, unseen_cons_of_seen hid]
        simp [unseen, Store.withListings]
      · rw [unseen_cons_of_new hid, unseen_cons_of_new hid, unseen,
          Store.postIds_withListings_single hp]
        refine Store.withListings_append fun x hx hmem => ?_
        have hx := notMem_of_mem_unseen hx
        rw [List.map_singleton, List.mem_singleton] at hmem
        exact hx (List.mem_append_right _ (List.mem_singleton.2 hmem))

theorem Store.selected_eq_some_iff {l : Listing} {m : MatchingPost} :
    s.selected rules l = some m ↔
      l.id ∉ s.titleIds ∧ extractTitle l.title l.id = .ok (some m.title) ∧
        (rules.rules.find? fun r => r.accepts l m.title) = some m.rule ∧ m.listing = l := by
  constructor
  · intro h
    obtain ⟨t, ht, hr⟩ := Option.bind_eq_some_iff.1 h
    obtain ⟨r, hfind, rfl⟩ := Option.map_eq_some_iff.1 hr
    have hid : l.id ∉ s.titleIds := fun hid => by cases (newTitle?_of_titled hid).symm.trans ht
    rw [newTitle?, if_neg hid, Listing.readTitle?] at ht
    refine ⟨hid, ?_, hfind, rfl⟩
    cases hx : extractTitle l.title l.id with
    | error e =>
      rw [hx] at ht
      cases ht
    | ok t' =>
      rw [hx] at ht
      exact congrArg _ ht
  · rintro ⟨hid, ht, hr, rfl⟩
    rw [selected, newTitle?_eq hid ht, Option.bind_some, hr]
    rfl

/-- **What is returned for a list of listings** on which no call fails. A position yields a match
exactly if the key of its listing is neither that of a stored post nor that of a listing before, its
title can be read, no title is stored under its key, and a rule accepts both; then it yields the
first such rule. The tables afterwards are those from before with the rows of the new listings, of
their new titles and of their new matches, and the rules are the same. -/
theorem returned_iff_selected (rules : RuleSet) (s : Store) (ls : List (Listing × Outside))
    (h : ∀ x ∈ (processAll rules ls s).1, ∃ m, x = Except.ok m) :
    (processAll rules ls s).1.length = ls.length ∧
    (∀ i l o m, ls[i]? = some (l, o) →
      ((processAll rules ls s).1[i]? = some (Except.ok (some m)) ↔
        l.id ∉ s.postIds ∧ l.id ∉ (ls.take i).map (·.1.id) ∧
        l.id ∉ s.titleIds ∧ extractTitle l.title l.id = .ok (some m.title) ∧
        (rules.rules.find? fun r => r.accepts l m.title) = some m.rule ∧ m.listing = l)) ∧
    (processAll rules ls s).2 = s.withListings rules (unseen s.postIds ls) ∧
    (processAll rules ls s).2.rules = s.rules := by
  obtain ⟨hlen, hresults, hstore⟩ := processAll_expected h
  refine ⟨hlen, ?_, hstore, ?_⟩
  · intro i l o m hi
    rw [hresults i l o hi, Option.some_inj, Except.ok.injEq, ← Store.selected_eq_some_iff, expected]
    split
    · rename_i hseen
      constructor
      · intro hm
        cases hm
      · rintro ⟨hpost, hbefore, -⟩
        exact absurd hseen (not_or.2 ⟨hpost, hbefore⟩)
    · rename_i hnew
      obtain ⟨hpost, hbefore⟩ := not_or.1 hnew
      exact ⟨fun hm => ⟨hpost, hbefore, hm⟩, fun hm => hm.2.2⟩
  · rw [hstore]
    rfl

/-- A listing is offered twice, and one whose title is stored after it: the first offer yields the
second rule, as the price is too low for the first one, and the others yield nothing. -/
theorem returned_iff_selected_repeated :
    ∃ (rules : RuleSet) (s : Store) (ls : List (Listing × Outside)),
      (∀ x ∈ (processAll rules ls s).1, ∃ m, x = Except.ok m) ∧
      ((processAll rules ls s).1.map fun x => x.toOption.map (·.map (·.rule.displayName))) =
        [some (some "any"), some none, some none] ∧
      (processAll rules ls s).2 = s.withListings rules (unseen s.postIds ls) := by
  let card (id title : String) : Listing := ⟨id, .zero, .zero, .zero, none, title, "", "", {}⟩
  let rules : RuleSet :=
    ⟨[⟨some "dear", none, none, none, some 5, none, none⟩,
      ⟨some "any", none, none, none, none, none, none⟩]⟩
  let s : Store := ⟨[], [⟨"b", "", "", 0, 0, none⟩], [], []⟩
  let ls : List (Listing × Outside) := [(card "a" "[GPU] card $3", default),
    (card "a" "[GPU] card $9", default), (card "b" "[GPU] card $9", default)]
  let name (x : Outcome (Option MatchingPost)) := x.toOption.map (·.map (·.rule.displayName))
  have hnames : (processAll rules ls s).1.map name =
      [some (some "any"), some none, some none] := by decide +kernel
  have hok : ∀ x ∈ (processAll rules ls s).1, ∃ m, x = Except.ok m := by
    intro x hx
    have hmem : name x ∈ (processAll rules ls s).1.map name := List.mem_map_of_mem hx
    rw [hnames] at hmem
    cases x with
    | error e => simp [name, Except.toOption] at hmem
    | ok m => exact ⟨m, rfl⟩
  exact ⟨rules, s, ls, hok, hnames, (returned_iff_selected rules s ls hok).2.2.1⟩

end DealWatch
