import DealWatch.Proofs.Number.Magnitude
import DealWatch.Proofs.Pipeline.FailedOffer

/-!
# Titles that come to the rules

The match stage tries the rules on a title only after the title is stored, and the store takes no
number that is wider than a word. So the rules see only prices that can be computed.

`admission` is the match stage up to the rules, `choose` the rest of it, and
`processListing_eq_bind` says that the stage is one after the other. `selection_never_fails` says
that no rule fails for a title that is admitted. The proof follows a title from the store to the
bounds of a rule: its numbers are words, a word as a double-precision number is below the 64th power
of two, and neither the product nor the sum of such numbers comes near the greatest exponent.

That the rest of the stage cannot fail is not said. A rule that cannot be identified may accept the
listing, and then its match is not stored.
-/

namespace DealWatch

/-- What the match stage does before it tries the rules. The title of a listing is admitted if the
post and the title are new. -/
def admission (l : Listing) : Act Store (Option ParsedTitle) := do
  if !(← insertRow (·.insertListing l)) then
    Act.log .debug "Skipping known listing" [("listing_id", .text l.id)]
    return none
  else
    match ← Act.ofOutcome (extractTitle l.title l.id) with
    | none =>
      Act.log .debug "Skipping unparseable title"
        [("listing_id", .text l.id), ("title", .text l.title)]
      return none
    | some t =>
      if !(← insertRow (·.insertTitle t)) then
        Act.log .debug "Skipping known parsed title" [("listing_id", .text l.id)]
        return none
      else return some t

/-- What the match stage does with an admitted title: it tries the rules, and records the match. -/
def choose (rules : RuleSet) (l : Listing) (t : ParsedTitle) : Act Store (Option MatchingPost) := do
  match ← Act.ofOutcome (rules.select l t) with
  | none =>
    Act.log .debug "No matching rule" [("listing_id", .text l.id), ("title", .text l.title)]
    return none
  | some r =>
    let _ ← storeMatch r l.id
    Act.log .info "Listing matched"
      [("listing_id", .text l.id), ("rule", .text r.displayName), ("title", .text l.title)]
    return some ⟨r, l, t⟩

/-- The match stage tries the rules on the titles that are admitted, and on no others. -/
theorem processListing_eq_bind (rules : RuleSet) (l : Listing) :
    processListing rules l = admission l >>= fun admitted =>
      match admitted with
      | some t => choose rules l t
      | none => pure none := by
  unfold processListing admission
  simp only [bind_assoc]
  congr 1
  funext fresh
  cases fresh with
  | false => simp only [Bool.not_false, if_true, bind_assoc, pure_bind]
  | true =>
    simp only [Bool.not_true, Bool.false_eq_true, if_false, bind_assoc]
    congr 1
    funext title
    cases title with
    | none => simp only [bind_assoc, pure_bind]
    | some t =>
      simp only [bind_assoc]
      congr 1
      funext fresh
      cases fresh with
      | false => simp only [Bool.not_false, if_true, bind_assoc, pure_bind]
      | true =>
        simp only [Bool.not_true, Bool.false_eq_true, if_false, pure_bind]
        rfl

/-! ### Admitted titles -/

section Admitted

variable {l : Listing} {s s' : Store} {o o' : Outside} {t : ParsedTitle}

theorem insertRow_ok {insert : Store → Outcome (Store × Bool)} {fresh : Bool}
    (h : (insertRow insert).runWith s o = (.ok fresh, s', o')) : insert s = .ok (s', fresh) := by
  rw [insertRow_run] at h
  split at h
  · cases h
    assumption
  · cases h

/-- An admitted title is that of the listing, and it was just written. -/
theorem admission_eq_some (h : (admission l).runWith s o = (.ok (some t), s', o')) :
    extractTitle l.title l.id = .ok (some t) ∧
      ∃ before : Store, before.insertTitle t = .ok (s', true) := by
  unfold admission at h
  obtain ⟨fresh, s₁, o₁, -, h⟩ := Act.of_runWith_bind h
  cases fresh with
  | false => cases h
  | true =>
    obtain ⟨title, s₂, o₂, hextract, h⟩ := Act.of_runWith_bind h
    have hread : extractTitle l.title l.id = .ok title := by
      rw [Act.runWith_ofOutcome] at hextract
      exact congrArg Prod.fst hextract
    cases title with
    | none => cases h
    | some t' =>
      obtain ⟨fresh, s₃, o₃, hrow, h⟩ := Act.of_runWith_bind h
      cases fresh with
      | false => cases h
      | true =>
        cases h
        exact ⟨hread, s₂, insertRow_ok hrow⟩

/-- A title that is written has a dollar and a cent number that are words. -/
theorem Store.words_of_insertTitle {fresh : Bool} (h : s.insertTitle t = .ok (s', fresh)) :
    isWord t.dollars = true ∧ isWord t.cents = true := by
  rw [insertTitle] at h
  obtain ⟨row, hrow, -⟩ := Outcome.bind_eq_ok.1 h
  rw [titleRow] at hrow
  split at hrow
  · rename_i hwords
    exact Bool.and_eq_true_iff.1 hwords
  · cases hrow

/-- The numbers of a title are written by digits, so none is below zero. -/
theorem extractTitle_nonneg {title postId : String}
    (h : extractTitle title postId = .ok (some t)) : 0 ≤ t.dollars ∧ 0 ≤ t.cents := by
  obtain ⟨parts, hparts⟩ := exists_parts_of_extractTitle (by rw [h]; nofun)
  obtain ⟨-, hread⟩ | ⟨-, hread⟩ := extractTitle_of_parts hparts postId
  · rw [h] at hread
    cases hread
    refine ⟨Int.natCast_nonneg _, ?_⟩
    cases hcents : parts.cents with
    | none => simp [TitleParts.said, hcents]
    | some ds =>
      simp only [TitleParts.said, hcents]
      exact Int.natCast_nonneg _
  · rw [h] at hread
    cases hread

end Admitted

/-- **A price of two words** is a finite number. -/
theorem ParsedTitle.exists_finite_price {t : ParsedTitle} (hdollars : isWord t.dollars = true)
    (hcents : isWord t.cents = true) : ∃ price, t.price = .ok price ∧ price.isFinite = true := by
  have hsmall {i : Int} (hi : isWord i = true) : (Binary64.ofInt i).UpTo (64 : Nat) :=
    Binary64.upTo_ofInt (Binary64.natAbs_lt_of_isWord hi) (by decide)
  have htenth : Binary64.tenth.UpTo (0 : Nat) := by
    have hvalue : Binary64.tenth = .finite false 7205759403792794 (-56) := by decide +kernel
    rw [hvalue]
    exact ⟨by decide +kernel, by decide⟩
  -- The exponent grows by 109 in the product and by 56 in the sum: both stay far below 1023.
  have hproduct : (Binary64.tenth.mul (Binary64.ofInt t.cents)).UpTo (173 : Nat) :=
    htenth.mul (hsmall hcents) (by decide) (by decide)
  have hsum := ((hsmall hdollars).mono (l := (173 : Nat)) (by decide)).add hproduct
    (l := 229) (by decide) (by decide)
  refine ⟨_, ?_, hsum.isFinite⟩
  rw [price, price?, Binary64.ofInt?, Binary64.ofInt?, if_pos (hsmall hcents).isFinite,
    if_pos (hsmall hdollars).isFinite]
  rfl

/-- **The rules never fail in the match stage.** If control reaches them with a title, the title was
just written to the store, its numbers are neither below zero nor wider than a word, its price can be
computed and is finite, no rule whatever fails for it, and so neither does the choice among them. If
the stage fails after that, it is because the rule that is chosen cannot be identified. -/
theorem selection_never_fails {l : Listing} {s s' : Store} {o o' : Outside} {t : ParsedTitle}
    (h : (admission l).runWith s o = (.ok (some t), s', o')) (rules : RuleSet) :
    (processListing rules l).runWith s o = (choose rules l t).runWith s' o' ∧
    (∃ before : Store, before.insertTitle t = .ok (s', true)) ∧
    (0 ≤ t.dollars ∧ t.dollars < wordLimit) ∧ (0 ≤ t.cents ∧ t.cents < wordLimit) ∧
    (∃ price, t.price = .ok price ∧ price.isFinite = true) ∧
    (∀ r : Rule, ∃ accepted, r.acceptsTitle t = .ok accepted) ∧
    (∃ found, rules.select l t = .ok found) ∧
    ∀ e, ((processListing rules l).runWith s o).1 = .error e →
      ∃ r, rules.select l t = .ok (some r) ∧ r.tryFingerprint = .error e := by
  obtain ⟨hread, before, hwritten⟩ := admission_eq_some h
  obtain ⟨hdollars, hcents⟩ := Store.words_of_insertTitle hwritten
  obtain ⟨hpositive, hpositive'⟩ := extractTitle_nonneg hread
  obtain ⟨price, hprice, hfinite⟩ := ParsedTitle.exists_finite_price hdollars hcents
  obtain ⟨found, hfound⟩ := RuleSet.exists_selectFrom l hprice rules.rules
  have hselect : rules.select l t = .ok found := hfound
  have hrun : (processListing rules l).runWith s o = (choose rules l t).runWith s' o' := by
    rw [processListing_eq_bind, Act.runWith_bind_ok h]
  have hlimit {i : Int} (hi : isWord i = true) : i < wordLimit := by
    have hword : -wordLimit ≤ i ∧ i < wordLimit := by simpa [isWord] using hi
    exact hword.2
  refine ⟨hrun, ⟨before, hwritten⟩, ⟨hpositive, hlimit hdollars⟩, ⟨hpositive', hlimit hcents⟩,
    ⟨price, hprice, hfinite⟩, fun r => r.exists_acceptsTitle hprice, ⟨found, hselect⟩,
    fun e he => ?_⟩
  rw [hrun, choose, hselect] at he
  cases found with
  | none => cases he
  | some r =>
    refine ⟨r, hselect, ?_⟩
    simp only [Act.runWith_bind, Act.runWith_ofOutcome] at he
    cases hflaw : r.flaw? with
    | none =>
      rw [storeMatch_run hflaw] at he
      cases he
    | some f =>
      rw [storeMatch_run_of_flaw hflaw] at he
      cases he
      exact Rule.tryFingerprint_of_flaw hflaw

/-- Of the greatest price that can be stored, no rule is too much for the stage. -/
theorem selection_never_fails_widest :
    ∃ (l : Listing) (t : ParsedTitle) (s' : Store) (o o' : Outside),
      (admission l).runWith .empty o = (.ok (some t), s', o') ∧
      t.dollars = wordLimit - 1 ∧ t.cents = wordLimit - 1 ∧
      ∀ rules : RuleSet, ∃ found, rules.select l t = .ok found := by
  let l : Listing :=
    { (default : Listing) with title := "[GPU] x $9223372036854775807.9223372036854775807" }
  let t : ParsedTitle := ⟨"", "GPU", "x", 9223372036854775807, 9223372036854775807, none⟩
  let o : Outside := default
  have hresult : ((admission l).runWith .empty o).1.toOption = some (some t) := by decide +kernel
  generalize hrun : (admission l).runWith .empty o = run at hresult
  obtain ⟨result, s', o'⟩ := run
  cases result with
  | error e => cases hresult
  | ok admitted =>
    obtain rfl : admitted = some t := Option.some.inj hresult
    refine ⟨l, t, s', o, o', hrun, by decide, by decide, fun rules => ?_⟩
    obtain ⟨-, -, -, -, -, -, hselect, -⟩ := selection_never_fails hrun rules
    exact hselect

end DealWatch
