import DealWatch.Text.Lower
import Mathlib.Data.List.Basic

/-!
# Small letters of a part of a text

The small letters of a text are those of its parts, each between what stands before and behind it.
Only the letter `Σ` looks at its neighbours, so a part has the same small letters in every text if
the part itself says of each `Σ` whether it ends a word.

* `lowerIn` are the small letters of characters between others, `lowerIn_append` cuts them in two;
* `Settled` says that no `Σ` depends on what stands around the characters;
* `lowerIn_of_settled` says that their small letters are then the same everywhere, and
  `exists_count_lt_of_not_settled` that otherwise one letter before or behind them is enough to
  change one.

A `Σ` depends on what is around the characters only if all between it and their end is ignored. A
letter put there changes that `Σ`, and it changes every other one in the same direction or not at
all; so the two forms of the small letter can be counted.
-/

namespace DealWatch

/-- The small letter of `Σ`, which has a form of its own at the end of a word. -/
def smallSigma (final : Bool) : Char := if final then 'ς' else 'σ'

/-- The small letters of characters that stand between others; those before are given with the
nearest first. -/
def lowerIn (before after : List Char) : List Char → List Char
  | [] => []
  | c :: cs =>
    (if c = 'Σ' then [smallSigma (endsWord before (cs ++ after))] else lowerChar c) ++
      lowerIn (c :: before) after cs

theorem lowerFrom_eq_lowerIn (before cs : List Char) :
    lowerFrom before cs = lowerIn before [] cs := by
  induction cs generalizing before with
  | nil => rfl
  | cons c cs ih => rw [lowerFrom, lowerIn, ih, List.append_nil, smallSigma]

/-- Some characters in two parts, of which each stands beside the other. -/
theorem lowerIn_append (before after u v : List Char) :
    lowerIn before after (u ++ v) =
      lowerIn before (v ++ after) u ++ lowerIn (u.reverse ++ before) after v := by
  induction u generalizing before with
  | nil => rfl
  | cons c u ih =>
    rw [List.cons_append, lowerIn, lowerIn, ih, List.append_assoc, List.append_assoc,
      List.reverse_cons, List.append_assoc]
    rfl

/-! ### The forms of `Σ` -/

section Forms

variable {before after before' after' cs : List Char}

/-- Characters whose `Σ` have the same forms have the same small letters. -/
theorem lowerIn_congr (h : ∀ x y, cs = x ++ 'Σ' :: y →
      endsWord (x.reverse ++ before) (y ++ after) = endsWord (x.reverse ++ before') (y ++ after')) :
    lowerIn before after cs = lowerIn before' after' cs := by
  induction cs generalizing before before' with
  | nil => rfl
  | cons c cs ih =>
    have htail : lowerIn (c :: before) after cs = lowerIn (c :: before') after' cs := by
      refine ih fun x y hxy => ?_
      have hform := h (c :: x) y (by rw [hxy, List.cons_append])
      simpa using hform
    rw [lowerIn, lowerIn, htail]
    split
    · rename_i hc
      have hform := h [] cs (by rw [hc]; rfl)
      rw [List.reverse_nil, List.nil_append, List.nil_append] at hform
      rw [hform]
    · rfl

/-- The small letters of characters count as those of their `Σ` do. -/
theorem count_lowerIn_le {t : Char} (h : ∀ x y, cs = x ++ 'Σ' :: y →
      [smallSigma (endsWord (x.reverse ++ before) (y ++ after))].count t ≤
        [smallSigma (endsWord (x.reverse ++ before') (y ++ after'))].count t) :
    (lowerIn before after cs).count t ≤ (lowerIn before' after' cs).count t := by
  induction cs generalizing before before' with
  | nil => exact Nat.le_refl _
  | cons c cs ih =>
    have htail : (lowerIn (c :: before) after cs).count t ≤
        (lowerIn (c :: before') after' cs).count t := by
      refine ih fun x y hxy => ?_
      have hform := h (c :: x) y (by rw [hxy, List.cons_append])
      simpa using hform
    rw [lowerIn, lowerIn, List.count_append, List.count_append]
    refine Nat.add_le_add ?_ htail
    split
    · rename_i hc
      have hform := h [] cs (by rw [hc]; rfl)
      rwa [List.reverse_nil, List.nil_append, List.nil_append] at hform
    · exact Nat.le_refl _

/-- If one `Σ` counts for less and none for more, so do the small letters of the characters. -/
theorem count_lowerIn_lt {t : Char} {x y : List Char} (h : ∀ x y, cs = x ++ 'Σ' :: y →
      [smallSigma (endsWord (x.reverse ++ before) (y ++ after))].count t ≤
        [smallSigma (endsWord (x.reverse ++ before') (y ++ after'))].count t)
    (hxy : cs = x ++ 'Σ' :: y)
    (hlt : [smallSigma (endsWord (x.reverse ++ before) (y ++ after))].count t <
      [smallSigma (endsWord (x.reverse ++ before') (y ++ after'))].count t) :
    (lowerIn before after cs).count t < (lowerIn before' after' cs).count t := by
  subst hxy
  have hleft : (lowerIn before ('Σ' :: y ++ after) x).count t ≤
      (lowerIn before' ('Σ' :: y ++ after') x).count t := by
    refine count_lowerIn_le fun x₁ x₂ hx => ?_
    have hform := h x₁ (x₂ ++ 'Σ' :: y) (by rw [hx, List.append_assoc, List.cons_append])
    simpa using hform
  have hright : (lowerIn ('Σ' :: (x.reverse ++ before)) after y).count t ≤
      (lowerIn ('Σ' :: (x.reverse ++ before')) after' y).count t := by
    refine count_lowerIn_le fun y₁ y₂ hy => ?_
    have hform := h (x ++ 'Σ' :: y₁) y₂ (by rw [hy, List.append_assoc, List.cons_append])
    simpa using hform
  rw [lowerIn_append, lowerIn_append, lowerIn, lowerIn, if_pos rfl, if_pos rfl]
  simp only [List.count_append]
  omega

end Forms

/-! ### Characters that settle the forms -/

/-- Whether a character stands inside words without a case of its own. -/
def isIgnorable (c : Char) : Bool := caseIgnorableRanges.contains c.toNat

/-- What is ignorable is passed over. -/
theorem meetsCased_cons (c : Char) (cs : List Char) :
    meetsCased (c :: cs) =
      if isIgnorable c then meetsCased cs else casedRanges.contains c.toNat := by
  rw [meetsCased, List.dropWhile_cons, isIgnorable]
  cases caseIgnorableRanges.contains c.toNat with
  | true => rfl
  | false => rfl

theorem meetsCased_append (u v : List Char) :
    meetsCased (u ++ v) = if u.all isIgnorable then meetsCased v else meetsCased u := by
  induction u with
  | nil => rfl
  | cons c u ih =>
    rw [List.cons_append, meetsCased_cons, meetsCased_cons, List.all_cons]
    cases isIgnorable c with
    | true => simpa using ih
    | false => rfl

theorem meetsCased_of_ignorable {u : List Char} (h : u.all isIgnorable = true) :
    meetsCased u = false := by
  have happend := meetsCased_append u []
  rwa [List.append_nil, if_pos h] at happend

theorem all_reverse_isIgnorable (u : List Char) :
    u.reverse.all isIgnorable = u.all isIgnorable := List.all_reverse

/-- No `Σ` among some characters depends on what stands around them: one with nothing before it that
counts stands before a letter, and one with nothing behind it that counts stands behind none. -/
def Settled (cs : List Char) : Prop :=
  ∀ x y, cs = x ++ 'Σ' :: y →
    (x.all isIgnorable = true → meetsCased y = true) ∧
    (y.all isIgnorable = true → meetsCased x.reverse = false)

/-- **Settled characters** have the same small letters everywhere. -/
theorem lowerIn_of_settled {cs : List Char} (h : Settled cs) (before after : List Char) :
    lowerIn before after cs = lowerIn [] [] cs := by
  refine lowerIn_congr fun x y hxy => ?_
  obtain ⟨hx, hy⟩ := h x y hxy
  rw [List.append_nil, List.append_nil, endsWord, endsWord, meetsCased_append, meetsCased_append,
    all_reverse_isIgnorable]
  cases hxall : x.all isIgnorable with
  | true =>
    -- a letter behind it decides that it ends no word
    have hcased := hx hxall
    have hyall : y.all isIgnorable = false := by
      rw [← Bool.not_eq_true]
      intro hyall
      rw [meetsCased_of_ignorable hyall] at hcased
      cases hcased
    simp [hyall, hcased]
  | false =>
    cases hyall : y.all isIgnorable with
    | true => simp [hy hyall]
    | false => simp

/-- The letter `A` has a case. -/
theorem meetsCased_letter (u : List Char) :
    meetsCased (u ++ ['A']) = (u.all isIgnorable || meetsCased u) := by
  have hletter : meetsCased ['A'] = true := by decide +kernel
  rw [meetsCased_append, hletter]
  cases h : u.all isIgnorable with
  | true => rfl
  | false => rfl

/-- **Characters that are not settled** have other small letters beside a letter: behind one, some
`Σ` ends a word that does not without it, or before one, some `Σ` does not that does without it. -/
theorem exists_count_lt_of_not_settled {cs : List Char} (h : ¬ Settled cs) :
    (lowerIn ['A'] [] cs).count 'σ' < (lowerIn [] [] cs).count 'σ' ∨
      (lowerIn [] ['A'] cs).count 'ς' < (lowerIn [] [] cs).count 'ς' := by
  unfold Settled at h
  push Not at h
  obtain ⟨x, y, hxy, hopen⟩ := h
  by_cases hx : x.all isIgnorable = true ∧ meetsCased y = false
  · -- nothing before it counts, so a letter before the characters makes it end a word
    refine .inl (count_lowerIn_lt (fun x' y' _ => ?_) hxy ?_)
    · simp only [List.append_nil, endsWord, meetsCased_letter]
      cases meetsCased x'.reverse <;> cases meetsCased y' <;>
        cases x'.reverse.all isIgnorable <;> simp [smallSigma]
    · have hbefore := meetsCased_of_ignorable ((all_reverse_isIgnorable x).trans hx.1)
      simp [endsWord, meetsCased_letter, hbefore, hx.1, hx.2, smallSigma]
  · -- nothing behind it counts, so a letter behind the characters makes it end no word
    obtain ⟨hy, hbefore⟩ : y.all isIgnorable = true ∧ meetsCased x.reverse = true := by
      have hopen' := hopen fun hxall => by simpa [hxall] using hx
      simpa using hopen'
    refine .inr (count_lowerIn_lt (fun x' y' _ => ?_) hxy ?_)
    · simp only [List.append_nil, endsWord, meetsCased_letter]
      cases meetsCased x'.reverse <;> cases meetsCased y' <;>
        cases y'.all isIgnorable <;> simp [smallSigma]
    · have hafter := meetsCased_of_ignorable hy
      simp [endsWord, meetsCased_letter, hbefore, hy, hafter, smallSigma]

end DealWatch
