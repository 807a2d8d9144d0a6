import DealWatch.Number.Decimal
import DealWatch.Proofs.Number.Digits

/-!
# The characters of numbers

* `IsNumeral` says that a text has the characters of numbers only;
* `isNumeral_generalText` says so of a number to six digits.

The text of a number is put together of digits, a point and an exponent, and the proof follows that.
-/

namespace DealWatch

/-- A text of digits, signs, points and the letters that stand in numbers. -/
def IsNumeral (s : String) : Prop :=
  ∀ c ∈ s.toList, c.isDigit = true ∨ c ∈ ['-', '+', '.', 'a', 'e', 'f', 'i', 'n']

instance (s : String) : Decidable (IsNumeral s) :=
  List.decidableBAll _ s.toList

namespace IsNumeral

theorem append {s t : String} (hs : IsNumeral s) (ht : IsNumeral t) : IsNumeral (s ++ t) := by
  intro c hc
  rw [String.toList_append, List.mem_append] at hc
  exact hc.elim (hs c) (ht c)

theorem ofList {cs : List Char} (h : ∀ c ∈ cs, c.isDigit = true) :
    IsNumeral (String.ofList cs) := by
  intro c hc
  rw [String.toList_ofList] at hc
  exact .inl (h c hc)

theorem ite {p : Prop} [Decidable p] {s t : String} (hs : IsNumeral s) (ht : IsNumeral t) :
    IsNumeral (if p then s else t) := by
  split
  · exact hs
  · exact ht

end IsNumeral

namespace Binary64

theorem isDigit_significand {x : Decimal} {c : Char} (h : c ∈ x.significand.1) :
    c.isDigit = true := by
  have hmem := (List.dropWhile_sublist _).subset (List.mem_reverse.1 h)
  exact Nat.isDigit_of_mem_toDigits (by decide) (by decide) (List.mem_reverse.1 hmem)

theorem isNumeral_exponentText (e : Int) : IsNumeral (exponentText e) := by
  have hdigits : IsNumeral (toString e.natAbs) := by
    rw [show toString e.natAbs = e.natAbs.repr from rfl, Nat.repr_eq_ofList_toDigits]
    exact .ofList fun c hc => Nat.isDigit_of_mem_toDigits (by decide) (by decide) hc
  have hzero : IsNumeral "0" := by decide +kernel
  exact .append (.ite (by decide +kernel) (by decide +kernel)) (.ite (hzero.append hdigits) hdigits)

theorem isNumeral_text (x : Decimal) (limit : Int) (point : Bool) :
    IsNumeral (x.text limit point) := by
  have hdigit (c : Char) := isDigit_significand (x := x) (c := c)
  have hzeros (count : Nat) : ∀ c ∈ List.replicate count '0', c.isDigit = true :=
    fun c hc => by rw [List.eq_of_mem_replicate hc]; decide
  unfold Decimal.text
  generalize x.significand = s at hdigit ⊢
  obtain ⟨digits, top⟩ := s
  have htake (n : Nat) : ∀ c ∈ digits.take n, c.isDigit = true :=
    fun c hc => hdigit c (List.mem_of_mem_take hc)
  have hdrop (n : Nat) : ∀ c ∈ digits.drop n, c.isDigit = true :=
    fun c hc => hdigit c (List.mem_of_mem_drop hc)
  have hempty : IsNumeral "" := by decide +kernel
  have hfraction (n : Nat) : IsNumeral ("." ++ String.ofList (digits.drop n)) :=
    .append (by decide +kernel) (.ofList (hdrop n))
  refine .ite (.ite ?_ ?_) ?_
  · exact .append (by decide +kernel) (.ofList (List.forall_mem_append.2 ⟨hzeros _, hdigit⟩))
  · refine .append (.ofList (List.forall_mem_append.2 ⟨htake _, hzeros _⟩)) ?_
    exact .ite (hfraction _) (.ite (by decide +kernel) hempty)
  · refine .append (.append (.ofList (htake 1)) (.ite hempty (hfraction 1))) ?_
    exact isNumeral_exponentText top

theorem isNumeral_generalText (x : Binary64) : IsNumeral x.generalText := by
  unfold generalText textBy
  split
  · decide +kernel
  · exact .ite (by decide +kernel) (by decide +kernel)
  · exact .append (.ite (by decide +kernel) (by decide +kernel))
      (.ite (.ite (by decide +kernel) (by decide +kernel)) (isNumeral_text _ _ _))

end Binary64

end DealWatch
