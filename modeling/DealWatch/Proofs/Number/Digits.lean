import DealWatch.Calendar.Date
import DealWatch.Json.Reader
import DealWatch.Number.Numeral

/-!
# Digits

A number in base ten is read back as it was written.

* `isDigit_of_mem_toDigits`, `toDigits_head` say how the digits of a number look;
* `digitsValue_toDigits` is the number that they write, `asciiNumber_padded` the same with leading
  zeros.

Leading zeros do not count, as the number read so far is zero while they are read.
-/

namespace DealWatch

/-- Every character of a number in base ten is a digit. -/
theorem isDigit_of_mem_toDigits {n : Nat} {c : Char} (h : c ∈ Nat.toDigits 10 n) :
    '0' ≤ c ∧ c ≤ '9' := by
  have hdigit := Nat.isDigit_of_mem_toDigits (by decide) (by decide) h
  rw [Char.isDigit, Bool.and_eq_true, decide_eq_true_eq, decide_eq_true_eq] at hdigit
  exact hdigit

/-- A number in base ten has a first digit. -/
theorem exists_toDigits (n : Nat) : ∃ d ds, Nat.toDigits 10 n = d :: ds :=
  List.exists_cons_of_ne_nil Nat.toDigits_ne_nil

/-- A number in base ten starts with a zero only if it is zero. -/
theorem toDigits_head {n : Nat} (h : n ≠ 0) : (Nat.toDigits 10 n).head? ≠ some '0' := by
  induction n using Nat.strongRecOn with
  | _ n ih =>
    rw [Nat.toDigits_eq_if (by decide)]
    split
    · rename_i hlt
      have hdigits : ∀ m < 10, m ≠ 0 → [Nat.digitChar m].head? ≠ some '0' := by decide
      exact hdigits n hlt h
    · have hhead := ih (n / 10) (by omega) (by omega)
      obtain ⟨d, ds, hds⟩ := exists_toDigits (n / 10)
      rw [hds] at hhead ⊢
      exact hhead

theorem digits_foldl (cs : List Char) (n : Nat) :
    cs.foldl (fun n c => 10 * n + (c.toNat - 48)) n = Nat.ofDigitChars 10 cs n :=
  Nat.ofDigitChars_eq_foldl.symm

/-- The digits of a number write it. -/
theorem digitsValue_toDigits (n : Nat) : Json.digitsValue (Nat.toDigits 10 n) = n := by
  rw [Json.digitsValue, digits_foldl, Nat.ofDigitChars_ten_toDigits]

/-! ### Leading zeros -/

/-- The digits of a number with leading zeros. -/
def paddedChars (width n : Nat) : List Char :=
  List.replicate (width - (Nat.toDigits 10 n).length) '0' ++ Nat.toDigits 10 n

theorem toList_padded (width n : Nat) : (padded width n).toList = paddedChars width n :=
  String.toList_ofList

/-- The last digit is that of the units. -/
theorem paddedChars_succ {width : Nat} (hwidth : 0 < width) (n : Nat) :
    paddedChars (width + 1) n = paddedChars width (n / 10) ++ [Nat.digitChar (n % 10)] := by
  rw [paddedChars, Nat.toDigits_eq_if (n := n) (by decide)]
  split
  · rename_i hlt
    have hzero : n / 10 = 0 := by omega
    have hlast : n % 10 = n := by omega
    obtain ⟨w, rfl⟩ : ∃ w, width = w + 1 := ⟨width - 1, by omega⟩
    rw [hzero, hlast, paddedChars, Nat.toDigits_zero, List.length_singleton, List.length_singleton,
      Nat.add_sub_cancel, Nat.add_sub_cancel, ← List.replicate_succ']
  · rw [paddedChars, List.length_append, List.length_singleton, Nat.add_sub_add_right,
      List.append_assoc]

theorem paddedChars_one {n : Nat} (h : n < 10) : paddedChars 1 n = [Nat.digitChar n] := by
  rw [paddedChars, Nat.toDigits_of_lt_base h]
  rfl

theorem paddedChars_two {n : Nat} (h : n < 100) :
    paddedChars 2 n = [Nat.digitChar (n / 10), Nat.digitChar (n % 10)] := by
  rw [paddedChars_succ (by decide), paddedChars_one (by omega)]
  rfl

/-- A number of four digits is written by two numbers of two digits. -/
theorem paddedChars_four {n : Nat} (h : n < 10000) :
    paddedChars 4 n = paddedChars 2 (n / 100) ++ paddedChars 2 (n % 100) := by
  rw [paddedChars_succ (by decide), paddedChars_succ (by decide), paddedChars_two (by omega),
    paddedChars_two (by omega), paddedChars_two (by omega)]
  have h1 : n / 10 / 10 = n / 100 := by omega
  have h2 : n / 10 % 10 = n % 100 / 10 := by omega
  have h3 : n % 10 = n % 100 % 10 := by omega
  rw [h1, h2, h3]
  rfl

theorem length_toDigits_le {count n : Nat} (hcount : 0 < count) (h : n < Nat.pow 10 count) :
    (Nat.toDigits 10 n).length ≤ count :=
  (Nat.length_toDigits_le_iff (by decide) hcount).2 h

theorem length_paddedChars {width n : Nat} (hwidth : 0 < width) (h : n < Nat.pow 10 width) :
    (paddedChars width n).length = width := by
  have hlength := length_toDigits_le hwidth h
  rw [paddedChars, List.length_append, List.length_replicate]
  omega

theorem isDigit_of_mem_paddedChars {width n : Nat} {c : Char} (h : c ∈ paddedChars width n) :
    '0' ≤ c ∧ c ≤ '9' := by
  obtain hzero | hdigit := List.mem_append.1 h
  · rw [List.eq_of_mem_replicate hzero]
    decide
  · exact isDigit_of_mem_toDigits hdigit

/-- The digits of a number write it, whatever the zeros in front. -/
theorem asciiNumber_padded (width n : Nat) : asciiNumber (paddedChars width n) = n := by
  rw [asciiNumber, digits_foldl, paddedChars, Nat.ofDigitChars_append,
    Nat.ofDigitChars_replicate_zero, Nat.mul_zero, Nat.ofDigitChars_ten_toDigits]

end DealWatch
