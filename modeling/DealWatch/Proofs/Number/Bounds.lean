import DealWatch.Number.Numeral
import DealWatch.Number.Word
import DealWatch.Proofs.Number.Rounding

/-!
# How large numbers are

* `Binary64.Bounded` bounds the significand and the exponent of a number; what is read from a text
  is so bounded, however many digits the text has;
* `Binary64.Bounded.natAbs_lt` bounds the whole number before its point;
* `Binary64.isFinite_ofRatio` says of which quotients there is a finite number near by.

The exponent is chosen by the size of the quotient, so the scaled quotient is less than a fixed
power of two (`Binary64.scaled_lt`): both sides are compared through the powers of two between which
they lie. Rounding does not go beyond that power.
-/

namespace DealWatch

namespace Binary64

/-- A finite number has a significand and an exponent that are not too large. -/
def Bounded : Binary64 → Prop
  | .finite _ m e => m ≤ twoTo 54 ∧ e ≤ maxExponent
  | _ => True

/-- A rounded quotient is not above a whole number that the quotient is below. -/
theorem roundQuotient_le {n d k : Nat} (h : n < d * k) : roundQuotient n d ≤ k := by
  have hquotient : n / d < k := Nat.div_lt_of_lt_mul h
  unfold roundQuotient
  simp only
  split
  · omega
  · split
    · split <;> omega
    · omega

/-- A quotient is below a power of two that is two above the difference of the logarithms. -/
theorem scaled_lt {n d : Nat} {e : Int} (hd : d ≠ 0)
    (he : (n.log2 : Int) - d.log2 - 53 ≤ e) : (scaled n d e).1 < (scaled n d e).2 * twoTo 54 := by
  have hn : n < 2 ^ (n.log2 + 1) := Nat.lt_log2_self
  have hlow : 2 ^ d.log2 ≤ d := Nat.log2_self_le hd
  unfold scaled
  split
  · rename_i hneg
    obtain ⟨k, rfl⟩ : ∃ k : Nat, e = -(k : Int) := ⟨(-e).toNat, by omega⟩
    have hk : twoTo (- -(k : Int)) = 2 ^ k := by rw [Int.neg_neg]; rfl
    -- both sides are compared through the powers of two between which they lie
    have hexponent : n.log2 + 1 + k ≤ d.log2 + 54 := by omega
    rw [hk]
    calc n * 2 ^ k < 2 ^ (n.log2 + 1) * 2 ^ k := Nat.mul_lt_mul_of_pos_right hn (Nat.two_pow_pos k)
      _ = 2 ^ (n.log2 + 1 + k) := (Nat.pow_add 2 _ _).symm
      _ ≤ 2 ^ (d.log2 + 54) := Nat.pow_le_pow_right (by decide) hexponent
      _ = 2 ^ d.log2 * 2 ^ 54 := Nat.pow_add 2 _ _
      _ ≤ d * 2 ^ 54 := Nat.mul_le_mul_right _ hlow
  · obtain ⟨k, rfl⟩ := Int.eq_ofNat_of_zero_le (Int.not_lt.1 ‹¬ e < 0›)
    have hexponent : n.log2 + 1 ≤ d.log2 + k + 54 := by omega
    calc n < 2 ^ (n.log2 + 1) := hn
      _ ≤ 2 ^ (d.log2 + k + 54) := Nat.pow_le_pow_right (by decide) hexponent
      _ = 2 ^ d.log2 * 2 ^ k * 2 ^ 54 := by rw [Nat.pow_add, Nat.pow_add]
      _ ≤ d * 2 ^ k * 2 ^ 54 := Nat.mul_le_mul_right _ (Nat.mul_le_mul_right _ hlow)

theorem sub_one_le_floorLog (n d : Nat) : (n.log2 : Int) - d.log2 - 1 ≤ floorLog n d := by
  unfold floorLog
  simp only
  split <;> omega

theorem bounded_ofRatio (neg : Bool) (n : Nat) {d : Nat} (hd : d ≠ 0) :
    (ofRatio neg n d).Bounded := by
  unfold ofRatio
  split
  · exact ⟨Nat.zero_le _, by decide⟩
  · have hlog := sub_one_le_floorLog n d
    have hround := roundQuotient_le (scaled_lt (n := n) (e := max (floorLog n d - 52) minExponent)
      hd (by omega))
    simp only
    generalize roundQuotient _ _ = q at hround
    generalize max (floorLog n d - 52) minExponent = e
    -- a significand that overflows is halved
    have hpair : (if q = twoTo 53 then (twoTo 52, e + 1) else (q, e)).1 ≤ twoTo 54 := by
      split
      · exact (by decide : twoTo 52 ≤ twoTo 54)
      · exact hround
    generalize (if q = twoTo 53 then (twoTo 52, e + 1) else (q, e)) = pair at hpair
    split
    · trivial
    · exact ⟨hpair, Int.not_lt.1 ‹_›⟩

/-- A quotient below a power of two that is not too large is rounded to a finite number. -/
theorem isFinite_ofRatio (neg : Bool) {n d k : Nat} (h : n < d * twoTo k) (hk : k ≤ 1023) :
    (ofRatio neg n d).isFinite = true := by
  unfold ofRatio
  split
  · rfl
  · have hlog : floorLog n d < k := floorLog_lt ‹_› h
    have hexponent : max (floorLog n d - 52) minExponent + 1 ≤ maxExponent := by
      rw [minExponent, maxExponent]
      omega
    simp only
    generalize roundQuotient _ _ = q
    generalize max (floorLog n d - 52) minExponent = e at hexponent
    -- a significand that overflows makes the exponent one larger
    have hpair : (if q = twoTo 53 then (twoTo 52, e + 1) else (q, e)).2 ≤ maxExponent := by
      split
      · exact hexponent
      · exact Int.le_of_lt (Int.lt_of_add_one_le hexponent)
    rw [if_neg (Int.not_lt.2 hpair)]
    rfl

/-- A word has at most 64 bits. -/
theorem natAbs_lt_of_isWord {i : Int} (h : isWord i = true) : i.natAbs < twoTo (64 : Nat) := by
  have hword : -wordLimit ≤ i ∧ i < wordLimit := by simpa [isWord] using h
  have hpower : twoTo (64 : Nat) = 18446744073709551616 := by decide
  rw [hpower]
  simp only [wordLimit] at hword
  omega

/-- A word is near to a finite number. -/
theorem exists_ofInt?_of_isWord {i : Int} (h : isWord i = true) : ∃ x, ofInt? i = some x := by
  have habs : i.natAbs < 1 * twoTo (64 : Nat) := by
    rw [Nat.one_mul]
    exact natAbs_lt_of_isWord h
  refine ⟨ofInt i, ?_⟩
  rw [ofInt?, ofInt, if_pos (isFinite_ofRatio _ habs (by decide))]

theorem tenTo_ne_zero (e : Int) : tenTo e ≠ 0 := Nat.ne_of_gt (Nat.pow_pos (by decide))

theorem bounded_ofDecimal (neg : Bool) (digits : Nat) (exponent : Int) :
    (ofDecimal neg digits exponent).Bounded := by
  unfold ofDecimal
  simp only
  split
  · exact ⟨Nat.zero_le _, by decide⟩
  split
  · trivial
  split
  · exact ⟨Nat.zero_le _, by decide⟩
  split
  · exact bounded_ofRatio neg digits (tenTo_ne_zero _)
  · exact bounded_ofRatio neg _ Nat.one_ne_zero

/-- The whole number before the point is below a power of two. -/
theorem Bounded.natAbs_lt {x : Binary64} (h : x.Bounded) {n : Int} (hn : x.truncate? = some n) :
    n.natAbs < twoTo 1026 := by
  cases x with
  | infinite => cases hn
  | nan => cases hn
  | finite neg m e =>
    obtain ⟨hm, he⟩ := h
    have hvalue :
        (if e < 0 then m / twoTo (-e) else m * twoTo e) ≤ twoTo 54 * twoTo maxExponent := by
      split
      · exact Nat.le_trans (Nat.div_le_self _ _) (Nat.le_trans hm (by decide +kernel))
      · exact Nat.mul_le_mul hm (twoTo_le he)
    have hlimit : twoTo 54 * twoTo maxExponent < twoTo 1026 := by decide +kernel
    have habs : n.natAbs = if e < 0 then m / twoTo (-e) else m * twoTo e := by
      rw [← Option.some.inj hn, signed]
      cases neg
      · exact Int.natAbs_natCast _
      · exact Int.natAbs_neg _ |>.trans (Int.natAbs_natCast _)
    omega

end Binary64

open Binary64

theorem bounded_of_unsignedFloat? {negative : Bool} {cs : List Char} {x : Binary64}
    (h : unsignedFloat? negative cs = some x) : x.Bounded := by
  unfold unsignedFloat? at h
  simp only at h
  repeat' split at h
  -- a number that is read is infinite, a NaN or rounded from its digits
  all_goals cases h
  all_goals first
    | trivial
    | exact bounded_ofDecimal _ _ _

/-- Whatever text a number is read from, it is bounded. -/
theorem bounded_of_readFloat? {s : String} {x : Binary64} (h : readFloat? s = some x) :
    x.Bounded := by
  obtain ⟨cs, -, h⟩ := Option.bind_eq_some_iff.1 h
  exact bounded_of_unsignedFloat? h

end DealWatch
