import DealWatch.Proofs.Number.Bounds

/-!
# How large results are

A number with a small exponent is small, and so are the sum and the product of two such numbers: as
long as the exponents stay far from the greatest one, nothing becomes infinite.

* `Binary64.UpTo` says that a number is finite and its exponent at most a given one;
* `Binary64.upTo_ofInt`, `Binary64.UpTo.mul` and `Binary64.UpTo.add` say of which results it holds.

A result is the exact one, rounded. So it is enough to bound the exact product and the exact sum by
a power of two, and significands are below one; `Binary64.upTo_ofRatio` is about the rounding, where
a significand that overflows makes the exponent one larger.
-/

namespace DealWatch

theorem twoTo_add {e f : Int} (he : 0 ≤ e) (hf : 0 ≤ f) : twoTo (e + f) = twoTo e * twoTo f := by
  rw [twoTo, Int.toNat_add he hf]
  exact Nat.pow_add 2 _ _

namespace Binary64

/-- A finite number whose significand is not too large and whose exponent is at most a given one. -/
def UpTo (k : Int) : Binary64 → Prop
  | .finite _ m e => m ≤ twoTo 54 ∧ e ≤ k
  | _ => False

theorem UpTo.mono {k l : Int} {x : Binary64} (h : x.UpTo k) (hkl : k ≤ l) : x.UpTo l := by
  cases x with
  | finite neg m e => exact ⟨h.1, Int.le_trans h.2 hkl⟩
  | infinite => exact h
  | nan => exact h

theorem UpTo.isFinite {k : Int} {x : Binary64} (h : x.UpTo k) : x.isFinite = true := by
  cases x with
  | finite => rfl
  | infinite => exact h.elim
  | nan => exact h.elim

/-- A quotient below a power of two is rounded to a number with no larger exponent. -/
theorem upTo_ofRatio (neg : Bool) {n d k : Nat} (hd : d ≠ 0) (h : n < d * twoTo k)
    (hk : k ≤ 1023) : (ofRatio neg n d).UpTo k := by
  have hfinite := isFinite_ofRatio neg h hk
  have hbounded := bounded_ofRatio neg n hd
  unfold ofRatio at hfinite hbounded ⊢
  split
  · exact ⟨Nat.zero_le _, by rw [minExponent]; omega⟩
  · have hlog : floorLog n d < k := floorLog_lt ‹_› h
    have hexponent : max (floorLog n d - 52) minExponent + 1 ≤ k := by
      rw [minExponent]
      omega
    rw [if_neg ‹_›] at hfinite hbounded
    simp only at hfinite hbounded ⊢
    generalize roundQuotient _ _ = q at hfinite hbounded ⊢
    generalize max (floorLog n d - 52) minExponent = e at hfinite hbounded hexponent ⊢
    -- a significand that overflows makes the exponent one larger
    have hpair : (if q = twoTo 53 then (twoTo 52, e + 1) else (q, e)).2 ≤ k := by
      split
      · exact hexponent
      · exact Int.le_of_lt hexponent
    generalize (if q = twoTo 53 then (twoTo 52, e + 1) else (q, e)) = pair at *
    split
    · rename_i hover
      rw [if_pos hover] at hfinite
      cases hfinite
    · rename_i hover
      rw [if_neg hover] at hbounded
      exact ⟨hbounded.1, hpair⟩

/-- The same for a number times a power of two. -/
theorem upTo_ofDyadic (neg : Bool) {m k : Nat} {e : Int}
    (h : m * twoTo e < twoTo (-e) * twoTo k) (hk : k ≤ 1023) : (ofDyadic neg m e).UpTo k := by
  unfold ofDyadic
  split
  · rw [twoTo_of_nonpos (Int.le_of_lt ‹_›), Nat.mul_one] at h
    exact upTo_ofRatio neg (Nat.ne_of_gt (twoTo_pos _)) h hk
  · rw [twoTo_of_nonpos (e := -e) (by omega)] at h
    exact upTo_ofRatio neg Nat.one_ne_zero h hk

/-- A product of powers of two does not depend on how the exponent is shared out. -/
theorem twoTo_sub_mul {k : Nat} {e : Int} (h : e ≤ k) :
    twoTo (k - e) * twoTo e = twoTo (-e) * twoTo k := by
  by_cases he : e < 0
  · have hsplit : (k : Int) - e = -e + k := by omega
    rw [twoTo_of_nonpos (Int.le_of_lt he), Nat.mul_one, hsplit,
      twoTo_add (by omega) (Int.natCast_nonneg k)]
  · have hsplit : (k : Int) = (k - e) + e := by omega
    rw [twoTo_of_nonpos (e := -e) (by omega), Nat.one_mul,
      ← twoTo_add (by omega) (Int.not_lt.1 he), ← hsplit]

theorem upTo_ofInt {i : Int} {k : Nat} (h : i.natAbs < twoTo k) (hk : k ≤ 1023) :
    (ofInt i).UpTo k :=
  upTo_ofRatio _ Nat.one_ne_zero (by rwa [Nat.one_mul]) hk

theorem UpTo.mul {j k l : Nat} {x y : Binary64} (hx : x.UpTo j) (hy : y.UpTo k)
    (hl : j + k + 109 ≤ l) (hlimit : l ≤ 1023) : (x.mul y).UpTo l := by
  cases x with
  | infinite => exact hx.elim
  | nan => exact hx.elim
  | finite s₁ m₁ e₁ =>
    cases y with
    | infinite => exact hy.elim
    | nan => exact hy.elim
    | finite s₂ m₂ e₂ =>
      refine upTo_ofDyadic _ ?_ hlimit
      have hproduct : m₁ * m₂ < twoTo 109 :=
        Nat.lt_of_le_of_lt (Nat.mul_le_mul hx.1 hy.1) (by decide +kernel)
      have hexponent : (109 : Int) ≤ l - (e₁ + e₂) := by
        have h₁ : e₁ ≤ j := hx.2
        have h₂ : e₂ ≤ k := hy.2
        omega
      calc m₁ * m₂ * twoTo (e₁ + e₂)
          < twoTo 109 * twoTo (e₁ + e₂) := Nat.mul_lt_mul_of_pos_right hproduct (twoTo_pos _)
        _ ≤ twoTo (l - (e₁ + e₂)) * twoTo (e₁ + e₂) :=
          Nat.mul_le_mul_right _ (twoTo_le hexponent)
        _ = twoTo (-(e₁ + e₂)) * twoTo l := twoTo_sub_mul (by omega)

theorem natAbs_signed (neg : Bool) (m : Nat) : (signed neg m).natAbs = m := by
  cases neg <;> simp [signed]

/-- A term of a sum, in units of the smaller exponent. -/
theorem UpTo.term_le {k : Nat} {neg : Bool} {m : Nat} {e₀ e : Int}
    (h : (finite neg m e₀).UpTo k) :
    (signed neg m * (twoTo (e₀ - e) : Int)).natAbs ≤ twoTo 54 * twoTo (k - e) := by
  rw [Int.natAbs_mul, natAbs_signed, Int.natAbs_natCast]
  exact Nat.mul_le_mul h.1 (twoTo_le (Int.sub_le_sub_right h.2 e))

/-- The exact sum of two small numbers is below a power of two. -/
theorem UpTo.exactSum_lt {k l : Nat} {s₁ s₂ : Bool} {m₁ m₂ : Nat} {e₁ e₂ : Int}
    (hx : (finite s₁ m₁ e₁).UpTo k) (hy : (finite s₂ m₂ e₂).UpTo k) (hl : k + 56 ≤ l) :
    (exactSum s₁ m₁ e₁ s₂ m₂ e₂).1.natAbs * twoTo (exactSum s₁ m₁ e₁ s₂ m₂ e₂).2 <
      twoTo (-(exactSum s₁ m₁ e₁ s₂ m₂ e₂).2) * twoTo l := by
  simp only [exactSum]
  have he : min e₁ e₂ ≤ k := Int.le_trans (Int.min_le_left _ _) hx.2
  generalize min e₁ e₂ = e at he
  have hterms := Nat.add_le_add (hx.term_le (e := e)) (hy.term_le (e := e))
  have hsum := Int.natAbs_add_le (signed s₁ m₁ * (twoTo (e₁ - e) : Int))
    (signed s₂ m₂ * (twoTo (e₂ - e) : Int))
  generalize (signed s₁ m₁ * (twoTo (e₁ - e) : Int) +
    signed s₂ m₂ * (twoTo (e₂ - e) : Int)).natAbs = v at hsum
  have hv : v < twoTo 56 * twoTo (k - e) := by
    have hpower : twoTo 56 = twoTo 54 + twoTo 54 + 2 * twoTo 54 := by decide +kernel
    have hpos : 0 < 2 * twoTo 54 * twoTo (k - e) :=
      Nat.mul_pos (by decide +kernel) (twoTo_pos _)
    rw [hpower, Nat.add_mul, Nat.add_mul]
    omega
  have hsplit : (l : Int) - e = (l - k) + (k - e) := by omega
  calc v * twoTo e
      < twoTo 56 * twoTo (k - e) * twoTo e := Nat.mul_lt_mul_of_pos_right hv (twoTo_pos _)
    _ ≤ twoTo (l - k) * twoTo (k - e) * twoTo e :=
      Nat.mul_le_mul_right _ (Nat.mul_le_mul_right _ (twoTo_le (by omega)))
    _ = twoTo (l - e) * twoTo e := by rw [hsplit, twoTo_add (by omega) (by omega)]
    _ = twoTo (-e) * twoTo l := twoTo_sub_mul (by omega)

theorem UpTo.add {k l : Nat} {x y : Binary64} (hx : x.UpTo k) (hy : y.UpTo k)
    (hl : k + 56 ≤ l) (hlimit : l ≤ 1023) : (x.add y).UpTo l := by
  cases x with
  | infinite => exact hx.elim
  | nan => exact hx.elim
  | finite s₁ m₁ e₁ =>
    cases y with
    | infinite => exact hy.elim
    | nan => exact hy.elim
    | finite s₂ m₂ e₂ =>
      have hsum := hx.exactSum_lt hy hl
      rw [Binary64.add]
      generalize exactSum s₁ m₁ e₁ s₂ m₂ e₂ = sum at hsum ⊢
      simp only
      split
      · exact ⟨Nat.zero_le _, by rw [minExponent]; omega⟩
      · exact upTo_ofDyadic _ hsum hlimit

end Binary64

end DealWatch
