import DealWatch.Calendar.Duration

/-!
# How far rounding goes

A quotient is rounded to a multiple of a power of two, by at most half of that power.

* `le_roundQuotient` bounds the error of a rounded quotient, `floorLog_lt` the power;
* `Binary64.SecondsWithin` compares a number of seconds with microseconds, exactly;
* `le_of_secondsWithin` says that a duration below 2 ^ 33 seconds, rounded to seconds, is not over
  before its last microsecond.

A duration so short has at least 19 places behind its point, so the error of its rounding is less
than a microsecond, and one microsecond less would be too early by more than that. Nothing is said
of longer durations.
-/

namespace DealWatch

theorem twoTo_pos (e : Int) : 0 < twoTo e := Nat.pow_pos (by decide)

theorem twoTo_of_nonpos {e : Int} (h : e ≤ 0) : twoTo e = 1 := by
  rw [twoTo, Int.toNat_of_nonpos h, Nat.pow_eq, Nat.pow_zero]

theorem twoTo_succ {e : Int} (h : 0 ≤ e) : twoTo (e + 1) = 2 * twoTo e := by
  have hnat : (e + 1).toNat = e.toNat + 1 := by omega
  rw [twoTo, hnat, twoTo]
  exact Nat.pow_succ'

theorem twoTo_le {e f : Int} (h : e ≤ f) : twoTo e ≤ twoTo f :=
  Nat.pow_le_pow_right (by decide) (Int.toNat_le_toNat h)

namespace Binary64

/-- A quotient is at most a half above the number that it is rounded to. -/
theorem le_roundQuotient (n : Nat) {d : Nat} (hd : 0 < d) :
    2 * n ≤ (2 * roundQuotient n d + 1) * d := by
  have hdiv := Nat.div_add_mod n d
  have hmod := Nat.mod_lt n hd
  have hup : 2 * n ≤ (2 * (n / d + 1) + 1) * d := by
    have hexpand : (2 * (n / d + 1) + 1) * d = 2 * (d * (n / d)) + 3 * d := by
      rw [Nat.mul_comm d]
      simp only [Nat.add_mul, Nat.mul_assoc, Nat.mul_add]
      omega
    omega
  unfold roundQuotient
  simp only
  split
  · have hexpand : (2 * (n / d) + 1) * d = 2 * (d * (n / d)) + d := by
      rw [Nat.add_mul, Nat.one_mul, Nat.mul_assoc, Nat.mul_comm (n / d)]
    omega
  · split
    · split
      · have hexpand : (2 * (n / d) + 1) * d = 2 * (d * (n / d)) + d := by
          rw [Nat.add_mul, Nat.one_mul, Nat.mul_assoc, Nat.mul_comm (n / d)]
        omega
      · exact hup
    · exact hup

/-- A quotient below a power of two has a smaller logarithm. -/
theorem floorLog_lt {n d k : Nat} (hn : n ≠ 0) (h : n < d * twoTo k) :
    floorLog n d < k := by
  have hlog : n.log2 ≤ d.log2 + k := by
    have hd' : d < 2 ^ (d.log2 + 1) := Nat.lt_log2_self
    have hn' : n < 2 ^ (d.log2 + 1 + k) := by
      rw [Nat.pow_add]
      exact Nat.lt_of_lt_of_le h (Nat.mul_le_mul_right _ (Nat.le_of_lt hd'))
    have := (Nat.log2_lt hn).2 hn'
    omega
  unfold floorLog
  simp only
  by_cases hk : (n.log2 : Int) - d.log2 = k
  · have hscaled : scaled n d k = (n, d * twoTo k) := by
      rw [scaled, if_neg (by omega)]
    rw [hk, hscaled, if_pos h]
    omega
  · split <;> omega

/-- Whether a number of seconds is at most a number of microseconds. -/
def SecondsWithin (x : Binary64) (micros : Int) : Prop :=
  match x with
  | .finite s m e => signed s m * microsPerSecond * twoTo e ≤ micros * twoTo (-e)
  | .infinite s => s = true
  | .nan _ => False

/-- A quotient by a million, if it is below 2 ^ 33, is rounded to a multiple `q` of a power of two
so small that the error is less than a millionth. -/
theorem ofRatio_million {n : Nat} (hn : n ≠ 0) (h : n < 1000000 * twoTo 33) :
    ∃ (q : Nat) (e : Int), e ≤ -19 ∧ ofRatio false n 1000000 = .finite false q e ∧
      2 * (n * twoTo (-e)) ≤ 2 * (q * 1000000) + 1000000 := by
  have hlog : floorLog n 1000000 < (33 : Nat) := floorLog_lt hn h
  generalize he : max (floorLog n 1000000 - 52) minExponent = e
  have hsmall : e ≤ -20 := by rw [← he, minExponent]; omega
  have hscaled : scaled n 1000000 e = (n * twoTo (-e), 1000000) := by
    rw [scaled, if_pos (by omega)]
  have hround := le_roundQuotient (n * twoTo (-e)) (d := 1000000) (by decide)
  rw [ofRatio, if_neg hn, he]
  simp only [hscaled]
  generalize roundQuotient (n * twoTo (-e)) 1000000 = q at hround
  by_cases hq : q = twoTo 53
  · -- the significand overflows, and is halved with the exponent one up
    have hpower : twoTo (-e) = 2 * twoTo (-(e + 1)) := by
      rw [← twoTo_succ (by omega)]
      congr 1
      omega
    have hhalf : twoTo 53 = 2 * twoTo 52 := by decide
    refine ⟨twoTo 52, e + 1, by omega, ?_, ?_⟩
    · rw [if_pos hq, if_neg (by rw [maxExponent]; omega)]
    · rw [hq, hhalf, hpower] at hround
      generalize twoTo (-(e + 1)) = power at hround ⊢
      have hassoc : n * (2 * power) = 2 * (n * power) := Nat.mul_left_comm n 2 power
      omega
  · refine ⟨q, e, by omega, ?_, by omega⟩
    rw [if_neg hq, if_neg (by rw [maxExponent]; omega)]

end Binary64

/-- A wait of 2 ^ 33 seconds, which are 272 years. -/
def longWait : Int := 1000000 * twoTo 33

/-- **A wait is not over too early.** A duration that is not too long, rounded to seconds, is over
only after all of its microseconds. -/
theorem le_of_secondsWithin {m k : Int} (hm : 0 ≤ m) (hlong : m < longWait)
    (h : (secondsOfMicros m).SecondsWithin k) : m ≤ k := by
  obtain ⟨n, rfl⟩ := Int.eq_ofNat_of_zero_le hm
  have hseconds : secondsOfMicros n = Binary64.ofRatio false n 1000000 := by
    rw [secondsOfMicros, Int.natAbs_natCast]
    congr 1
  rw [hseconds] at h
  by_cases hn : n = 0
  · subst hn
    rw [Binary64.ofRatio, if_pos rfl] at h
    generalize Binary64.minExponent = e at h
    have hzero : (0 : Int) ≤ k * twoTo (-e) := by
      simpa [Binary64.SecondsWithin, Binary64.signed] using h
    have hpos : (0 : Int) < twoTo (-e) := Int.natCast_pos.2 (twoTo_pos _)
    exact Int.nonneg_of_mul_nonneg_left hzero hpos
  · obtain ⟨q, e, he, hround, herror⟩ :=
      Binary64.ofRatio_million hn (by rw [longWait] at hlong; omega)
    rw [hround] at h
    have hunit : twoTo e = 1 := twoTo_of_nonpos (by omega)
    have hpower : 2 ^ 19 ≤ twoTo (-e) := twoTo_le (e := 19) (by omega)
    simp only [Binary64.SecondsWithin, Binary64.signed, hunit, microsPerSecond] at h
    generalize twoTo (-e) = power at h hpower herror
    refine Int.not_lt.1 fun hlt => ?_
    -- one microsecond more would be more than the error of the rounding
    have hmore : (k + 1) * (power : Int) ≤ n * power :=
      Int.mul_le_mul_of_nonneg_right hlt (Int.natCast_nonneg power)
    rw [Int.add_mul, Int.one_mul] at hmore
    generalize k * (power : Int) = passed at h hmore
    have hcast : ((n * power : Nat) : Int) = n * power := Int.natCast_mul n power
    generalize (n : Int) * power = due at hcast hmore
    simp only [Bool.false_eq_true, if_false] at h
    omega

end DealWatch
