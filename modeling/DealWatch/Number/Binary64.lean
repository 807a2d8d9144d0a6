import DealWatch.Number.Power
import DealWatch.Text.Hexadecimal

/-!
# Double-precision numbers as exact dyadic values

A finite number is a sign, a significand and a power of two, so that every operation is exact
integer arithmetic followed by one rounding.

* `Binary64.ofRatio` rounds a quotient of natural numbers to the nearest number, ties to even;
* `Binary64.ofInt?` is the same for an integer, and fails where the result would be infinite;
* `Binary64.add` and `Binary64.mul` round the exact sum and the exact product;
* `Binary64.compareInt` compares with an integer exactly;
* `Binary64.toBits` is the interchange encoding.
-/

namespace DealWatch

/-- A double-precision number. In `finite neg m e` the value is `m * 2 ^ e`, negated if `neg`;
the functions of this file give `m < 2 ^ 53` and `-1074 ≤ e ≤ 971`, with `2 ^ 52 ≤ m` unless
`e = -1074`. A NaN has a sign too, which only its encoding shows. -/
inductive Binary64 where
  | finite (neg : Bool) (m : Nat) (e : Int)
  | infinite (neg : Bool)
  | nan (neg : Bool)
  deriving DecidableEq, Repr, Inhabited

namespace Binary64

/-- The least exponent. -/
def minExponent : Int := -1074

/-- The greatest exponent. -/
def maxExponent : Int := 971

/-- The positive zero. -/
def zero : Binary64 := .finite false 0 minExponent

/-- The quotient `n / d` rounded to the nearest natural number, a tie to the even one. -/
def roundQuotient (n d : Nat) : Nat :=
  let q := n / d
  let r := n % d
  if 2 * r < d then q
  else if 2 * r = d then (if q % 2 = 0 then q else q + 1)
  else q + 1

/-- The numerator and denominator of `n / d / 2 ^ e`. -/
def scaled (n d : Nat) (e : Int) : Nat × Nat :=
  if e < 0 then (n * twoTo (-e), d) else (n, d * twoTo e)

/-- The greatest `k` with `2 ^ k ≤ n / d`, for positive `n` and `d`. -/
def floorLog (n d : Nat) : Int :=
  let k : Int := (Nat.log2 n : Int) - (Nat.log2 d : Int)
  let (a, b) := scaled n d k
  if a < b then k - 1 else k

/-- The number nearest to `n / d`, ties to even, with the given sign. -/
def ofRatio (neg : Bool) (n d : Nat) : Binary64 :=
  if n = 0 then .finite neg 0 minExponent
  else
    let e := max (floorLog n d - 52) minExponent
    let (a, b) := scaled n d e
    let q := roundQuotient a b
    let (m, e) := if q = twoTo 53 then (twoTo 52, e + 1) else (q, e)
    if maxExponent < e then .infinite neg else .finite neg m e

/-- The number nearest to `± m * 2 ^ e`. -/
def ofDyadic (neg : Bool) (m : Nat) (e : Int) : Binary64 :=
  if e < 0 then ofRatio neg m (twoTo (-e)) else ofRatio neg (m * twoTo e) 1

/-- The number nearest to an integer. -/
def ofInt (i : Int) : Binary64 := ofRatio (i < 0) i.natAbs 1

/-- Whether the number is finite. -/
def isFinite : Binary64 → Bool
  | .finite .. => true
  | _ => false

/-- The number nearest to an integer, unless that is infinite. -/
def ofInt? (i : Int) : Option Binary64 :=
  let x := ofInt i
  if x.isFinite then some x else none

/-- The number nearest to `± digits * 10 ^ exponent`. Exponents far outside the range are decided
by the count of digits alone. -/
def ofDecimal (neg : Bool) (digits : Nat) (exponent : Int) : Binary64 :=
  if digits = 0 then .finite neg 0 minExponent
  else
    let top : Int := exponent + ((Nat.log2 digits * 3 / 10 : Nat) : Int)
    if 400 < top then .infinite neg
    else if exponent + ((Nat.log2 digits / 3 + 1 : Nat) : Int) < -400 then .finite neg 0 minExponent
    else if exponent < 0 then ofRatio neg digits (tenTo (-exponent))
    else ofRatio neg (digits * tenTo exponent) 1

/-- The negative of a number. -/
def negate : Binary64 → Binary64
  | .finite s m e => .finite (!s) m e
  | .infinite s => .infinite (!s)
  | .nan s => .nan (!s)

/-- A significand with its sign. -/
def signed (neg : Bool) (m : Nat) : Int := if neg then -(m : Int) else m

/-- The sum of two finite numbers in units of the smaller exponent, and that exponent. -/
def exactSum (s₁ : Bool) (m₁ : Nat) (e₁ : Int) (s₂ : Bool) (m₂ : Nat) (e₂ : Int) : Int × Int :=
  let e := min e₁ e₂
  (signed s₁ m₁ * (twoTo (e₁ - e) : Int) + signed s₂ m₂ * (twoTo (e₂ - e) : Int), e)

/-- The rounded sum. A sum of zero is negative only if both terms are. -/
def add : Binary64 → Binary64 → Binary64
  | .finite s₁ m₁ e₁, .finite s₂ m₂ e₂ =>
    let (v, e) := exactSum s₁ m₁ e₁ s₂ m₂ e₂
    if v = 0 then .finite (s₁ && s₂) 0 minExponent else ofDyadic (v < 0) v.natAbs e
  | .infinite s₁, .infinite s₂ => if s₁ = s₂ then .infinite s₁ else .nan true
  | .infinite s, .finite .. => .infinite s
  | .finite .., .infinite s => .infinite s
  | .nan s, _ => .nan s
  | _, .nan s => .nan s

/-- The rounded product. -/
def mul : Binary64 → Binary64 → Binary64
  | .finite s₁ m₁ e₁, .finite s₂ m₂ e₂ => ofDyadic (s₁ != s₂) (m₁ * m₂) (e₁ + e₂)
  | .infinite s₁, .infinite s₂ => .infinite (s₁ != s₂)
  | .infinite s₁, .finite s₂ m _ => if m = 0 then .nan true else .infinite (s₁ != s₂)
  | .finite s₁ m _, .infinite s₂ => if m = 0 then .nan true else .infinite (s₁ != s₂)
  | .nan s, _ => .nan s
  | _, .nan s => .nan s

/-- The rounded quotient by a positive natural number. -/
def divNat : Binary64 → Nat → Binary64
  | .finite s m e, n => if e < 0 then ofRatio s m (twoTo (-e) * n) else ofRatio s (m * twoTo e) n
  | x, _ => x

/-- How a number compares with an integer, exactly; `none` for a NaN. -/
def compareInt : Binary64 → Int → Option Ordering
  | .finite s m e, i =>
    some <| if e < 0 then compare (signed s m) (i * twoTo (-e))
      else compare (signed s m * twoTo e) i
  | .infinite s, _ => some (if s then .lt else .gt)
  | .nan _, _ => none

/-- Whether an integer is greater than a number. -/
def ltInt (x : Binary64) (i : Int) : Bool := x.compareInt i == some .lt

/-- Whether an integer is less than a number. -/
def gtInt (x : Binary64) (i : Int) : Bool := x.compareInt i == some .gt

/-- The part of a finite number before the point. -/
def truncate? : Binary64 → Option Int
  | .finite s m e =>
    some (signed s (if e < 0 then m / twoTo (-e) else m * twoTo e))
  | _ => none

/-- The greatest integer that is not above a finite number. -/
def floor? : Binary64 → Option Int
  | .finite s m e => some (if e < 0 then signed s m / (twoTo (-e) : Int) else signed s m * twoTo e)
  | _ => none

/-- Whether a number is finite and has no part after the point. -/
def isIntegral : Binary64 → Bool
  | .finite _ m e => e ≥ 0 || m % twoTo (-e) = 0
  | _ => false

/-- The part of a finite number after the point, with its sign. -/
def fraction : Binary64 → Binary64
  | .finite s m e =>
    if e < 0 then ofDyadic s (m % twoTo (-e)) e else .finite s 0 minExponent
  | x => x

/-- The integer nearest to a finite number, a half away from zero. -/
def roundHalfAway? : Binary64 → Option Int
  | .finite s m e =>
    some (signed s (if e < 0 then (2 * m + twoTo (-e)) / (2 * twoTo (-e)) else m * twoTo e))
  | _ => none

/-- Whether a number is a NaN. -/
def isNan : Binary64 → Bool
  | .nan _ => true
  | _ => false

/-- Whether a number is zero. -/
def isZero : Binary64 → Bool
  | .finite _ m _ => m = 0
  | _ => false

/-- The order of numbers; `none` if one is a NaN. -/
def compare? : Binary64 → Binary64 → Option Ordering
  | .nan _, _ => none
  | _, .nan _ => none
  | .infinite s₁, .infinite s₂ => some (compare s₂.toNat s₁.toNat)
  | .infinite s, .finite .. => some (if s then .lt else .gt)
  | .finite .., .infinite s => some (if s then .gt else .lt)
  | .finite s₁ m₁ e₁, .finite s₂ m₂ e₂ =>
    let (v, _) := exactSum s₁ m₁ e₁ (!s₂) m₂ e₂
    some (compare v 0)

/-- The interchange encoding as a number below `2 ^ 64`. -/
def toBits : Binary64 → Nat
  | .finite s m e =>
    s.toNat * twoTo 63 + (if m < twoTo 52 then m else (e + 1075).toNat * twoTo 52 + (m - twoTo 52))
  | .infinite s => s.toNat * twoTo 63 + 2047 * twoTo 52
  | .nan s => s.toNat * twoTo 63 + 2047 * twoTo 52 + twoTo 51

/-- The encoding in sixteen hexadecimal digits. -/
def hexBits (x : Binary64) : String := String.ofList (hexPadded 16 x.toBits)

/-- The double nearest to one tenth. -/
def tenth : Binary64 := ofRatio false 1 10

end Binary64

end DealWatch
