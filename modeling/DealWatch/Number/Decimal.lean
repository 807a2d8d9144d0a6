import DealWatch.Number.Binary64

/-!
# Decimal texts of double-precision numbers

* `Binary64.decimal` is the decimal number with a given count of digits that is nearest to a number,
  a tie to the even one;
* `Binary64.shortest` is the decimal number with the fewest digits that is read back as the same
  double-precision number, and of those the nearest;
* `Binary64.shortText` writes the shortest digits, `Binary64.generalText` the first six.
-/

namespace DealWatch

namespace Binary64

/-- The decimal number `digits * 10 ^ exponent`. -/
structure Decimal where
  digits : Nat
  exponent : Int
  deriving DecidableEq, Repr, Inhabited

/-- The numerator and denominator of `m * 2 ^ e / 10 ^ p`. -/
def overPowerOfTen (m : Nat) (e p : Int) : Nat × Nat :=
  let (n, d) := if e < 0 then (m, twoTo (-e)) else (m * twoTo e, 1)
  if p < 0 then (n * tenTo (-p), d) else (n, d * tenTo p)

/-- The greatest `k` with `10 ^ k ≤ n / d`, for a positive `n`: an estimate from the binary
logarithm, and two steps to mend it. -/
def floorLogTen (n d : Nat) : Int :=
  let estimate : Int := ((Nat.log2 n : Int) - (Nat.log2 d : Int) - 1) * 30103 / 100000
  let above (k : Int) : Bool :=
    if k < 0 then d ≤ n * tenTo (-k) else d * tenTo k ≤ n
  if above (estimate + 1) then (if above (estimate + 2) then estimate + 2 else estimate + 1)
  else if above estimate then estimate else estimate - 1

/-- The exponent of the last of `count` digits of `m * 2 ^ e`. -/
def lastExponent (count m : Nat) (e : Int) : Int :=
  let (n, d) := overPowerOfTen m e 0
  floorLogTen n d - (count : Int) + 1

/-- The nearest decimal number with `count` digits; `m` is positive. -/
def decimal (count m : Nat) (e : Int) : Decimal :=
  let p := lastExponent count m e
  let (n, d) := overPowerOfTen m e p
  let q := roundQuotient n d
  if q = tenTo count then ⟨tenTo (count - 1 : Nat), p + 1⟩ else ⟨q, p⟩

/-- The nearer of the two neighbours with `count` digits that is read back as the same number. -/
def neighbour? (count m : Nat) (e : Int) : Option Decimal :=
  let p := lastExponent count m e
  let (n, d) := overPowerOfTen m e p
  let near := roundQuotient n d
  let far := if near = n / d then near + 1 else n / d
  [near, far].find? (fun q => ofDecimal false q p == .finite false m e) |>.map (⟨·, p⟩)

/-- The decimal number with the fewest digits that is read back as the same number. -/
def shortest (m : Nat) (e : Int) : Decimal :=
  ((List.range 17).findSome? fun i => neighbour? (i + 1) m e).getD (decimal 17 m e)

/-- The digits of a decimal number without zeros at the end, and the exponent of the first one. -/
def Decimal.significand (x : Decimal) : List Char × Int :=
  let digits := Nat.toDigits 10 x.digits
  ((digits.reverse.dropWhile (· == '0')).reverse, x.exponent + digits.length - 1)

/-- An exponent with its sign and two digits at least. -/
def exponentText (e : Int) : String :=
  let digits := toString e.natAbs
  (if e < 0 then "e-" else "e+") ++ (if digits.length < 2 then "0" ++ digits else digits)

/-- A decimal number as text: with an exponent unless that of its first digit is from -4 up to
`limit`. With `point` a whole number gets a zero after a point. -/
def Decimal.text (x : Decimal) (limit : Int) (point : Bool) : String :=
  let (digits, top) := x.significand
  if -4 ≤ top && top < limit then
    if top < 0 then
      "0." ++ String.ofList (List.replicate (-top - 1).toNat '0' ++ digits)
    else
      let whole := digits.take (top.toNat + 1)
      let whole := whole ++ List.replicate (top.toNat + 1 - whole.length) '0'
      let fraction := digits.drop (top.toNat + 1)
      String.ofList whole ++
        (if !fraction.isEmpty then "." ++ String.ofList fraction else if point then ".0" else "")
  else
    let fraction := digits.drop 1
    String.ofList (digits.take 1) ++
      (if fraction.isEmpty then "" else "." ++ String.ofList fraction) ++ exponentText top

/-- A number as text, where `decimal` gives the digits of its size. -/
def textBy (decimal : Nat → Int → Decimal) (limit : Int) (point : Bool) : Binary64 → String
  | .nan _ => "nan"
  | .infinite neg => if neg then "-inf" else "inf"
  | .finite neg m e =>
    (if neg then "-" else "") ++
      (if m = 0 then (if point then "0.0" else "0") else (decimal m e).text limit point)

/-- The shortest text that is read back as the same number. -/
def shortText (x : Binary64) : String := textBy shortest 16 true x

/-- A number to six digits, without zeros at the end. -/
def generalText (x : Binary64) : String := textBy (decimal 6) 6 false x

end Binary64

end DealWatch
