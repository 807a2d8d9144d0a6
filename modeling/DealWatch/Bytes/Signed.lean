import DealWatch.Failure

/-!
# Integers as bytes

* `signedBytes` writes an integer in two's complement with a given number of bytes, unless it is too
  wide for them.
-/

namespace DealWatch

/-- The lowest bytes of a natural number, the least significant first. -/
def littleEndian : Nat → Nat → List UInt8
  | 0, _ => []
  | width + 1, n => UInt8.ofNat n :: littleEndian width (n / 256)

/-- How many numbers there are with some number of bytes. -/
def byteRange (width : Nat) : Nat := Nat.pow 256 width

/-- The bytes of an integer in two's complement; it must lie in the half of the range below zero or
in the half above. -/
def signedBytes (width : Nat) (i : Int) : Outcome (List UInt8) :=
  if -byteRange width ≤ 2 * i ∧ 2 * i < byteRange width then
    .ok (littleEndian width (i % byteRange width).toNat)
  else .error .wideBound

end DealWatch
