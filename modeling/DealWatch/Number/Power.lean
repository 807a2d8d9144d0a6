/-!
# Powers

* `twoTo` and `tenTo` are the powers of two and of ten.
-/

namespace DealWatch

/-- A power of two. An exponent below zero counts as zero. -/
def twoTo (e : Int) : Nat := Nat.pow 2 e.toNat

/-- A power of ten. An exponent below zero counts as zero. -/
def tenTo (e : Int) : Nat := Nat.pow 10 e.toNat

end DealWatch
