/-!
# Sets of code points

A set of code points is a list of intervals, each given by its first and its last member.
-/

namespace DealWatch

/-- A set of code points as a list of intervals `(first, last)`. -/
abbrev Ranges := List (Nat × Nat)

/-- Whether a code point lies in one of the intervals. -/
def Ranges.contains (rs : Ranges) (n : Nat) : Bool :=
  rs.any fun (first, last) => first ≤ n && n ≤ last

end DealWatch
