/-!
# Words

Integers that are stored or written in eight bytes are signed words of 64 bits.

* `isWord` says which integers are words.
-/

namespace DealWatch

/-- The least integer above all words. -/
def wordLimit : Int := 9223372036854775808

/-- Whether an integer is a signed word of 64 bits. -/
def isWord (i : Int) : Bool := -wordLimit ≤ i && i < wordLimit

end DealWatch
