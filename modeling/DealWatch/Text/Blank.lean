import DealWatch.Text.Ranges

/-!
# Blank characters and trimming

* `isSpace` holds of the characters of Unicode's property `White_Space`;
* `isBlank` adds the four information separators, U+001C to U+001F;
* `trimBy` takes the characters of a class away from both ends, `trim` the blank ones.
-/

namespace DealWatch

/-- The code points with the property `White_Space`. -/
def spaceRanges : Ranges := [
  (0x9, 0xd), (0x20, 0x20), (0x85, 0x85), (0xa0, 0xa0), (0x1680, 0x1680), (0x2000, 0x200a),
  (0x2028, 0x2029), (0x202f, 0x202f), (0x205f, 0x205f), (0x3000, 0x3000)]

/-- Whether a character is white space. -/
def isSpace (c : Char) : Bool := spaceRanges.contains c.toNat

/-- Whether a character is white space or one of the information separators. -/
def isBlank (c : Char) : Bool := isSpace c || (0x1c ≤ c.toNat && c.toNat ≤ 0x1f)

/-- The characters from the first to the last one outside a class. -/
def trimBy (p : Char → Bool) (cs : List Char) : List Char :=
  ((cs.dropWhile p).reverse.dropWhile p).reverse

/-- A text without the blank characters at its ends. -/
def trim (s : String) : String := String.ofList (trimBy isBlank s.toList)

end DealWatch
