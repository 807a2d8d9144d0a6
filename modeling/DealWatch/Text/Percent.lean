import DealWatch.Text.Hexadecimal
import DealWatch.Text.Utf8

/-!
# Percent escapes

A byte can be written as two hexadecimal digits after a percent sign.

* `percentDecoded` is a text with the characters that such bytes write.
-/

namespace DealWatch

/-- The bytes of a text in ASCII in which bytes are escaped. -/
def percentBytes : List Char → List UInt8
  | '%' :: a :: b :: rest =>
    match hexValue? a, hexValue? b with
    | some x, some y => UInt8.ofNat (16 * x + y) :: percentBytes rest
    | _, _ => 37 :: percentBytes (a :: b :: rest)
  | c :: rest => UInt8.ofNat c.toNat :: percentBytes rest
  | [] => []

/-- Whether a character is one of ASCII. -/
def isAscii (c : Char) : Bool := c.toNat < 128

/-- A text with the characters that escaped bytes write. The bytes of a character must stand
together. -/
def percentDecoded (s : String) : String :=
  let decoded (run : List Char) : List Char :=
    if run.all isAscii then (readUtf8 (percentBytes run)).toList else run
  String.ofList ((s.toList.splitBy fun a b => isAscii a == isAscii b).flatMap decoded)

end DealWatch
