import DealWatch.Text.Utf8

/-!
# Encodings of JSON texts

A text in JSON starts with ASCII characters, so its first four bytes show its encoding: UTF-8, with
or without a mark in front, or units of two or four bytes in either order.

* `Json.Encoding` is such an encoding, `Encoding.detect?` finds it out;
* `Encoding.decode?` reads bytes in an encoding.
-/

namespace DealWatch

namespace Json

/-- An encoding of a text. -/
inductive Encoding where
  | utf8
  /-- With a mark in front that is no part of the text. -/
  | markedUtf8
  | utf16 (highFirst : Bool)
  | utf32 (highFirst : Bool)
  deriving DecidableEq, Repr, Inhabited

namespace Encoding

/-- The encoding that the first bytes of a text show. -/
def detect? (bytes : List UInt8) : Option Encoding :=
  match bytes with
  | 0xef :: 0xbb :: 0xbf :: _ => some .markedUtf8
  | a :: b :: c :: d :: _ =>
    match a == 0, b == 0, c == 0, d == 0 with
    | false, false, false, false => some .utf8
    | true, false, true, false => some (.utf16 true)
    | false, true, false, true => some (.utf16 false)
    | true, true, true, false => some (.utf32 true)
    | false, true, true, true => some (.utf32 false)
    | _, _, _, _ => none
  | _ => none

/-- The number of two or four bytes. -/
def unit (highFirst : Bool) (bytes : List UInt8) : Nat :=
  (if highFirst then bytes else bytes.reverse).foldl (fun n b => 256 * n + b.toNat) 0

/-- The numbers of groups of two bytes; none if a byte is left over. -/
def pairs? (highFirst : Bool) : List UInt8 → Option (List Nat)
  | [] => some []
  | a :: b :: rest => (pairs? highFirst rest).map (unit highFirst [a, b] :: ·)
  | _ => none

/-- The numbers of groups of four bytes; none if bytes are left over. -/
def quads? (highFirst : Bool) : List UInt8 → Option (List Nat)
  | [] => some []
  | a :: b :: c :: d :: rest => (quads? highFirst rest).map (unit highFirst [a, b, c, d] :: ·)
  | _ => none

/-- The character with a number. -/
def char? (n : Nat) : Option Char := if n.isValidChar then some (Char.ofNat n) else none

/-- The characters that units of two bytes write, where two halves of a pair make one. -/
def joinUnits? : List Nat → Option (List Char)
  | [] => some []
  | [n] => (char? n).map ([·])
  | n :: m :: rest =>
    if 0xd800 ≤ n && n < 0xdc00 then
      if 0xdc00 ≤ m && m < 0xe000 then
        (joinUnits? rest).map (Char.ofNat (0x10000 + (n - 0xd800) * 0x400 + (m - 0xdc00)) :: ·)
      else none
    else do
      let c ← char? n
      let cs ← joinUnits? (m :: rest)
      return c :: cs

/-- The text that bytes write in an encoding. -/
def decode? (e : Encoding) (bytes : List UInt8) : Option (List Char) :=
  match e with
  | .utf8 => (ofUtf8? bytes).map String.toList
  | .markedUtf8 => (ofUtf8? (bytes.drop 3)).map String.toList
  | .utf16 highFirst => (pairs? highFirst bytes).bind joinUnits?
  | .utf32 highFirst => (quads? highFirst bytes).bind (·.mapM char?)

end Encoding

end Json

end DealWatch
