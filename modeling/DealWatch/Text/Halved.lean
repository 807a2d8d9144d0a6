import DealWatch.Text.Quoted

/-!
# Texts with halves of surrogate pairs

With an escape a document can write half of a surrogate pair, which is no character. A text with
such a half can be kept, compared and shown, but not encoded.

* `CodePoint` is a character or half of a pair, and `HalvedText` a text with a half in it;
* `Text.ofPoints` is the text of some code points, whether it has halves or not;
* `HalvedText.fault` says where encoding a text fails, and `EncodingFault.message` says it in words.
-/

namespace DealWatch

/-- Half of a surrogate pair, counted from the first of them. -/
abbrev Half := Fin 0x800

/-- A part of a text: a character, or half of a surrogate pair. -/
inductive CodePoint where
  | char (c : Char)
  | half (h : Half)
  deriving DecidableEq, Repr, Inhabited

namespace CodePoint

/-- Whether a code point is no character. -/
def isHalf : CodePoint → Bool
  | .char _ => false
  | .half _ => true

/-- The code point with a number. -/
def ofNat (n : Nat) : CodePoint :=
  if h : 0xd800 ≤ n ∧ n < 0xe000 then .half ⟨n - 0xd800, by omega⟩ else .char (Char.ofNat n)

/-- A code point as a character, where another one stands in for half of a pair. -/
def filled (standIn : Char) : CodePoint → Char
  | .char c => c
  | .half _ => standIn

/-- Whether a code point stands for a byte that is no part of a text in UTF-8. Such a code point is
written as its byte where the system takes any bytes. -/
def isByte : CodePoint → Bool
  | .char _ => false
  | .half h => 0x480 ≤ h.val && h.val < 0x500

/-- A code point as it is written between quotes. -/
def quotedWith (quote : Char) : CodePoint → List Char
  | .char c => quotedChar quote c
  | .half h => '\\' :: 'u' :: hexPadded 4 (0xd800 + h.val)

end CodePoint

/-- The code points of a text without halves. -/
def pointsOf (s : String) : List CodePoint := s.toList.map .char

/-! ### Faults -/

/-- Why a text cannot be encoded: halves of pairs from a place on. -/
structure EncodingFault where
  position : Nat
  halves : List Half
  deriving DecidableEq, Repr, Inhabited

/-- The words for a fault. -/
def EncodingFault.message (f : EncodingFault) : String :=
  let place := match f.halves with
    | [h] => "character '\\u" ++ String.ofList (hexPadded 4 (0xd800 + h.val)) ++
      "' in position " ++ toString f.position
    | hs => "characters in position " ++ toString f.position ++ "-" ++
      toString (f.position + hs.length - 1)
  "'utf-8' codec can't encode " ++ place ++ ": surrogates not allowed"

/-- The halves that some code points start with. -/
def leadingHalves : List CodePoint → List Half
  | .half h :: rest => h :: leadingHalves rest
  | _ => []

/-- The fault from the first code point on that is refused. -/
def faultFrom (refused : CodePoint → Bool) (ps : List CodePoint) : EncodingFault :=
  let before := ps.takeWhile (!refused ·)
  ⟨before.length, leadingHalves (ps.drop before.length)⟩

/-! ### Texts -/

/-- A text with half of a surrogate pair. -/
structure HalvedText where
  points : List CodePoint
  isHalved : points.any CodePoint.isHalf = true
  deriving DecidableEq, Repr

instance : Inhabited HalvedText := ⟨⟨[.half 0], rfl⟩⟩

namespace HalvedText

/-- The text with a character in place of each half. -/
def filled (t : HalvedText) (standIn : Char) : String :=
  String.ofList (t.points.map (·.filled standIn))

/-- The text as far as it can be shown, with the replacement character for each half. -/
def shown (t : HalvedText) : String := t.filled '\ufffd'

/-- Why the text cannot be encoded. -/
def fault (t : HalvedText) : EncodingFault := faultFrom CodePoint.isHalf t.points

/-- The text between quotes. -/
def quoted (t : HalvedText) : String :=
  let quote := quoteFor t.shown.toList
  String.ofList (quote :: t.points.flatMap (CodePoint.quotedWith quote) ++ [quote])

end HalvedText

/-- A text, whole or with halves of pairs. -/
inductive Text where
  | whole (s : String)
  | halved (t : HalvedText)
  deriving DecidableEq, Repr, Inhabited

namespace Text

/-- The text of some code points. -/
def ofPoints (ps : List CodePoint) : Text :=
  if h : ps.any CodePoint.isHalf = true then .halved ⟨ps, h⟩
  else .whole (String.ofList (ps.map (·.filled '\ufffd')))

/-- The code points of a text. -/
def points : Text → List CodePoint
  | .whole s => pointsOf s
  | .halved t => t.points

end Text

/-- The name of the user whose home directory a path starts with, if there is a tilde in front. -/
def userIn (ps : List CodePoint) : List CodePoint :=
  match ps with
  | .char '~' :: rest => rest.takeWhile (· != .char '/')
  | _ => []

/-- Why code points cannot be handed to the system, if they cannot. -/
def systemFault? (ps : List CodePoint) : Option EncodingFault :=
  if ps.all fun p => !p.isHalf || p.isByte then none
  else some (faultFrom (fun p => p.isHalf && !p.isByte) ps)

end DealWatch
