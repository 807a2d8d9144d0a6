import DealWatch.Pattern.Basic
import DealWatch.Text.Lower

/-!
# Matching texts

A keyword holds of a text that contains it, whatever the case of the letters.

* `Pattern.holds` says whether a pattern holds of a text;
* `Pattern.holdsOptional` says so of a text that may be missing.
-/

namespace DealWatch

/-- Whether a list of characters occurs in another one. -/
def occursIn (needle : List Char) : List Char → Bool
  | [] => needle.isEmpty
  | c :: rest => needle.isPrefixOf (c :: rest) || occursIn needle rest

/-- The truth of a connective. -/
def Connective.combine : Connective → Bool → Bool → Bool
  | .both, x, y => x && y
  | .either, x, y => x || y

namespace Pattern

/-- A pattern as a statement on a text in small letters. -/
def asStatement (text : List Char) : Reading Bool where
  keyword k := occursIn (lower k).toList text
  negation x := !x
  compound := Connective.combine

/-- Whether a pattern holds of a text. -/
def holds (p : Pattern) (text : String) : Bool :=
  ((asStatement (lower text).toList).value? p).getD false

/-- Whether a pattern holds of a text that may be missing: of a missing text only a negation
holds. -/
def holdsOptional (p : Pattern) : Option String → Bool
  | some text => p.holds text
  | none => p.isNegation

end Pattern

end DealWatch
