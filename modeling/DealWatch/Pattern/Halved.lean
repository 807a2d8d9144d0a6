import DealWatch.Pattern.Match
import DealWatch.Pattern.Parser
import DealWatch.Text.Halved

/-!
# Patterns in texts with halves of surrogate pairs

Half of a pair may stand in a keyword with quotes and nowhere else. To tell which keywords have
halves, the text is read twice, with two characters in their place that may stand there and nowhere
else either: the keywords that come out different have them. They hold of no text without halves.

* `Halving` is what is known of the halves of a pattern, `Halving.of` finds it out;
* `Pattern.holdsAlike` leaves out the keywords in which two patterns differ.
-/

namespace DealWatch

namespace Pattern

/-- The keyword that a pattern is. -/
def keyword? : Pattern → Option String
  | .keyword k => some k
  | _ => none

/-- The number of characters that two texts have in common at their start. -/
def commonLength : List Char → List Char → Nat
  | c :: cs, d :: ds => if c = d then commonLength cs ds + 1 else 0
  | _, _ => 0

/-- The place at which the first two texts that differ do so. -/
def placeOfDifference : List (String × String) → Nat
  | [] => 0
  | (k, l) :: rest =>
    if k = l then placeOfDifference rest else commonLength k.toList l.toList

/-- Whether a pattern holds of a text in small letters, where a keyword holds only if it stands in
the same place of another pattern. -/
def holdsAlike (text : List Char) : Pattern → Pattern → Bool
  | .keyword k, .keyword l => k == l && occursIn (lower k).toList text
  | .negation p, .negation q => !holdsAlike text p q
  | .compound c p p', .compound _ q q' =>
    c.combine (holdsAlike text p q) (holdsAlike text p' q')
  | _, _ => false

end Pattern

/-- What is known of the halves of surrogate pairs in a pattern: the pattern as it is read with
another character in their place, and why the first keyword with halves cannot be encoded. -/
structure Halving where
  twin : Pattern
  fault : EncodingFault
  deriving DecidableEq, Repr, Inhabited

namespace Halving

/-- What is known of the halves in the text of a pattern. -/
def of (p : Pattern) (text : HalvedText) : Halving :=
  let twin := match Pattern.parse (text.filled '\ufffc') with
    | .ok q => q
    | .error _ => p
  let keywords (p : Pattern) := p.postorder.filterMap Pattern.keyword?
  ⟨twin, ⟨Pattern.placeOfDifference ((keywords p).zip (keywords twin)), text.fault.halves⟩⟩

/-- Whether a pattern holds of a text. -/
def holds (h : Halving) (p : Pattern) (text : String) : Bool :=
  p.holdsAlike (lower text).toList h.twin

/-- Whether a pattern holds of a text that may be missing. -/
def holdsOptional (h : Halving) (p : Pattern) : Option String → Bool
  | some text => h.holds p text
  | none => p.isNegation

end Halving

end DealWatch
