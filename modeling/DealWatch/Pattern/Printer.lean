import DealWatch.Pattern.Basic

/-!
# Writing patterns

* `Pattern.canonical` is the text with every keyword in quotes and every compound in parentheses;
* `Pattern.labels` lists the parts of a pattern in postorder by their outermost signs.
-/

namespace DealWatch

namespace Pattern

/-- A pattern as text. -/
def asText : Reading String where
  keyword k := "\"" ++ k ++ "\""
  negation p := "!(" ++ p ++ ")"
  compound c l r := "(" ++ l ++ " " ++ c.symbol ++ " " ++ r ++ ")"

/-- The canonical text of a pattern. -/
def canonical (p : Pattern) : String := (asText.value? p).getD ""

/-- The outermost sign of a pattern; that of a keyword is the keyword itself. -/
inductive Label where
  | keyword (text : String)
  | negation
  | connective (c : Connective)
  deriving DecidableEq, Repr, Inhabited

/-- The outermost sign of a pattern. -/
def label : Pattern → Label
  | .keyword k => .keyword k
  | .negation _ => .negation
  | .compound c _ _ => .connective c

/-- The outermost signs of the parts of a pattern in postorder. -/
def labels (p : Pattern) : List Label := p.postorder.map label

/-- The patterns left on a stack by reading signs in postorder. -/
def build (stack : List Pattern) : Label → List Pattern
  | .keyword k => .keyword k :: stack
  | .negation =>
    match stack with
    | p :: rest => .negation p :: rest
    | [] => []
  | .connective c =>
    match stack with
    | r :: l :: rest => .compound c l r :: rest
    | _ => []

/-- The pattern whose parts have the given signs in postorder. -/
def ofLabels? (signs : List Label) : Option Pattern :=
  match signs.foldl build [] with
  | [p] => some p
  | _ => none

end Pattern

end DealWatch
