import DealWatch.Pattern.Basic

/-!
# The walk and structural recursion

The walk over an explicit list of tasks visits the parts of a pattern as structural recursion would,
and a `Reading` leaves on its stack what structural recursion computes.

* `Pattern.parts` and `Reading.eval` are the recursive counterparts of `Pattern.postorder` and
  `Reading.value?`;
* `Pattern.postorder_eq_parts` and `Reading.value?_eq` say that they agree.

Both are by induction on the pattern, for any tasks or any stack below.
-/

namespace DealWatch

namespace Pattern

/-- The parts of a pattern, the left ones before the right ones and both before the whole. -/
def parts : Pattern → List Pattern
  | .keyword k => [.keyword k]
  | .negation p => p.parts ++ [.negation p]
  | .compound c l r => l.parts ++ (r.parts ++ [.compound c l r])

/-- The keywords of a pattern from left to right. -/
def keywords : Pattern → List String
  | .keyword k => [k]
  | .negation p => p.keywords
  | .compound _ l r => l.keywords ++ r.keywords

theorem walk_visit (p : Pattern) (tasks : List Task) :
    walk (.visit p :: tasks) = p.parts ++ walk tasks := by
  induction p generalizing tasks with
  | keyword k => rw [walk, parts, List.singleton_append]
  | negation p ih =>
    rw [walk, ih, walk, parts, List.append_assoc, List.singleton_append]
  | compound c l r ihl ihr =>
    rw [walk, ihl, ihr, walk]
    simp only [parts, List.append_assoc, List.singleton_append]

theorem postorder_eq_parts (p : Pattern) : p.postorder = p.parts := by
  rw [postorder, walk_visit, walk, List.append_nil]

end Pattern

namespace Reading

variable {α : Type} (m : Reading α)

/-- The value of a pattern, from the values of its operands. -/
def eval : Pattern → α
  | .keyword k => m.keyword k
  | .negation p => m.negation (eval p)
  | .compound c l r => m.compound c (eval l) (eval r)

theorem foldlM_parts (p : Pattern) (stack : List α) :
    p.parts.foldlM m.step stack = some (m.eval p :: stack) := by
  induction p generalizing stack with
  | keyword k => rfl
  | negation p ih =>
    rw [Pattern.parts, List.foldlM_append, ih]
    rfl
  | compound c l r ihl ihr =>
    rw [Pattern.parts, List.foldlM_append, ihl, Option.bind_eq_bind, Option.bind_some,
      List.foldlM_append, ihr]
    rfl

theorem value?_eq (p : Pattern) : m.value? p = some (m.eval p) := by
  rw [value?, Pattern.postorder_eq_parts, run, foldlM_parts]

end Reading

end DealWatch
