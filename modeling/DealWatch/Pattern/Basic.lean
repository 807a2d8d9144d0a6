/-!
# Patterns

A pattern is a keyword, the negation of a pattern, or two patterns joined by a connective.

* `Pattern.postorder` lists the parts of a pattern, each after its own parts, by a walk over an
  explicit list of tasks, so that its depth is not limited;
* `Reading` says how to read a pattern as a value, and `Reading.run` computes that value from such
  a list with a stack.
-/

namespace DealWatch

/-- How two patterns are joined. -/
inductive Connective where
  /-- Both sides must hold. -/
  | both
  /-- One of the sides must hold. -/
  | either
  deriving DecidableEq, Repr, Inhabited

/-- How a connective is written. -/
def Connective.symbol : Connective → String
  | .both => "&&"
  | .either => "||"

/-- A pattern. -/
inductive Pattern where
  | keyword (text : String)
  | negation (operand : Pattern)
  | compound (connective : Connective) (left right : Pattern)
  deriving DecidableEq, Repr, Inhabited

namespace Pattern

/-- Whether the outermost part is a negation. -/
def isNegation : Pattern → Bool
  | .negation _ => true
  | _ => false

/-- The number of parts. -/
def size : Pattern → Nat
  | .keyword _ => 1
  | .negation p => p.size + 1
  | .compound _ l r => l.size + r.size + 1

/-! ### The walk -/

/-- A task of the walk: to visit a pattern, or to list one whose parts are listed already. -/
inductive Task where
  | visit (p : Pattern)
  | list (p : Pattern)

/-- The steps that a task takes. -/
def Task.cost : Task → Nat
  | .visit p => 2 * p.size
  | .list _ => 1

/-- The steps that some tasks take. -/
def Task.total : List Task → Nat
  | [] => 0
  | t :: tasks => t.cost + total tasks

/-- The patterns that some tasks list, the first task first. -/
def walk : List Task → List Pattern
  | [] => []
  | .list p :: tasks => p :: walk tasks
  | .visit (.keyword k) :: tasks => .keyword k :: walk tasks
  | .visit (.negation p) :: tasks => walk (.visit p :: .list (.negation p) :: tasks)
  | .visit (.compound c l r) :: tasks =>
    walk (.visit l :: .visit r :: .list (.compound c l r) :: tasks)
termination_by tasks => Task.total tasks
decreasing_by
  all_goals simp only [Task.total, Task.cost, size]
  all_goals omega

/-- The parts of a pattern, the left ones before the right ones and both before the whole. -/
def postorder (p : Pattern) : List Pattern := walk [.visit p]

end Pattern

/-- How patterns are read as values of a type. -/
structure Reading (α : Type) where
  keyword : String → α
  negation : α → α
  compound : Connective → α → α → α

namespace Reading

variable {α : Type} (m : Reading α)

/-- Replaces the values of the parts of a pattern on top of a stack by its own value. -/
def step (stack : List α) : Pattern → Option (List α)
  | .keyword k => some (m.keyword k :: stack)
  | .negation _ =>
    match stack with
    | x :: rest => some (m.negation x :: rest)
    | [] => none
  | .compound c _ _ =>
    match stack with
    | y :: x :: rest => some (m.compound c x y :: rest)
    | _ => none

/-- The value that a list of patterns leaves on an empty stack, if it is the only one. -/
def run (parts : List Pattern) : Option α :=
  match parts.foldlM m.step [] with
  | some [x] => some x
  | _ => none

/-- The value of a pattern. -/
def value? (p : Pattern) : Option α := m.run p.postorder

end Reading

end DealWatch
