import DealWatch.Rule.Definition

/-!
# Rule sets

A rule set is a list of rules. The first rule that accepts a listing and its title counts.

* `RuleSet.compile` makes a rule set of a list of definitions;
* `RuleSet.select` finds the first rule that accepts.
-/

namespace DealWatch

/-- Some rules in their order. -/
structure RuleSet where
  rules : List Rule
  deriving DecidableEq, Repr, Inhabited

namespace RuleSet

/-- No rules. -/
def empty : RuleSet := ⟨[]⟩

/-- The number of rules. -/
def size (s : RuleSet) : Nat := s.rules.length

/-- The rules of one set before those of another. -/
def append (s t : RuleSet) : RuleSet := ⟨s.rules ++ t.rules⟩

instance : Append RuleSet := ⟨append⟩

/-- The rules of definitions that are counted from a position on. -/
def compileFrom (position : Nat) : List Datum → Except RuleError (List Rule)
  | [] => .ok []
  | d :: ds =>
    match Rule.compile d with
    | .error e => .error (.atPosition position e)
    | .ok r => do
      let rs ← compileFrom (position + 1) ds
      return r :: rs

/-- The rule set of some definitions. -/
def compile (definitions : List Datum) : Except RuleError RuleSet := do
  let rules ← compileFrom 1 definitions
  return ⟨rules⟩

/-- The first of some rules that accepts a listing and its title. -/
def selectFrom (l : Listing) (t : ParsedTitle) : List Rule → Outcome (Option Rule)
  | [] => .ok none
  | r :: rs =>
    if r.acceptsListing l then do
      if ← r.acceptsTitle t then return some r else selectFrom l t rs
    else selectFrom l t rs

/-- The first rule that accepts a listing and its title. -/
def select (s : RuleSet) (l : Listing) (t : ParsedTitle) : Outcome (Option Rule) :=
  selectFrom l t s.rules

end RuleSet

end DealWatch
