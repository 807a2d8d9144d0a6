import DealWatch.Rule.Set

/-!
# Files of rules

A file of rules is a list of definitions in JSON.

* `RuleSet.ofText` reads the text of a file, `RuleSet.ofBytes` its bytes.
-/

namespace DealWatch

namespace RuleSet

/-- The rule set that a text defines; `path` is the name of its file. -/
def ofText (path : String) (text : List Char) : Outcome RuleSet :=
  match Json.read text with
  | .error e =>
    .error (e.limit?.getD (.badRule (.fileInvalid path e text)))
  | .ok (.list definitions) =>
    match compile definitions with
    | .ok s => .ok s
    | .error e => .error (.badRule e)
  | .ok _ => .error (.badRule .notList)

/-- The rule set that the bytes of a file define. A file that is not there is an error of rules. -/
def ofBytes (path : String) : Option (List UInt8) → Outcome RuleSet
  | none => .error (.badRule (.fileMissing path))
  | some bytes =>
    match fileText? bytes with
    | some s => ofText path s.toList
    | none => .error .undecodable

end RuleSet

end DealWatch
