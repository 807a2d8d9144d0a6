import DealWatch.Json.Reader
import DealWatch.Pattern.Token

/-!
# What can be wrong with rules

* `RuleError` lists the causes, `RuleError.message` gives the words for them.
-/

namespace DealWatch

/-- What can be wrong with a rule or a file of rules. -/
inductive RuleError where
  /-- A definition is no dictionary. -/
  | notObject
  /-- Fields have values of the wrong type, or a bound is out of range. -/
  | wrongType (keys : List String)
  /-- A field holds no pattern. -/
  | badPattern (key : String) (cause : Pattern.SyntaxError)
  /-- A definition in a list, counted from one, is wrong. -/
  | atPosition (position : Nat) (cause : RuleError)
  | fileMissing (path : String)
  | fileInvalid (path : String) (cause : Json.Error) (text : List Char)
  /-- The document in a file is no list. -/
  | notList
  deriving DecidableEq, Repr, Inhabited

/-- The words for an error. -/
def RuleError.message : RuleError → String
  | .notObject => "not a json object"
  | .wrongType keys => "wrong type at key " ++ ", ".intercalate keys
  | .badPattern key cause => "failed to parse " ++ key ++ ": " ++ cause.message
  | .atPosition position cause => "rule #" ++ toString position ++ ": " ++ cause.message
  | .fileMissing path => "rule file not found: " ++ path
  | .fileInvalid path cause text =>
    "rule file " ++ path ++ " is not valid JSON: " ++ cause.message text
  | .notList => "JSON should be an array"

end DealWatch
