import DealWatch.Data.Datum

/-!
# Entries of the journal

* `JournalEntry` is an entry, `Severity` says how much it matters;
* `Severity.rank` orders severities, `levelRank` is the rank of a level in the settings.
-/

namespace DealWatch

/-- How much an entry of the journal matters. -/
inductive Severity where
  | debug
  | info
  | warning
  | error
  /-- An error with the failure that caused it. -/
  | failure
  | critical
  deriving DecidableEq, Repr, Inhabited

/-- An entry of the journal. -/
structure JournalEntry where
  severity : Severity
  event : String
  fields : List (String × Datum)
  /-- The stage in which the entry was written. -/
  stage : Option String
  deriving Repr, Inhabited

/-- The rank of a severity. -/
def Severity.rank : Severity → Nat
  | .debug => 10
  | .info => 20
  | .warning => 30
  | .error => 40
  | .failure => 40
  | .critical => 50

/-- The name of the level of a severity. -/
def Severity.levelName : Severity → String
  | .debug => "debug"
  | .info => "info"
  | .warning => "warning"
  | .error => "error"
  | .failure => "error"
  | .critical => "critical"

/-- The rank of a level in the settings. -/
def levelRank : String → Nat
  | "DEBUG" => 10
  | "WARNING" => 30
  | "ERROR" => 40
  | "CRITICAL" => 50
  | _ => 20

end DealWatch
