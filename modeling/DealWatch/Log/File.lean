import DealWatch.Json.Printer
import DealWatch.Log.Entry
import DealWatch.Outside.Basic
import DealWatch.Settings.Basic

/-!
# The journal file

Every entry that matters enough is written as a line of JSON. The libraries that note every request
and every tick are kept quiet unless the lowest level is asked for.

* `LogThresholds` are the least ranks that are written, for the program and for those libraries;
* `Log.checkFields` says whether an entry can have some fields, `Log.line` is an entry as a line;
* `Log.prepare` makes the file, `Log.append` writes an entry, `Log.writeJournal` all of them.
-/

namespace DealWatch

/-- The least ranks that are written. -/
structure LogThresholds where
  program : Nat
  libraries : Nat
  deriving DecidableEq, Repr, Inhabited

namespace Log

/-- The libraries that are kept quiet. -/
def quietLibraries : List String := ["apscheduler", "urllib3"]

/-- The least ranks for a level. -/
def thresholds (level : String) : LogThresholds :=
  let rank := levelRank level
  ⟨rank, if rank ≤ Severity.debug.rank then rank else max rank Severity.warning.rank⟩

/-- Whether a logger belongs to a library. -/
def belongsTo (logger library : String) : Bool :=
  logger == library || (library ++ ".").toList.isPrefixOf logger.toList

/-- Whether an entry of a logger is written. -/
def isWritten (t : LogThresholds) (logger : String) (severity : Severity) : Bool :=
  let own := if quietLibraries.any (belongsTo logger) then t.libraries else t.program
  max own t.program ≤ severity.rank

/-! ### Fields -/

/-- The names of what an entry is made from, which no field can have. -/
def reservedNames : List String := ["self", "event", "method_name"]

/-- The name of the field with values for an event. -/
def valuesName : String := "positional_args"

/-- Whether the values for an event are a list, or a dictionary with more than one entry. -/
def checkValues : Datum → Outcome Unit
  | .list _ => .ok ()
  | .dict [_] => .error (.missingKey "0")
  | .dict _ => .ok ()
  | d => if d.truthy then .error (.wrongKind "not all values are used") else .ok ()

/-- Whether an entry can be made from some fields. -/
def checkFields (fields : List (String × Datum)) : Outcome Unit := do
  if fields.any fun (k, _) => reservedNames.contains k then
    throw (.wrongKind "a field has a reserved name")
  match fields.lookup "_record" with
  | none | some .null => pure ()
  | some _ => throw (.missingAttribute "a record has no name")
  checkValues ((fields.lookup valuesName).getD .null)

/-- The names of the fields for the cause of an entry. -/
def causeNames : List String := ["exc_info", "stack_info"]

/-- Whether a field is written. Causes and values for an event are not. -/
def isShown : String × Datum → Bool
  | (k, .null) => !causeNames.contains k
  | (k, _) => !causeNames.contains k && k != valuesName

/-- The name of the logger for a text; without a text it is the one above all others. -/
def loggerName (logger : String) : String := if logger == "" then "root" else logger

/-- The fields of a line, of which the later ones count. -/
def lineFields (logger : String) (now : Int) (e : JournalEntry) : List (String × Datum) :=
  (e.stage.map fun s => ("stage", Datum.text s)).toList ++ e.fields.filter isShown ++
    [("event", .text e.event), ("level", .text e.severity.levelName),
      ("logger", .text (loggerName logger)),
      ("timestamp", .text (Timestamp.compactText ⟨now, some 0⟩))]

/-- An entry as a line. -/
def line (logger : String) (now : Int) (e : JournalEntry) : String :=
  Json.write Json.spaced (.dict ((lineFields logger now e).foldl
    (fun es (k, d) => Entries.put (.text k) d es) []))

variable {σ : Type}

/-- Makes the journal file, if one is named. -/
def prepare (s : LogSettings) : Act σ Unit := do
  match s.file with
  | none => return
  | some p =>
    let fs ← Act.ofOutcome ((← Act.files).makeFolder p.parent)
    match fs.find? p with
    | none => if p.hasNul then Act.fail .nullInPath else Act.putFiles (fs.put p (.file []))
    | some .folder => Act.fail (.isDirectory p.toText)
    | some _ => Act.putFiles fs

/-- Writes an entry to the journal file, if one is named and the entry matters enough. Its fields
must be good in any case. -/
def append (s : LogSettings) (logger : String) (e : JournalEntry) : Act σ Unit := do
  Act.ofOutcome (checkFields e.fields)
  match s.file with
  | none => return
  | some p =>
    if isWritten (thresholds s.level) logger e.severity then
      let fs ← Act.files
      let old := match fs.find? p with
        | some (.file bytes) => bytes
        | _ => []
      Act.putFiles (fs.put p (.file (old ++ utf8 (line logger (← Act.now) e ++ "\n"))))

/-- The name under which the program writes its own entries. -/
def programName : String := "salewatch"

/-- Writes all entries of the journal to the journal file. -/
def writeJournal (s : LogSettings) : Act σ Unit := do
  for e in (← Act.outside).journal do append s programName e

end Log

end DealWatch
