import DealWatch.Data.Merge
import DealWatch.Failure
import DealWatch.Json.Reader
import DealWatch.Settings.Expand
import DealWatch.Text.Lower
import DealWatch.Text.Split

/-!
# Settings in environment variables

The name of a variable is a fixed start and the name of a section, or of a section and a key with
two underscores between them, in letters of any case. A whole section is written in JSON. A document
may say under keys of its own that variables are named and read in another way.

* `VariableStyle` is the way in which variables are read, `VariableStyle.ofEntries` what a document
  says about it;
* `Settings.fromVariables` is the document that variables write.
-/

namespace DealWatch

/-- The way in which variables are read. -/
structure VariableStyle where
  /-- How the names of all variables start. -/
  start : String := "SALEWATCH_"
  /-- What stands between a section and a key; nothing if keys have no variables of their own. -/
  delimiter : String := "__"
  /-- The most places at which the part of a name behind a section is cut. -/
  cuts : Option Nat := none
  /-- Whether the case of letters counts in names. -/
  exactCase : Bool := false
  /-- Whether variables without a value count as absent. -/
  skipsEmpty : Bool := false
  /-- The value that stands for null. -/
  nullWord : Option String := none
  deriving DecidableEq, Repr, Inhabited

namespace VariableStyle

/-- The start of names that a value gives. A value without a length is of the wrong kind, and one
that is no text makes no names. -/
def startOf : Datum → Outcome String
  | .text s => .ok s
  | .scalar (.unpaired _) => .ok "\x00"
  | .scalar (.bytes _) => .error .badEnvironment
  | .scalar _ => .error (.wrongKind "the start of names has no length")
  | _ => .error .badEnvironment

/-- The number of cuts that a value gives, where one is counted for the section. -/
def cutsOf (d : Datum) : Outcome (Option Nat) :=
  if !d.truthy then .ok none
  else
    match d with
    | .int i => .ok (if 0 < i then some (i.toNat - 1) else none)
    | .flag _ => .ok (some 0)
    | .float _ => .ok none
    | _ => .error (.wrongKind "the number of cuts is no number")

/-- The value under a key, unless it is null. -/
def option? (es : Entries) (key : String) : Option Datum :=
  match Entries.get? es key with
  | some .null => none
  | d => d

/-- What a document says about variables. -/
def ofEntries (es : Entries) : Outcome VariableStyle := do
  let d : VariableStyle := {}
  let start ← match option? es "_env_prefix" with
    | some v => startOf v
    | none => pure d.start
  let cuts ← match option? es "_env_nested_max_split" with
    | some v => cutsOf v
    | none => pure d.cuts
  let delimiter := match option? es "_env_nested_delimiter" with
    | some (.text s) => s
    | some _ => ""
    | none => d.delimiter
  let isSet (key : String) := (option? es key).any Datum.truthy
  let nullWord := match option? es "_env_parse_none_str" with
    | some (.text s) => some s
    | _ => none
  return ⟨start, delimiter, cuts, isSet "_case_sensitive", isSet "_env_ignore_empty", nullWord⟩

/-- A name as it is compared. -/
def fold (style : VariableStyle) (name : String) : String :=
  if style.exactCase then name else lower name

/-- The name of the variable of a section. -/
def nameOf (style : VariableStyle) (key : String) : String := style.fold (style.start ++ key)

end VariableStyle

namespace Settings

/-- The sections with their keys. -/
def sections : List (String × List String) := [
  ("reddit", ["auth_host", "api_host", "token_file", "username", "password", "client_id",
    "client_secret", "user_agent", "wait_time_secs", "subreddit", "page_size",
    "timeout_seconds"]),
  ("discord", ["enabled", "webhook_url", "username", "sending_interval_secs"]),
  ("twilio", ["enabled", "api_url", "api_key", "api_key_secret", "account_sid",
    "phone_number_from", "phone_number_to"]),
  ("database", ["path"]),
  ("pipeline", ["channel_capacity"]),
  ("logging", ["level", "format", "file"])]

/-- The names of the variables of all sections and keys. -/
def variableNames (style : VariableStyle) : List String :=
  let behind := (sections.flatMap fun (key, keys) =>
    key :: keys.map fun name => key ++ style.delimiter ++ name) ++ ["rules_file", "rules"]
  behind.map (style.start ++ ·)

/-- The names of the sections and of what stands beside them. -/
def fieldNames : List String := sections.map (·.1) ++ ["rules_file", "rules"]

/-- Variables by their names as they are compared, where one may be without a value. -/
abbrev Variables := List (Scalar × Option Datum)

/-- The value of a variable that writes a text. -/
def writtenValue (style : VariableStyle) (value : String) : Datum :=
  if style.nullWord == some value then .null else .text value

/-- The variables that count. Of two with one name the last one counts. -/
def variablesOf (style : VariableStyle) (vars : List (Scalar × Option String)) : Variables :=
  vars.foldl (fun found (name, value) =>
    match name with
    | .text name =>
      if style.skipsEmpty && value == some "" then found
      else Entries.put (.text (style.fold name)) (value.map (writtenValue style)) found
    | _ => found) []

/-- The variables of an environment. -/
def ofEnvironment (env : Environment) : List (Scalar × Option String) :=
  env.map fun (name, value) => (.text name, some value)

/-- What stands before and after the first place of a text inside of another one. -/
def breakAt? (mark : List Char) : List Char → Option (List Char × List Char)
  | [] => none
  | c :: rest =>
    if mark.isPrefixOf (c :: rest) then some ([], (c :: rest).drop mark.length)
    else (breakAt? mark rest).map fun (before, after) => (c :: before, after)

/-- A text cut at the places of another one, of which a number at most counts. -/
def cutKeys (mark : List Char) : Nat → List Char → List (List Char)
  | 0, cs => [cs]
  | n + 1, cs =>
    match breakAt? mark cs with
    | some (before, after) => before :: cutKeys mark n after
    | none => [cs]

/-- The entries with a value under a path of keys. Nothing changes if a value that is no
dictionary stands on the path, or if a null comes to the place of a value with content. -/
def putPath (value : Datum) : List String → Entries → Entries
  | [], es => es
  | [key], es =>
    match value, Entries.get? es key with
    | .null, some (.dict []) => Entries.put (.text key) value es
    | .null, some _ => es
    | _, _ => Entries.put (.text key) value es
  | key :: keys, es =>
    match (Entries.get? es key).getD (.dict []) with
    | .dict inner => Entries.put (.text key) (.dict (putPath value keys inner)) es
    | _ => es

/-- The path of keys in the name of a variable that belongs to a section. -/
def pathIn? (style : VariableStyle) (key name : String) : Option (List String) :=
  let start := (style.nameOf key ++ style.delimiter).toList
  let cs := name.toList
  if style.delimiter != "" && start.isPrefixOf cs then
    let cs := cs.drop start.length
    some ((cutKeys style.delimiter.toList (style.cuts.getD cs.length) cs).map String.ofList)
  else none

/-- The entries of a section that single variables write. -/
def exploded (style : VariableStyle) (key : String) (vars : Variables) : Entries :=
  vars.foldl (fun es (name, value) =>
    match name with
    | .text name =>
      match pathIn? style key name with
      | some path => putPath (value.getD .null) path es
      | none => es
    | _ => es) []

/-- The value that the variable of a key is given. -/
def given? (style : VariableStyle) (vars : Variables) (key : String) : Option Datum :=
  (Entries.get? vars (style.nameOf key)).bind id

/-- The value of a variable that is written in JSON. -/
def decoded (s : String) : Outcome Datum :=
  match Json.read s.toList with
  | .ok d => .ok d
  | .error e => .error (if e.fault = .tooDeep then .endless else .badEnvironment)

/-- The value under a key that a whole section or list is written to. A null in JSON counts as
absent. -/
def valueOf (style : VariableStyle) (key : String) (vars : Variables) : Outcome (Option Datum) := do
  let parts := exploded style key vars
  match given? style vars key with
  | some (.text s) =>
    match ← decoded s with
    | .dict es => return some (.dict (Entries.merge es parts))
    | .null => return none
    | d => return some d
  | some d => return some d
  | none => return if parts.isEmpty then none else some (.dict parts)

/-- The name of the key that a text names in letters of any case; the text if there is none. -/
def knownKey (keys : List String) (name : Scalar) : Scalar :=
  match name with
  | .text s => .text ((keys.find? fun key => key == lower s).getD s)
  | k => k

/-- Some entries with more put over them by their keys in small letters. -/
def putKnown (keys : List String) (lowerEntries upper : Entries) : Entries :=
  upper.foldl (fun out (k, d) => Entries.put (knownKey keys k) d out) lowerEntries

/-- A section with its keys in small letters. -/
def withKnownKeys (keys : List String) : Datum → Datum
  | .dict es => .dict (putKnown keys [] es)
  | d => d

/-- The document of the sections that the variables write. -/
def sectionsOf (style : VariableStyle) (vars : Variables) :
    List (String × List String) → Outcome Entries
  | [] => .ok []
  | (key, keys) :: rest => do
    let value ← valueOf style key vars
    let others ← sectionsOf style vars rest
    let named := if style.exactCase then value else value.map (withKnownKeys keys)
    return (named.map fun d => (.text key, d)).toList ++ others

/-- The document that some variables write. -/
def fromVariables (style : VariableStyle) (given : List (Scalar × Option String)) :
    Outcome Entries := do
  let vars := variablesOf style given
  let es ← sectionsOf style vars sections
  let file := (given? style vars "rules_file").map fun d => (Scalar.text "rules_file", d)
  let rules ← valueOf style "rules" vars
  return es ++ file.toList ++ (rules.map fun d => (Scalar.text "rules", d)).toList

/-- The entries of a document under the names of their fields, which may be written in letters of
any case. Another spelling counts more than the name itself, and a later one more than those
before. -/
def withFieldNames (style : VariableStyle) (es : Entries) : Entries :=
  if style.exactCase then es
  else
    let isName : Scalar × Datum → Bool := fun (k, _) => fieldNames.any fun name => k == .text name
    putKnown fieldNames (es.filter isName) (es.filter fun e => !isName e)

end Settings

end DealWatch
