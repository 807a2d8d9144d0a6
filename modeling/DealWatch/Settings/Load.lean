import DealWatch.Rule.File
import DealWatch.Settings.Check
import DealWatch.Settings.Source
import DealWatch.Yaml.Value

/-!
# Reading settings

Settings are read from a file in YAML, in which references to environment variables are replaced,
and from the other sources of settings. What the file says counts.

* `Settings.ofDocument` are the settings of a document, `Settings.load` those of a file;
* `Settings.ruleSet` are the rules that settings name;
* `Settings.remember` keeps settings once they are read.
-/

namespace DealWatch

/-- The document in a file of YAML. A document without content is an empty dictionary. -/
def Files.readYaml (fs : Files) (p : Path) : Outcome Datum := do
  if fs.contains p then
    let d ← Yaml.read (← fs.readText p).toList
    return if d.truthy then d else .dict []
  else .error (.fileNotFound p.toText)

/-- The rules in a file. -/
def Files.readRules (fs : Files) (p : Path) : Outcome RuleSet :=
  if fs.contains p then do RuleSet.ofBytes p.toText (some (← fs.readBytes p))
  else if p.hasNul then .error .nullInPath
  else RuleSet.ofBytes p.toText none

namespace Settings

/-- Whether a key of a document is a text. -/
def isTextKey : Scalar → Bool
  | .text _ => true
  | .unpaired _ => true
  | _ => false

/-- A key that no document may have. -/
def reservedKey : String := "__pydantic_self__"

/-- Where relative paths and the home directory are. -/
def surroundings (env : Environment) (fs : Files) : Surroundings := ⟨env.home, fs.workingDirectory⟩

/-- The settings of a document, with those of the other sources where it has none. -/
def ofDocument (env : Environment) (fs : Files) (es : Entries) : Outcome Settings := do
  if !es.all fun (k, _) => isTextKey k then .error (.wrongKind "a key is no text")
  else if (Entries.get? es reservedKey).isSome then .error (.wrongKind "a key is reserved")
  else check (surroundings env fs) (← withSources env fs es)

/-- A file of rules as it is seen from the directory of the document that names it. -/
def locateRules (directory : Path) (es : Entries) : Outcome Entries :=
  let located (s : String) : Entries :=
    if s == "" || (Path.ofText s).isAbsolute then es
    else Entries.put (.text "rules_file") (.text (directory.join (.ofText s)).toText) es
  match Entries.get? es "rules_file" with
  | some (.text s) => .ok (located s)
  | some (.scalar (.unpaired t)) => .ok (located t.shown)
  | some d =>
    if d.truthy then .error (.wrongKind "the file of rules is no text")
    else .ok es
  | none => .ok es

/-- The settings of a value that a file holds, which must be a dictionary. -/
def ofFileValue (env : Environment) (fs : Files) (path : Path) (d : Datum) : Outcome Settings := do
  match ← d.expand env maxLevels with
  | .dict es => ofDocument env fs (← locateRules path.parent es)
  | _ => .error (.missingAttribute "the settings are no dictionary")

/-- The file that settings are read from unless another one is named. -/
def standardPath : Path := .ofText "config.yaml"

/-- The settings of a file; of environment variables alone if there is no such file. -/
def load (env : Environment) (fs : Files) (path : Path) : Outcome Settings := do
  if fs.contains path then ofFileValue env fs path (← fs.readYaml path)
  else ofDocument env fs []

/-- The rules that settings name: those of the file, then those of the settings themselves. -/
def ruleSet (fs : Files) (s : Settings) : Outcome RuleSet := do
  let first ← match s.rulesFile with
    | some p => fs.readRules p
    | none => pure .empty
  match RuleSet.compile (s.rules.map .dict) with
  | .ok more => return first ++ more
  | .error e => .error (.badRule e)

/-- The settings that were kept, unless there are none or they are to be read again; then they are
read, and kept if that succeeds. -/
def remember (kept : Option Settings) (reload : Bool) (read : Outcome Settings) :
    Outcome Settings × Option Settings :=
  match kept with
  | some s => if reload then (read, read.toOption.or kept) else (.ok s, kept)
  | none => (read, read.toOption)

end Settings

end DealWatch
