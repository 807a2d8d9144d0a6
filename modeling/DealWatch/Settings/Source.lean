import DealWatch.Outside.Files
import DealWatch.Settings.EnvFile
import DealWatch.Settings.Environment

/-!
# Where settings come from

Beside the document itself, settings come from environment variables, from files of such variables,
and from directories with a file for each section. The document may name the files and directories.

* `Settings.withSources` is a document with the settings of all sources; what stands earlier in this
  list counts.
-/

namespace DealWatch

namespace Settings

/-- A path with the home directory in place of a tilde. Other users are not known. -/
def userPath (home s : String) : Outcome Path :=
  let p := Path.ofText s
  match p.isAbsolute, p.names with
  | false, "~" :: _ => .ok (.ofText (Path.expandHome home p.toText))
  | false, name :: _ =>
    if name.toList.head? != some '~' then .ok p
    else if name.contains '\x00' then .error .nullInPath
    else .error .unknownUser
  | _, _ => .ok p

/-- The paths of a text with halves of surrogate pairs: there is no file with such a name. -/
def halvedPaths (t : HalvedText) : Outcome (List Path) :=
  match userIn t.points with
  | [] => .ok []
  | user =>
    match systemFault? user with
    | some fault => .error (.unencodable fault)
    | none => .error .unknownUser

/-- The paths that a value without parts names. -/
def pathsOfScalar (home : String) : Scalar → Outcome (List Path)
  | .text s => do return [← userPath home s]
  | .unpaired t => halvedPaths t
  | _ => .error (.wrongKind "a path is no text")

/-- The paths that an item of a value names. -/
def pathsOfItem (home : String) : Datum → Outcome (List Path)
  | .scalar s => pathsOfScalar home s
  | _ => .error (.wrongKind "a path is no text")

/-- The paths that a value names: a text is one, and each text of a list. -/
def pathsOf (home : String) (d : Datum) : Outcome (List Path) :=
  match d with
  | .scalar s => pathsOfScalar home s
  | .list items => do return (← items.mapM (pathsOfItem home)).flatten
  | .dict es => do return (← es.mapM fun e => pathsOfScalar home e.1).flatten
  | .set members => do return (← members.mapM (pathsOfScalar home)).flatten
  | .pair _ _ => .error (.wrongKind "no paths")

/-- The variables of the files that a document names. Those of a later file count. -/
def fileVariables (env : Environment) (fs : Files) (es : Entries) :
    Outcome (List (Scalar × Option String)) := do
  match VariableStyle.option? es "_env_file" with
  | none => return []
  | some d =>
    let paths := (← pathsOf env.home d).filter fs.isFile
    let found ← paths.mapM fun p => do return EnvFile.read env (← fs.readText p)
    return found.flatten.foldl (fun vars (name, value) => Entries.put name value vars) []

/-- The value of a key in some directories: the text of the file that is named like the variable of
the key. Those of a later directory count. -/
def secretOf (style : VariableStyle) (fs : Files) (directories : List Path) (key : String) :
    Outcome (Option String) := do
  let named (name : String) : Bool := style.fold name == style.nameOf key
  let found := directories.reverse.findSome? fun directory =>
    ((fs.namesIn directory).find? named).map fun name => directory.join (.ofText name)
  match found with
  | some p => return some (trim (← fs.readText p))
  | none => return none

/-- The variables in the directories that a document names. A directory that is not there has
none. -/
def secrets (style : VariableStyle) (env : Environment) (fs : Files) (es : Entries) :
    Outcome (List (Scalar × Option String)) := do
  match VariableStyle.option? es "_secrets_dir" with
  | none => return []
  | some d =>
    let directories := (← pathsOf env.home d).filter fs.contains
    if directories.any fs.isFile then throw .badEnvironment
    let found ← fieldNames.mapM fun key => do
      return (← secretOf style fs directories key).map fun s =>
        (Scalar.text (style.nameOf key), some s)
    return found.filterMap id

/-- The style in which the texts in directories are read: each is a whole value. -/
def secretStyle (style : VariableStyle) : VariableStyle :=
  { style with delimiter := "", skipsEmpty := false, nullWord := none }

/-- Whether the arguments that a document may hold for a command line are a list. None are read from
it. -/
def checkArguments (es : Entries) : Outcome Unit :=
  match VariableStyle.option? es "_cli_parse_args" with
  | none => .ok ()
  | some (.list _) | some (.flag _) | some (.int 0) => .ok ()
  | some (.float x) => if x.isZero then .ok () else .error .badEnvironment
  | some _ => .error .badEnvironment

/-- A document with the settings of all sources. -/
def withSources (env : Environment) (fs : Files) (es : Entries) : Outcome Entries := do
  let style ← VariableStyle.ofEntries es
  let inFiles ← fileVariables env fs es
  checkArguments es
  let first ← fromVariables style (ofEnvironment env)
  let second ← fromVariables style inFiles
  let third ← fromVariables (secretStyle style) (← secrets style env fs es)
  return Entries.merge third (Entries.merge second (Entries.merge first (withFieldNames style es)))

end Settings

end DealWatch
