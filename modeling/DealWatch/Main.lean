import DealWatch.Cli.Perform
import DealWatch.Store.Document

/-!
# The program

The program takes the words of the command line, the environment variables and the files that the
settings name, runs the command on them, and puts what came of it on the screen and into the files.
Requests leave the program only through the pages and replies that it is given; here there are
none, so every request fails to connect.
-/

namespace DealWatch

/-- The bytes of a file as they are kept. -/
def nodeOfBytes (isStore : Bool) (bytes : ByteArray) : Node :=
  let plain := Node.file bytes.toList
  if isStore then
    match (String.fromUTF8? bytes).bind Store.ofFileText? with
    | some tables => .database tables
    | none => plain
  else plain

/-- The bytes that a node is written as. -/
def bytesOfNode : Node → Option ByteArray
  | .file bytes => some bytes.toByteArray
  | .database tables => some (Store.fileText tables).toUTF8
  | .folder => none

/-- Takes over what stands at a path and at the paths above it. -/
def visit (isStore : Bool) (fs : Files) (p : Path) : IO Files := do
  let p := fs.locate p
  let here ← IO.currentDir
  let mut found := fs
  for count in List.range (p.names.length + 1) do
    let q : Path := { p with names := p.names.take count }
    unless (found.nodes.lookup q).isSome do
      match ← (IO.FS.readBinFile q.toText).toBaseIO with
      | .ok bytes => found := found.put q (nodeOfBytes (isStore && q == p) bytes)
      | .error _ =>
        if ← (here / q.toText).isDir then found := found.put q .folder
  return found

/-- Writes what has changed. -/
def writeBack (before after : Files) : IO Unit := do
  for (p, node) in after.nodes do
    if before.nodes.lookup p != some node && p.names.getLast? != some ":memory:" then
      match bytesOfNode node with
      | none => IO.FS.createDirAll p.toText
      | some bytes =>
        IO.FS.createDirAll p.parent.toText
        IO.FS.writeBinFile p.toText bytes

/-- The microseconds since the start of 1970. -/
def wallClock : IO Int :=
  IO.FS.withTempFile fun _ path => do
    let t := (← path.metadata).modified
    return t.sec * microsPerSecond + t.nsec.toNat / 1000

/-- The variables with some names that are set. -/
def readVariables (names : List String) : IO Environment := do
  let mut env : Environment := []
  for name in names do
    if let some value ← IO.getEnv name then env := env ++ [(name, value)]
  return env

/-- The reply to a message that does not reach anybody. -/
def unreachable : Outcome Reply := .error (.transport .connection "no connection")

/-- The entries of the document of the settings. -/
def documentEntries (env : Environment) (fs : Files) (config : Path) : Entries :=
  match fs.readYaml config >>= Datum.expand env Settings.maxLevels with
  | .ok (.dict es) => es
  | _ => []

/-- Takes over what stands at a path and, if it is a directory, the files in it. -/
def visitBelow (fs : Files) (p : Path) : IO Files := do
  let mut found ← visit false fs p
  let folder := (← IO.currentDir) / p.toText
  if ← folder.isDir then
    for entry in ← folder.readDir do
      found ← visit false found (p.join (.ofText entry.fileName))
  return found

/-- Takes over the files and directories that a document names as sources of settings. -/
def visitSources (env : Environment) (fs : Files) (es : Entries) : IO Files := do
  let mut found := fs
  for key in ["_env_file", "_secrets_dir"] do
    if let some d := VariableStyle.option? es key then
      if let .ok paths := Settings.pathsOf env.home d then
        for p in paths do found ← visitBelow found p
  return found

/-- The names of the variables that the files of variables refer to. -/
def namesInFiles (env : Environment) (fs : Files) (es : Entries) : List String :=
  let part : EnvFile.Part → Option String := fun
    | .literal _ => none
    | .reference name _ => some (String.ofList name)
  let paths := match (VariableStyle.option? es "_env_file").map (Settings.pathsOf env.home) with
    | some (.ok paths) => paths
    | _ => []
  paths.flatMap fun p =>
    match fs.readText p with
    | .ok s => (EnvFile.lines s).flatMap fun (_, value) =>
      (EnvFile.partsOf (value.getD "").toList).filterMap part
    | .error _ => []

/-- The variables that can set something, and those that the text of the settings or a file of
variables refers to, with the files that the settings name as their sources. Names are looked up
in small, in capital and in the letters of the start that the settings name. -/
def settingVariables (fs : Files) (config : Path) : IO (Environment × Files) := do
  let named := match fs.readText config with
    | .ok s => referenceNames s
    | .error _ => []
  let first ← readVariables ("HOME" :: named)
  let es := documentEntries first fs config
  let fs ← visitSources first fs es
  let style := match VariableStyle.ofEntries es with
    | .ok style => style
    | .error _ => {}
  let names := Settings.variableNames style
  let spellings := names.flatMap (fun name => [name, name.toLower, name.toUpper]) ++
    namesInFiles first fs es
  let more ← readVariables
    (spellings.eraseDups.filter fun name => !first.any (·.1 == name))
  return (first ++ more, fs)

/-- What is outside before a command that reads its settings from a path. -/
def gather (config : Path) : IO Outside := do
  let here := Path.ofText (← IO.currentDir).toString
  let (env, files) ← settingVariables (← visit false ⟨here, []⟩ config) config
  let mut fs := files
  if let .ok s := Settings.load env fs config then
    for p in s.rulesFile.toList ++ s.log.file.toList ++ [s.feed.tokenFile] do
      fs ← visit false fs p
    fs ← visit true fs (Database.fileOf s.store.path)
    fs ← visit false fs s.store.path
  return { now := ← wallClock, environment := env, files := fs, replies := []
           webhookReplies := List.replicate 64 unreachable, requests := [], messages := []
           journal := [], stage := none }

/-- The settings of the journal. -/
def logSettings (config : Path) (o : Outside) : LogSettings :=
  match Settings.load o.environment o.files config with
  | .ok s => s.log
  | .error _ => {}

/-- Shows the journal and writes it to its file. -/
def keepJournal (config : Path) (o : Outside) : IO Outside := do
  let s := logSettings config o
  for e in o.journal do
    if Log.isWritten (Log.thresholds s.level) Log.programName e.severity then
      IO.println (Log.line Log.programName o.now e)
  let (_, _, o) := (Log.writeJournal s : Act Unit Unit).runWith () o
  return { o with journal := [] }

/-- Shows what a command printed. -/
def showPrinted (s : Session) : IO Unit := do
  for p in s.printed do
    for line in p.lines do IO.println line

/-- The milliseconds until the end of the wait between two polls. -/
def untilWake (p : Pipeline) : Option Nat :=
  p.ingestion.sleepingFor.map fun seconds => ((microsOfSeconds? seconds).getD 0 / 1000).toNat

/-- Keeps the journal, the store and the other files of a pipeline that is running. -/
def keep (config : Path) (before : Files) (p : Pipeline) (o : Outside) : IO Outside := do
  let o ← keepJournal config { o with requests := [], messages := [] }
  writeBack before
    (o.files.put (Database.fileOf p.settings.store.path) (.database (some p.store)))
  (← IO.getStdout).flush
  return o

/-- Lets ticks and polls happen until the pipeline ends. The clock of a poll is the one before the
wait, since the wait moves it. -/
partial def watch (config : Path) (before : Files) (p : Pipeline) (o : Outside) (nextTick : Nat)
    (nextWake : Option Nat) : IO (Pipeline × Outside × Option Failure) := do
  let isWake := match nextWake with
    | some t => decide (t < nextTick)
    | none => false
  let due := if isWake then nextWake.getD nextTick else nextTick
  let now ← IO.monoMsNow
  if now < due then IO.sleep (due - now).toUInt32
  let waited := if isWake then
    ((p.ingestion.sleepingFor.bind microsOfSeconds?).getD 0) else 0
  let o := { o with now := (← wallClock) - waited, webhookReplies := List.replicate 64 unreachable }
  let (r, p, o) := (Pipeline.happen (if isWake then .wake else .tick)).runWith p o
  let o ← keep config before p o
  let now ← IO.monoMsNow
  let interval := p.settings.webhook.interval.toNat * 1000
  let nextWake := if isWake then (untilWake p).map (now + ·) else nextWake
  match r with
  | .error f => return (p, o, some f)
  | .ok () =>
    if p.ended.isSome then return (p, o, p.ended)
    else watch config before p o (if isWake then nextTick else nextTick + interval) nextWake

/-- Watches the source. -/
def runWatch (config : Path) (before : Files) (o : Outside) : IO UInt32 := do
  let (r, s, o) := (Watching.start config).runWith Session.start o
  showPrinted s
  let o ← keepJournal config o
  match r with
  | .ok (.ok p) =>
    let (r, p, o) := Pipeline.start.runWith p o
    let o ← keep config before p o
    let now ← IO.monoMsNow
    let (p, o, ended) ← match r with
      | .error f => pure (p, o, some f)
      | .ok () =>
        if p.ended.isSome then pure (p, o, p.ended)
        else watch config before p o now ((untilWake p).map (now + ·))
    let (r, s, o) := (Watching.finish p ended).runWith { s with printed := [] } o
    showPrinted s
    writeBack before o.files
    return if let .ok (.ok ()) := r then 0 else 1
  | .ok (.error status) => return status.toUInt32
  | .error f =>
    IO.eprintln (f.name ++ ": " ++ f.message)
    return 1

/-- Runs what the command line asks for. -/
def runCommandLine (c : CommandLine) : IO UInt32 := do
  let config := match c with
    | .command config _ => config
    | _ => Settings.standardPath
  let o ← gather config
  match c with
  | .command config .watch => runWatch config o.files o
  | c =>
    let (r, s, after) := (c.perform []).runWith Session.start o
    showPrinted s
    let after ← keepJournal config after
    writeBack o.files after.files
    match r with
    | .ok (.ok ()) => return 0
    | .ok (.error status) => return status.toUInt32
    | .error f =>
      IO.eprintln (f.name ++ ": " ++ f.message)
      return 1

end DealWatch

/-- Runs the program on the words of the command line. -/
def main (words : List String) : IO UInt32 :=
  DealWatch.runCommandLine (DealWatch.CommandLine.read words)
