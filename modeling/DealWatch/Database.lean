import DealWatch.Outside.Basic
import DealWatch.Settings.Load
import DealWatch.Store.Address

/-!
# The open store

At most one store is open. It is opened by its path, or by the path in the settings, and its file
is made when it is first used. Its tables are there only after they are created.

* `Database` says which store is open;
* `Database.openAt` opens one, `Database.close` closes it;
* `Database.create` makes the tables, `Database.reset` empties them;
* `Database.run` runs a step of the store.

The path is taken for an address, whose options may be written badly.
-/

namespace DealWatch

/-- The settings, once they are read, and the address of the open store. -/
structure Database where
  settings : Option Settings
  opened : Option Address
  deriving Repr, Inhabited

namespace Database

/-- No store. -/
def closed : Database := ⟨none, none⟩

/-- The path of a store that is kept only as long as it is open. -/
def volatile : Path := .ofText ":memory:"

/-- Whether a store with a name is kept only as long as it is open. -/
def isVolatile (name : String) : Bool := name == "" || name == ":memory:"

/-- The path of the file with a name. -/
def pathOf (name : String) : Path := if isVolatile name then volatile else .ofText name

/-- The file of the store at a path. -/
def fileOf (p : Path) : Path := pathOf (Address.ofText p.toText).fileName

/-- The settings of the standard file, which are read once. -/
def configured : Act Database Settings := do
  let d ← Act.state
  let o ← Act.outside
  let (s, kept) := Settings.remember d.settings false
    (Settings.load o.environment o.files Settings.standardPath)
  Act.put { d with settings := kept }
  Act.ofOutcome s

/-- The address of the open store. If none is open, the one at a path is opened, or the one that the
settings name. -/
def openAt (path : Option Path) : Act Database Address := do
  match (← Act.state).opened with
  | some a => return a
  | none =>
    let p ← match path with
      | some p => pure p
      | none => pure (← configured).store.path
    Act.putFiles (← Act.ofOutcome ((← Act.files).makeFolder p.parent))
    let a := Address.ofText p.toText
    Act.ofOutcome a.check
    Act.put { (← Act.state) with opened := some a }
    return a

/-- A store that cannot be opened. -/
def unavailable : Failure := .database "unable to open database file"

/-- The tables of the open store, if they are created. A file that is not there is made, in a
directory that must be there; one with at most one byte is an empty store. -/
def connect : Act Database (Path × Option Store) := do
  let name := (← openAt none).fileName
  let p := pathOf name
  let fs ← Act.files
  if p.hasNul then Act.fail .nullInPath
  match fs.find? p with
  | none =>
    if !isVolatile name && fs.find? (fs.locate p).parent != some .folder then Act.fail unavailable
    Act.putFiles (fs.put p (.database none))
    return (p, none)
  | some .folder => Act.fail unavailable
  | some (.file bytes) => if bytes.length ≤ 1 then return (p, none) else Act.fail .foreignFile
  | some (.database tables) => return (p, tables)

/-- Replaces the tables of the open store. -/
def putTables (p : Path) (s : Store) : Act Database Unit := do
  Act.putFiles ((← Act.files).put p (.database (some s)))

/-- Creates the tables, unless they are there. -/
def create : Act Database Unit := do
  let (p, tables) ← connect
  putTables p (tables.getD .empty)

/-- Creates the tables anew. -/
def reset : Act Database Unit := do
  let (p, _) ← connect
  putTables p .empty

/-- Closes the open store. -/
def close : Act Database Unit := do
  let d ← Act.state
  if d.opened.any (isVolatile ·.fileName) then Act.putFiles ((← Act.files).erase volatile)
  Act.put { d with opened := none }

/-- Runs a step of the store, whose tables must be there. What it wrote before it failed stays. -/
def run {α : Type} (act : Act Store α) : Act Database α := do
  let (p, tables) ← connect
  match tables with
  | none => Act.fail (.database "no such table")
  | some s =>
    let (result, s) ← Act.alone s (do
      let result ← Act.attempt act
      return (result, ← Act.state))
    putTables p s
    Act.ofOutcome result

end Database

end DealWatch
