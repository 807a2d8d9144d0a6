import DealWatch.Failure
import DealWatch.Path
import DealWatch.Store.Basic
import DealWatch.Text.Utf8

/-!
# Files

Files are known by their absolute paths. A file holds bytes; a database file holds a store, or
nothing before its tables are created.

* `Files.find?` is what stands at a path;
* `Files.makeFolder` makes a directory with those above it;
* `Files.writeText` writes a text;
* `Files.readText` reads a text.
-/

namespace DealWatch

/-- What stands at a path. -/
inductive Node where
  | file (bytes : List UInt8)
  | folder
  | database (tables : Option Store)
  deriving DecidableEq, Repr, Inhabited

/-- The files below a working directory. -/
structure Files where
  workingDirectory : Path
  nodes : List (Path × Node)
  deriving DecidableEq, Repr, Inhabited

namespace Files

/-- The absolute form of a path. -/
def locate (fs : Files) (p : Path) : Path := fs.workingDirectory.resolve p

/-- Whether one path is another one or leads to it. -/
def leadsTo (p q : Path) : Bool := p.root == q.root && p.names.isPrefixOf q.names

/-- What stands at a path. A directory above a file or above the working directory is there. -/
def find? (fs : Files) (p : Path) : Option Node :=
  if p.hasNul then none
  else
    let p := fs.locate p
    match fs.nodes.find? fun (q, _) => q == p with
    | some (_, node) => some node
    | none =>
      if leadsTo p fs.workingDirectory || fs.nodes.any fun (q, _) => leadsTo p q then some .folder
      else none

/-- Whether something stands at a path. -/
def contains (fs : Files) (p : Path) : Bool := (fs.find? p).isSome

/-- The files with a node set. -/
def put (fs : Files) (p : Path) (node : Node) : Files :=
  let p := fs.locate p
  { fs with nodes := (fs.nodes.filter fun (q, _) => q != p) ++ [(p, node)] }

/-- The files without what stands at a path. -/
def erase (fs : Files) (p : Path) : Files :=
  let p := fs.locate p
  { fs with nodes := fs.nodes.filter fun (q, _) => q != p }

/-- Whether a node is no directory. -/
def isLeaf : Option Node → Bool
  | some (.file _) => true
  | some (.database _) => true
  | _ => false

/-- Whether a file stands at a path. -/
def isFile (fs : Files) (p : Path) : Bool := isLeaf (fs.find? p)

/-- The names of the files in a directory. -/
def namesIn (fs : Files) (directory : Path) : List String :=
  let folder := fs.locate directory
  fs.nodes.filterMap fun (p, node) =>
    if p.parent == folder && p != folder && isLeaf (some node) then p.names.getLast? else none

/-- The files with a directory and those above it, none of which may be a file. -/
def makeFolder (fs : Files) (p : Path) : Outcome Files :=
  let q := fs.locate p
  if p.hasNul then .error .nullInPath
  else if fs.nodes.any fun (r, node) => isLeaf (some node) && r != q && leadsTo r q then
    .error (.notDirectory p.toText)
  else if isLeaf (fs.find? p) then .error (.fileInPlace p.toText)
  else if fs.contains p then .ok fs
  else .ok (fs.put p .folder)

/-- The bytes of a file. -/
def readBytes (fs : Files) (p : Path) : Outcome (List UInt8) :=
  match fs.find? p with
  | none => .error (if p.hasNul then .nullInPath else .fileNotFound p.toText)
  | some .folder => .error (.isDirectory p.toText)
  | some (.file bytes) => .ok bytes
  | some (.database _) => .error .undecodable

/-- The text of a file. -/
def readText (fs : Files) (p : Path) : Outcome String := do
  let bytes ← fs.readBytes p
  match fileText? bytes with
  | some s => return s
  | none => .error .undecodable

/-- The files with a text written to a path, which must not be a directory. -/
def writeText (fs : Files) (p : Path) (s : String) : Outcome Files :=
  match fs.find? p with
  | some .folder => .error (.isDirectory p.toText)
  | _ => if p.hasNul then .error .nullInPath else .ok (fs.put p (.file (utf8 s)))

end Files

end DealWatch
