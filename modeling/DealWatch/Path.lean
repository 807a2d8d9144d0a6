import DealWatch.Text.Split

/-!
# Names of files

A path is a text of names with slashes between them. Empty names and single points in it mean
nothing. Two slashes at the start, and no more, are kept apart from one.

* `Path.ofText` is the normal form of a path;
* `Path.join` puts one path behind another, `Path.parent` leaves the last name out;
* `Path.resolve` makes a path absolute, and `Path.expandHome` replaces a tilde at its start.
-/

namespace DealWatch

/-- A path in normal form: the slashes at its start and its names. -/
structure Path where
  root : String
  names : List String
  deriving DecidableEq, Repr, Inhabited

namespace Path

/-- The number of slashes at the start that count. -/
def rootOf (cs : List Char) : String :=
  match cs with
  | '/' :: '/' :: '/' :: _ => "/"
  | '/' :: '/' :: _ => "//"
  | '/' :: _ => "/"
  | _ => ""

/-- The normal form of a path. -/
def ofText (s : String) : Path :=
  let cs := s.toList
  let names := (splitAt '/' cs).filter fun name => !name.isEmpty && name != ['.']
  ⟨rootOf cs, names.map String.ofList⟩

/-- A path as text; the path without names is a single point. -/
def toText (p : Path) : String :=
  if p.root == "" && p.names.isEmpty then "." else p.root ++ "/".intercalate p.names

/-- Whether a path holds the character NUL, which no path of a file does. -/
def hasNul (p : Path) : Bool := p.names.any (·.contains '\x00')

/-- Whether a path starts at the root. -/
def isAbsolute (p : Path) : Bool := p.root != ""

/-- A path behind another one; an absolute path stands for itself. -/
def join (p q : Path) : Path := if q.isAbsolute then q else ⟨p.root, p.names ++ q.names⟩

/-- The path without its last name. -/
def parent (p : Path) : Path := { p with names := p.names.dropLast }

/-- The names of a path with those before a double point left out. -/
def withoutDouble (names : List String) : List String :=
  names.foldl (fun kept name => if name == ".." then kept.dropLast else kept ++ [name]) []

/-- A path as seen from a directory, without double points. -/
def resolve (directory p : Path) : Path :=
  let q := directory.join p
  ⟨if q.root == "" then "" else "/", withoutDouble q.names⟩

/-- A text without the slashes at its end. -/
def stripSlashes (s : String) : String :=
  String.ofList (s.toList.reverse.dropWhile (· == '/')).reverse

/-- The text of a path with the home directory in place of a tilde at its start. -/
def expandHome (home s : String) : String :=
  match s.toList with
  | ['~'] => if stripSlashes home == "" then "/" else stripSlashes home
  | '~' :: '/' :: rest => stripSlashes home ++ "/" ++ String.ofList rest
  | _ => s

end Path

end DealWatch
