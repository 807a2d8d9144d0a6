import DealWatch.Failure

/-!
# References to environment variables

A reference is a dollar sign with a name in braces behind it. A text with references is read as a
list of pieces, each a code point or a reference, and every reference is replaced by the value of
its variable. What it is replaced by is not read again.

* `pieces` takes a text apart, and `Piece.source` writes a piece;
* `Text.expand` replaces the references of a text, `Datum.expand` those of the texts of a value with
  a number of levels at most.
-/

namespace DealWatch

/-- Environment variables with their values. -/
abbrev Environment := List (String × String)

/-- The home directory. -/
def Environment.home (env : Environment) : String := (env.lookup "HOME").getD ""

/-- A part of a text. -/
inductive Piece where
  | literal (p : CodePoint)
  | reference (name : List CodePoint)
  deriving DecidableEq, Repr, Inhabited

/-- The text of a piece. -/
def Piece.source : Piece → List CodePoint
  | .literal p => [p]
  | .reference name => .char '$' :: .char '{' :: name ++ [.char '}']

/-- The name in braces at the start of a text. The name must not be empty. -/
def bracedName? : List CodePoint → Option (List CodePoint)
  | .char '{' :: rest =>
    let name := rest.takeWhile (· != .char '}')
    if name.isEmpty || (rest.drop name.length).isEmpty then none else some name
  | _ => none

/-- The pieces of a text. A dollar sign without a name in braces is a character like others. -/
def pieces : List CodePoint → List Piece
  | [] => []
  | p :: rest =>
    match if p = .char '$' then bracedName? rest else none with
    | some name => .reference name :: pieces (rest.drop (name.length + 2))
    | none => .literal p :: pieces rest
termination_by ps => ps.length
decreasing_by all_goals (simp only [List.length_drop, List.length_cons]; omega)

/-- The value of a variable by the code points of its name. No variable that is known has halves of
surrogate pairs in its name. -/
def Environment.value? (env : Environment) (name : List CodePoint) : Option String :=
  match Text.ofPoints name with
  | .whole s => env.lookup s
  | .halved _ => none

/-- What a piece is replaced by. A variable that is not set is empty. -/
def Piece.replacement (env : Environment) : Piece → List CodePoint
  | .literal p => [p]
  | .reference name => pointsOf ((env.value? name).getD "")

/-- What a piece is replaced by, if the name of a variable in it can be handed to the system. -/
def Piece.expand (env : Environment) : Piece → Outcome (List CodePoint)
  | .literal p => .ok [p]
  | .reference name =>
    match systemFault? name with
    | some fault => .error (.unencodable fault)
    | none => .ok ((Piece.reference name).replacement env)

/-- A text with its references replaced. -/
def Text.expand (env : Environment) (t : Text) : Outcome Text := do
  return .ofPoints (← (pieces t.points).mapM (Piece.expand env)).flatten

/-- A scalar with the references of a text replaced. -/
def Scalar.expand (env : Environment) : Scalar → Outcome Scalar
  | .text s => Scalar.ofText <$> (Text.whole s).expand env
  | .unpaired t => Scalar.ofText <$> (Text.halved t).expand env
  | s => .ok s

/-- A value with the references of all its texts replaced, which may have a number of levels of
lists and dictionaries. Keys, sets and pairs stay as they are. -/
def Datum.expand (env : Environment) (levels : Nat) : Datum → Outcome Datum
  | .scalar s => Datum.scalar <$> s.expand env
  | .list items =>
    if levels = 0 then .error .endless else Datum.list <$> expandItems (levels - 1) items
  | .dict entries =>
    if levels = 0 then .error .endless else Datum.dict <$> expandEntries (levels - 1) entries
  | d => .ok d
where
  /-- The items with their references replaced. -/
  expandItems (levels : Nat) : List Datum → Outcome (List Datum)
    | [] => .ok []
    | d :: ds => List.cons <$> d.expand env levels <*> expandItems levels ds
  /-- The entries with the references of their values replaced. -/
  expandEntries (levels : Nat) : List (Scalar × Datum) → Outcome (List (Scalar × Datum))
    | [] => .ok []
    | (k, d) :: es => (fun d es => (k, d) :: es) <$> d.expand env levels <*> expandEntries levels es

/-- The names of the variables that a text refers to. -/
def referenceNames (s : String) : List String :=
  (pieces (pointsOf s)).filterMap fun
    | .literal _ => none
    | .reference name =>
      match Text.ofPoints name with
      | .whole s => some s
      | .halved _ => none

namespace Settings

/-- The most lists and dictionaries inside of each other in which references are replaced. -/
def maxLevels : Nat := 485

end Settings

end DealWatch
