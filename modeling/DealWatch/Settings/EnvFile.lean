import DealWatch.Data.Datum
import DealWatch.Settings.Expand
import DealWatch.Text.Blank

/-!
# Files of environment variables

Each line of such a file is a name, an equals sign and a value, which may stand in quotes. A line
may start with the word `export` and end in a comment. A name without an equals sign has no value.
Lines that are not of this form are skipped.

* `EnvFile.lines` are the variables as they are written;
* `EnvFile.read` are the variables with the references in their values replaced.
-/

namespace DealWatch

namespace EnvFile

/-- A variable, which may be without a value. -/
abbrev Variable := String × Option String

/-- A value and what follows it. -/
abbrev Reading (α : Type) := Option (α × List Char)

/-! ### Lines -/

/-- Whether a character is a blank inside of a line. -/
def isGap (c : Char) : Bool := isBlank c && c != '\n'

/-- What stands between quotes, and what follows. A backslash hides the quote after it, unless no
quote comes later. -/
def quotedText (quote : Char) : List Char → Reading (List Char)
  | [] => none
  | [c] => if c = quote then some ([], []) else none
  | c :: d :: rest =>
    if c = quote then some ([], d :: rest)
    else if c = '\\' && d = quote then
      match quotedText quote rest with
      | some (inside, rest) => some (c :: d :: inside, rest)
      | none => some ([c], rest)
    else (quotedText quote (d :: rest)).map fun (inside, rest) => (c :: inside, rest)

/-- The characters that may stand behind a backslash between double quotes, with what they stand
for. -/
def doubleEscapes : List (Char × Char) := [('\\', '\\'), ('\'', '\''), ('"', '"'), ('a', '\x07'),
  ('b', '\x08'), ('f', '\x0c'), ('n', '\n'), ('r', '\r'), ('t', '\t'), ('v', '\x0b')]

/-- The same between single quotes. -/
def singleEscapes : List (Char × Char) := [('\\', '\\'), ('\'', '\'')]

/-- A text with the characters that its escapes stand for. -/
def unescaped (escapes : List (Char × Char)) : List Char → List Char
  | '\\' :: c :: rest =>
    match escapes.lookup c with
    | some d => d :: unescaped escapes rest
    | none => '\\' :: unescaped escapes (c :: rest)
  | c :: rest => c :: unescaped escapes rest
  | [] => []

/-- A line up to the blanks before a comment. -/
def beforeComment : List Char → List Char
  | [] => []
  | c :: rest =>
    if isBlank c && (rest.dropWhile isBlank).head? == some '#' then []
    else c :: beforeComment rest

/-- A value without quotes, which ends at a comment. -/
def plainValue (line : List Char) : List Char :=
  ((beforeComment line).reverse.dropWhile isBlank).reverse

/-- The value behind an equals sign. -/
def readValue (cs : List Char) : Reading String :=
  let text (escapes : List (Char × Char)) : List Char × List Char → String × List Char :=
    fun (inside, rest) => (String.ofList (unescaped escapes inside), rest)
  match cs with
  | '\'' :: rest => (quotedText '\'' rest).map (text singleEscapes)
  | '"' :: rest => (quotedText '"' rest).map (text doubleEscapes)
  | cs =>
    let line := cs.takeWhile (· != '\n')
    some (String.ofList (plainValue line), cs.drop line.length)

/-- The text behind the word that may stand before a name. -/
def skipExport (cs : List Char) : List Char :=
  let word := "export".toList
  let after := cs.drop word.length
  if word.isPrefixOf cs && (after.head?.map isGap).getD false then after.dropWhile isGap else cs

/-- The name at the start of a line, if the line is no comment. -/
def readName (cs : List Char) : Reading (Option String) :=
  match cs with
  | '#' :: _ => some (none, cs)
  | '\'' :: rest =>
    let name := rest.takeWhile (· != '\'')
    if name.isEmpty || (rest.drop name.length).isEmpty then none
    else some (some (String.ofList name), rest.drop (name.length + 1))
  | cs =>
    let name := cs.takeWhile fun c => c != '=' && c != '#' && !isBlank c
    if name.isEmpty then none else some (some (String.ofList name), cs.drop name.length)

/-- What follows the end of a line, before which only a comment may stand. -/
def endLine (cs : List Char) : Option (List Char) :=
  let cs := cs.dropWhile isGap
  let cs := if cs.head? == some '#' then cs.dropWhile (· != '\n') else cs
  match cs with
  | [] => some []
  | '\n' :: rest => some rest
  | _ => none

/-- The variable on a line that does not start with a blank. The rest is that behind the line, or
behind the part of it that could be read. -/
def readLine (cs : List Char) : Option Variable × List Char :=
  let cs := skipExport cs
  let skipped (cs : List Char) : Option Variable × List Char :=
    (none, (cs.dropWhile (· != '\n')).drop 1)
  match readName cs with
  | none => skipped cs
  | some (name, rest) =>
    let rest := rest.dropWhile isGap
    let (value, rest) := match rest with
      | '=' :: after =>
        match readValue (after.dropWhile isGap) with
        | some (value, rest) => (some (some value), rest)
        | none => (none, after.dropWhile isGap)
      | _ => (some none, rest)
    match value, endLine rest with
    | some value, some after => (name.map fun name => (name, value), after)
    | _, _ => skipped rest

/-- The variables of a text, at most `fuel` of them. -/
def linesFrom : Nat → List Char → List Variable
  | 0, _ => []
  | fuel + 1, cs =>
    match cs.dropWhile isBlank with
    | [] => []
    | cs =>
      let (found, rest) := readLine cs
      found.toList ++ linesFrom fuel rest

/-- The variables of a text. -/
def lines (s : String) : List Variable := linesFrom (s.length + 1) s.toList

/-! ### References -/

/-- A part of a value. -/
inductive Part where
  | literal (c : Char)
  /-- A reference to a variable, with what it is replaced by if there is no such variable. -/
  | reference (name fallback : List Char)
  deriving DecidableEq, Repr, Inhabited

/-- The reference behind a dollar sign, and the number of its characters. -/
def reference? (cs : List Char) : Option (Part × Nat) :=
  match cs with
  | '{' :: rest =>
    let name := rest.takeWhile fun c => c != '}' && c != ':'
    match rest.drop name.length with
    | '}' :: _ => some (.reference name [], name.length + 2)
    | ':' :: '-' :: more =>
      let fallback := more.takeWhile (· != '}')
      if (more.drop fallback.length).isEmpty then none
      else some (.reference name fallback, name.length + fallback.length + 4)
    | _ => none
  | _ => none

/-- The parts of a value. -/
def partsOf : List Char → List Part
  | [] => []
  | c :: rest =>
    match if c = '$' then reference? rest else none with
    | some (part, count) => part :: partsOf (rest.drop count)
    | none => .literal c :: partsOf rest
termination_by cs => cs.length
decreasing_by all_goals (simp only [List.length_drop, List.length_cons]; omega)

/-- What a part is replaced by. A variable without a value is empty. -/
def Part.expand (known : List (Scalar × Option String)) (env : Environment) : Part → List Char
  | .literal c => [c]
  | .reference name fallback =>
    match Entries.get? known (String.ofList name) with
    | some value => (value.getD "").toList
    | none => ((env.lookup (String.ofList name)).map String.toList).getD fallback

/-- The variables of a file. References are replaced by the variables before them and, if there are
no such, by those of the environment. -/
def read (env : Environment) (s : String) : List (Scalar × Option String) :=
  (lines s).foldl (fun known (name, value) =>
    let expanded := value.map fun v =>
      String.ofList ((partsOf v.toList).flatMap (Part.expand known env))
    Entries.put (.text name) expanded known) []

end EnvFile

end DealWatch
