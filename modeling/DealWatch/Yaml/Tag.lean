import DealWatch.Calendar.Timestamp
import DealWatch.Number.Numeral
import DealWatch.Yaml.Cursor

/-!
# Kinds of YAML nodes

A node has a tag, which names its kind. A plain scalar without a tag gets the first kind whose
spelling it has.

* `Yaml.Tag` lists the kinds, `Tag.ofText` names them;
* `Yaml.plainTag` is the kind of a plain scalar, `Yaml.spelledTag` that of one which is to be read
  like it;
* `Yaml.ClockReading` are the parts of a date or a point in time.
-/

namespace DealWatch

namespace Yaml

/-- The kind of a node. -/
inductive Tag where
  | null
  | flag
  | int
  | float
  | time
  | text
  | bytes
  | sequence
  | mapping
  | set
  | orderedMap
  | pairs
  /-- The key that merges other mappings. -/
  | merge
  /-- The key of a default value. -/
  | value
  | unknown
  deriving DecidableEq, Repr, Inhabited

/-- How the names of the known kinds start. -/
def tagStart : String := "tag:yaml.org,2002:"

/-- The names of the known kinds. -/
def tagNames : List (String × Tag) := [("null", .null), ("bool", .flag), ("int", .int),
  ("float", .float), ("timestamp", .time), ("str", .text), ("binary", .bytes), ("seq", .sequence),
  ("map", .mapping), ("set", .set), ("omap", .orderedMap), ("pairs", .pairs), ("merge", .merge),
  ("value", .value)]

/-- The kind with a name. -/
def Tag.ofText (s : String) : Tag :=
  ((tagNames.find? fun (name, _) => tagStart ++ name == s).map (·.2)).getD .unknown

/-! ### Spellings -/

/-- The words for truth and falsehood. -/
def flagWords : List String := ["yes", "Yes", "YES", "no", "No", "NO", "true", "True", "TRUE",
  "false", "False", "FALSE", "on", "On", "ON", "off", "Off", "OFF"]

/-- The words for nothing. -/
def nullWords : List String := ["", "~", "null", "Null", "NULL"]

/-- Whether a character is a digit or an underscore. -/
def isSpacedDigit (c : Char) : Bool := isAsciiDigit c || c == '_'

/-- Whether a text is a row of digits with underscores that starts with a digit. -/
def isDigitRow : List Char → Bool
  | c :: rest => isAsciiDigit c && rest.all isSpacedDigit
  | [] => false

/-- Whether a text counts minutes or seconds: one digit, or two up to 59. -/
def isSixty : List Char → Bool
  | [c] => isAsciiDigit c
  | [c, d] => '0' ≤ c && c ≤ '5' && isAsciiDigit d
  | _ => false

/-- The parts between the colons of a text. -/
def colonParts (cs : List Char) : List (List Char) :=
  cs.foldr (fun c parts =>
    match c, parts with
    | ':', parts => [] :: parts
    | c, part :: parts => (c :: part) :: parts
    | c, [] => [[c]]) [[]]

/-- Whether a text is an integer without its sign. -/
def isUnsignedInt : List Char → Bool
  | '0' :: 'b' :: rest => !rest.isEmpty && rest.all fun c => c == '0' || c == '1' || c == '_'
  | '0' :: 'x' :: rest => !rest.isEmpty && rest.all fun c => (hexValue? c).isSome || c == '_'
  | '0' :: rest => rest.all fun c => ('0' ≤ c && c ≤ '7') || c == '_'
  | cs =>
    match colonParts cs with
    | first :: parts => isDigitRow first && parts.all isSixty
    | [] => false

/-- Whether a text is an exponent with its sign, or empty. -/
def isExponent : List Char → Bool
  | [] => true
  | e :: sign :: digits =>
    (e == 'e' || e == 'E') && (sign == '+' || sign == '-') && !digits.isEmpty &&
      digits.all isAsciiDigit
  | _ => false

/-- Whether a text is a number with a point without its sign. -/
def isUnsignedFloat (cs : List Char) : Bool :=
  let whole := cs.takeWhile (· != '.')
  match cs.drop whole.length with
  | [] => false
  | _ :: rest =>
    let fraction := rest.takeWhile isSpacedDigit
    let exponent := rest.drop fraction.length
    match colonParts whole with
    | [first] => isDigitRow first && isExponent exponent
    | first :: parts => isDigitRow first && parts.all isSixty && exponent.isEmpty
    | [] => false

/-- Whether a text is a number that starts with a point. -/
def isBareFraction : List Char → Bool
  | '.' :: rest =>
    let digits := rest.takeWhile isSpacedDigit
    isDigitRow digits && isExponent (rest.drop digits.length)
  | _ => false

/-- The spellings of infinity. -/
def infinityWords : List String := [".inf", ".Inf", ".INF"]

/-- The spellings of no number. -/
def nanWords : List String := [".nan", ".NaN", ".NAN"]

/-- Whether a text is a number with a point. -/
def isFloatText (cs : List Char) : Bool :=
  let (_, unsigned) := splitSign cs
  isUnsignedFloat unsigned || isBareFraction cs ||
    infinityWords.contains (String.ofList unsigned) || nanWords.contains (String.ofList cs)

/-- Whether a text is an integer. -/
def isIntText (cs : List Char) : Bool := isUnsignedInt (splitSign cs).2

/-! ### Dates and times -/

/-- The parts of a date or a point in time, each as it is written. -/
structure ClockReading where
  year : List Char
  month : List Char
  day : List Char
  /-- The hour, the minute, the second and the digits after a point. -/
  clock : Option (List Char × List Char × List Char × List Char)
  /-- The seconds ahead of universal time. -/
  offset : Option Int
  deriving DecidableEq, Repr, Inhabited

/-- Between `low` and `high` digits, and what follows them. -/
def takeDigits? (low high : Nat) (cs : List Char) : Option (List Char × List Char) :=
  let digits := (cs.take high).takeWhile isAsciiDigit
  if digits.length < low then none else some (digits, cs.drop digits.length)

/-- What follows a sign. -/
def dropSign? (sign : Char) : List Char → Option (List Char)
  | c :: rest => if c = sign then some rest else none
  | [] => none

/-- The seconds ahead of universal time in a text, if it holds a zone. -/
def readZone? (cs : List Char) : Option (Option Int) :=
  match cs.dropWhile isBlank with
  | [] => if cs.isEmpty then some none else none
  | ['Z'] => some (some 0)
  | sign :: rest => do
    guard (sign == '+' || sign == '-')
    let (hours, rest) ← takeDigits? 1 2 rest
    let minutes ← (match rest with
      | [] => some []
      | _ => do
        let (minutes, rest) ← takeDigits? 2 2 (← dropSign? ':' rest)
        guard rest.isEmpty
        return minutes)
    let seconds : Int := 3600 * asciiNumber hours + 60 * asciiNumber minutes
    return some (if sign == '-' then -seconds else seconds)

/-- What stands between a date and a time is left out. -/
def dropTimeSign? : List Char → Option (List Char)
  | [] => none
  | c :: rest =>
    if c = 'T' || c = 't' then some rest
    else if isBlank c then some (rest.dropWhile isBlank)
    else none

/-- The parts of a date or a point in time. -/
def ClockReading.ofText? (cs : List Char) : Option ClockReading := do
  let (year, cs) ← takeDigits? 4 4 cs
  let (month, cs) ← takeDigits? 1 2 (← dropSign? '-' cs)
  let (day, cs) ← takeDigits? 1 2 (← dropSign? '-' cs)
  if cs.isEmpty then return ⟨year, month, day, none, none⟩
  else
    let (hour, cs) ← takeDigits? 1 2 (← dropTimeSign? cs)
    let (minute, cs) ← takeDigits? 2 2 (← dropSign? ':' cs)
    let (second, cs) ← takeDigits? 2 2 (← dropSign? ':' cs)
    let (fraction, cs) := match cs with
      | '.' :: rest =>
        let digits := rest.takeWhile isAsciiDigit
        (digits, rest.drop digits.length)
      | cs => ([], cs)
    return ⟨year, month, day, some (hour, minute, second, fraction), ← readZone? cs⟩

/-- Whether a text is a date with two digits for month and day, or a point in time. -/
def isTimeText (cs : List Char) : Bool :=
  match ClockReading.ofText? cs with
  | some r => r.clock.isSome || (r.month.length == 2 && r.day.length == 2)
  | none => false

/-- The kind of a plain scalar. -/
def plainTag (s : String) : Tag :=
  let cs := s.toList
  if flagWords.contains s then .flag
  else if isFloatText cs then .float
  else if isIntText cs then .int
  else if s == "<<" then .merge
  else if nullWords.contains s then .null
  else if isTimeText cs then .time
  else if s == "=" then .value
  else .text

/-- A text without the end of a line after it, unless that is all of it. -/
def dropFinalBreak (cs : List Char) : List Char :=
  if 1 < cs.length && cs.getLast? == some '\n' then cs.dropLast else cs

/-- The kind of a scalar that is to be read as a plain one, however it is written. An end of a line
after it does not count. -/
def spelledTag (s : String) : Tag := plainTag (String.ofList (dropFinalBreak s.toList))

/-- Whether nodes of a kind have parts. -/
def Tag.isCollection : Tag → Bool
  | .sequence => true
  | .mapping => true
  | .set => true
  | .orderedMap => true
  | .pairs => true
  | _ => false

end Yaml

end DealWatch
