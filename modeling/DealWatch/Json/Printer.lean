import DealWatch.Data.Shown
import DealWatch.Text.Hexadecimal

/-!
# Writing JSON

* `Json.Style` says what stands between the parts of a text and whether every character outside
  ASCII is escaped;
* `Json.write` writes a value;
* `Json.sortKeys` puts the entries of every dictionary in the order of their keys.
-/

namespace DealWatch

namespace Json

/-- How values are written. -/
structure Style where
  comma : String
  colon : String
  asciiOnly : Bool
  deriving Repr, Inhabited

/-- Without blanks, and with every character that needs no escape as it is. -/
def compact : Style := ⟨",", ":", false⟩

/-- With a blank after each sign, and in ASCII. -/
def spaced : Style := ⟨", ", ": ", true⟩

/-- The escape of a sixteen-bit unit. -/
def unitEscape (n : Nat) : List Char := '\\' :: 'u' :: hexPadded 4 n

/-- How a character is written. -/
def writeChar (style : Style) (c : Char) : List Char :=
  if c = '"' then ['\\', '"']
  else if c = '\\' then ['\\', '\\']
  else if c = '\n' then ['\\', 'n']
  else if c = '\r' then ['\\', 'r']
  else if c = '\t' then ['\\', 't']
  else if c = '\x08' then ['\\', 'b']
  else if c = '\x0c' then ['\\', 'f']
  else if c.toNat < 0x20 then unitEscape c.toNat
  else if style.asciiOnly && 0x7f ≤ c.toNat then
    if c.toNat < 0x10000 then unitEscape c.toNat
    else
      let n := c.toNat - 0x10000
      unitEscape (0xd800 + n / 0x400) ++ unitEscape (0xdc00 + n % 0x400)
  else [c]

/-- A text between quotes. -/
def writeText (style : Style) (s : String) : String :=
  String.ofList ('"' :: s.toList.flatMap (writeChar style) ++ ['"'])

/-- The text by which a scalar without a form of its own is written. -/
def plainText : Scalar → String
  | .float x => "f64:" ++ x.hexBits
  | .date d => d.isoText
  | .time t => t.isoText
  | .unpaired t => t.shown
  | s => s.shown

/-- A scalar. Numbers with a point are written by the text of their encoding. -/
def writeScalar (style : Style) : Scalar → String
  | .null => "null"
  | .flag b => if b then "true" else "false"
  | .int i => toString i
  | .text s => writeText style s
  | s => writeText style (plainText s)

/-- The text of a key: that of a text as it is, that of another scalar as it is written. -/
def keyText : Scalar → String
  | .text s => s
  | .int i => toString i
  | .null => "null"
  | .flag b => if b then "true" else "false"
  | s => plainText s

/-- A value as text. -/
def write (style : Style) : Datum → String
  | .scalar s => writeScalar style s
  | .list items => "[" ++ writeItems style items ++ "]"
  | .dict entries => "\x7b" ++ writeEntries style entries ++ "\x7d"
  | .set members => writeText style (Datum.set members).shown
  | .pair key value => "[" ++ write style key ++ style.comma ++ write style value ++ "]"
where
  /-- Some values with commas between them. -/
  writeItems (style : Style) : List Datum → String
    | [] => ""
    | [d] => write style d
    | d :: ds => write style d ++ style.comma ++ writeItems style ds
  /-- Some entries with commas between them. -/
  writeEntries (style : Style) : List (Scalar × Datum) → String
    | [] => ""
    | [(k, d)] => writeText style (keyText k) ++ style.colon ++ write style d
    | (k, d) :: es =>
      writeText style (keyText k) ++ style.colon ++ write style d ++ style.comma ++
        writeEntries style es

/-- The value with the entries of its dictionaries in the order of their keys. -/
def sortKeys : Datum → Datum
  | .scalar s => .scalar s
  | .list items => .list (sortItems items)
  | .set members => .set members
  | .pair key value => .pair (sortKeys key) (sortKeys value)
  | .dict entries =>
    .dict ((sortEntries entries).mergeSort fun a b => keyText a.1 ≤ keyText b.1)
where
  /-- Each of some values with sorted keys. -/
  sortItems : List Datum → List Datum
    | [] => []
    | d :: ds => sortKeys d :: sortItems ds
  /-- Each of some entries with sorted keys below it. -/
  sortEntries : List (Scalar × Datum) → List (Scalar × Datum)
    | [] => []
    | (k, d) :: es => (k, sortKeys d) :: sortEntries es

end Json

end DealWatch
