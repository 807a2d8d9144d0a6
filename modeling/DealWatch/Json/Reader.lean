import DealWatch.Data.Datum
import DealWatch.Text.Hexadecimal

/-!
# Reading JSON

The reader accepts RFC 8259 texts and the names `NaN`, `Infinity` and `-Infinity`. Of a repeated
key the last value counts. A text may hold half of a surrogate pair as an escape; it is then read
as a scalar of its own.

* `Json.Fault` and `Json.Error` say what is wrong and where, `Json.Error.message` in words;
* `Json.readAll` reads a whole text and keeps all values of repeated keys;
* `Json.read` reads a whole text.
-/

namespace DealWatch

namespace Json

/-- What can be wrong with a text. -/
inductive Fault where
  | byteOrderMark
  | expectedValue
  | expectedKey
  | expectedColon
  | expectedComma
  | extraData
  | unterminatedText
  | controlCharacter
  | badEscape
  | badUnicodeEscape
  /-- An integer of more digits than are converted. -/
  | longInteger
  /-- More lists and dictionaries inside of each other than are read. -/
  | tooDeep
  deriving DecidableEq, Repr, Inhabited

/-- The words for a fault. -/
def Fault.message : Fault → String
  | .byteOrderMark => "Unexpected UTF-8 BOM (decode using utf-8-sig)"
  | .expectedValue => "Expecting value"
  | .expectedKey => "Expecting property name enclosed in double quotes"
  | .expectedColon => "Expecting ':' delimiter"
  | .expectedComma => "Expecting ',' delimiter"
  | .extraData => "Extra data"
  | .unterminatedText => "Unterminated string starting at"
  | .controlCharacter => "Invalid control character at"
  | .badEscape => "Invalid \\escape"
  | .badUnicodeEscape => "Invalid \\uXXXX escape"
  | .longInteger => "Exceeds the limit for integers"
  | .tooDeep => "maximum recursion depth exceeded"

/-- A fault at an offset. -/
structure Error where
  fault : Fault
  position : Nat
  deriving DecidableEq, Repr, Inhabited

/-- The words for an error in a text, with line, column and offset. -/
def Error.message (e : Error) (text : List Char) : String :=
  let before := text.take e.position
  let line := before.count '\n' + 1
  let column := (before.reverse.takeWhile (· != '\n')).length + 1
  e.fault.message ++ ": line " ++ toString line ++ " column " ++ toString column ++
    " (char " ++ toString e.position ++ ")"

/-- What is left of a text and the offset at which it starts. -/
structure Cursor where
  position : Nat
  rest : List Char
  deriving Repr, Inhabited

namespace Cursor

/-- The cursor some characters further on. -/
def advance (c : Cursor) (n : Nat) : Cursor := ⟨c.position + n, c.rest.drop n⟩

/-- Whether a character separates the parts of a text. -/
def isBlank (c : Char) : Bool := c == ' ' || c == '\t' || c == '\n' || c == '\r'

/-- The cursor after blanks. -/
def skip (c : Cursor) : Cursor := c.advance (c.rest.takeWhile isBlank).length

/-- A fault at the cursor. -/
def fail {α : Type} (c : Cursor) (fault : Fault) : Except Error α := .error ⟨fault, c.position⟩

end Cursor

/-! ### Texts -/

/-- The value of four hexadecimal digits. -/
def hexUnit? (a b c d : Char) : Option Nat := do
  let a ← hexValue? a
  let b ← hexValue? b
  let c ← hexValue? c
  let d ← hexValue? d
  return ((a * 16 + b) * 16 + c) * 16 + d

/-- The character of an escape with one letter. -/
def shortEscape? : Char → Option Char
  | '"' => some '"'
  | '\\' => some '\\'
  | '/' => some '/'
  | 'b' => some '\x08'
  | 'f' => some '\x0c'
  | 'n' => some '\n'
  | 'r' => some '\r'
  | 't' => some '\t'
  | _ => none

/-- Whether a unit is the first half of a surrogate pair. -/
def isHighHalf (n : Nat) : Bool := 0xd800 ≤ n && n < 0xdc00

/-- Whether a unit is the second half of a surrogate pair. -/
def isLowHalf (n : Nat) : Bool := 0xdc00 ≤ n && n < 0xe000

/-- The code point of a surrogate pair. -/
def joinHalves (high low : Nat) : Nat := 0x10000 + (high - 0xd800) * 0x400 + (low - 0xdc00)

/-- An escape with four digits, whose letter is at the given position: the code point, and the
number of characters after the letter that it takes. Two halves of a pair are taken together. One
more character must follow. -/
def unicodeEscape (position : Nat) : List Char → Except Error (Nat × Nat)
  | a :: b :: c :: d :: e :: more =>
    match hexUnit? a b c d with
    | none => .error ⟨.badUnicodeEscape, position⟩
    | some n =>
      match isHighHalf n, e, more with
      | true, '\\', 'u' :: f :: g :: h :: i :: _ :: _ =>
        match hexUnit? f g h i with
        | none => .error ⟨.badUnicodeEscape, position + 6⟩
        | some m => .ok (if isLowHalf m then (joinHalves n m, 10) else (n, 4))
      | _, _, _ => .ok (n, 4)
  | _ => .error ⟨.badUnicodeEscape, position⟩

/-- The code points of the text that opened at `start`, and the cursor after its closing quote. -/
def textBody (start position : Nat) : List Char → Except Error (List Nat × Cursor)
  | [] => .error ⟨.unterminatedText, start⟩
  | c :: rest =>
    if c = '"' then .ok ([], ⟨position + 1, rest⟩)
    else if c = '\\' then
      match rest with
      | [] => .error ⟨.unterminatedText, start⟩
      | c :: rest =>
        if c = 'u' then
          match unicodeEscape (position + 1) rest with
          | .error e => .error e
          | .ok (n, width) => do
            let (ns, cursor) ← textBody start (position + 2 + width) (rest.drop width)
            .ok (n :: ns, cursor)
        else
          match shortEscape? c with
          | none => .error ⟨.badEscape, position⟩
          | some d => do
            let (ns, cursor) ← textBody start (position + 2) rest
            .ok (d.toNat :: ns, cursor)
    else if c.toNat ≤ 0x1f then .error ⟨.controlCharacter, position⟩
    else do
      let (ns, cursor) ← textBody start (position + 1) rest
      .ok (c.toNat :: ns, cursor)
termination_by cs => cs.length
decreasing_by all_goals simp only [List.length_cons, List.length_drop]; omega

/-- The text with the given code points. -/
def textOf (ns : List Nat) : Scalar := .ofText (.ofPoints (ns.map .ofNat))

/-- The text after an opening quote. -/
def readText (c : Cursor) : Except Error (Scalar × Cursor) := do
  let (ns, c) ← textBody (c.position - 1) c.position c.rest
  return (textOf ns, c)

/-! ### Numbers -/

/-- Whether a character is one of the ten ASCII digits. -/
def isDigit (c : Char) : Bool := '0' ≤ c && c ≤ '9'

/-- The number that a row of ASCII digits writes. -/
def digitsValue (cs : List Char) : Nat := cs.foldl (fun n c => 10 * n + (c.toNat - 48)) 0

/-- The parts of a number: its sign, the digits before and after the point, and the exponent. -/
structure Numeral where
  negative : Bool
  whole : List Char
  fraction : Option (List Char)
  exponent : Option (Bool × List Char)
  deriving Repr, Inhabited

/-- The digits after a point, if there are any. -/
def fraction? : List Char → Option (List Char)
  | '.' :: rest =>
    match rest.takeWhile isDigit with
    | [] => none
    | ds => some ds
  | _ => none

/-- The sign and the digits of an exponent, if there are any, and how many characters they take. -/
def exponent? : List Char → Option (Bool × List Char × Nat)
  | e :: rest =>
    if e = 'e' || e = 'E' then
      let (negative, signs) := match rest with
        | '-' :: _ => (true, 1)
        | '+' :: _ => (false, 1)
        | _ => (false, 0)
      match (rest.drop signs).takeWhile isDigit with
      | [] => none
      | ds => some (negative, ds, 1 + signs + ds.length)
    else none
  | [] => none

/-- The number at the start of a text, and how many characters it takes. -/
def numeral? (cs : List Char) : Option (Numeral × Nat) :=
  let negative := cs.head? == some '-'
  let signs := if negative then 1 else 0
  let cs := cs.drop signs
  let whole := if cs.head? == some '0' then ['0'] else cs.takeWhile isDigit
  if whole.isEmpty then none
  else
    let rest := cs.drop whole.length
    let fraction := fraction? rest
    let width := match fraction with
      | some ds => ds.length + 1
      | none => 0
    match exponent? (rest.drop width) with
    | some (s, ds, n) =>
      some (⟨negative, whole, fraction, some (s, ds)⟩, signs + whole.length + width + n)
    | none => some (⟨negative, whole, fraction, none⟩, signs + whole.length + width)

/-- The most digits of an integer. -/
def maxDigits : Nat := 4300

/-- The value of a number: an integer if it has neither a point nor an exponent. -/
def Numeral.value? (n : Numeral) : Option Scalar :=
  match n.fraction, n.exponent with
  | none, none =>
    if maxDigits < n.whole.length then none
    else
      let v : Int := digitsValue n.whole
      some (.int (if n.negative then -v else v))
  | fraction, exponent =>
    let ds := fraction.getD []
    let e : Int := match exponent with
      | some (true, es) => -(digitsValue es : Int)
      | some (false, es) => digitsValue es
      | none => 0
    some (.float (Binary64.ofDecimal n.negative (digitsValue (n.whole ++ ds)) (e - ds.length)))

/-! ### Values -/

/-- The names of values. -/
def names : List (String × Scalar) := [
  ("null", .null), ("true", .flag true), ("false", .flag false), ("NaN", .float (.nan false)),
  ("Infinity", .float (.infinite false)), ("-Infinity", .float (.infinite true))]

/-- A value that is a name or a number. -/
def readPlain (c : Cursor) : Except Error (Datum × Cursor) :=
  match names.find? fun (name, _) => name.toList.isPrefixOf c.rest with
  | some (name, s) => .ok (.scalar s, c.advance name.length)
  | none =>
    match numeral? c.rest with
    | some (n, width) =>
      match n.value? with
      | some s => .ok (.scalar s, c.advance width)
      | none => c.fail .longInteger
    | none => c.fail .expectedValue

mutual

/-- The value at the cursor, by at most `fuel` nested steps, with at most `levels` lists and
dictionaries inside of each other. -/
def readValue (levels : Nat) : Nat → Cursor → Except Error (Datum × Cursor)
  | 0, c => c.fail .expectedValue
  | fuel + 1, c =>
    match c.rest with
    | '"' :: _ => do
      let (s, c) ← readText (c.advance 1)
      return (.scalar s, c)
    | '[' :: _ => do
      if levels = 0 then c.fail .tooDeep
      else
        let c := (c.advance 1).skip
        if c.rest.head? == some ']' then return (.list [], c.advance 1)
        else
          let (items, c) ← readItems (levels - 1) fuel c
          return (.list items, c)
    | '{' :: _ => do
      if levels = 0 then c.fail .tooDeep
      else
        let c := (c.advance 1).skip
        if c.rest.head? == some '}' then return (.dict [], c.advance 1)
        else
          let (entries, c) ← readEntries (levels - 1) fuel c
          return (.dict entries, c)
    | _ => readPlain c

/-- The items of a list up to its closing bracket. -/
def readItems (levels : Nat) : Nat → Cursor → Except Error (List Datum × Cursor)
  | 0, c => c.fail .expectedValue
  | fuel + 1, c => do
    let (item, c) ← readValue levels fuel c
    let c := c.skip
    match c.rest with
    | ']' :: _ => return ([item], c.advance 1)
    | ',' :: _ =>
      let (items, c) ← readItems levels fuel (c.advance 1).skip
      return (item :: items, c)
    | _ => c.fail .expectedComma

/-- The entries of a dictionary up to its closing brace, with repeated keys. -/
def readEntries (levels : Nat) : Nat → Cursor → Except Error (Entries × Cursor)
  | 0, c => c.fail .expectedValue
  | fuel + 1, c =>
    match c.rest with
    | '"' :: _ => do
      let (key, c) ← readText (c.advance 1)
      let c := c.skip
      if c.rest.head? != some ':' then c.fail .expectedColon
      else
        let (value, c) ← readValue levels fuel (c.advance 1).skip
        let c := c.skip
        match c.rest with
        | '}' :: _ => return ([(key, value)], c.advance 1)
        | ',' :: _ =>
          let (entries, c) ← readEntries levels fuel (c.advance 1).skip
          return ((key, value) :: entries, c)
        | _ => c.fail .expectedComma
    | _ => c.fail .expectedKey

end

/-- The most lists and dictionaries inside of each other. -/
def maxLevels : Nat := 980

/-- A value whose dictionaries have the last of the values that they repeat a key with. -/
def withoutRepeats : Datum → Datum
  | .list items => .list (eachItem items)
  | .dict entries => .dict ((eachEntry entries).foldl (fun es e => Entries.put e.1 e.2 es) [])
  | d => d
where
  /-- Some values without repeated keys in them. -/
  eachItem : List Datum → List Datum
    | [] => []
    | d :: ds => withoutRepeats d :: eachItem ds
  /-- Some entries without repeated keys in their values. -/
  eachEntry : List (Scalar × Datum) → List (Scalar × Datum)
    | [] => []
    | (k, d) :: es => (k, withoutRepeats d) :: eachEntry es

/-- The value of a whole text, whose dictionaries may repeat keys. -/
def readAll (text : List Char) : Except Error Datum :=
  if text.head? == some '\ufeff' then .error ⟨.byteOrderMark, 0⟩
  else do
    let (value, c) ← readValue maxLevels (2 * text.length + 2) (Cursor.mk 0 text).skip
    let c := c.skip
    if c.rest.isEmpty then return value else c.fail .extraData

/-- The value of a whole text. -/
def read (text : List Char) : Except Error Datum := withoutRepeats <$> readAll text

/-- The greatest number of lists and dictionaries with content inside of each other. -/
def levelsOf : Datum → Nat
  | .list (d :: ds) => 1 + itemLevels (d :: ds)
  | .dict (e :: es) => 1 + entryLevels (e :: es)
  | _ => 0
where
  /-- The levels of the deepest of some values. -/
  itemLevels : List Datum → Nat
    | [] => 0
    | d :: ds => max (levelsOf d) (itemLevels ds)
  /-- The levels of the deepest of some entries. -/
  entryLevels : List (Scalar × Datum) → Nat
    | [] => 0
    | (_, d) :: es => max (levelsOf d) (entryLevels es)

/-- Whether a scalar is a text with half of a surrogate pair. -/
def isUnpaired : Scalar → Bool
  | .unpaired _ => true
  | _ => false

/-- Whether a value holds half of a surrogate pair anywhere. -/
def hasUnpaired : Datum → Bool
  | .scalar s => isUnpaired s
  | .list items => anyItem items
  | .dict entries => anyEntry entries
  | .set members => members.any isUnpaired
  | .pair key value => hasUnpaired key || hasUnpaired value
where
  /-- Whether one of some values does. -/
  anyItem : List Datum → Bool
    | [] => false
    | d :: ds => hasUnpaired d || anyItem ds
  /-- Whether one of some entries does. -/
  anyEntry : List (Scalar × Datum) → Bool
    | [] => false
    | (k, d) :: es => isUnpaired k || hasUnpaired d || anyEntry es

end Json

end DealWatch
