import DealWatch.Number.Binary64
import DealWatch.Text.Blank
import DealWatch.Text.Digit

/-!
# Numbers read from text

Two readings of numbers in text occur. Numbers in message headers are read in full: the digits may
be those of any script. Numbers in documents are read in ASCII, and an integer may be written with
zeros after a point.

* `readInt?` and `readFloat?` read numbers in headers;
* `documentInt` and `documentFloat?` read numbers in documents.

In both, single underscores may stand between digits and blanks around the whole.
-/

namespace DealWatch

/-- The most digits of an integer that is read from text. -/
def maxIntegerDigits : Nat := 4300

/-- The value of an ASCII digit. -/
def asciiDigit? (c : Char) : Option Nat :=
  if '0' ≤ c && c ≤ '9' then some (c.toNat - 48) else none

/-- The number that a row of ASCII digits writes. -/
def asciiNumber (ds : List Char) : Nat := ds.foldl (fun n c => 10 * n + (c.toNat - 48)) 0

/-- Whether a character is an ASCII digit. -/
def isAsciiDigit (c : Char) : Bool := '0' ≤ c && c ≤ '9'

/-- A sign before a number, as whether it is a minus, and what follows. -/
def splitSign : List Char → Bool × List Char
  | '-' :: rest => (true, rest)
  | '+' :: rest => (false, rest)
  | cs => (false, cs)

/-- Whether a character is one of the six ASCII characters that may stand around a number. -/
def isAsciiSpace (c : Char) : Bool := c == ' ' || ('\t' ≤ c && c ≤ '\r')

/-- A character for text in ASCII. One in ASCII stands for itself, but for the spaces; outside, a
blank is a space, a digit of any script is a digit, and anything else is a question mark. -/
def asciiForm (c : Char) : Char :=
  if c.toNat < 127 then if isAsciiSpace c then ' ' else c
  else if isBlank c then ' '
  else
    match digitValue? c with
    | some n => Nat.digitChar n
    | none => '?'

/-- A text without the underscores between its digits; none if one stands elsewhere. -/
def dropUnderscores (previous : Char) : List Char → Option (List Char)
  | [] => some []
  | '_' :: rest =>
    match rest with
    | d :: _ =>
      if isAsciiDigit previous && isAsciiDigit d then dropUnderscores '_' rest else none
    | [] => none
  | c :: rest => (dropUnderscores c rest).map (c :: ·)

/-- A text in lower-case ASCII letters. -/
def asciiLower (cs : List Char) : List Char := cs.map Char.toLower

/-- The integer that a text writes. -/
def readInt? (s : String) : Option Int := do
  let (negative, cs) := splitSign (trimBy (· == ' ') (s.toList.map asciiForm))
  let ds ← dropUnderscores ' ' cs
  if ds.isEmpty || !ds.all isAsciiDigit || maxIntegerDigits < ds.length then none
  else
    let n : Int := asciiNumber ds
    some (if negative then -n else n)

/-- A number without its sign: digits, a point with digits, and an exponent, where one digit at
least stands before the exponent; or the name of infinity or of a NaN. -/
def unsignedFloat? (negative : Bool) (cs : List Char) : Option Binary64 :=
  let name := asciiLower cs
  if name == "inf".toList || name == "infinity".toList then some (.infinite negative)
  else if name == "nan".toList then some (.nan negative)
  else
    let whole := cs.takeWhile isAsciiDigit
    let rest := cs.drop whole.length
    let fraction := match rest with
      | '.' :: r => r.takeWhile isAsciiDigit
      | _ => []
    let rest := if rest.head? == some '.' then rest.drop (fraction.length + 1) else rest
    let digits := whole ++ fraction
    if digits.isEmpty then none
    else
      match rest with
      | [] => some (Binary64.ofDecimal negative (asciiNumber digits) (-(fraction.length : Int)))
      | e :: rest =>
        let (down, es) := splitSign rest
        if (e = 'e' || e = 'E') && !es.isEmpty && es.all isAsciiDigit then
          let n : Int := asciiNumber es
          some (Binary64.ofDecimal negative (asciiNumber digits)
            ((if down then -n else n) - fraction.length))
        else none

/-- The double-precision number that a text writes. -/
def readFloat? (s : String) : Option Binary64 := do
  let cs ← dropUnderscores ' ' (trimBy (· == ' ') (s.toList.map asciiForm))
  let (negative, cs) := splitSign cs
  unsignedFloat? negative cs

/-! ### Numbers in documents -/

/-- A text without underscores; none if it starts or ends with one or two stand together. -/
def stripUnderscores (cs : List Char) : Option (List Char) :=
  if cs.head? == some '_' || cs.getLast? == some '_' || (cs.zip (cs.drop 1)).contains ('_', '_')
  then none
  else some (cs.filter (· != '_'))

/-- The digits after the zeros and underscores that start a number; the last zero if nothing or a
point comes after them. -/
def stripZeros (cs : List Char) : Option (List Char) :=
  match cs with
  | '0' :: _ =>
    let rest := cs.dropWhile fun c => c == '0' || c == '_'
    match rest with
    | [] => some (cs.drop (cs.length - 1))
    | '.' :: _ => some (cs.drop (cs.length - rest.length - 1))
    | c :: _ => if isAsciiDigit c || c == '-' then some rest else none
  | c :: _ => if isAsciiDigit c then some cs else none
  | [] => none

/-- A number without a point and the zeros after it, of which there must be one; none if other
signs follow the point. -/
def stripPoint (cs : List Char) : Option (List Char) :=
  let whole := cs.takeWhile (· != '.')
  match cs.drop whole.length with
  | [] => some whole
  | _ :: zeros => if !zeros.isEmpty && zeros.all (· == '0') then some whole else none

/-- What reading an integer can come to. -/
inductive DocumentInt where
  | value (i : Int)
  | tooLong
  | malformed
  deriving DecidableEq, Repr, Inhabited

/-- The integer that a text in a document writes. A minus may come before the zeros at the start
or after them, and a plus before them. -/
def documentInt (s : String) : DocumentInt :=
  let (before, cs) := splitSign (trimBy isSpace s.toList)
  match (stripZeros cs).bind fun cs => (stripPoint cs).bind stripUnderscores with
  | none => .malformed
  | some cs =>
    let after := cs.head? == some '-'
    let negative := before || after
    let ds := if after then cs.drop 1 else cs
    if (before && after) || ds.isEmpty || !ds.all isAsciiDigit ||
        (ds.head? == some '0' && 1 < ds.length) then .malformed
    else if maxIntegerDigits < ds.length then .tooLong
    else
      let n : Int := asciiNumber ds
      .value (if negative then -n else n)

/-- The double-precision number that a text in a document writes. There are no blanks around one
with underscores. -/
def documentFloat? (s : String) : Option Binary64 :=
  let read (cs : List Char) : Option Binary64 :=
    let (negative, cs) := splitSign cs
    unsignedFloat? negative cs
  match read (trimBy isSpace s.toList) with
  | some x => some x
  | none => (stripUnderscores s.toList).bind read

end DealWatch
