import DealWatch.Calendar.Timestamp
import DealWatch.Number.Numeral
import DealWatch.Number.Word

/-!
# Reading points in time

A point in time is written as a date, a sign and a time of day, `2024-01-31T10:20:30.5+02:00`; the
seconds and what follows them may be missing, and the whole time too. It may also be written as a
number of seconds, or of milliseconds if it is large, since the start of 1970.

* `Timestamp.ofText?` reads a text;
* `Timestamp.ofSeconds?` and `Timestamp.ofFloat?` take numbers, `Timestamp.ofNumeral?` a number
  in text.
-/

namespace DealWatch

namespace Timestamp

/-- The value of two digits. -/
def twoDigits? (a b : Char) : Option Nat := do
  let a ← asciiDigit? a
  let b ← asciiDigit? b
  return 10 * a + b

/-- A date at the start of a text, and what follows. -/
def dateAt? : List Char → Option (Date × List Char)
  | a :: b :: c :: d :: '-' :: e :: f :: '-' :: g :: h :: rest => do
    let high ← twoDigits? a b
    let low ← twoDigits? c d
    let month ← twoDigits? e f
    let day ← twoDigits? g h
    let date : Date := ⟨100 * high + low, month, day⟩
    if date.isValid then some (date, rest) else none
  | _ => none

/-- The microseconds of the digits after a point, the seventh and later ones ignored. -/
def microsOf (ds : List Char) : Nat :=
  let ds := ds.take 6
  asciiNumber ds * tenTo (6 - ds.length : Nat)

/-- The seconds and microseconds at the start of a text, and what follows. -/
def secondsAt? : List Char → Option (Nat × Nat × List Char)
  | ':' :: a :: b :: rest => do
    let s ← twoDigits? a b
    if 59 < s then none
    else
      match rest with
      | p :: rest' =>
        if p = '.' || p = ',' then
          match rest'.takeWhile isAsciiDigit with
          | [] => none
          | ds => some (s, microsOf ds, rest'.drop ds.length)
        else some (s, 0, rest)
      | [] => some (s, 0, [])
  | ':' :: _ => none
  | rest => some (0, 0, rest)

/-- Two numbers of two digits, with or without a colon between them. -/
def hoursMinutes? : List Char → Option (Nat × Nat)
  | [a, b, ':', c, d] => do
    let h ← twoDigits? a b
    let m ← twoDigits? c d
    return (h, m)
  | [a, b, c, d] => do
    let h ← twoDigits? a b
    let m ← twoDigits? c d
    return (h, m)
  | _ => none

/-- The zone that a whole text writes. -/
def zone? : List Char → Option (Option Int)
  | [] => some none
  | ['Z'] => some (some 0)
  | ['z'] => some (some 0)
  | sign :: rest => do
    let ahead ← if sign = '+' then some (1 : Int)
      else if sign = '-' || sign = '\u2212' then some (-1)
      else none
    let (h, m) ← hoursMinutes? rest
    if 59 < m || 23 < h then none else some (some (ahead * ((h * 3600 + m * 60 : Nat) : Int)))

/-- A time of day and a zone that make up a whole text: the microseconds of the day and the zone. -/
def timeAndZone? : List Char → Option (Int × Option Int)
  | a :: b :: ':' :: c :: d :: rest => do
    let h ← twoDigits? a b
    let m ← twoDigits? c d
    if 23 < h || 59 < m then none
    else
      let (s, micros, rest) ← secondsAt? rest
      let zone ← zone? rest
      return (((h * 3600 + m * 60 + s : Nat) : Int) * microsPerSecond + micros, zone)
  | _ => none

/-- Whether a character may stand between date and time. -/
def joinsTime (c : Char) : Bool := c == 'T' || c == 't' || c == ' ' || c == '_'

/-- The least number that is taken for milliseconds. -/
def millisecondsFrom : Int := 20000000000

/-- The point a number of microseconds past the start of 1970, if it is in range. -/
def ofMicros? (micros : Int) : Option Timestamp :=
  if inRange micros then some (utc micros) else none

/-- The point a number of seconds, or of milliseconds if it is large, past the start of 1970. -/
def ofSeconds? (n : Int) : Option Timestamp :=
  if n.natAbs ≤ millisecondsFrom then ofMicros? (n * microsPerSecond) else ofMicros? (n * 1000)

/-- The same for a number with a part after the point, which counts to the microsecond. -/
def ofFloat? (x : Binary64) : Option Timestamp := do
  let large := x.gtInt millisecondsFrom || x.ltInt (-millisecondsFrom)
  let x := if large then x.divNat 1000 else x
  let whole ← x.floor?
  let rest := x.add (Binary64.ofInt (-whole))
  let micros ← (rest.mul (Binary64.ofInt microsPerSecond)).roundHalfAway?
  ofMicros? (whole * microsPerSecond + micros)

/-- The same for a number in text, which starts with a digit that a sign may stand before. An
exponent stands only after a point. -/
def ofNumeral? (cs : List Char) : Option Timestamp :=
  let (negative, cs) := splitSign cs
  let ds := cs.takeWhile isAsciiDigit
  let n : Int := asciiNumber ds
  if ds.isEmpty || !isWord n then none
  else
    match cs.drop ds.length with
    | [] => ofSeconds? (if negative then -n else n)
    | '.' :: _ => (unsignedFloat? negative cs).bind ofFloat?
    | _ => none

/-- The point that a text writes. -/
def ofText? (s : String) : Option Timestamp :=
  match dateAt? s.toList with
  | some (date, []) => some ⟨date.toDays * microsPerDay, none⟩
  | some (date, c :: rest) =>
    if joinsTime c then
      (timeAndZone? rest).map fun (micros, zone) => ⟨date.toDays * microsPerDay + micros, zone⟩
    else none
  | none => ofNumeral? s.toList

end Timestamp

end DealWatch
