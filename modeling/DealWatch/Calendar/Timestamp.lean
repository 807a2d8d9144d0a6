import DealWatch.Calendar.Date

/-!
# Points in time

A point in time is what a wall clock shows, to the microsecond, and how far that clock is ahead of
universal time, if that is known.

* `Timestamp.instant?` is the point itself, where the zone is known;
* `Timestamp.isBefore?` compares two points, which needs the zones of both or of none;
* `Timestamp.shift?` moves a point, within the years 1 to 9999;
* `Timestamp.isoText` and `Timestamp.compactText` are its texts.
-/

namespace DealWatch

/-- The microseconds of a second. -/
def microsPerSecond : Int := 1000000

/-- The microseconds of a day. -/
def microsPerDay : Int := 86400 * microsPerSecond

/-- A point in time. -/
structure Timestamp where
  /-- The microseconds that the wall clock is past the start of 1970. -/
  wall : Int
  /-- The seconds that the wall clock is ahead of universal time. -/
  offset : Option Int
  deriving DecidableEq, Repr, Inhabited

namespace Timestamp

/-- The point in universal time a number of microseconds past the start of 1970. -/
def utc (micros : Int) : Timestamp := ⟨micros, some 0⟩

/-- The microseconds past the start of 1970 in universal time. -/
def instant? (t : Timestamp) : Option Int := t.offset.map fun o => t.wall - o * microsPerSecond

/-- Whether a point is before another one; unknown if only one of them has a zone. -/
def isBefore? (s t : Timestamp) : Option Bool :=
  match s.instant?, t.instant? with
  | some x, some y => some (x < y)
  | none, none => some (s.wall < t.wall)
  | _, _ => none

/-- The wall clock at the start of the year 1. -/
def earliest : Int := Date.toDays ⟨1, 1, 1⟩ * microsPerDay

/-- The wall clock after the end of the year 9999. -/
def latest : Int := (Date.toDays ⟨9999, 12, 31⟩ + 1) * microsPerDay

/-- Whether the wall clock shows one of the years 1 to 9999. -/
def inRange (wall : Int) : Bool := earliest ≤ wall && wall < latest

/-- The point a number of microseconds later, if the wall clock can show it. -/
def shift? (t : Timestamp) (micros : Int) : Option Timestamp :=
  if inRange (t.wall + micros) then some { t with wall := t.wall + micros } else none

/-- The date that the wall clock shows. -/
def date (t : Timestamp) : Date := Date.ofDays (t.wall / microsPerDay)

/-- The microseconds of the day that the wall clock shows. -/
def microOfDay (t : Timestamp) : Nat := (t.wall % microsPerDay).toNat

/-- The hours, minutes and seconds of the day as text. -/
def clockText (t : Timestamp) : String :=
  let s := t.microOfDay / 1000000
  padded 2 (s / 3600) ++ ":" ++ padded 2 (s / 60 % 60) ++ ":" ++ padded 2 (s % 60)

/-- The part of the second as text; nothing if it is zero. -/
def fractionText (t : Timestamp) : String :=
  let micro := t.microOfDay % 1000000
  if micro = 0 then "" else "." ++ padded 6 micro

/-- A distance from universal time as text. Seconds are written only if there are any. -/
def offsetText (o : Int) : String :=
  let s := o.natAbs
  (if o < 0 then "-" else "+") ++ padded 2 (s / 3600) ++ ":" ++ padded 2 (s / 60 % 60) ++
    (if s % 60 = 0 then "" else ":" ++ padded 2 (s % 60))

/-- The point as text, with the given sign between date and time. -/
def textWith (separator : String) (t : Timestamp) : String :=
  t.date.isoText ++ separator ++ t.clockText ++ t.fractionText

/-- The point as text with its distance from universal time. -/
def isoText (t : Timestamp) : String := t.textWith "T" ++ (t.offset.map offsetText).getD ""

/-- The point as text with `Z` for universal time itself. -/
def compactText (t : Timestamp) : String :=
  t.textWith "T" ++ match t.offset with
    | none => ""
    | some o => if o = 0 then "Z" else offsetText o

end Timestamp

end DealWatch
