/-!
# Dates of the Gregorian calendar

* `Date.toDays` counts the days from the first of January 1970, `Date.ofDays` undoes it;
* `Date.isValid` says which dates exist in the years 1 to 9999;
* `Date.isoText` is the text `2024-01-31`.
-/

namespace DealWatch

/-- A number in base ten with leading zeros. -/
def padded (width n : Nat) : String :=
  let digits := Nat.toDigits 10 n
  String.ofList (List.replicate (width - digits.length) '0' ++ digits)

/-- A date. -/
structure Date where
  year : Nat
  month : Nat
  day : Nat
  deriving DecidableEq, Repr, Inhabited

namespace Date

/-- Whether a year has 366 days. -/
def isLeap (year : Nat) : Bool := year % 4 = 0 && (year % 100 ≠ 0 || year % 400 = 0)

/-- The number of days of a month. -/
def daysIn (year month : Nat) : Nat :=
  if month = 2 then (if isLeap year then 29 else 28)
  else if month = 4 || month = 6 || month = 9 || month = 11 then 30
  else 31

/-- Whether a date exists. -/
def isValid (d : Date) : Bool :=
  1 ≤ d.year && d.year ≤ 9999 && 1 ≤ d.month && d.month ≤ 12 && 1 ≤ d.day &&
    d.day ≤ daysIn d.year d.month

/-- The days from the first of March of the year 0 to the first of January 1970. -/
def epoch : Int := 719468

/-- The days from the first of January 1970. Years are counted from March, so that the leap day is
the last one. -/
def toDays (d : Date) : Int :=
  let y : Int := if d.month ≤ 2 then (d.year : Int) - 1 else d.year
  let century := y / 400
  let ofCentury := y - century * 400
  let month := (d.month + 9) % 12
  let dayOfYear : Int := (153 * month + 2) / 5 + d.day - 1
  century * 146097 + ofCentury * 365 + ofCentury / 4 - ofCentury / 100 + dayOfYear - epoch

/-- The date a number of days after the first of January 1970. -/
def ofDays (days : Int) : Date :=
  let z := days + epoch
  let century := z / 146097
  let dayOfCentury := z - century * 146097
  let yearOfCentury :=
    (dayOfCentury - dayOfCentury / 1460 + dayOfCentury / 36524 - dayOfCentury / 146096) / 365
  let dayOfYear := dayOfCentury - (365 * yearOfCentury + yearOfCentury / 4 - yearOfCentury / 100)
  let month := (5 * dayOfYear + 2) / 153
  let day := dayOfYear - (153 * month + 2) / 5 + 1
  let civilMonth := if month < 10 then month + 3 else month - 9
  let year := yearOfCentury + century * 400 + (if civilMonth ≤ 2 then 1 else 0)
  ⟨year.toNat, civilMonth.toNat, day.toNat⟩

/-- The date as text. -/
def isoText (d : Date) : String :=
  padded 4 d.year ++ "-" ++ padded 2 d.month ++ "-" ++ padded 2 d.day

end Date

end DealWatch
