import DealWatch.Calendar.Timestamp
import DealWatch.Number.Binary64

/-!
# Durations

A duration is a whole number of microseconds.

* `microsOfSeconds?` rounds a number of seconds to microseconds, a half to the even neighbour;
* `secondsOfMicros` is the nearest number of seconds.
-/

namespace DealWatch

/-- The most days of a duration. -/
def maxDurationDays : Int := 999999999

/-- Whether a duration is not too long. -/
def durationFits (micros : Int) : Bool := (micros / microsPerDay).natAbs ≤ maxDurationDays

/-- A whole number with a part between minus one and one, rounded to the nearest whole number, a
half to the even one. -/
def roundRemainder (whole : Int) (part : Binary64) : Int :=
  let double := part.mul (Binary64.ofInt 2)
  match double.compareInt 1, double.compareInt (-1) with
  | some .gt, _ => whole + 1
  | _, some .lt => whole - 1
  | some .eq, _ => if whole % 2 = 0 then whole else whole + 1
  | _, some .eq => if whole % 2 = 0 then whole else whole - 1
  | _, _ => whole

/-- The microseconds of a finite number of seconds. The part after the point is multiplied as a
double-precision number before it is rounded. -/
def microsOfSeconds? (x : Binary64) : Option Int := do
  let whole ← x.truncate?
  let part := (Binary64.ofInt microsPerSecond).mul x.fraction
  let micros ← part.truncate?
  return roundRemainder (whole * microsPerSecond + micros) part.fraction

/-- The number of seconds nearest to a duration. -/
def secondsOfMicros (micros : Int) : Binary64 :=
  Binary64.ofRatio (micros < 0) micros.natAbs 1000000

end DealWatch
