import DealWatch.Bytes.Base64
import DealWatch.Data.Datum
import DealWatch.Failure
import DealWatch.Text.Lower
import DealWatch.Yaml.Tag

/-!
# Scalars of YAML

* `Yaml.scalarValue` is the value that the text of a scalar writes as one of a kind;
* `Yaml.intValue`, `Yaml.floatValue` and `Yaml.timeValue` read numbers and points in time.
-/

namespace DealWatch

namespace Yaml

/-! ### Numbers -/

/-- The integer that a row of digits writes in a base up to sixteen; the base may be named first. -/
def readBase? (base : Nat) (mark : Char) (cs : List Char) : Option Int := do
  let (negative, cs) := splitSign (trimBy (· == ' ') (cs.map asciiForm))
  let cs := match cs with
    | '0' :: m :: rest => if m.toLower = mark then rest else cs
    | cs => cs
  let ds ← cs.mapM hexValue?
  guard (!ds.isEmpty && ds.all (· < base))
  let n : Int := (ds.foldl (fun n d => base * n + d) 0 : Nat)
  return if negative then -n else n

/-- The number of some parts, the last one counting ones and each one before it sixty times as
much. -/
def sixties (parts : List Int) : Int := parts.foldl (fun n part => 60 * n + part) 0

/-- The integer without its sign that a text writes. -/
def readUnsigned? (cs : List Char) : Option Int :=
  match cs with
  | ['0'] => some 0
  | '0' :: 'b' :: rest => readBase? 2 'b' rest
  | '0' :: 'x' :: rest => readBase? 16 'x' rest
  | '0' :: _ => readBase? 8 'o' cs
  | cs => ((colonParts cs).mapM fun part => readInt? (String.ofList part)).map sixties

/-- A text of a number without its underscores and its sign. -/
def numberText (s : String) : Outcome (Bool × List Char) :=
  let cs := s.toList.filter (· != '_')
  if cs.isEmpty then .error .emptyNumber else .ok (splitSign cs)

/-- A value that may be absent, in place of a scalar that does not write one. -/
def orBad {α : Type} : Option α → Outcome α
  | some a => .ok a
  | none => .error .badScalar

/-- The integer that a scalar writes. -/
def intValue (s : String) : Outcome Scalar := do
  let (negative, cs) ← numberText s
  if cs.isEmpty then .error .emptyNumber
  else
    let n ← orBad (readUnsigned? cs)
    return .int (if negative then -n else n)

/-- The number of some parts, the last one counting ones and each one before it sixty times as
much. -/
def floatSixties (parts : List Binary64) : Binary64 :=
  (parts.reverse.zipIdx.foldl (fun sum (part, k) =>
    Binary64.add sum (Binary64.mul part (Binary64.ofInt (Nat.pow 60 k : Nat)))) Binary64.zero)

/-- The double-precision number that a scalar writes. -/
def floatValue (s : String) : Outcome Scalar := do
  let (negative, cs) ← numberText (lower s)
  let x ← (match String.ofList cs with
    | ".inf" => .ok (Binary64.infinite false)
    | ".nan" => .ok (Binary64.nan true)
    | _ => do
      let parts ← orBad ((colonParts cs).mapM fun part => readFloat? (String.ofList part))
      match parts with
      | [x] => return x
      | parts => return floatSixties parts)
  return .float (if negative && !x.isNan then x.negate else x)

/-! ### Points in time -/

/-- The microseconds that the digits after a point write. -/
def microsOf (fraction : List Char) : Nat :=
  asciiNumber ((fraction ++ List.replicate 6 '0').take 6)

/-- The greatest distance from universal time, in seconds. -/
def zoneLimit : Nat := 86400

/-- The date or the point in time that a scalar writes. An end of a line after it does not count. -/
def timeValue (s : String) : Outcome Scalar := do
  match ClockReading.ofText? (dropFinalBreak s.toList) with
  | none => .error (.missingAttribute "not a point in time")
  | some r =>
    let date : Date := ⟨asciiNumber r.year, asciiNumber r.month, asciiNumber r.day⟩
    if !date.isValid then .error .badScalar
    else
      match r.clock with
      | none => return .date date
      | some (hour, minute, second, fraction) =>
        let (h, m, s) := (asciiNumber hour, asciiNumber minute, asciiNumber second)
        if 23 < h || 59 < m || 59 < s || zoneLimit ≤ (r.offset.getD 0).natAbs then
          .error .badScalar
        else
          let micros : Int := ((h * 60 + m) * 60 + s) * 1000000 + microsOf fraction
          return .time ⟨date.toDays * microsPerDay + micros, r.offset⟩

/-! ### Scalars -/

/-- The truth values of words in small letters. -/
def flagValues : List (String × Bool) := [("yes", true), ("no", false), ("true", true),
  ("false", false), ("on", true), ("off", false)]

/-- The truth value that a scalar writes. -/
def flagValue (s : String) : Outcome Scalar :=
  match flagValues.lookup (lower s) with
  | some b => .ok (.flag b)
  | none => .error (.missingKey (lower s))

/-- The bytes that a scalar writes. -/
def bytesValue (s : String) : Outcome Scalar :=
  if s.toList.all fun c => c.toNat < 128 then
    match ofBase64? s with
    | some bytes => .ok (.bytes bytes)
    | none => .error .badYaml
  else .error .badYaml

/-- The value of a scalar of a kind. -/
def scalarValue (tag : Tag) (text : Text) : Outcome Scalar :=
  match tag, text with
  | .null, _ => .ok .null
  | .text, t => .ok (.ofText t)
  | .flag, .whole s => flagValue s
  | .int, .whole s => intValue s
  | .float, .whole s => floatValue s
  | .time, .whole s => timeValue s
  | .bytes, .whole s => bytesValue s
  | .flag, .halved t => .error (.missingKey (lower t.shown))
  | .int, .halved _ => .error .badScalar
  | .float, .halved _ => .error .badScalar
  | .time, .halved _ => .error (.missingAttribute "not a point in time")
  | _, _ => .error .badYaml

end Yaml

end DealWatch
