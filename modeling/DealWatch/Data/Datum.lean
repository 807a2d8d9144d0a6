import DealWatch.Calendar.Timestamp
import DealWatch.Number.Binary64
import DealWatch.Text.Halved

/-!
# Values of configuration and message documents

* `Scalar` is a value without parts, `Datum` any value: a scalar, a list, a dictionary, a set or a
  pair;
* `Datum.get?` looks a key up, `Datum.put` sets one;
* `Datum.truthy` says whether a value counts as present.

A dictionary keeps its keys in the order in which they were first set.
-/

namespace DealWatch

/-- A value without parts. -/
inductive Scalar where
  | null
  | flag (b : Bool)
  | int (i : Int)
  | float (x : Binary64)
  | text (s : String)
  /-- A text with half of a surrogate pair. -/
  | unpaired (t : HalvedText)
  | bytes (b : List UInt8)
  | date (d : Date)
  | time (t : Timestamp)
  deriving DecidableEq, Repr, Inhabited

/-- A text as a value. -/
def Scalar.ofText : Text → Scalar
  | .whole s => .text s
  | .halved t => .unpaired t

/-- A value. -/
inductive Datum where
  | scalar (s : Scalar)
  | list (items : List Datum)
  | dict (entries : List (Scalar × Datum))
  /-- Some scalars without repetition. -/
  | set (members : List Scalar)
  /-- A key of an ordered mapping with its value. -/
  | pair (key value : Datum)
  deriving Repr, Inhabited

/-- The entries of a dictionary. -/
abbrev Entries := List (Scalar × Datum)

namespace Datum

/-- The absent value. -/
@[match_pattern] abbrev null : Datum := .scalar .null

/-- A truth value. -/
@[match_pattern] abbrev flag (b : Bool) : Datum := .scalar (.flag b)

/-- An integer. -/
@[match_pattern] abbrev int (i : Int) : Datum := .scalar (.int i)

/-- A double-precision number. -/
@[match_pattern] abbrev float (x : Binary64) : Datum := .scalar (.float x)

/-- A text. -/
@[match_pattern] abbrev text (s : String) : Datum := .scalar (.text s)

/-- A natural number. -/
abbrev nat (n : Nat) : Datum := .int n

/-- A text that may be absent. -/
def optionalText : Option String → Datum
  | some s => .text s
  | none => .null

/-- An integer that may be absent. -/
def optionalInt : Option Int → Datum
  | some i => .int i
  | none => .null

/-- A dictionary with texts as its keys. -/
def record (entries : List (String × Datum)) : Datum :=
  .dict (entries.map fun (k, v) => (.text k, v))

end Datum

/-- Whether two scalars are the same key: a truth value and a number are the same key as an equal
number, and points in time with a zone as the same point in another zone. -/
def Scalar.sameKey : Scalar → Scalar → Bool
  | .flag b, .int i => i == b.toInt
  | .int i, .flag b => i == b.toInt
  | .flag b, .float x => x.compareInt b.toInt == some .eq
  | .float x, .flag b => x.compareInt b.toInt == some .eq
  | .int i, .float x => x.compareInt i == some .eq
  | .float x, .int i => x.compareInt i == some .eq
  | .float x, .float y => x.compare? y == some .eq || (x.isNan && y.isNan)
  | .time s, .time t => if s.instant?.isSome then s.instant? == t.instant? else s == t
  | a, b => a == b

namespace Entries

/-- The value under a key. -/
def get? {α : Type} (entries : List (Scalar × α)) (key : String) : Option α :=
  (entries.find? fun (k, _) => k == .text key).map (·.2)

/-- The text with halves of surrogate pairs under a key. -/
def halvedAt? (entries : List (Scalar × Datum)) (key : String) : Option HalvedText :=
  match get? entries key with
  | some (.scalar (.unpaired t)) => some t
  | _ => none

/-- The entries with a key set. A new key comes last, a known one keeps its place. -/
def put {α : Type} (key : Scalar) (value : α) : List (Scalar × α) → List (Scalar × α)
  | [] => [(key, value)]
  | (k, v) :: rest =>
    if k.sameKey key then (k, value) :: rest else (k, v) :: put key value rest

end Entries

namespace Datum

/-- The entries of a dictionary. -/
def entries? : Datum → Option Entries
  | .dict es => some es
  | _ => none

/-- The value under a key of a dictionary. -/
def get? (d : Datum) (key : String) : Option Datum := d.entries?.bind (Entries.get? · key)

/-- Whether a value counts as present: not null, zero, false or empty. -/
def truthy : Datum → Bool
  | .null => false
  | .flag b => b
  | .int i => i != 0
  | .float x => !x.isZero
  | .text s => s != ""
  | .scalar (.bytes b) => !b.isEmpty
  | .scalar _ => true
  | .list items => !items.isEmpty
  | .dict es => !es.isEmpty
  | .set members => !members.isEmpty
  | .pair _ _ => true

end Datum

end DealWatch
