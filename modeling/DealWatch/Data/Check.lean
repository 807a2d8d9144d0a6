import DealWatch.Data.Datum
import DealWatch.Number.Numeral
import DealWatch.Number.Word
import DealWatch.Text.Utf8

/-!
# Checking documents against the fields they should have

A check turns a value into a typed one or lists every problem it finds, each with the path of keys
to the value it concerns.

* `Problem` is a complaint at a path, `Verdict` the outcome of a check; verdicts are combined so
  that the problems of all parts are listed;
* `Check` is a check, with `Check.text`, `Check.int`, `Check.float` and so on for the common types;
* `Fields.required`, `Fields.withDefault` and `Fields.strictOptional` apply a check to a field of a
  dictionary.
-/

namespace DealWatch

/-- What can be wrong with a value. -/
inductive Complaint where
  | missing
  | textType
  | textUnicode
  | intType
  | intParsing
  | intParsingSize
  | intFromFloat
  | finiteNumber
  | floatType
  | floatParsing
  | flagType
  | flagParsing
  | listType
  | dictType
  | modelType
  | pathType
  | greaterThan
  | greaterThanEqual
  | lessThanEqual
  | valueError
  | timeType
  | timeParsing
  | jsonInvalid
  deriving DecidableEq, Repr, Inhabited

/-- The name of a complaint. -/
def Complaint.name : Complaint → String
  | .missing => "missing"
  | .textType => "string_type"
  | .textUnicode => "string_unicode"
  | .intType => "int_type"
  | .intParsing => "int_parsing"
  | .intParsingSize => "int_parsing_size"
  | .intFromFloat => "int_from_float"
  | .finiteNumber => "finite_number"
  | .floatType => "float_type"
  | .floatParsing => "float_parsing"
  | .flagType => "bool_type"
  | .flagParsing => "bool_parsing"
  | .listType => "list_type"
  | .dictType => "dict_type"
  | .modelType => "model_type"
  | .pathType => "path_type"
  | .greaterThan => "greater_than"
  | .greaterThanEqual => "greater_than_equal"
  | .lessThanEqual => "less_than_equal"
  | .valueError => "value_error"
  | .timeType => "datetime_type"
  | .timeParsing => "datetime_parsing"
  | .jsonInvalid => "json_invalid"

/-- A complaint about the value at a path of keys. -/
structure Problem where
  path : List String
  complaint : Complaint
  deriving DecidableEq, Repr, Inhabited

/-- The problem one key further down. -/
def Problem.under (key : String) (p : Problem) : Problem := { p with path := key :: p.path }

/-- The outcome of a check. -/
inductive Verdict (α : Type) where
  | accepted (a : α)
  | rejected (problems : List Problem)
  deriving Repr, Inhabited

namespace Verdict

variable {α β : Type}

/-- A problem of the whole value. -/
def refuse (c : Complaint) : Verdict α := .rejected [⟨[], c⟩]

/-- The verdict on a changed value. -/
def map (f : α → β) : Verdict α → Verdict β
  | .accepted a => .accepted (f a)
  | .rejected ps => .rejected ps

/-- The verdict on two parts, with the problems of both. -/
def ap (f : Verdict (α → β)) (a : Verdict α) : Verdict β :=
  match f, a with
  | .accepted f, .accepted a => .accepted (f a)
  | .accepted _, .rejected ps => .rejected ps
  | .rejected ps, .accepted _ => .rejected ps
  | .rejected ps, .rejected qs => .rejected (ps ++ qs)

instance : Functor Verdict := ⟨map, fun a v => v.map fun _ => a⟩

instance : Applicative Verdict where
  pure := .accepted
  seq f a := f.ap (a ())

/-- The verdict on a further check of an accepted value. -/
def andThen (v : Verdict α) (f : α → Verdict β) : Verdict β :=
  match v with
  | .accepted a => f a
  | .rejected ps => .rejected ps

/-- The verdict on a value under a key. -/
def under (key : String) : Verdict α → Verdict α
  | .accepted a => .accepted a
  | .rejected ps => .rejected (ps.map (Problem.under key))

/-- The verdicts on the items of a list, under their positions from `i` on. -/
def ofItems (i : Nat) : List (Verdict α) → Verdict (List α)
  | [] => .accepted []
  | v :: vs => List.cons <$> v.under (toString i) <*> ofItems (i + 1) vs

end Verdict

/-- A check of a value. -/
abbrev Check (α : Type) := Datum → Verdict α

namespace Check

/-- A text, or bytes that are one in UTF-8. Of a text with halves of surrogate pairs it is what can
be shown. -/
def text : Check String
  | .text s => .accepted s
  | .scalar (.unpaired t) => .accepted t.shown
  | .scalar (.bytes b) =>
    match ofUtf8? b with
    | some s => .accepted s
    | none => .refuse .textUnicode
  | _ => .refuse .textType

/-- A text and nothing that only stands for one, as far as it can be shown. -/
def strictText : Check String
  | .text s => .accepted s
  | .scalar (.unpaired t) => .accepted t.shown
  | _ => .refuse .textType

/-- An integer and nothing that only stands for one. -/
def strictInt : Check Int
  | .int i => .accepted i
  | _ => .refuse .intType

/-- The integer that a double-precision number stands for, which must lie inside the words. -/
def intOfFloat (x : Binary64) : Verdict Int :=
  if !x.isFinite then .refuse .finiteNumber
  else if !x.isIntegral then .refuse .intFromFloat
  else
    match x.truncate? with
    | some i =>
      if -wordLimit < i && i < wordLimit then .accepted i else .refuse .intParsingSize
    | none => .refuse .finiteNumber

/-- The text of a text or of bytes; other bytes have a text that writes nothing. -/
def wording? : Datum → Option String
  | .text s => some s
  | .scalar (.bytes b) => some ((ofUtf8? b).getD "")
  | _ => none

/-- The integer that a text writes. -/
def intOfText (s : String) : Verdict Int :=
  match documentInt s with
  | .value i => .accepted i
  | .tooLong => .refuse .intParsingSize
  | .malformed => .refuse .intParsing

/-- An integer, or a truth value, a double-precision number or a text that stands for one. -/
def int : Check Int
  | .int i => .accepted i
  | .flag b => .accepted b.toInt
  | .float x => intOfFloat x
  | .scalar (.unpaired _) => .refuse .textUnicode
  | d =>
    match wording? d with
    | some s => intOfText s
    | none => .refuse .intType

/-- A double-precision number, or an integer, a truth value or a text that stands for one. -/
def float : Check Binary64
  | .float x => .accepted x
  | .int i =>
    match Binary64.ofInt? i with
    | some x => .accepted x
    | none => .refuse .floatType
  | .flag b => .accepted (Binary64.ofInt b.toInt)
  | .scalar (.unpaired _) => .refuse .textUnicode
  | d =>
    match wording? d with
    | some s =>
      match documentFloat? s with
      | some x => .accepted x
      | none => .refuse .floatParsing
    | none => .refuse .floatType

/-- The words for truth and for falsehood. -/
def flagWords : List String × List String :=
  (["1", "true", "t", "yes", "y", "on"], ["0", "false", "f", "no", "n", "off"])

/-- The truth value that an integer stands for. -/
def flagOfInt (i : Int) : Verdict Bool :=
  if i = 0 then .accepted false else if i = 1 then .accepted true else .refuse .flagParsing

/-- The truth value that a word stands for. -/
def flagOfText (s : String) : Verdict Bool :=
  let word := String.ofList (asciiLower s.toList)
  if flagWords.1.contains word then .accepted true
  else if flagWords.2.contains word then .accepted false
  else .refuse .flagParsing

/-- A truth value, or a number or a word that stands for one. -/
def flag : Check Bool
  | .flag b => .accepted b
  | .int i => if isWord i then flagOfInt i else .refuse .flagType
  | .float x =>
    match intOfFloat x with
    | .accepted i => flagOfInt i
    | .rejected _ => .refuse .flagType
  | .scalar (.unpaired _) => .refuse .textUnicode
  | d =>
    match wording? d with
    | some s => flagOfText s
    | none => .refuse .flagType

/-- An absent value, or one that passes a check. -/
def optional {α : Type} (check : Check α) : Check (Option α)
  | .null => .accepted none
  | d => some <$> check d

/-- The items of a list, or the members of a set. -/
def list {α : Type} (check : Check α) : Check (List α)
  | .list items => Verdict.ofItems 0 (items.map check)
  | .set members => Verdict.ofItems 0 (members.map fun s => check (.scalar s))
  | _ => .refuse .listType

/-- An integer within bounds. -/
def intWithin (low high : Int) : Check Int := fun d =>
  (int d).andThen fun i =>
    if i < low then .refuse .greaterThanEqual
    else if high < i then .refuse .lessThanEqual
    else .accepted i

/-- A double-precision number above zero. -/
def positiveFloat : Check Binary64 := fun d =>
  (float d).andThen fun x => if x.gtInt 0 then .accepted x else .refuse .greaterThan

/-- The check of a dictionary by its fields. -/
def fields {α : Type} (check : Entries → Verdict α) : Check α
  | .dict es => check es
  | _ => .refuse .modelType

end Check

namespace Fields

variable {α : Type}

/-- A field that must be there. -/
def required (es : Entries) (key : String) (check : Check α) : Verdict α :=
  match Entries.get? es key with
  | some d => (check d).under key
  | none => .rejected [⟨[key], .missing⟩]

/-- A field that has a default. -/
def withDefault (es : Entries) (key : String) (fallback : α) (check : Check α) : Verdict α :=
  match Entries.get? es key with
  | some d => (check d).under key
  | none => .accepted fallback

/-- A field that may be absent or null. -/
def optional (es : Entries) (key : String) (check : Check α) : Verdict (Option α) :=
  withDefault es key none (Check.optional check)

end Fields

end DealWatch
