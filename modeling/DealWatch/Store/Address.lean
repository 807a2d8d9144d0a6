import DealWatch.Failure
import DealWatch.Text.Blank
import DealWatch.Text.Percent
import DealWatch.Text.Split

/-!
# Addresses of stores

An address names the file of a store. Options may follow after a question mark, as keys with
values between ampersands. Bytes may be escaped by percent signs, and a plus sign in an option is a
blank.

* `Address` is a name with its options, `Address.ofText` reads one;
* `Address.check` says whether the options are written well;
* `Address.fileName` is the name of the file.
-/

namespace DealWatch

/-- A key with its values, of which there is one at least. -/
structure AddressOption where
  key : String
  first : String
  others : List String
  deriving DecidableEq, Repr, Inhabited

/-- The name of a store and the options for it. -/
structure Address where
  name : String
  options : List AddressOption
  deriving DecidableEq, Repr, Inhabited

/-- What the value of an option has to be. -/
inductive OptionKind where
  | flag
  | number
  | integer
  | text
  deriving DecidableEq, Repr, Inhabited

namespace AddressOption

/-- The truth value of an option. More than one value stands for truth. -/
def isTrue (o : AddressOption) : Except Failure Bool :=
  if !o.others.isEmpty then .ok true
  else
    match Check.flagOfText (trim o.first) with
    | .accepted b => .ok b
    | .rejected _ => .error (.badFlag o.first)

/-- Whether an option has a value of its kind. -/
def check (o : AddressOption) : OptionKind → Except Failure Unit
  | .text => .ok ()
  | .flag => o.isTrue.map fun _ => ()
  | .number =>
    if !o.others.isEmpty then .error (.wrongKind "an option is given more than once")
    else if (readFloat? o.first).isNone then .error (.badNumber o.first) else .ok ()
  | .integer =>
    if !o.others.isEmpty then .error (.wrongKind "an option is given more than once")
    else if (readInt? o.first).isNone then .error (.badInteger o.first) else .ok ()

/-- The value of an option as a text. -/
def valueText (o : AddressOption) : String :=
  if o.others.isEmpty then o.first
  else "(" ++ ", ".intercalate ((o.first :: o.others).map quoted) ++ ")"

end AddressOption

namespace Address

/-- The options of the store itself. -/
def ownOptions : List (String × OptionKind) := [
  ("uri", .flag), ("timeout", .number), ("isolation_level", .text), ("detect_types", .integer),
  ("check_same_thread", .flag), ("cached_statements", .integer)]

/-- A key or a value without escapes. -/
def partOf (cs : List Char) : String :=
  percentDecoded (String.ofList (cs.map fun c => if c = '+' then ' ' else c))

/-- The options with one more value for a key. -/
def addOption (options : List AddressOption) (key value : String) : List AddressOption :=
  if options.any (·.key == key) then
    options.map fun o => if o.key = key then { o with others := o.others ++ [value] } else o
  else options ++ [⟨key, value, []⟩]

/-- The options that a text writes. One without a value is left out. -/
def optionsOf (cs : List Char) : List AddressOption :=
  (splitAt '&' cs).foldl (fun options part =>
    match cutBefore '=' part with
    | (key, some (c :: value)) => addOption options (partOf key) (partOf (c :: value))
    | _ => options) []

/-- The address that a text writes. Its options end with the line. -/
def ofText (s : String) : Address :=
  let (name, query) := cutBefore '?' s.toList
  ⟨percentDecoded (String.ofList name), optionsOf ((query.getD []).takeWhile (· != '\n'))⟩

/-- The option with a key. -/
def option? (a : Address) (key : String) : Option AddressOption := a.options.find? (·.key == key)

/-- Whether the options of the store itself are written well. -/
def check (a : Address) : Except Failure Unit :=
  ownOptions.forM fun (key, kind) =>
    match a.option? key with
    | some o => o.check kind
    | none => .ok ()

/-- The name of the file of a store. It includes the options that are not for the store itself, in
the order of their keys, if the address asks for it. -/
def fileName (a : Address) : String :=
  let isWhole := (a.option? "uri").any fun o => o.isTrue matches .ok true
  let kept := a.options.filter fun o => !ownOptions.any (·.1 == o.key)
  if isWhole && !kept.isEmpty then
    a.name ++ "?" ++ "&".intercalate
      ((kept.mergeSort (·.key ≤ ·.key)).map fun o => o.key ++ "=" ++ o.valueText)
  else a.name

end Address

end DealWatch
