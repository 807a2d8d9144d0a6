import DealWatch.Number.Numeral
import DealWatch.Path
import DealWatch.Text.Split

/-!
# The command line

The words of the command line are options and other words. A long option starts with two dashes
and may carry its value behind an equals sign; short options are single letters behind one dash,
and several of them may share it. After two dashes alone every word stands for itself. If an option
is given twice, the later value counts.

* `OptionForm` describes an option, `Words.read` tells options and words apart;
* `CommandLine.read` says what the words ask for.
-/

namespace DealWatch

/-- An option: its long name, the letter of its short name, and whether a value belongs to it. -/
structure OptionForm where
  name : String
  letter : Option Char
  hasValue : Bool
  deriving DecidableEq, Repr, Inhabited

/-- The options that are given, with their values, and the other words. -/
structure Words where
  options : List (String × String)
  others : List String
  deriving DecidableEq, Repr, Inhabited

namespace Words

/-- Whether a word is read as an option. -/
def isOption (word : String) : Bool :=
  match word.toList with
  | '-' :: _ :: _ => true
  | _ => false

/-- The words with some options before them. -/
def withOptions (given : List (String × String)) (w : Words) : Words :=
  { w with options := given ++ w.options }

/-- The options that a word holds; the last of them may still need its value. -/
structure Reading where
  given : List (String × String)
  waiting : Option String
  deriving DecidableEq, Repr, Inhabited

/-- The long option in a word that starts with two dashes. -/
def longOption? (forms : List OptionForm) (word : List Char) : Option Reading := do
  let name := word.takeWhile (· != '=')
  let form ← forms.find? fun f => f.name == String.ofList name
  match word.drop name.length, form.hasValue with
  | [], true => return ⟨[], some form.name⟩
  | [], false => return ⟨[(form.name, "")], none⟩
  | _ :: value, true => return ⟨[(form.name, String.ofList value)], none⟩
  | _, false => none

/-- The short options of some letters. -/
def shortOptions? (forms : List OptionForm) : List Char → Option Reading
  | [] => some ⟨[], none⟩
  | c :: rest => do
    let form ← forms.find? fun f => f.letter == some c
    if form.hasValue then
      return if rest.isEmpty then ⟨[], some form.name⟩
        else ⟨[(form.name, String.ofList rest)], none⟩
    else
      let r ← shortOptions? forms rest
      return { r with given := (form.name, "") :: r.given }

/-- The options of a word. -/
def optionsOf? (forms : List OptionForm) (word : String) : Option Reading :=
  match word.toList with
  | '-' :: '-' :: rest => longOption? forms ('-' :: '-' :: rest)
  | cs => shortOptions? forms (cs.drop 1)

/-- Tells options and other words apart. If they are not mixed, the options end at the first other
word. None if an option is not known, or its value is missing or not wanted. -/
def read (forms : List OptionForm) (mixed : Bool) : List String → Option Words
  | [] => some ⟨[], []⟩
  | word :: rest =>
    if word == "--" then some ⟨[], rest⟩
    else if isOption word then
      match optionsOf? forms word with
      | none => none
      | some ⟨given, none⟩ => (read forms mixed rest).map (withOptions given)
      | some ⟨given, some name⟩ =>
        match rest with
        | [] => none
        | value :: rest => (read forms mixed rest).map (withOptions (given ++ [(name, value)]))
    else if mixed then (read forms mixed rest).map fun w => { w with others := word :: w.others }
    else some ⟨[], word :: rest⟩

/-- Whether an option is given. -/
def has (w : Words) (name : String) : Bool := w.options.any fun (n, _) => n == name

/-- The value of an option. -/
def value? (w : Words) (name : String) : Option String := w.options.reverse.lookup name

end Words

/-! ### Commands -/

/-- A command. -/
inductive Command where
  /-- Creates the store; if it is forced to, anew. -/
  | create (force : Bool)
  /-- Watches the source. -/
  | watch
  | rules
  /-- Shows what comes of a title. -/
  | check (title : String) (flair : Option String)
  /-- Shows what is stored and the latest matches. -/
  | status (limit : Int)
  /-- Sends a notification through a channel to see whether it arrives. -/
  | trial (channel : String)
  deriving DecidableEq, Repr, Inhabited

/-- What the words of the command line ask for. -/
inductive CommandLine where
  /-- A command with the settings of a file. -/
  | command (config : Path) (c : Command)
  | version
  | help
  | misuse
  deriving DecidableEq, Repr, Inhabited

namespace CommandLine

/-- The option that asks for help. -/
def helpForm : OptionForm := ⟨"--help", none, false⟩

/-- The options before the command. -/
def generalForms : List OptionForm := [⟨"--version", some 'v', false⟩, helpForm]

/-- The option that names the file with the settings. -/
def configForm : OptionForm := ⟨"--config", some 'c', true⟩

/-- The options of every command. -/
def commandForms : List (String × List OptionForm) := [
  ("init", [⟨"--force", some 'f', false⟩]),
  ("run", []),
  ("rules", []),
  ("check", [⟨"--flair", none, true⟩]),
  ("status", [⟨"--limit", some 'n', true⟩]),
  ("test-notify", [⟨"--channel", none, true⟩])]

/-- The number of recent matches that are shown. -/
def defaultLimit : Int := 10

/-- The channel that is tried. -/
def defaultChannel : String := "discord"

/-- The command of a name with its options and words. -/
def command? (name : String) (w : Words) : Option Command :=
  match name, w.others with
  | "init", [] => some (.create (w.has "--force"))
  | "run", [] => some .watch
  | "rules", [] => some .rules
  | "check", [title] => some (.check title (w.value? "--flair"))
  | "status", [] =>
    match w.value? "--limit" with
    | none => some (.status defaultLimit)
    | some s => (readInt? s).map .status
  | "test-notify", [] => some (.trial ((w.value? "--channel").getD defaultChannel))
  | _, _ => none

/-- Reads the words behind the name of a command. -/
def readCommand (name : String) (forms : List OptionForm) (words : List String) : CommandLine :=
  match Words.read (forms ++ [configForm, helpForm]) true words with
  | none => .misuse
  | some w =>
    if w.has "--help" then .help
    else
      match command? name w with
      | some c => .command (.ofText ((w.value? "--config").getD "config.yaml")) c
      | none => .misuse

/-- Reads words among which there is no command. -/
def readGeneral (words : List String) : CommandLine :=
  match (Words.read generalForms false words).bind fun w => w.options.head? with
  | some ("--version", _) => .version
  | some _ => .help
  | none => .misuse

/-- Reads the words of the command line. The first general option counts. What follows two dashes
and is no command is read as general options again. -/
def read (words : List String) : CommandLine :=
  match Words.read generalForms false words with
  | none => .misuse
  | some ⟨_ :: _, _⟩ => readGeneral words
  | some ⟨[], []⟩ => .misuse
  | some ⟨[], name :: rest⟩ =>
    match commandForms.lookup name with
    | some forms => readCommand name forms rest
    | none => readGeneral (name :: rest)

end CommandLine

end DealWatch
