import DealWatch.Text.Alphanumeric
import DealWatch.Text.Emoji
import DealWatch.Text.Literal
import DealWatch.Text.Style

/-!
# Text with marked styles

A style begins with its name in square brackets and ends with a slash and the name in brackets, or
with a slash alone. A backslash before a tag makes it text; two backslashes before a tag are one.
A name with an at sign is that of an action, whose arguments stand after an equals sign.

* `Markup.parts` takes a text apart into texts and tags;
* `Markup.render` is the text without its tags, if every tag that ends a style has one that begins
  it; `Markup.Fault` says what can be wrong;
* `Markup.escape` writes a text so that no part of it is a tag.
-/

namespace DealWatch

namespace Markup

/-- A part of a text. -/
inductive Part where
  | text (cs : List Char)
  /-- A tag by its name and what follows the equals sign behind it. -/
  | tag (name : List Char) (arguments : List Char)
  deriving DecidableEq, Repr, Inhabited

/-- Whether the name of a tag can start with a character. -/
def startsTag (c : Char) : Bool := ('a' ≤ c && c ≤ 'z') || c == '#' || c == '/' || c == '@'

/-- The inside of a tag at the start of a text that follows an opening bracket. -/
def tagInside? (cs : List Char) : Option (List Char) :=
  let inside := cs.takeWhile fun c => c != ']' && c != '['
  match cs, cs.drop inside.length with
  | c :: _, ']' :: _ => if startsTag c then some inside else none
  | _, _ => none

/-- The backslashes at the start of a text, and the inside of a tag behind them. -/
def tagAt? (cs : List Char) : Option (Nat × List Char) :=
  let count := (cs.takeWhile (· == '\\')).length
  match cs.drop count with
  | '[' :: rest => (tagInside? rest).map fun inside => (count, inside)
  | _ => none

/-- The tag with the given inside; its name ends at an equals sign. -/
def tagOf (inside : List Char) : Part :=
  let (name, arguments) := cutBefore '=' inside
  .tag name (arguments.getD [])

/-- What backslashes before a tag and the tag stand for. -/
def tagParts (count : Nat) (inside : List Char) : List Part :=
  (if count < 2 then [] else [.text (List.replicate (count / 2) '\\')]) ++
    [if count % 2 = 1 then .text ('[' :: inside ++ [']']) else tagOf inside]

/-- The parts of a text. `plain` is the text before it since the last tag, the latest first. -/
def partsFrom (plain : List Char) : List Char → List Part
  | [] => [.text plain.reverse]
  | c :: rest =>
    match tagAt? (c :: rest) with
    | some (count, inside) =>
      .text plain.reverse :: tagParts count inside ++
        partsFrom [] (rest.drop (count + inside.length + 1))
    | none =>
      if c = '\\' then
        let more := rest.takeWhile (· == '\\')
        partsFrom (more ++ c :: plain) (rest.drop more.length)
      else partsFrom (c :: plain) rest
termination_by cs => cs.length
decreasing_by all_goals (simp only [List.length_drop, List.length_cons]; omega)

/-- The parts of a text. -/
def parts (cs : List Char) : List Part := partsFrom [] cs

/-! ### Rendering -/

/-- What is wrong with a text. -/
inductive Fault where
  /-- A tag ends a style that is not open. -/
  | notOpen
  /-- The arguments of an action are no literals. -/
  | badArguments
  /-- A colour has an empty part. -/
  | emptyPart
  deriving DecidableEq, Repr, Inhabited

/-- The words for a fault. -/
def Fault.message : Fault → String
  | .notOpen => "closing tag doesn't match any open tag"
  | .badArguments => "error parsing arguments"
  | .emptyPart => "invalid literal for int() with base 10: ''"

/-- The name of the style of a tag. -/
def styleOf (name : List Char) : Except Fault String :=
  match styleName name with
  | .ok s => .ok s
  | .error _ => .error .emptyPart

/-- Whether a character controls a terminal and is not shown. -/
def isControl (c : Char) : Bool :=
  c == '\x07' || c == '\x08' || c == '\x0b' || c == '\x0c' || c == '\r'

/-- A text without the backslashes before opening brackets. -/
def withBrackets : List Char → List Char
  | '\\' :: '[' :: rest => '[' :: withBrackets rest
  | c :: rest => c :: withBrackets rest
  | [] => []

/-- A text as it is shown. -/
def shown (cs : List Char) : List Char :=
  (withEmoji (withBrackets cs)).filter fun c => !isControl c

/-- A style that is open. -/
structure OpenStyle where
  name : String
  arguments : List Char
  deriving DecidableEq, Repr, Inhabited

/-- The arguments in brackets behind the name of an action; empty brackets if there are none, and
the whole text if it is no such name. -/
def argumentsIn (cs : List Char) : List Char :=
  let cs := trimBy isBlank cs
  let rest := cs.dropWhile fun c => isAlphanumeric c || c == '_' || c == '.'
  let isGroup := rest.head? == some '(' && rest.getLast? == some ')' && !rest.contains '\n'
  if rest.isEmpty then ['(', ')'] else if isGroup then rest else cs

/-- Ends a style. The arguments of an action must be literals. -/
def OpenStyle.close (s : OpenStyle) : Except Fault Unit :=
  if s.name.startsWith "@" && !s.arguments.isEmpty && !isLiteral (argumentsIn s.arguments) then
    .error .badArguments
  else .ok ()

/-- The first of the open styles with a name, and the others. -/
def takeStyle? (name : String) : List OpenStyle → Option (OpenStyle × List OpenStyle)
  | [] => none
  | s :: rest =>
    if s.name == name then some (s, rest)
    else (takeStyle? name rest).map fun (found, others) => (found, s :: others)

/-- The styles that are open after a tag, the innermost first. -/
def afterTag (openStyles : List OpenStyle) (name arguments : List Char) :
    Except Fault (List OpenStyle) :=
  match name with
  | '/' :: rest => do
    let taken ← if rest.all isBlank then
        pure (openStyles.head?.map fun s => (s, openStyles.drop 1))
      else do pure (takeStyle? (← styleOf rest) openStyles)
    match taken with
    | some (s, others) =>
      s.close
      return others
    | none => .error .notOpen
  | name => do return ⟨← styleOf name, arguments⟩ :: openStyles

/-- The text of some parts. -/
def renderParts (openStyles : List OpenStyle) : List Part → Except Fault (List Char)
  | [] => .ok []
  | .text cs :: rest => do return shown cs ++ (← renderParts openStyles rest)
  | .tag name arguments :: rest => do renderParts (← afterTag openStyles name arguments) rest

/-- A text without its tags. -/
def render (s : String) : Except Fault String :=
  (renderParts [] (parts s.toList)).map String.ofList

/-! ### Escaping -/

/-- A text with a backslash before every tag, and with the backslashes before it doubled. -/
def escapeTags : List Char → List Char
  | [] => []
  | c :: rest =>
    match tagAt? (c :: rest) with
    | some (count, inside) =>
      List.replicate (2 * count + 1) '\\' ++ '[' :: inside ++ ']' ::
        escapeTags (rest.drop (count + inside.length + 1))
    | none =>
      if c = '\\' then
        let more := rest.takeWhile (· == '\\')
        c :: more ++ escapeTags (rest.drop more.length)
      else c :: escapeTags rest
termination_by cs => cs.length
decreasing_by all_goals (simp only [List.length_drop, List.length_cons]; omega)

/-- Whether a text ends in a backslash that is alone. -/
def endsInBackslash (cs : List Char) : Bool :=
  match cs.reverse with
  | '\\' :: '\\' :: _ => false
  | '\\' :: _ => true
  | _ => false

/-- A text in which no part is a tag. A single backslash at its end is doubled. -/
def escape (s : String) : String :=
  let cs := escapeTags s.toList
  String.ofList (if endsInBackslash cs then cs ++ ['\\'] else cs)

end Markup

end DealWatch
