import DealWatch.Text.Hexadecimal
import DealWatch.Yaml.Cursor

/-!
# Tokens of YAML

* `Yaml.Token` is a token; the tokens of a document say where its blocks begin and end;
* `Yaml.readName`, `Yaml.readTag` and `Yaml.readDirective` read tokens that are made of names.
-/

namespace DealWatch

namespace Yaml

/-- A line before a document. -/
inductive Directive where
  /-- The version of the language, by its first number. -/
  | version (major : Nat)
  /-- An abbreviation for the start of tags. -/
  | tag (handle start : String)
  | other
  deriving DecidableEq, Repr, Inhabited

/-- A token. -/
inductive Token where
  | directive (d : Directive)
  | documentStart
  | documentEnd
  | blockSequenceStart
  | blockMappingStart
  | blockEnd
  | flowSequenceStart
  | flowSequenceEnd
  | flowMappingStart
  | flowMappingEnd
  | blockEntry
  | flowEntry
  | key
  | value
  | alias (name : String)
  | anchor (name : String)
  /-- A tag by its handle, if it has one, and the rest. -/
  | tag (handle : Option String) (suffix : String)
  /-- A scalar; the text is absent if it has half of a surrogate pair. -/
  | scalar (text : Text) (plain : Bool)
  deriving DecidableEq, Repr, Inhabited

open Cursor

/-! ### Names of anchors -/

/-- The name after the sign of an anchor or an alias. -/
def readName (c : Cursor) : Outcome (String × Cursor) := do
  let (name, c) := c.next.span isNameChar
  require !name.isEmpty
  require (atGap c.rest || (c.rest.head?.map "?:,]\x7d%@\x60".toList.contains).getD false)
  return (String.ofList name, c)

/-! ### Tags -/

/-- Whether a character may stand in a tag; the sign of an escape is not counted. -/
def isTagChar (c : Char) : Bool := c.isAlphanum || "-;/?:@&=+$,_.!~*'()[]".toList.contains c

/-- The bytes of escapes at the start of a text, and what follows them. -/
def readEscapes : List Char → Outcome (List UInt8 × List Char)
  | '%' :: a :: b :: rest => do
    match hexValue? a, hexValue? b with
    | some x, some y =>
      let (bytes, rest) ← readEscapes rest
      return (UInt8.ofNat (16 * x + y) :: bytes, rest)
    | _, _ => .error .badYaml
  | '%' :: _ => .error .badYaml
  | cs => .ok ([], cs)

/-- The characters of a tag, at most `fuel` runs of them. -/
def readTagChars : Nat → Cursor → Outcome (List Char × Cursor)
  | 0, c => .ok ([], c)
  | fuel + 1, c => do
    let (run, c) := c.span isTagChar
    if c.rest.head? == some '%' then
      let (bytes, rest) ← readEscapes c.rest
      match ofUtf8? bytes with
      | none => .error .badYaml
      | some s =>
        let (more, c) ← readTagChars fuel (c.advance (c.rest.length - rest.length))
        return (run ++ s.toList ++ more, c)
    else return (run, c)

/-- The rest of a tag, which must not be empty. -/
def readTagRest (c : Cursor) : Outcome (String × Cursor) := do
  let (cs, d) ← readTagChars c.rest.length c
  require (d.index != c.index)
  return (String.ofList cs, d)

/-- The handle of a tag: an exclamation mark, or two with a name between them. -/
def readHandle (c : Cursor) : Outcome (String × Cursor) := do
  require (c.rest.head? == some '!')
  if (c.rest.drop 1).head? == some ' ' then return ("!", c.next)
  else
    let (name, d) := c.next.span isNameChar
    require (d.rest.head? == some '!')
    return ("!" ++ String.ofList name ++ "!", d.next)

/-- Whether a text has an exclamation mark before the next space. -/
def hasHandle (cs : List Char) : Bool :=
  (cs.takeWhile fun c => c != ' ' && !isBreak c).contains '!'

/-- A tag. -/
def readTag (c : Cursor) : Outcome (Token × Cursor) := do
  let (token, c) ← (do
    let after := c.rest.drop 1
    if after.head? == some '<' then
      let (suffix, c) ← readTagRest (c.advance 2)
      require (c.rest.head? == some '>')
      return (Token.tag none suffix, c.next)
    else if atGap after then return (Token.tag none "!", c.next)
    else
      let (handle, c) ← if hasHandle after then readHandle c else pure ("!", c.next)
      let (suffix, c) ← readTagRest c
      return (Token.tag (some handle) suffix, c))
  require (atSpace c.rest)
  return (token, c)

/-! ### Directives -/

/-- A number in a directive. -/
def readNumber (c : Cursor) : Outcome (Nat × Cursor) := do
  let (digits, c) := c.span Char.isDigit
  require !digits.isEmpty
  return (digits.foldl (fun n d => 10 * n + (d.toNat - 48)) 0, c)

/-- What a directive with the given name says. -/
def readDirectiveValue (name : String) (c : Cursor) : Outcome (Directive × Cursor) := do
  if name == "YAML" then
    let (major, c) ← readNumber c.skipSpaces
    require (c.rest.head? == some '.')
    let (_, c) ← readNumber c.next
    require (atSpace c.rest)
    return (.version major, c)
  else if name == "TAG" then
    let (handle, c) ← readHandle c.skipSpaces
    require (c.rest.head? == some ' ')
    let (start, c) ← readTagRest c.skipSpaces
    require (atSpace c.rest)
    return (.tag handle start, c)
  else return (.other, c.skipLine)

/-- A directive, with the end of its line. -/
def readDirective (c : Cursor) : Outcome (Token × Cursor) := do
  let (name, c) := c.next.span isNameChar
  require !name.isEmpty
  require (atSpace c.rest)
  let (directive, c) ← readDirectiveValue (String.ofList name) c
  return (.directive directive, ← c.endLine)

end Yaml

end DealWatch
