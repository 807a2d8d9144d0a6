import DealWatch.Number.Numeral
import DealWatch.Text.Hexadecimal

/-!
# Literal values

A literal is a number, a text between quotes, one of a few words, or a group of literals in round or
curly brackets.

* `Literal.Kind` is what a literal writes, as far as it decides where the literal may stand;
* `isLiteral` says whether a text is a literal.
-/

namespace DealWatch

namespace Literal

/-- What a literal writes. -/
inductive Kind where
  | real
  | imaginary
  | text
  | bytes
  /-- A value that can be a key. -/
  | fixed
  /-- A value that cannot be a key. -/
  | changeable
  deriving DecidableEq, Repr, Inhabited

/-- What is left of a text, with the kind of a literal before it. -/
abbrev Reading := Option (Kind × List Char)

/-- What follows blanks; ends of lines count as such inside of brackets. -/
def skip (inside : Bool) (cs : List Char) : List Char :=
  cs.dropWhile fun c => c == ' ' || c == '\t' || c == '\x0c' || (inside && c == '\n')

/-! ### Numbers -/

/-- The digits of a base with single underscores before them. -/
def isDigits (p : Char → Bool) : List Char → Bool
  | [] => true
  | '_' :: c :: rest => p c && isDigits p rest
  | c :: rest => p c && isDigits p rest

/-- Whether a text is an integer in a base that is named first. -/
def isBased : List Char → Bool
  | '0' :: mark :: c :: rest =>
    let digits := isDigits (fun d => (hexValue? d).any fun n =>
      if mark.toLower = 'x' then true else if mark.toLower = 'o' then n < 8 else n < 2) (c :: rest)
    digits && "xobXOB".toList.contains mark
  | _ => false

/-- Whether an integer without a base starts with a zero that it must not have. -/
def hasIdleZero (cs : List Char) : Bool :=
  cs.head? == some '0' && cs.all (fun c => isAsciiDigit c || c == '_') &&
    cs.any fun c => c != '0' && c != '_'

/-- The kind of a text that is a number. -/
def numberKind? (cs : List Char) : Option Kind :=
  let isDecimal (cs : List Char) := cs.all (·.toNat < 128) && (readFloat? (String.ofList cs)).isSome
  if isBased cs then some .real
  else if cs.getLast?.any fun c => c == 'j' || c == 'J' then
    if isDecimal cs.dropLast then some .imaginary else none
  else if isDecimal cs && !hasIdleZero cs then some .real
  else none

/-- The characters of a number, where a sign may follow the mark of an exponent. -/
def numberChars (previous : Char) : List Char → List Char
  | [] => []
  | c :: rest =>
    let isSign := (c == '+' || c == '-') && previous.toLower == 'e'
    if c.isAlphanum || c == '.' || c == '_' || isSign then c :: numberChars c rest else []

/-- A number. -/
def readNumber (cs : List Char) : Reading := do
  let run := numberChars ' ' cs
  guard ((run.head?.map fun c => isAsciiDigit c || c == '.').getD false)
  return (← numberKind? run, cs.drop run.length)

/-- A number that may have a sign. -/
def readSigned (cs : List Char) : Reading :=
  match cs with
  | '+' :: rest => readNumber (skip false rest)
  | '-' :: rest => readNumber (skip false rest)
  | cs => readNumber cs

/-- A number, or the sum of a real and an imaginary one. -/
def readSum (inside : Bool) (cs : List Char) : Reading := do
  let (kind, rest) ← readSigned cs
  match skip inside rest with
  | c :: more =>
    if c == '+' || c == '-' then
      let (second, rest) ← readNumber (skip inside more)
      guard (kind == .real && second == .imaginary)
      return (.imaginary, rest)
    else return (kind, rest)
  | [] => return (kind, rest)

/-! ### Texts -/

/-- What follows the end of a text between quotes. -/
def afterQuote (quote : Char) : List Char → Option (List Char)
  | [] => none
  | '\n' :: _ => none
  | '\\' :: _ :: rest => afterQuote quote rest
  | c :: rest => if c = quote then some rest else afterQuote quote rest

/-- A text between quotes, with what may be written before it. -/
def readQuoted (cs : List Char) : Reading := do
  let mark := (cs.takeWhile Char.isAlpha).map Char.toLower
  match cs.drop mark.length with
  | quote :: rest =>
    guard (quote == '\'' || quote == '"')
    guard (["", "r", "u", "b", "br", "rb"].contains (String.ofList mark))
    return (if mark.contains 'b' then .bytes else .text, ← afterQuote quote rest)
  | [] => none

/-- Some texts that stand next to each other, all of one kind; at most `fuel` of them. -/
def readTexts (inside : Bool) : Nat → List Char → Reading
  | 0, _ => none
  | fuel + 1, cs => do
    let (kind, rest) ← readQuoted cs
    match readTexts inside fuel (skip inside rest) with
    | none => return (kind, rest)
    | some (next, rest) =>
      guard (kind == next)
      return (kind, rest)

/-! ### Literals -/

/-- A word that writes a value. -/
def readWord (cs : List Char) : Reading :=
  let word := String.ofList (cs.takeWhile Char.isAlpha)
  let rest := cs.drop word.length
  if ["None", "True", "False"].contains word then some (.fixed, rest)
  else if word == "set" && "()".toList.isPrefixOf rest then some (.changeable, rest.drop 2)
  else if "...".toList.isPrefixOf cs then some (.fixed, cs.drop 3)
  else none

/-- The kind of a group of literals, which can be a key if they all can. -/
def groupKind (kinds : List Kind) : Kind :=
  if kinds.contains .changeable then .changeable else .fixed

mutual

/-- A literal. -/
def read (inside : Bool) : Nat → List Char → Reading
  | 0, _ => none
  | fuel + 1, cs =>
    match cs with
    | '(' :: rest => do
      let (kinds, isOne, rest) ← readItems true fuel (skip true rest)
      match rest with
      | ')' :: rest => return (if isOne then kinds.headD .fixed else groupKind kinds, rest)
      | _ => none
    | '{' :: rest => do
      let (_, rest) ← readMembers none fuel (skip true rest)
      return (.changeable, rest)
    | cs => (readSum inside cs).or ((readTexts inside fuel cs).or (readWord cs))
termination_by structural fuel => fuel

/-- Some literals with commas between them, and whether it is one without a comma. -/
def readItems (inside : Bool) : Nat → List Char → Option (List Kind × Bool × List Char)
  | 0, _ => none
  | fuel + 1, cs =>
    match cs with
    | [] => some ([], false, cs)
    | ')' :: _ => some ([], false, cs)
    | cs => do
      let (kind, rest) ← read inside fuel cs
      match skip inside rest with
      | ',' :: rest =>
        let (kinds, _, rest) ← readItems inside fuel (skip inside rest)
        return (kind :: kinds, false, rest)
      | rest => return ([kind], true, rest)
termination_by structural fuel => fuel

/-- The members of a set or the entries of a dictionary up to the closing bracket, and whether they
are entries; it may be known already which of both they are. Members and keys must be able to be
keys. -/
def readMembers (pairs : Option Bool) : Nat → List Char → Option (Bool × List Char)
  | 0, _ => none
  | fuel + 1, cs =>
    match cs with
    | '}' :: rest => some (pairs.getD true, rest)
    | cs => do
      let (kind, rest) ← read true fuel cs
      guard (kind != .changeable)
      let (isPair, rest) ← (match skip true rest with
        | ':' :: more => do
          let (_, rest) ← read true fuel (skip true more)
          return (true, skip true rest)
        | rest => return (false, rest))
      guard (pairs.getD isPair == isPair)
      match rest with
      | ',' :: rest => readMembers (some isPair) fuel (skip true rest)
      | '}' :: rest => return (isPair, rest)
      | _ => none
termination_by structural fuel => fuel

end

end Literal

/-- Whether a text is a literal, or some of them with commas between them. -/
def isLiteral (cs : List Char) : Bool :=
  match Literal.readItems false (2 * cs.length + 2) (Literal.skip false cs) with
  | some (kinds, _, rest) => !kinds.isEmpty && rest.isEmpty
  | none => false

end DealWatch
