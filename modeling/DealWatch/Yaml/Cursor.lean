import DealWatch.Failure

/-!
# Places in a YAML text

* `Yaml.Cursor` is a place in a text with its line and column;
* `Cursor.advance`, `Cursor.span` and `Cursor.lineBreak` move it forward;
* `Yaml.isPrintable` says which characters may stand in a text at all.

Lines end in a line feed, in U+0085, or in one of the separators U+2028 and U+2029.
-/

namespace DealWatch

namespace Yaml

/-- Whether a character may stand in a text. -/
def isPrintable (c : Char) : Bool :=
  c == '\t' || c == '\n' || (' ' ≤ c && c ≤ '~') || c == '\u0085' ||
    ('\u00a0' ≤ c && c ≤ '\ufffd') || '\uffff' < c

/-- Whether a character ends a line. -/
def isBreak (c : Char) : Bool := c == '\n' || c == '\u0085' || c == '\u2028' || c == '\u2029'

/-- Whether a character is a space or a tab. -/
def isBlank (c : Char) : Bool := c == ' ' || c == '\t'

/-- Whether a text is at the end of a line. -/
def atLineEnd : List Char → Bool
  | [] => true
  | c :: _ => isBreak c

/-- Whether a text is at the end of a line or at a space. -/
def atSpace (cs : List Char) : Bool := atLineEnd cs || cs.head? == some ' '

/-- Whether a text is at the end of a line, at a space or at a tab. -/
def atGap (cs : List Char) : Bool := atSpace cs || cs.head? == some '\t'

/-- Whether a text starts with a mark between documents. -/
def atSeparator (cs : List Char) : Bool :=
  ("---".toList.isPrefixOf cs || "...".toList.isPrefixOf cs) && atGap (cs.drop 3)

/-- Whether a character may stand in a name. -/
def isNameChar (c : Char) : Bool := c.isAlphanum || c == '-' || c == '_'

/-- The mark that may stand at the start of a text. -/
def byteOrderMark : Char := '\ufeff'

/-- A place in a text. -/
structure Cursor where
  rest : List Char
  index : Nat
  line : Nat
  column : Nat
  deriving Repr, Inhabited

namespace Cursor

/-- The start of a text. -/
def ofText (cs : List Char) : Cursor := ⟨cs, 0, 0, 0⟩

/-- The place one character further on. -/
def next (c : Cursor) : Cursor :=
  match c.rest with
  | [] => c
  | ch :: rest =>
    if isBreak ch then ⟨rest, c.index + 1, c.line + 1, 0⟩
    else ⟨rest, c.index + 1, c.line, if ch = byteOrderMark then c.column else c.column + 1⟩

/-- The place some characters further on. -/
def advance (c : Cursor) : Nat → Cursor
  | 0 => c
  | n + 1 => c.next.advance n

/-- The characters of a class that come next, and the place after them. -/
def span (c : Cursor) (p : Char → Bool) : List Char × Cursor :=
  let taken := c.rest.takeWhile p
  (taken, c.advance taken.length)

/-- The place after spaces. -/
def skipSpaces (c : Cursor) : Cursor := (c.span (· == ' ')).2

/-- The place after the rest of a line. -/
def skipLine (c : Cursor) : Cursor := (c.span fun ch => !isBreak ch).2

/-- The place after a comment, if there is one. -/
def skipComment (c : Cursor) : Cursor := if c.rest.head? == some '#' then c.skipLine else c

/-- Whether the text is over. -/
def atEnd (c : Cursor) : Bool := c.rest.isEmpty

/-- Whether a line ends here. -/
def atBreak (c : Cursor) : Bool := (c.rest.head?.map isBreak).getD false

/-- The end of a line that comes next, and the place after it. A separator stands for itself, any
other end for a line feed. -/
def lineBreak (c : Cursor) : List Char × Cursor :=
  match c.rest with
  | '\u2028' :: _ => (['\u2028'], c.next)
  | '\u2029' :: _ => (['\u2029'], c.next)
  | ch :: _ => if isBreak ch then (['\n'], c.next) else ([], c)
  | [] => ([], c)

/-- Fails unless a condition holds. -/
def require (condition : Bool) : Outcome Unit :=
  if condition then .ok () else .error .badYaml

/-- The place after the end of a line, before which only a comment may stand. -/
def endLine (c : Cursor) : Outcome Cursor := do
  let c := c.skipSpaces.skipComment
  require (atLineEnd c.rest)
  return c.lineBreak.2

end Cursor

end Yaml

end DealWatch
