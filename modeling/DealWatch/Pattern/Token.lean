import DealWatch.Pattern.Basic
import DealWatch.Text.Alphanumeric
import DealWatch.Text.Blank
import DealWatch.Text.Hexadecimal
import DealWatch.Text.Quoted
import DealWatch.Text.Tabs

/-!
# Tokens of pattern texts

A text is cut into tokens after its tabs are expanded. Spaces and line breaks between the tokens
are skipped.

* `Token` is a symbol or a keyword with its location;
* `Fault` is what can be wrong with a text, `SyntaxError` adds the text and the column;
* `scan` cuts a text into tokens.
-/

namespace DealWatch

namespace Pattern

/-- What a token is. -/
inductive TokenKind where
  | opening
  | closing
  | negation
  | connective (c : Connective)
  | keyword (text : String)
  deriving DecidableEq, Repr, Inhabited

/-- A token. The location of a keyword is the offset of its first character, that of a symbol the
offset at which the token before it ends. -/
structure Token where
  kind : TokenKind
  location : Nat
  deriving DecidableEq, Repr, Inhabited

/-- What can be wrong with the text of a pattern. -/
inductive Fault where
  | emptyKeyword
  | badCharacter (c : Char)
  | strayCharacter (c : Char)
  | expectedEnd
  | expectedOperand
  | expectedConnective
  | unmatchedClosing
  | unclosedOpening
  deriving DecidableEq, Repr, Inhabited

/-- The words for the tokens that may follow an operand. -/
def connectiveExpectation : String := "expected '&&', '||' or ')'"

/-- The words for a fault. -/
def Fault.message : Fault → String
  | .emptyKeyword => "empty keyword, check quotes"
  | .badCharacter c => "unexpected character " ++ quoted (String.singleton c) ++ " in keyword"
  | .strayCharacter c =>
    "unexpected character " ++ quoted (String.singleton c) ++ ", " ++ connectiveExpectation
  | .expectedEnd => "Expected end of text"
  | .expectedOperand => "expected '(', '!' or keyword"
  | .expectedConnective => connectiveExpectation
  | .unmatchedClosing => "unmatched ')'"
  | .unclosedOpening => "unclosed '('"

/-- A fault in a text, at a column counted from one. -/
structure SyntaxError where
  source : String
  column : Nat
  fault : Fault
  deriving DecidableEq, Repr, Inhabited

/-- The words for an error. -/
def SyntaxError.message (e : SyntaxError) : String :=
  "column " ++ toString e.column ++ ": " ++ e.fault.message ++ " in pattern " ++ quoted e.source

/-! ### Lexemes -/

/-- Whether a character between tokens is skipped. -/
def isSkipped (c : Char) : Bool := c == ' ' || c == '\t' || c == '\n' || c == '\r'

/-- Whether a character ends a keyword without quotes. -/
def interruptsKeyword (c : Char) : Bool :=
  isBlank c || c == '!' || c == '&' || c == '|' || c == '(' || c == ')'

/-- Whether a character may stand between the quotes of a keyword. -/
def isQuotable (c : Char) : Bool := c != '"' && c != '\n' && c != '\r'

/-- Whether a character is a digit of base eight. -/
def isOctalDigit (c : Char) : Bool := '0' ≤ c && c ≤ '7'

/-- The text between two quotes with its escapes resolved. A backslash that starts no escape
stands for itself, and one before a digit and a three is left out. -/
def unescape : List Char → List Char
  | '\\' :: 't' :: rest => '\t' :: unescape rest
  | '\\' :: 'n' :: rest => '\n' :: unescape rest
  | '\\' :: 'f' :: rest => '\x0c' :: unescape rest
  | '\\' :: 'r' :: rest => '\r' :: unescape rest
  | '\\' :: 'x' :: c :: '2' :: rest =>
    match hexValue? c with
    | some n => Char.ofNat (16 * n + 2) :: unescape rest
    | none => '\\' :: unescape ('x' :: c :: '2' :: rest)
  | '\\' :: 'u' :: c :: '4' :: rest =>
    match hexValue? c with
    | some n => Char.ofNat (16 * n + 4) :: unescape rest
    | none => '\\' :: unescape ('u' :: c :: '4' :: rest)
  | '\\' :: c :: '3' :: rest =>
    if isOctalDigit c then c :: '3' :: unescape rest
    else '\\' :: unescape (c :: '3' :: rest)
  | '\\' :: '0' :: rest => '\x00' :: unescape rest
  | c :: rest => c :: unescape rest
  | [] => []

/-- A fault at an offset. -/
abbrev Located := Nat × Fault

/-- What a keyword without quotes is, and the number of characters after the first that it takes.
The first character outside the alphabet is a fault. -/
def bareKeyword (word : List Char) : Except Located (TokenKind × Nat) :=
  match word.zipIdx.find? fun (c, _) => !isAlphanumeric c with
  | some (c, i) => .error (i, .badCharacter c)
  | none => .ok (.keyword (String.ofList word), word.length - 1)

/-- The lexeme at the start of a text that is not blank: what it is and the number of characters
after the first that it takes. A fault is at an offset from the first character. -/
def lexeme (c : Char) (rest : List Char) : Except Located (TokenKind × Nat) :=
  let content := rest.takeWhile isQuotable
  if c = '"' && (rest.drop content.length).head? == some '"' then
    if content.isEmpty then .error (0, .emptyKeyword)
    else .ok (.keyword (String.ofList (unescape content)), content.length + 1)
  else if c = '(' then .ok (.opening, 0)
  else if c = ')' then .ok (.closing, 0)
  else if c = '!' then .ok (.negation, 0)
  else if c = '&' then
    if rest.head? == some '&' then .ok (.connective .both, 1) else .error (0, .strayCharacter c)
  else if c = '|' then
    if rest.head? == some '|' then .ok (.connective .either, 1) else .error (0, .strayCharacter c)
  else if isBlank c then .error (0, .expectedEnd)
  else bareKeyword ((c :: rest).takeWhile (!interruptsKeyword ·))

/-- The token of a lexeme that starts at an offset, where the last token ended at `previous`. -/
def TokenKind.at (kind : TokenKind) (previous offset : Nat) : Token :=
  match kind with
  | .keyword k => ⟨.keyword k, offset⟩
  | kind => ⟨kind, previous⟩

/-- The tokens of a text that starts at an offset, where the last token ended at `previous`. -/
def scanFrom (previous offset : Nat) : List Char → Except Located (List Token)
  | [] => .ok []
  | c :: rest =>
    if isSkipped c then scanFrom previous (offset + 1) rest
    else
      match lexeme c rest with
      | .error (i, fault) => .error (offset + i, fault)
      | .ok (kind, n) => do
        let tokens ← scanFrom (offset + 1 + n) (offset + 1 + n) (rest.drop n)
        .ok (kind.at previous offset :: tokens)
termination_by cs => cs.length
decreasing_by all_goals simp only [List.length_cons, List.length_drop]; omega

/-- The column of an offset: one more than the number of characters since the last line feed. -/
def columnOf (text : List Char) (offset : Nat) : Nat :=
  ((text.take offset).reverse.takeWhile (· != '\n')).length + 1

/-- The tokens of a text. Offsets count the characters after the tabs are expanded. -/
def scan (source : String) : Except SyntaxError (List Token) :=
  let text := expandTabs source.toList
  match scanFrom 0 0 text with
  | .ok tokens => .ok tokens
  | .error (offset, fault) => .error ⟨source, columnOf text offset, fault⟩

end Pattern

end DealWatch
