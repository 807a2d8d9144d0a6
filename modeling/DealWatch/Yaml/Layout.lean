import DealWatch.Yaml.Block
import DealWatch.Yaml.Plain

/-!
# The layout of YAML

Blocks are written by indentation, and a key is known only by the colon after it. The tokens of a
text say where blocks begin and end and which nodes are keys.

* `Yaml.Layout` is the state of reading tokens: the columns of the open blocks and the nodes that
  may turn out to be keys;
* `Yaml.tokens` are the tokens of a text, up to what is wrong in it.
-/

namespace DealWatch

namespace Yaml

/-- A node that may turn out to be a key. -/
structure KeyCandidate where
  /-- The number of tokens before it. -/
  position : Nat
  /-- Whether the text is wrong if it is no key. -/
  required : Bool
  index : Nat
  line : Nat
  column : Nat
  deriving DecidableEq, Repr, Inhabited

/-- The state of reading tokens. -/
structure Layout where
  cursor : Cursor
  /-- The tokens so far, the latest first. -/
  tokens : List Token
  count : Nat
  /-- The number of open brackets. -/
  depth : Nat
  /-- The column of the innermost open block; less than zero without one. -/
  indent : Int
  /-- The columns of the blocks around it. -/
  outer : List Int
  /-- Whether a key can start here. -/
  keyAllowed : Bool
  /-- The candidates, each with the number of brackets that are open around it. -/
  candidates : List (Nat × KeyCandidate)
  deriving Inhabited

/-- A step of reading tokens. -/
abbrev Scan := StateT Layout Outcome

namespace Layout

/-- A text that is wrong. -/
def fail {α : Type} : Scan α := throw .badYaml

/-- Appends a token. -/
def emit (t : Token) : Scan Unit :=
  modify fun s => { s with tokens := t :: s.tokens, count := s.count + 1 }

/-- Puts a token behind the first tokens. -/
def insert (position : Nat) (t : Token) : Scan Unit :=
  modify fun s =>
    let n := s.count - position
    { s with tokens := s.tokens.take n ++ t :: s.tokens.drop n, count := s.count + 1 }

/-- Moves some characters on. -/
def move (n : Nat) : Scan Unit := modify fun s => { s with cursor := s.cursor.advance n }

/-- Whether brackets are open. -/
def inFlow (s : Layout) : Bool := 0 < s.depth

/-! ### Keys -/

/-- Forgets the candidate at the current depth, which must not be required. -/
def dropCandidate : Scan Unit := do
  let s ← get
  match s.candidates.lookup s.depth with
  | some k => if k.required then fail
  | none => pure ()
  modify fun s => { s with candidates := s.candidates.filter fun (d, _) => d != s.depth }

/-- The greatest number of characters of a key. -/
def longestKey : Nat := 1024

/-- Whether a candidate can no longer be a key: keys are short and stand on one line. -/
def isStale (c : Cursor) (k : KeyCandidate) : Bool :=
  k.line != c.line || longestKey < c.index - k.index

/-- Forgets the candidates that can no longer be keys, none of which may be required. -/
def dropStale : Scan Unit := do
  let s ← get
  if s.candidates.any fun (_, k) => isStale s.cursor k && k.required then fail
  set { s with candidates := s.candidates.filter fun (_, k) => !isStale s.cursor k }

/-- Notes that a key may start here. -/
def noteCandidate : Scan Unit := do
  let s ← get
  if s.keyAllowed then
    dropCandidate
    let c := s.cursor
    let k : KeyCandidate :=
      ⟨s.count, !s.inFlow && s.indent = c.column, c.index, c.line, c.column⟩
    modify fun s => { s with candidates := (s.depth, k) :: s.candidates }

/-- Says whether a key can start at the next token. -/
def allowKey (allowed : Bool) : Scan Unit := modify fun s => { s with keyAllowed := allowed }

/-! ### Blocks -/

/-- The ends of the blocks that are further in than a column. -/
def closeBlocks (column : Int) : List Int → Scan Unit
  | [] => return
  | i :: outer => do
    if column < (← get).indent then
      modify fun s => { s with indent := i, outer }
      emit .blockEnd
      closeBlocks column outer

/-- Ends the blocks that are further in than a column. Inside brackets columns do not count. -/
def unwind (column : Int) : Scan Unit := do
  let s ← get
  unless s.inFlow do closeBlocks column s.outer

/-- Begins a block at a column, unless the innermost one has that column; the token of its start
comes behind the first tokens. -/
def openBlock (column : Nat) (position : Nat) (t : Token) : Scan Unit := do
  let s ← get
  if s.indent < column then
    set { s with indent := (column : Int), outer := s.indent :: s.outer }
    insert position t

/-! ### Tokens -/

/-- Skips spaces, comments and ends of lines. -/
def skipGap : Nat → Scan Unit
  | 0 => return
  | fuel + 1 => do
    let s ← get
    let c := s.cursor.skipSpaces.skipComment
    if c.atBreak then
      set { s with cursor := c.lineBreak.2, keyAllowed := s.keyAllowed || !s.inFlow }
      skipGap fuel
    else set { s with cursor := c }

/-- Takes over what a reader has read. -/
def accept (read : Outcome (Token × Cursor)) : Scan Unit := do
  let (t, cursor) ← (read : Outcome (Token × Cursor))
  emit t
  modify fun s => { s with cursor }

/-- A token that can be a key: an alias, a node or what stands before one. -/
def acceptNode (read : Cursor → Outcome (Token × Cursor)) : Scan Unit := do
  noteCandidate
  allowKey false
  accept (read (← get).cursor)

/-- A directive. -/
def takeDirective : Scan Unit := do
  unwind (-1)
  dropCandidate
  allowKey false
  accept (readDirective (← get).cursor)

/-- A mark between documents. -/
def takeSeparator (t : Token) : Scan Unit := do
  unwind (-1)
  dropCandidate
  allowKey false
  move 3
  emit t

/-- An opening bracket. -/
def takeOpening (t : Token) : Scan Unit := do
  noteCandidate
  modify fun s => { s with depth := s.depth + 1 }
  allowKey true
  move 1
  emit t

/-- A closing bracket. -/
def takeClosing (t : Token) : Scan Unit := do
  dropCandidate
  modify fun s => { s with depth := s.depth - 1 }
  allowKey false
  move 1
  emit t

/-- A comma inside brackets. -/
def takeComma : Scan Unit := do
  allowKey true
  dropCandidate
  move 1
  emit .flowEntry

/-- The sign of an entry of a block. -/
def takeEntry : Scan Unit := do
  let s ← get
  unless s.inFlow do
    unless s.keyAllowed do fail
    openBlock s.cursor.column s.count .blockSequenceStart
  allowKey true
  dropCandidate
  move 1
  emit .blockEntry

/-- The sign of a key. -/
def takeKey : Scan Unit := do
  let s ← get
  unless s.inFlow do
    unless s.keyAllowed do fail
    openBlock s.cursor.column s.count .blockMappingStart
  allowKey (!s.inFlow)
  dropCandidate
  move 1
  emit .key

/-- The sign of a value: what stood before it was a key. -/
def takeValue : Scan Unit := do
  let s ← get
  match s.candidates.lookup s.depth with
  | some k =>
    set { s with candidates := s.candidates.filter fun (d, _) => d != s.depth }
    insert k.position .key
    unless s.inFlow do openBlock k.column k.position .blockMappingStart
    allowKey false
  | none =>
    unless s.inFlow do
      unless s.keyAllowed do fail
      openBlock s.cursor.column s.count .blockMappingStart
    allowKey (!s.inFlow)
    dropCandidate
  move 1
  emit .value

/-- A block scalar. -/
def takeBlock (folded : Bool) : Scan Unit := do
  allowKey true
  dropCandidate
  let s ← get
  accept (readBlock folded s.indent s.cursor)

/-- A plain scalar. -/
def takePlain : Scan Unit := do
  noteCandidate
  let s ← get
  let (t, ended, cursor) := readPlain s.inFlow (s.indent + 1) s.cursor
  set { s with cursor, keyAllowed := ended }
  emit t

/-- The token that starts with a character. -/
def takeToken (c : Cursor) (flow : Bool) (ch : Char) (rest : List Char) : Scan Unit :=
  let atStart := c.column == 0
  let isSign := flow || atGap rest
  let marks (mark : String) := atStart && mark.toList.isPrefixOf c.rest && atSeparator c.rest
  if atStart && ch = '%' then takeDirective
  else if marks "---" then takeSeparator .documentStart
  else if marks "..." then takeSeparator .documentEnd
  else if ch = '[' then takeOpening .flowSequenceStart
  else if ch = '\x7b' then takeOpening .flowMappingStart
  else if ch = ']' then takeClosing .flowSequenceEnd
  else if ch = '\x7d' then takeClosing .flowMappingEnd
  else if ch = ',' then takeComma
  else if ch = '-' && atGap rest then takeEntry
  else if ch = '?' && isSign then takeKey
  else if ch = ':' && isSign then takeValue
  else if ch = '*' then acceptNode fun c => do
    let (name, c) ← readName c
    return (.alias name, c)
  else if ch = '&' then acceptNode fun c => do
    let (name, c) ← readName c
    return (.anchor name, c)
  else if ch = '!' then acceptNode readTag
  else if ch = '|' && !flow then takeBlock false
  else if ch = '>' && !flow then takeBlock true
  else if ch = '\'' then acceptNode (readQuoted false)
  else if ch = '"' then acceptNode (readQuoted true)
  else if startsPlain flow c.rest then takePlain
  else fail

/-- Takes what stands before the next token and then the token; false at the end of the text. -/
def takeNext : Scan Bool := do
  skipGap ((← get).cursor.rest.length + 1)
  dropStale
  unwind (← get).cursor.column
  let s ← get
  match s.cursor.rest with
  | [] =>
    unwind (-1)
    dropCandidate
    return false
  | ch :: rest =>
    takeToken s.cursor s.inFlow ch rest
    return true

/-- The tokens whose place is known: those before the first node that may turn out to be a key. -/
def settled (s : Layout) : List Token :=
  let waiting := s.candidates.filter fun (_, k) => !isStale s.cursor k
  s.tokens.reverse.take (waiting.foldl (fun n (_, k) => min n k.position) s.count)

end Layout

/-- The tokens of a text, and what is wrong in the text behind them. -/
structure Tokens where
  known : List Token
  fault : Option Failure
  deriving Repr, Inhabited

/-- The tokens of the rest of a text, at most `fuel` of those that take characters. -/
def Layout.toTokens : Nat → Layout → Tokens
  | 0, s => ⟨s.settled, none⟩
  | fuel + 1, s =>
    match Layout.takeNext.run s with
    | .ok (true, s) => Layout.toTokens fuel s
    | .ok (false, s) => ⟨s.tokens.reverse, none⟩
    | .error f => ⟨s.settled, some f⟩

/-- A text without the mark at its start. -/
def dropMark (cs : List Char) : List Char :=
  if cs.head? == some byteOrderMark then cs.drop 1 else cs

/-- The tokens of a text. -/
def tokens (cs : List Char) : Outcome Tokens := do
  Cursor.require (cs.all isPrintable)
  let text := dropMark cs
  return Layout.toTokens (text.length + 1) ⟨Cursor.ofText text, [], 0, 0, -1, [], true, []⟩

end Yaml

end DealWatch
