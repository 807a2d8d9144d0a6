import DealWatch.Yaml.Token

/-!
# Block scalars

A block scalar consists of the lines that are indented enough. In a literal one the lines are kept,
in a folded one the end of a line is a space where lines without further indentation meet. The
ends of lines at the end are kept, cut to one, or left out.

* `Yaml.readBlock` reads a block scalar.
-/

namespace DealWatch

namespace Yaml

open Cursor

/-- What happens to the ends of lines at the end of a block. -/
inductive Chomping where
  | strip
  | clip
  | keep
  deriving DecidableEq, Repr, Inhabited

/-- The sign for what happens at the end. -/
def chompingSign? : List Char → Option Chomping
  | '+' :: _ => some .keep
  | '-' :: _ => some .strip
  | _ => none

/-- The indentation that is given by a digit, which must not be zero. -/
def readIncrement (c : Cursor) : Outcome (Option Nat × Cursor) := do
  match c.rest with
  | ch :: _ =>
    if ch.isDigit then
      require (ch != '0')
      return (some (ch.toNat - 48), c.next)
    else return (none, c)
  | [] => return (none, c)

/-- The signs at the head of a block, in either order. -/
def readHead (c : Cursor) : Outcome (Chomping × Option Nat × Cursor) := do
  let (chomping, increment, c) ← (do
    match chompingSign? c.rest with
    | some chomping =>
      let (increment, c) ← readIncrement c.next
      return (chomping, increment, c)
    | none =>
      let (increment, c) ← readIncrement c
      match increment, chompingSign? c.rest with
      | some _, some chomping => return (chomping, increment, c.next)
      | _, _ => return (.clip, increment, c))
  require (atSpace c.rest)
  return (chomping, increment, c)

/-- The place after spaces, but not after a column. -/
def skipToColumn (indent : Nat) (c : Cursor) : Cursor :=
  c.advance (min (indent - c.column) (c.rest.takeWhile (· == ' ')).length)

/-- The ends of lines before the next line with text, with less than the indentation before them. -/
def emptyLines (indent : Nat) : Nat → Cursor → List Char × Cursor
  | 0, c => ([], c)
  | fuel + 1, c =>
    let c := skipToColumn indent c
    if c.atBreak then
      let (b, c) := c.lineBreak
      let (more, c) := emptyLines indent fuel c
      (b ++ more, c)
    else ([], c)

/-- The ends of lines before the first line with text, and the greatest column up to there. -/
def leadingLines : Nat → Nat → Cursor → List Char × Nat × Cursor
  | 0, deepest, c => ([], deepest, c)
  | fuel + 1, deepest, c =>
    if c.atBreak then
      let (b, c) := c.lineBreak
      let (more, deepest, c) := leadingLines fuel deepest c
      (b ++ more, deepest, c)
    else if c.rest.head? == some ' ' then leadingLines fuel (max deepest c.next.column) c.next
    else ([], deepest, c)

/-- A block without its last end of a line, that end, the ends after it, and the place after
them. -/
structure BlockLines where
  text : List Char
  last : List Char
  trailing : List Char
  after : Cursor
  deriving Inhabited

/-- Whether a line with text starts in the column of the block. -/
def atBlockLine (indent : Nat) (c : Cursor) : Bool := c.column == indent && !c.atEnd

/-- Whether a line is indented further. -/
def atDeeper (c : Cursor) : Bool := (c.rest.head?.map isBlank).getD false

/-- The lines of a block; `skipped` are the ends of lines before the next one. -/
def blockLines (folded : Bool) (indent : Nat) : Nat → List Char → Cursor → BlockLines
  | 0, skipped, c => ⟨[], [], skipped, c⟩
  | fuel + 1, skipped, c =>
    if atBlockLine indent c then
      let (line, d) := c.span fun ch => !isBreak ch
      let (last, d) := d.lineBreak
      let (trailing, d) := emptyLines indent d.rest.length d
      if atBlockLine indent d then
        let join :=
          if folded && last == ['\n'] && !atDeeper c && !atDeeper d then
            (if trailing.isEmpty then [' '] else [])
          else last
        let more := blockLines folded indent fuel trailing d
        { more with text := skipped ++ line ++ join ++ more.text }
      else ⟨skipped ++ line, last, trailing, d⟩
    else ⟨[], [], skipped, c⟩

/-- What is left of the ends of lines at the end. -/
def Chomping.apply (chomping : Chomping) (last trailing : List Char) : List Char :=
  match chomping with
  | .strip => []
  | .clip => last
  | .keep => last ++ trailing

/-- A block scalar inside a block with the given indentation. -/
def readBlock (folded : Bool) (outer : Int) (c : Cursor) : Outcome (Token × Cursor) := do
  let (chomping, increment, c) ← readHead c.next
  let c ← c.endLine
  let least := (max (outer + 1) 1).toNat
  let (skipped, indent, c) := match increment with
    | some n =>
      let indent := least + n - 1
      let (skipped, c) := emptyLines indent (c.rest.length + 1) c
      (skipped, indent, c)
    | none =>
      let (skipped, deepest, c) := leadingLines (c.rest.length + 1) 0 c
      (skipped, max least deepest, c)
  let block := blockLines folded indent (c.rest.length + 1) skipped c
  let text := block.text ++ chomping.apply block.last block.trailing
  return (.scalar (.whole (String.ofList text)) false, block.after)

end Yaml

end DealWatch
