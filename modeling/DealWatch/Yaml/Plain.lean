import DealWatch.Yaml.Quoted

/-!
# Plain scalars

A plain scalar ends at a colon before a gap and at a comment; inside brackets it ends at the signs
of collections too. It may go on in the next lines if they are indented enough.

* `Yaml.startsPlain` says where a plain scalar can start, `Yaml.readPlain` reads one.
-/

namespace DealWatch

namespace Yaml

open Cursor

/-- The signs that mean something inside brackets. -/
def flowSigns : List Char := [',', '[', ']', '\x7b', '\x7d']

/-- The signs that no plain scalar starts with; three of them may start one before other text. -/
def indicators : List Char := "-?:,[]#&*!|>'\"%@\x60".toList ++ ['\x7b', '\x7d']

/-- Whether a plain scalar can start here. -/
def startsPlain (flow : Bool) : List Char → Bool
  | [] => false
  | c :: rest =>
    !(isBlank c || isBreak c || indicators.contains c) ||
      (!atGap rest && (c == '-' || (!flow && (c == '?' || c == ':'))))

/-- The characters of a plain scalar up to the next gap or sign. -/
def plainRun (flow : Bool) : List Char → List Char
  | [] => []
  | c :: rest =>
    let isStop := isBlank c || isBreak c ||
      (c == ':' && (atGap rest || (flow && (rest.head?.map flowSigns.contains).getD false))) ||
      (flow && (c == '?' || flowSigns.contains c))
    if isStop then [] else c :: plainRun flow rest

/-- The ends of lines before the next text, unless a mark between documents comes first. -/
def plainBreaks : Nat → Cursor → Option (List Char) × Cursor
  | 0, c => (some [], c)
  | fuel + 1, c =>
    if atSeparator c.rest then (none, c)
    else
      let c := c.skipSpaces
      if c.atBreak then
        let (b, c) := c.lineBreak
        let (more, c) := plainBreaks fuel c
        (more.map (b ++ ·), c)
      else (some [], c)

/-- What stands between two parts of a plain scalar, whether a line ended there, and the place
after it. Without anything between them the scalar is over. -/
def plainGap (c : Cursor) : List Char × Bool × Cursor :=
  let (spaces, c) := c.span (· == ' ')
  if c.atBreak then
    let (first, c) := c.lineBreak
    match plainBreaks (c.rest.length + 1) c with
    | (some more, c) => (joinLines first more, true, c)
    | (none, c) => ([], true, c)
  else (spaces, false, c)

/-- The parts of a plain scalar, whether a line ended after them, and the place after them. -/
def readPlainFrom (flow : Bool) (indent : Int) : Nat → Cursor → List Char × Bool × Cursor
  | 0, c => ([], false, c)
  | fuel + 1, c =>
    let run := plainRun flow c.rest
    let (gap, ended, c) := plainGap (c.advance run.length)
    let isOver := gap.isEmpty || c.rest.head? == some '#' || (!flow && (c.column : Int) < indent) ||
      (plainRun flow c.rest).isEmpty
    if isOver then (run, ended, c)
    else
      let (more, ended, c) := readPlainFrom flow indent fuel c
      (run ++ gap ++ more, ended, c)

/-- A plain scalar, whether a line ended after it, and the place after it. -/
def readPlain (flow : Bool) (indent : Int) (c : Cursor) : Token × Bool × Cursor :=
  let (text, ended, c) := readPlainFrom flow indent c.rest.length c
  (.scalar (.whole (String.ofList text)) true, ended, c)

end Yaml

end DealWatch
