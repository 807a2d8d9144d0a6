import DealWatch.Yaml.Token

/-!
# Quoted scalars

A scalar in single quotes has no escapes but the doubled quote. One in double quotes has escapes
with a backslash. In both a single end of a line is a space, and of several the first one is left
out.

* `Yaml.readQuoted` reads a quoted scalar.
-/

namespace DealWatch

namespace Yaml

open Cursor

/-- The ends of lines up to the next character that is no blank. A mark between documents must not
stand at the start of a line. -/
def foldedBreaks : Nat → Cursor → Outcome (List Char × Cursor)
  | 0, c => .ok ([], c)
  | fuel + 1, c => do
    require !(atSeparator c.rest)
    let c := (c.span isBlank).2
    if c.atBreak then
      let (b, c) := c.lineBreak
      let (more, c) ← foldedBreaks fuel c
      return (b ++ more, c)
    else return ([], c)

/-- What the end of a line and those after it are replaced by. -/
def joinLines (first more : List Char) : List Char :=
  if first != ['\n'] then first ++ more else if more.isEmpty then [' '] else more

/-- The character of an escape with one sign. -/
def shortEscape? : Char → Option Char
  | '0' => some '\x00'
  | 'a' => some '\x07'
  | 'b' => some '\x08'
  | 't' => some '\t'
  | '\t' => some '\t'
  | 'n' => some '\n'
  | 'v' => some '\x0b'
  | 'f' => some '\x0c'
  | 'r' => some '\r'
  | 'e' => some '\x1b'
  | ' ' => some ' '
  | '"' => some '"'
  | '\\' => some '\\'
  | '/' => some '/'
  | 'N' => some '\u0085'
  | '_' => some '\u00a0'
  | 'L' => some '\u2028'
  | 'P' => some '\u2029'
  | _ => none

/-- The number of digits of an escape by its number. -/
def escapeDigits? : Char → Option Nat
  | 'x' => some 2
  | 'u' => some 4
  | 'U' => some 8
  | _ => none

/-- The code point with a number. -/
def pointOfNumber (n : Nat) : Outcome CodePoint :=
  if 0x80000000 ≤ n then .error .wideEscape
  else if 0x110000 ≤ n then .error .badScalar
  else .ok (.ofNat n)

/-- The code point that an escape with a number writes. -/
def readNumbered (digits : List Char) : Outcome CodePoint :=
  match digits.mapM hexValue? with
  | some ds => pointOfNumber (ds.foldl (fun n d => 16 * n + d) 0)
  | none => .error .badYaml

/-- What an escape writes; the place is after the backslash. -/
def readEscape (c : Cursor) : Outcome (List CodePoint × Cursor) := do
  match c.rest with
  | [] => .error .badYaml
  | ch :: rest =>
    match shortEscape? ch, escapeDigits? ch with
    | some e, _ => return ([.char e], c.next)
    | none, some n =>
      require (n ≤ rest.length)
      let u ← readNumbered (rest.take n)
      return ([u], c.advance (n + 1))
    | none, none =>
      require (isBreak ch)
      let (bs, c) ← foldedBreaks c.rest.length c.lineBreak.2
      return (bs.map .char, c)

/-- The characters up to the closing quote, and the place after it. -/
def readQuotedFrom (double : Bool) : Nat → Cursor → Outcome (List CodePoint × Cursor)
  | 0, _ => .error .badYaml
  | fuel + 1, c =>
    match c.rest with
    | [] => .error .badYaml
    | ch :: rest => do
      if isBlank ch || isBreak ch then
        let (blanks, c) := c.span isBlank
        let (part, c) ← (do
          if c.atBreak then
            let (first, c) := c.lineBreak
            let (more, c) ← foldedBreaks c.rest.length c
            return (joinLines first more, c)
          else return (blanks, c))
        let (us, c) ← readQuotedFrom double fuel c
        return (part.map .char ++ us, c)
      else if double && ch = '\\' then
        let (part, c) ← readEscape c.next
        let (us, c) ← readQuotedFrom double fuel c
        return (part ++ us, c)
      else if !double && ch = '\'' && rest.head? == some '\'' then
        let (us, c) ← readQuotedFrom double fuel (c.advance 2)
        return (.char '\'' :: us, c)
      else if ch = (if double then '"' else '\'') then return ([], c.next)
      else
        let (us, c) ← readQuotedFrom double fuel c.next
        return (.char ch :: us, c)

/-- A quoted scalar. -/
def readQuoted (double : Bool) (c : Cursor) : Outcome (Token × Cursor) := do
  let (us, d) ← readQuotedFrom double c.rest.length c.next
  return (.scalar (.ofPoints us) false, d)

end Yaml

end DealWatch
