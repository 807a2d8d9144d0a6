import DealWatch.Text.CaseTable

/-!
# Small letters

Every letter becomes its small letter. Two letters are special: `İ` becomes two characters, and the
small letter of `Σ` depends on whether it ends a word.

* `lower` is the text in small letters;
* `endsWord` is the rule for the end of a word.
-/

namespace DealWatch

/-- The small letter of a character by the table, whose rows stand in order; itself if there is
none. -/
def lowerSimple (c : Char) : Char :=
  let n := c.toNat
  match (lowerRows.takeWhile fun (first, _) => first ≤ n).find? fun (first, last, step, _) =>
      n ≤ last && (n - first) % step == 0 with
  | some (_, _, _, offset) => Char.ofNat (n + offset).toNat
  | none => c

/-- The small letters of a character whose neighbours do not matter. -/
def lowerChar (c : Char) : List Char :=
  if c = '\u0130' then ['i', '\u0307'] else [lowerSimple c]

/-- Whether the first character that interrupts is a letter with a case. -/
def meetsCased (cs : List Char) : Bool :=
  match cs.dropWhile fun c => caseIgnorableRanges.contains c.toNat with
  | c :: _ => casedRanges.contains c.toNat
  | [] => false

/-- Whether a letter ends a word: `before` are the characters before it, the nearest first, and
`after` those after it. -/
def endsWord (before after : List Char) : Bool := meetsCased before && !meetsCased after

/-- The small letters of a text that follows the characters `before`, the nearest first. -/
def lowerFrom : List Char → List Char → List Char
  | _, [] => []
  | before, c :: after =>
    (if c = 'Σ' then [if endsWord before after then 'ς' else 'σ'] else lowerChar c) ++
      lowerFrom (c :: before) after

/-- A text in small letters. -/
def lower (s : String) : String := String.ofList (lowerFrom [] s.toList)

end DealWatch
