import DealWatch.Listing.Basic
import DealWatch.Text.Alphanumeric

/-!
# Reading titles

A title names a type in brackets, then a description, then a price in dollars and whatever else:
`[GPU] RTX 4070 Ti - Black $799.99 with code`. The description ends at the first dollar sign. The
first opening bracket from which a title can be read in this way counts.

* `titleAt?` reads the characters from an opening bracket on;
* `extractTitle` reads a whole title.
-/

namespace DealWatch

/-- The parts of a title as they are written. -/
structure TitleParts where
  productType : List Char
  description : List Char
  dollars : List Char
  cents : Option (List Char)
  extra : Option (List Char)
  deriving DecidableEq, Repr, Inhabited

/-- Whether a character may stand in the brackets. -/
def isTypeChar (c : Char) : Bool := c == ' ' || isWordPart c

/-- The digits after a point, if there are any. -/
def centsAfter? : List Char → Option (List Char)
  | '.' :: rest =>
    match rest.takeWhile isDecimalDigit with
    | [] => none
    | ds => some ds
  | _ => none

/-- The first character after a price and the rest of the line. -/
def extraAfter? : List Char → Option (List Char)
  | [] => none
  | c :: rest => some (c :: rest.takeWhile (· != '\n'))

/-- The parts of a title from its opening bracket on. -/
def titleAt? : List Char → Option TitleParts
  | '[' :: cs =>
    let productType := cs.takeWhile isTypeChar
    match productType, cs.drop productType.length with
    | _ :: _, ']' :: cs =>
      let description := cs.takeWhile (· != '$')
      match cs.drop description.length with
      | _ :: cs =>
        match cs.takeWhile isDecimalDigit with
        | [] => none
        | dollars =>
          let cs := cs.drop dollars.length
          let cents := centsAfter? cs
          let cs := match cents with
            | some ds => cs.drop (ds.length + 1)
            | none => cs
          some ⟨productType, description, dollars, cents, extraAfter? cs⟩
      | [] => none
    | _, _ => none
  | _ => none

/-- The parts of a title from the first bracket from which it can be read. -/
def titleParts? : List Char → Option TitleParts
  | [] => none
  | c :: rest =>
    match titleAt? (c :: rest) with
    | some parts => some parts
    | none => titleParts? rest

/-- The number that some digits write, if they are not too many. -/
def digitsNumber (ds : List Char) : Outcome Int :=
  if maxIntegerDigits < ds.length then .error .longInteger else .ok (numberOf ds)

/-- A part of a title without the blanks around it. -/
def trimmed (cs : List Char) : String := String.ofList (trimBy isBlank cs)

/-- What a title says, with its parts trimmed and its numbers read. -/
def TitleParts.toTitle (parts : TitleParts) (postId : String) : Outcome ParsedTitle := do
  let dollars ← digitsNumber parts.dollars
  let cents ← match parts.cents with
    | some ds => digitsNumber ds
    | none => .ok 0
  return {
    postId
    productType := trimmed parts.productType
    description := trimmed parts.description
    dollars
    cents
    extra := parts.extra.map trimmed }

/-- What the title of a post says; nothing if it cannot be read as one. -/
def extractTitle (title postId : String) : Outcome (Option ParsedTitle) :=
  match titleParts? title.toList with
  | some parts => some <$> parts.toTitle postId
  | none => .ok none

end DealWatch
