import DealWatch.Text.Color
import DealWatch.Text.Lower

/-!
# Styles of text

A style is written by words: attributes, which can be switched off again, a colour, a background
and the target of a link. Styles with the same effect have one name.

* `TextStyle` is a style, `TextStyle.text` its name;
* `TextStyle.read` reads the words of a style;
* `styleName` is the name of the style that a text writes, or the text itself in small letters.
-/

namespace DealWatch

/-- A style of text. -/
structure TextStyle where
  /-- The attributes that are switched on or off, by their places. -/
  switched : List (Nat × Bool)
  color : Option String
  background : Option String
  link : Option String
  deriving DecidableEq, Repr, Inhabited

namespace TextStyle

/-- The style without any effect. -/
def plain : TextStyle := ⟨[], none, none, none⟩

/-- The attributes in their order. -/
def attributes : List String := ["bold", "dim", "italic", "underline", "blink", "blink2", "reverse",
  "conceal", "strike", "underline2", "frame", "encircle", "overline"]

/-- The short names of attributes with their full names. -/
def shortNames : List (String × String) := [("d", "dim"), ("b", "bold"), ("i", "italic"),
  ("u", "underline"), ("r", "reverse"), ("c", "conceal"), ("s", "strike"), ("uu", "underline2"),
  ("o", "overline")]

/-- The place of the attribute with a name. -/
def placeOf? (name : String) : Option Nat :=
  attributes.findIdx? (· == (shortNames.lookup name).getD name)

/-- A style with an attribute switched. -/
def switch (s : TextStyle) (place : Nat) (isOn : Bool) : TextStyle :=
  { s with switched := (place, isOn) :: s.switched }

/-- The style that some words add to another one. -/
def read (s : TextStyle) : List String → Except ColorFault TextStyle
  | [] => .ok s
  | [written] =>
    match placeOf? (lower written) with
    | some place => .ok (s.switch place true)
    | none => do
      checkColor (lower written)
      return { s with color := some (lower written) }
  | written :: next :: rest =>
    match lower written with
    | "on" => do
      checkColor (lower next)
      read { s with background := some (lower next) } rest
    | "not" =>
      match placeOf? next with
      | some place => read (s.switch place false) rest
      | none => .error .notColor
    | "link" => read { s with link := some next } rest
    | word =>
      match placeOf? word with
      | some place => read (s.switch place true) (next :: rest)
      | none => do
        checkColor word
        read { s with color := some word } (next :: rest)

/-- The words for the attributes that are switched. -/
def switchedWords (s : TextStyle) : List String :=
  attributes.zipIdx.filterMap fun (name, place) =>
    (s.switched.lookup place).map fun isOn => if isOn then name else "not " ++ name

/-- The name of a style. -/
def text (s : TextStyle) : String :=
  let words := s.switchedWords ++ s.color.toList ++
    (s.background.map ("on " ++ ·)).toList ++ (s.link.map ("link " ++ ·)).toList
  if words.isEmpty then "none" else " ".intercalate words

end TextStyle

/-- The words of a text. -/
def wordsOf (cs : List Char) : List String :=
  ((cs.splitBy fun a b => isBlank a == isBlank b).filter fun word => !word.any isBlank).map
    String.ofList

/-- The name of the style that a text writes, or the text itself in small letters if it writes
none. -/
def styleName (cs : List Char) : Except ColorFault String :=
  let bare := String.ofList (trimBy isBlank cs)
  if bare == "none" then .ok "none"
  else
    match TextStyle.plain.read (wordsOf cs) with
    | .ok s => .ok s.text
    | .error .notColor => .ok (lower bare)
    | .error .emptyPart => .error .emptyPart

end DealWatch
