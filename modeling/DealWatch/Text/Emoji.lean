import DealWatch.Text.Blank
import DealWatch.Text.EmojiTable
import DealWatch.Text.Hexadecimal
import DealWatch.Text.Lower
import DealWatch.Text.Split

/-!
# Emoji by name

The name of an emoji between two colons stands for the emoji. A sign behind the name says whether it
is shown as text or as a picture.

* `emoji?` is the emoji with a name;
* `withEmoji` is a text with emoji in place of their names.
-/

namespace DealWatch

/-- The number that hexadecimal digits write. -/
def hexNumber (cs : List Char) : Nat := cs.foldl (fun n c => 16 * n + (hexValue? c).getD 0) 0

/-- The emoji with a name. -/
def emoji? (name : String) : Option (List Char) :=
  emojiRows.findSome? fun row =>
    (splitAt ' ' row.toList).findSome? fun entry =>
      let (key, codes) := cutBefore '=' entry
      if String.ofList key == name then
        codes.map fun codes => (splitAt '-' codes).map fun code => Char.ofNat (hexNumber code)
      else none

/-- The signs that may stand behind a name, with the characters that they stand for. -/
def emojiSigns : List (String × Char) := [("-text", '\ufe0e'), ("-emoji", '\ufe0f')]

/-- What the text between two colons stands for, if it names an emoji. -/
def emojiBetween? (inside : List Char) : Option (List Char) :=
  match emojiSigns.find? fun (sign, _) => sign.toList.isSuffixOf inside with
  | some (sign, c) =>
    (emoji? (lower (String.ofList (inside.take (inside.length - sign.length))))).map (· ++ [c])
  | none => emoji? (lower (String.ofList inside))

/-- A text with emoji in place of their names. Two colons without a blank between them are taken
together, whether they stand around a name or not. -/
def withEmoji : List Char → List Char
  | [] => []
  | c :: rest =>
    let inside := rest.takeWhile fun d => d != ':' && !isBlank d
    if c = ':' && (rest.drop inside.length).head? == some ':' then
      (emojiBetween? inside).getD (':' :: inside ++ [':']) ++
        withEmoji (rest.drop (inside.length + 1))
    else c :: withEmoji rest
termination_by cs => cs.length
decreasing_by all_goals (simp only [List.length_drop, List.length_cons]; omega)

end DealWatch
