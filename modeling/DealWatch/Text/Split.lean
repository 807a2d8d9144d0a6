/-!
# Cutting texts at signs

* `splitAt` cuts a text at every place of a sign;
* `cutBefore` cuts it at the first place of a sign.
-/

namespace DealWatch

/-- The parts of a text between the places of a sign. There is one more part than places. -/
def splitAt (sign : Char) : List Char → List (List Char)
  | [] => [[]]
  | c :: rest =>
    let parts := splitAt sign rest
    if c = sign then [] :: parts
    else
      match parts with
      | part :: others => (c :: part) :: others
      | [] => [[c]]

/-- What stands before and after the first place of a sign, if there is one. -/
def cutBefore (sign : Char) (cs : List Char) : List Char × Option (List Char) :=
  let before := cs.takeWhile (· != sign)
  match cs.drop before.length with
  | _ :: rest => (before, some rest)
  | [] => (before, none)

/-- The parts joined with a sign between them. -/
def joinWith (sign : Char) : List (List Char) → List Char
  | [] => []
  | [part] => part
  | part :: others => part ++ sign :: joinWith sign others

end DealWatch
