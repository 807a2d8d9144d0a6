import DealWatch.Listing.Title
import DealWatch.Rule.Set

/-!
# What rules make of a title

A title can be tried out before it is posted: it is read, and the rules are asked which of them
would accept a listing with it.

* `Listing.ofTitle` is the listing that stands for the title;
* `RuleSet.predict` is what comes of it.
-/

namespace DealWatch

/-- A title that could be read, its price, and the first rule that accepts it. -/
structure Prediction where
  title : ParsedTitle
  price : Binary64
  rule : Option Rule
  deriving DecidableEq, Repr, Inhabited

/-- The listing that stands for a title which is not posted yet. -/
def Listing.ofTitle (title : String) (flair : Option String) : Listing where
  id := "check"
  created := Binary64.zero
  ups := Binary64.zero
  downs := Binary64.zero
  flair := flair
  title := title
  url := ""
  subreddit := Listing.defaultSubreddit

/-- What rules make of a title; none if it cannot be read. -/
def RuleSet.predict (rules : RuleSet) (title : String) (flair : Option String) :
    Outcome (Option Prediction) := do
  let l := Listing.ofTitle title flair
  match ← extractTitle title l.id with
  | none => return none
  | some t =>
    let price ← t.price
    let rule ← rules.select l t
    return some ⟨t, price, rule⟩

end DealWatch
