import DealWatch.Listing.Title
import DealWatch.Outside.Basic
import DealWatch.Rule.Set

/-!
# Matching listings

A listing that was not seen before is stored, its title is read and stored, and the first rule that
accepts both is recorded as its match.

* `processListing` does this for one listing;
* `storeRules` stores the rules before any listing comes.
-/

namespace DealWatch

/-- A listing with its title and the rule that accepts it. -/
structure MatchingPost where
  rule : Rule
  listing : Listing
  title : ParsedTitle
  deriving DecidableEq, Repr, Inhabited

/-- Writes a row that may not be storable, and says whether it was written. -/
def insertRow (insert : Store → Outcome (Store × Bool)) : Act Store Bool := do
  let (s, fresh) ← Act.ofOutcome (insert (← Act.state))
  Act.put s
  return fresh

/-- Writes a rule, and says whether it was written. -/
def storeRule (r : Rule) : Act Store Bool := do
  let fresh ← insertRow (·.tryInsertRule r)
  if fresh then
    Act.log .debug "Stored new rule"
      [("rule", .text r.displayName), ("fingerprint", .text r.fingerprint)]
  return fresh

/-- Writes some rules, and counts those that were written. -/
def storeRules : List Rule → Act Store Nat
  | [] => return 0
  | r :: rs => do
    let fresh ← storeRule r
    return fresh.toNat + (← storeRules rs)

/-- Writes a match at the current time. -/
def storeMatch (r : Rule) (postId : String) : Act Store Bool := do
  let now ← Act.now
  insertRow (·.tryInsertMatch r postId now)

/-- Stores a listing and finds the rule that it matches. There is none if the listing was seen
before, its title cannot be read, or no rule accepts it. -/
def processListing (rules : RuleSet) (l : Listing) : Act Store (Option MatchingPost) := do
  let note (severity : Severity) (event : String) (fields : List (String × Datum)) :
      Act Store Unit := Act.log severity event (("listing_id", .text l.id) :: fields)
  if !(← insertRow (·.insertListing l)) then
    note .debug "Skipping known listing" []
    return none
  else
    match ← Act.ofOutcome (extractTitle l.title l.id) with
    | none =>
      note .debug "Skipping unparseable title" [("title", .text l.title)]
      return none
    | some t =>
      if !(← insertRow (·.insertTitle t)) then
        note .debug "Skipping known parsed title" []
        return none
      else
        match ← Act.ofOutcome (rules.select l t) with
        | none =>
          note .debug "No matching rule" [("title", .text l.title)]
          return none
        | some r =>
          let _ ← storeMatch r l.id
          note .info "Listing matched" [("rule", .text r.displayName), ("title", .text l.title)]
          return some ⟨r, l, t⟩

end DealWatch
