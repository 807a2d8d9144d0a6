import DealWatch.Rule.Basic

/-!
# Notices

* `Notice` is one entry of a notification;
* `Notice.ofMatch` is the entry for a listing that a rule accepts.
-/

namespace DealWatch

/-- One entry of a notification. -/
structure Notice where
  title : String
  body : String
  link : String
  deriving DecidableEq, Repr, Inhabited

/-- The entry for a listing that a rule accepts: it is called after the rule and leads to the page
with the comments. -/
def Notice.ofMatch (l : Listing) (r : Rule) : Notice := ⟨r.displayName, l.title, l.commentsUrl⟩

end DealWatch
