import DealWatch.Calendar.Timestamp
import DealWatch.Listing.Basic
import DealWatch.Number.Word
import DealWatch.Rule.Basic

/-!
# The store

The store has four tables. Each row has a key, and a row is written only if no row with its key is
there: the first one stays. Every insertion says whether it wrote a row.

* `Store.insertListing`, `Store.insertTitle`, `Store.tryInsertRule` and `Store.tryInsertMatch` write
  rows;
* `Store.counts` are the numbers of rows;
* `Store.recentMatches` are the latest matches with their rules and posts.

Integers in the store are signed words of 64 bits.
-/

namespace DealWatch

/-- A stored listing. -/
structure Post where
  id : String
  created : Binary64
  downs : Int
  flair : Option String
  title : String
  ups : Int
  url : String
  deriving DecidableEq, Repr, Inhabited

/-- A stored rule under its fingerprint, with its patterns as they were written. -/
structure RuleRecord where
  id : String
  name : Option String
  flair : Option String
  productType : Option String
  description : Option String
  priceMin : Option Int
  priceMax : Option Int
  deriving DecidableEq, Repr, Inhabited

/-- A stored match of a post by a rule, with the microsecond at which it was written. -/
structure MatchRecord where
  ruleId : String
  postId : String
  created : Int
  deriving DecidableEq, Repr, Inhabited

/-- The four tables, each with its oldest row first. -/
structure Store where
  posts : List Post
  titles : List ParsedTitle
  rules : List RuleRecord
  hits : List MatchRecord
  deriving DecidableEq, Repr, Inhabited

/-- The record of a rule. -/
def Rule.toRecord (r : Rule) : RuleRecord where
  id := r.fingerprint
  name := r.name
  flair := r.flair.map (·.source)
  productType := r.productType.map (·.source)
  description := r.description.map (·.source)
  priceMin := r.priceMin
  priceMax := r.priceMax

namespace Store

/-- The tables without rows. -/
def empty : Store := ⟨[], [], [], []⟩

/-! ### Values that can be stored -/

/-- The part of a vote count before the point. -/
def wholeVotes (x : Binary64) : Outcome Int :=
  match x with
  | .nan _ => .error .nanCount
  | .infinite _ => .error .infiniteCount
  | x => .ok (x.truncate?.getD 0)

/-- A number as it is stored: there is one zero only. -/
def storedFloat (x : Binary64) : Binary64 := if x.isZero then .zero else x

/-- Fails if a text cannot be encoded. -/
def requireWhole : Option EncodingFault → Outcome Unit
  | some fault => .error (.unencodable fault)
  | none => .ok ()

/-- Fails if an integer is no word. -/
def requireWord (i : Int) : Outcome Unit := if isWord i then .ok () else .error .wideInteger

/-- The row of a listing. Its columns are written one after the other, and then looked at. -/
def postOf (l : Listing) : Outcome Post := do
  let downs ← wholeVotes l.downs
  let ups ← wholeVotes l.ups
  requireWhole l.faults.id
  requireWord downs
  requireWhole l.faults.flair
  requireWhole l.faults.title
  requireWord ups
  requireWhole l.faults.url
  if l.created.isNan then .error .integrity
  else
    return { id := l.id, created := storedFloat l.created, downs, flair := l.flair,
             title := l.title, ups, url := l.url }

/-- A parsed title whose numbers can be stored. -/
def titleRow (t : ParsedTitle) : Outcome ParsedTitle :=
  if isWord t.dollars && isWord t.cents then .ok t else .error .wideInteger

/-! ### Insertion -/

/-- The rows with one more, unless one with its key is there, and whether it was added. -/
def addNew {α κ : Type} [DecidableEq κ] (key : α → κ) (row : α) (rows : List α) : List α × Bool :=
  if rows.any fun r => key r = key row then (rows, false) else (rows ++ [row], true)

/-- Writes a post. -/
def insertPost (s : Store) (p : Post) : Store × Bool :=
  let (posts, fresh) := addNew (·.id) p s.posts
  ({ s with posts }, fresh)

/-- Writes a listing. -/
def insertListing (s : Store) (l : Listing) : Outcome (Store × Bool) := do
  let p ← postOf l
  return s.insertPost p

/-- Writes the title of a post. -/
def insertTitle (s : Store) (t : ParsedTitle) : Outcome (Store × Bool) := do
  let t ← titleRow t
  let (titles, fresh) := addNew (·.postId) t s.titles
  return ({ s with titles }, fresh)

/-- Writes a rule under its fingerprint. -/
def insertRule (s : Store) (r : Rule) : Store × Bool :=
  let (rules, fresh) := addNew (·.id) r.toRecord s.rules
  ({ s with rules }, fresh)

/-- Writes a rule, if it can be identified and its bounds can be stored. -/
def tryInsertRule (s : Store) (r : Rule) : Outcome (Store × Bool) := do
  let _ ← r.tryFingerprint
  if r.bounds.all isWord then return s.insertRule r else .error .wideInteger

/-- Writes a match of a post by a rule at a microsecond, under the fingerprint of the rule. -/
def insertMatch (s : Store) (r : Rule) (postId : String) (now : Int) : Store × Bool :=
  let row : MatchRecord := ⟨r.fingerprint, postId, now⟩
  let (hits, fresh) := addNew (fun m => (m.ruleId, m.postId)) row s.hits
  ({ s with hits }, fresh)

/-- Writes a match of a post by a rule at a microsecond, if the rule can be identified. -/
def tryInsertMatch (s : Store) (r : Rule) (postId : String) (now : Int) :
    Outcome (Store × Bool) := do
  let _ ← r.tryFingerprint
  return s.insertMatch r postId now

/-! ### Queries -/

/-- The numbers of rows. -/
structure Counts where
  posts : Nat
  titles : Nat
  rules : Nat
  hits : Nat
  deriving DecidableEq, Repr, Inhabited

/-- The numbers of rows of a store. -/
def counts (s : Store) : Counts := ⟨s.posts.length, s.titles.length, s.rules.length, s.hits.length⟩

/-- A match with its rule and its post, if both are stored. -/
def joined (s : Store) (m : MatchRecord) : Option (MatchRecord × RuleRecord × Post) := do
  let r ← s.rules.find? fun r => r.id == m.ruleId
  let p ← s.posts.find? fun p => p.id == m.postId
  return (m, r, p)

/-- The matches with the latest first; of two at the same time the one written later. -/
def latestFirst (hits : List MatchRecord) : List MatchRecord :=
  hits.reverse.mergeSort fun a b => b.created ≤ a.created

/-- At most `limit` items; all of them if the limit is negative. -/
def limited {α : Type} (limit : Int) (xs : List α) : List α :=
  if limit < 0 then xs else xs.take limit.toNat

/-- The latest matches whose rule and post are stored. -/
def recentMatches (s : Store) (limit : Int) : Outcome (List (MatchRecord × RuleRecord × Post)) :=
  if isWord limit then .ok (limited limit ((latestFirst s.hits).filterMap s.joined))
  else .error .wideInteger

end Store

end DealWatch
