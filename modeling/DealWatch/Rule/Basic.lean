import DealWatch.Bytes.Base64
import DealWatch.Bytes.Signed
import DealWatch.Listing.Basic
import DealWatch.Number.Word
import DealWatch.Pattern.Digest
import DealWatch.Pattern.Halved

/-!
# Rules

A rule constrains the flair, the type and the description of a listing by patterns, and its price
by bounds. Every constraint may be absent.

* `Rule.tryFingerprint` identifies a rule by its name, the structure of its patterns and its bounds,
  and fails if one of them cannot be written;
* `Rule.fingerprint` is what it gives if it does not fail;
* `Rule.acceptsListing` and `Rule.acceptsTitle` say whether a listing and its title satisfy it.
-/

namespace DealWatch

/-- A pattern with the text that it was read from. -/
structure SourcedPattern where
  source : String
  pattern : Pattern
  /-- What is known of the halves of surrogate pairs in the text, if there are any. -/
  halving : Option Halving := none
  deriving DecidableEq, Repr, Inhabited

namespace SourcedPattern

/-- Reads a text as a pattern and keeps the text. -/
def parse (source : String) : Except Pattern.SyntaxError SourcedPattern := do
  let pattern ← Pattern.parse source
  return { source, pattern }

/-- The digest of a pattern, whose keywords must be encoded for it. -/
def tryDigestWith (hash : List UInt8 → Digest) (p : SourcedPattern) : Outcome Digest :=
  match p.halving with
  | some h => .error (.unencodable h.fault)
  | none => .ok (p.pattern.digestWith hash)

/-- Whether a pattern holds of a text. -/
def holds (p : SourcedPattern) (text : String) : Bool :=
  match p.halving with
  | some h => h.holds p.pattern text
  | none => p.pattern.holds text

/-- Whether a pattern holds of a text that may be missing. -/
def holdsOptional (p : SourcedPattern) (text : Option String) : Bool :=
  match p.halving with
  | some h => h.holdsOptional p.pattern text
  | none => p.pattern.holdsOptional text

end SourcedPattern

/-- A rule. Its texts are there as far as they can be shown. -/
structure Rule where
  name : Option String
  flair : Option SourcedPattern
  productType : Option SourcedPattern
  description : Option SourcedPattern
  priceMin : Option Int
  priceMax : Option Int
  /-- Why the name cannot be encoded, if it has halves of surrogate pairs. -/
  nameFault : Option EncodingFault := none
  deriving DecidableEq, Repr, Inhabited

namespace Rule

/-- How a rule without a name is called. -/
def unnamed : String := "(unnamed rule)"

/-- How a rule is called. -/
def displayName (r : Rule) : String := r.name.getD unnamed

/-! ### Identity -/

/-- The eight bytes of a signed integer in two's complement, the least significant first. -/
def wordBytes (i : Int) : List UInt8 :=
  let n := (i % (2 * wordLimit)).toNat
  (List.range 8).map fun k => UInt8.ofNat (n / Nat.pow 256 k)

/-- The patterns of a rule in their order. -/
def patterns (r : Rule) : List (Option SourcedPattern) := [r.flair, r.productType, r.description]

/-- The bounds that are there. -/
def bounds (r : Rule) : List Int := [r.priceMin, r.priceMax].filterMap id

/-- The bytes of the name. -/
def nameBytes (r : Rule) : List UInt8 := (r.name.map utf8).getD []

/-- The bytes of the name, which must be encoded. -/
def tryNameBytes (r : Rule) : Outcome (List UInt8) :=
  match r.nameFault with
  | some fault => .error (.unencodable fault)
  | none => .ok r.nameBytes

/-- The bytes that identify a rule, for a hash function: its name, the digests of the patterns that
are there, and the bounds that are there, each in eight bytes. -/
def tryIdentityWith (hash : List UInt8 → Digest) (r : Rule) : Outcome (List UInt8) := do
  let name ← r.tryNameBytes
  let digests ← (r.patterns.filterMap id).mapM (·.tryDigestWith hash)
  let words ← r.bounds.mapM (signedBytes 8)
  return name ++ digests.flatMap Vector.toList ++ words.flatten

/-- The fingerprint of a rule. It fails if a text of the rule has halves of surrogate pairs, or a
bound is no word. -/
def tryFingerprint (r : Rule) : Outcome String := do
  let bytes ← r.tryIdentityWith sha256
  return base64 (sha256 bytes).toList

/-- The bytes that identify a rule which can be identified. -/
def identity (hash : List UInt8 → Digest) (r : Rule) : List UInt8 :=
  r.nameBytes ++
    (r.patterns.filterMap id).flatMap (fun p => (p.pattern.digestWith hash).toList) ++
    r.bounds.flatMap wordBytes

/-- The fingerprint of a rule for a hash function, if it can be identified. -/
def fingerprintWith (hash : List UInt8 → Digest) (r : Rule) : String :=
  base64 (hash (r.identity hash)).toList

/-- The fingerprint of a rule, if it can be identified. -/
def fingerprint (r : Rule) : String := r.fingerprintWith sha256

/-- A rule as it is shown to a programmer. -/
def shown (r : Rule) : Outcome String := do
  return "<Rule(name=" ++ quoted r.displayName ++ ", fingerprint=" ++ quoted (← r.tryFingerprint) ++
    ")>"

/-! ### Acceptance -/

/-- Whether the flair of a listing satisfies a rule. -/
def acceptsListing (r : Rule) (l : Listing) : Bool :=
  match r.flair with
  | some p => p.holdsOptional l.flair
  | none => true

/-- Whether a pattern holds of a text, if there is one. -/
def patternHolds (p : Option SourcedPattern) (text : String) : Bool :=
  match p with
  | some p => p.holds text
  | none => true

/-- Whether a price is between the bounds of a rule, which belong to the range. -/
def acceptsPrice (r : Rule) (price : Binary64) : Bool :=
  (match r.priceMin with
    | some low => !price.ltInt low
    | none => true) &&
  (match r.priceMax with
    | some high => !price.gtInt high
    | none => true)

/-- Whether a title satisfies a rule. The price is computed only if the patterns hold. -/
def acceptsTitle (r : Rule) (t : ParsedTitle) : Outcome Bool :=
  if !patternHolds r.productType t.productType then .ok false
  else if !patternHolds r.description t.description then .ok false
  else do
    let price ← t.price
    return r.acceptsPrice price

end Rule

end DealWatch
