import DealWatch.Failure

/-!
# Listings and their parsed titles

* `Listing` is a post as the source sends it, `Listing.check` reads one from a document;
* `ParsedTitle` is what a title says, `ParsedTitle.price` the price that bounds are compared with.
-/

namespace DealWatch

/-- Why texts of a post cannot be encoded, for each that has halves of surrogate pairs. -/
structure ListingFaults where
  id : Option EncodingFault := none
  flair : Option EncodingFault := none
  title : Option EncodingFault := none
  url : Option EncodingFault := none
  deriving DecidableEq, Repr, Inhabited

/-- A post. Its texts are there as far as they can be shown. -/
structure Listing where
  id : String
  created : Binary64
  ups : Binary64
  downs : Binary64
  flair : Option String
  title : String
  url : String
  subreddit : String
  faults : ListingFaults := {}
  deriving DecidableEq, Repr, Inhabited

namespace Listing

/-- Where the posts of a subreddit are shown. -/
def baseUrl : String := "https://www.reddit.com"

/-- The address of the page with the comments. -/
def commentsUrl (l : Listing) : String :=
  baseUrl ++ "/r/" ++ l.subreddit ++ "/comments/" ++ l.id

/-- The subreddit of a post that names none. -/
def defaultSubreddit : String := "buildapcsales"

/-- Why the texts of a document cannot be encoded. -/
def faultsOf (es : Entries) : ListingFaults :=
  let fault? (key : String) := (Entries.halvedAt? es key).map (·.fault)
  ⟨fault? "id", fault? "link_flair_text", fault? "title", fault? "url"⟩

/-- Reads a post from a document. -/
def check : Check Listing := Check.fields fun es =>
  Listing.mk <$> Fields.required es "id" Check.text
    <*> Fields.required es "created_utc" Check.float
    <*> Fields.withDefault es "ups" Binary64.zero Check.float
    <*> Fields.withDefault es "downs" Binary64.zero Check.float
    <*> Fields.optional es "link_flair_text" Check.text
    <*> Fields.required es "title" Check.text
    <*> Fields.required es "url" Check.text
    <*> Fields.withDefault es "subreddit" defaultSubreddit Check.text
    <*> .accepted (faultsOf es)

end Listing

/-- What a title says. -/
structure ParsedTitle where
  postId : String
  productType : String
  description : String
  dollars : Int
  /-- The digits after the point of the price, as a number. -/
  cents : Int
  extra : Option String
  deriving DecidableEq, Repr, Inhabited

namespace ParsedTitle

/-- Reads a parsed title from a document. -/
def check : Check ParsedTitle := Check.fields fun es =>
  ParsedTitle.mk <$> Fields.required es "post_id" Check.text
    <*> Fields.required es "product_type" Check.text
    <*> Fields.required es "description" Check.text
    <*> Fields.required es "price_dollars" Check.int
    <*> Fields.withDefault es "price_cents" 0 Check.int
    <*> Fields.optional es "extra_details" Check.text

/-- The dollars and a tenth of the cents, if both fit a double-precision number. -/
def price? (t : ParsedTitle) : Option Binary64 := do
  let cents ← Binary64.ofInt? t.cents
  let dollars ← Binary64.ofInt? t.dollars
  return dollars.add (Binary64.tenth.mul cents)

/-- The price that bounds are compared with. -/
def price (t : ParsedTitle) : Outcome Binary64 :=
  match t.price? with
  | some x => .ok x
  | none => .error .widePrice

end ParsedTitle

end DealWatch
