import DealWatch.Json.Printer
import DealWatch.Json.Reader
import DealWatch.Number.Decimal
import DealWatch.Store.Basic

/-!
# The store as a document

A store is kept in a file as a document with a list of rows for each table; before the tables are
created the document is null.

* `Store.toDatum` is the document of a store, `Store.check` reads it;
* `Store.fileText` and `Store.ofFileText?` write and read the text of the file.
-/

namespace DealWatch

/-- The document of a row. -/
def Post.toDatum (p : Post) : Datum := .record [
  ("id", .text p.id), ("created", .text p.created.shortText), ("downs", .int p.downs),
  ("flair", .optionalText p.flair), ("title", .text p.title), ("ups", .int p.ups),
  ("url", .text p.url)]

/-- Reads a row from its document. -/
def Post.check : Check Post := Check.fields fun es =>
  Post.mk <$> Fields.required es "id" Check.text
    <*> Fields.required es "created" Check.float
    <*> Fields.required es "downs" Check.int
    <*> Fields.optional es "flair" Check.text
    <*> Fields.required es "title" Check.text
    <*> Fields.required es "ups" Check.int
    <*> Fields.required es "url" Check.text

/-- The document of a row. -/
def ParsedTitle.toDatum (t : ParsedTitle) : Datum := .record [
  ("post_id", .text t.postId), ("product_type", .text t.productType),
  ("description", .text t.description), ("price_dollars", .int t.dollars),
  ("price_cents", .int t.cents), ("extra_details", .optionalText t.extra)]

/-- The document of a row. -/
def RuleRecord.toDatum (r : RuleRecord) : Datum := .record [
  ("id", .text r.id), ("name", .optionalText r.name), ("flair", .optionalText r.flair),
  ("product_type", .optionalText r.productType), ("description", .optionalText r.description),
  ("price_min", .optionalInt r.priceMin), ("price_max", .optionalInt r.priceMax)]

/-- Reads a row from its document. -/
def RuleRecord.check : Check RuleRecord := Check.fields fun es =>
  RuleRecord.mk <$> Fields.required es "id" Check.text
    <*> Fields.optional es "name" Check.text
    <*> Fields.optional es "flair" Check.text
    <*> Fields.optional es "product_type" Check.text
    <*> Fields.optional es "description" Check.text
    <*> Fields.optional es "price_min" Check.int
    <*> Fields.optional es "price_max" Check.int

/-- The document of a row. -/
def MatchRecord.toDatum (m : MatchRecord) : Datum := .record [
  ("rule_id", .text m.ruleId), ("post_id", .text m.postId), ("created", .int m.created)]

/-- Reads a row from its document. -/
def MatchRecord.check : Check MatchRecord := Check.fields fun es =>
  MatchRecord.mk <$> Fields.required es "rule_id" Check.text
    <*> Fields.required es "post_id" Check.text
    <*> Fields.required es "created" Check.int

namespace Store

/-- The document of a store. -/
def toDatum (s : Store) : Datum := .record [
  ("posts", .list (s.posts.map Post.toDatum)),
  ("titles", .list (s.titles.map ParsedTitle.toDatum)),
  ("rules", .list (s.rules.map RuleRecord.toDatum)),
  ("hits", .list (s.hits.map MatchRecord.toDatum))]

/-- Reads a store from its document. -/
def check : Check Store := Check.fields fun es =>
  Store.mk <$> Fields.required es "posts" (Check.list Post.check)
    <*> Fields.required es "titles" (Check.list ParsedTitle.check)
    <*> Fields.required es "rules" (Check.list RuleRecord.check)
    <*> Fields.required es "hits" (Check.list MatchRecord.check)

/-- The text of the file with a store, or with none before its tables are created. -/
def fileText (tables : Option Store) : String :=
  Json.write Json.spaced ((tables.map toDatum).getD .null)

/-- The store in the text of a file; none if the text holds something else. -/
def ofFileText? (s : String) : Option (Option Store) :=
  match Json.read s.toList with
  | .ok .null => some none
  | .ok d =>
    match check d with
    | .accepted s => some (some s)
    | .rejected _ => none
  | .error _ => none

end Store

end DealWatch
