import DealWatch.Store.Basic

/-!
# Rows as they are shown to a programmer
-/

namespace DealWatch

/-- A text that may be absent. -/
def quotedOption : Option String → String
  | some s => quoted s
  | none => "None"

/-- A post by its id and title. -/
def Post.shown (p : Post) : String :=
  "<Post(id=" ++ quoted p.id ++ ", title=" ++ quoted p.title ++ ")>"

/-- A parsed title by its post, its type and its price. -/
def ParsedTitle.shown (t : ParsedTitle) : String :=
  "<ParsedTitle(post_id=" ++ quoted t.postId ++ ", type=" ++ quoted t.productType ++ ", price=" ++
    toString t.dollars ++ "." ++ toString t.cents ++ ")>"

/-- A stored rule by its fingerprint and name. -/
def RuleRecord.shown (r : RuleRecord) : String :=
  "<RuleRecord(id=" ++ quoted r.id ++ ", name=" ++ quotedOption r.name ++ ")>"

/-- A stored match by its rule and post. -/
def MatchRecord.shown (m : MatchRecord) : String :=
  "<RuleMatch(rule_id=" ++ quoted m.ruleId ++ ", post_id=" ++ quoted m.postId ++ ")>"

end DealWatch
