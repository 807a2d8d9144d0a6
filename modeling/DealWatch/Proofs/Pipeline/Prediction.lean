import DealWatch.Proofs.Pipeline.FailedOffer
import DealWatch.Proofs.Pipeline.Match
import DealWatch.Rule.Prediction

/-!
# What is predicted of a title

A prediction reads a title under a key of its own and asks the rules about a listing that was never
posted. Neither the key nor what a listing has beside its title and flair counts.

* `extractTitle_eq_map` reads a title under another key;
* `RuleSet.select_of_flair` asks the rules about another listing;
* `Processing.predict` says what is predicted of the title of a listing that went through the match
  stage.

The ways through the stage in which it gives an answer are taken one by one. In each it has read the
title, computed the price and asked the rules, so the prediction does the same with the same
results; where the row of the listing or of its title was there before, it has not, and this is
excluded.
-/

namespace DealWatch

/-! ### Keys of titles -/

/-- A title under another key. -/
def ParsedTitle.withKey (t : ParsedTitle) (postId : String) : ParsedTitle := { t with postId }

theorem TitleParts.toTitle_eq_map (parts : TitleParts) (id id' : String) :
    parts.toTitle id' = (parts.toTitle id).map (·.withKey id') := by
  simp only [toTitle, bind, Except.bind, pure, Except.pure]
  cases digitsNumber parts.dollars with
  | error e => rfl
  | ok dollars =>
    cases parts.cents with
    | none => rfl
    | some ds =>
      dsimp only
      cases digitsNumber ds <;> rfl

/-- A title is read alike under every key. -/
theorem extractTitle_eq_map (title id id' : String) :
    extractTitle title id' = (extractTitle title id).map (Option.map (·.withKey id')) := by
  unfold extractTitle
  split
  · rename_i parts _
    rw [parts.toTitle_eq_map id id']
    cases parts.toTitle id <;> rfl
  · rfl

/-! ### The rules -/

namespace RuleSet

/-- Of a listing the rules see its flair only. -/
theorem selectFrom_of_flair {l l' : Listing} (h : l.flair = l'.flair) (t : ParsedTitle)
    (id : String) (rs : List Rule) : selectFrom l (t.withKey id) rs = selectFrom l' t rs := by
  induction rs with
  | nil => rfl
  | cons r rs ih =>
    have hlisting : r.acceptsListing l = r.acceptsListing l' := by
      rw [Rule.acceptsListing, Rule.acceptsListing, h]
    rw [selectFrom, selectFrom, hlisting, ih]
    rfl

theorem select_of_flair {l l' : Listing} (h : l.flair = l'.flair) (rules : RuleSet)
    (t : ParsedTitle) (id : String) : rules.select l (t.withKey id) = rules.select l' t :=
  selectFrom_of_flair h t id rules.rules

variable {rules : RuleSet} {l : Listing}

theorem predict_of_untitled (h : extractTitle l.title l.id = .ok none) :
    rules.predict l.title l.flair = .ok none := by
  have hread := extractTitle_eq_map l.title l.id (Listing.ofTitle l.title l.flair).id
  rw [h] at hread
  simp only [predict, hread]
  rfl

theorem predict_of_titled {t : ParsedTitle} {price : Binary64} {found : Option Rule}
    (h : extractTitle l.title l.id = .ok (some t)) (hprice : t.price = .ok price)
    (hfound : rules.select l t = .ok found) :
    rules.predict l.title l.flair =
      .ok (some ⟨t.withKey (Listing.ofTitle l.title l.flair).id, price, found⟩) := by
  have hread := extractTitle_eq_map l.title l.id (Listing.ofTitle l.title l.flair).id
  have hkey (id : String) : (t.withKey id).price = .ok price := hprice
  have hflair : (Listing.ofTitle l.title l.flair).flair = l.flair := rfl
  have hselect (id : String) :
      rules.select (Listing.ofTitle l.title l.flair) (t.withKey id) = .ok found :=
    (select_of_flair hflair rules t id).trans hfound
  rw [h] at hread
  simp only [predict, hread, Except.map, Option.map_some, bind, Except.bind, hkey, hselect]
  rfl

end RuleSet

/-! ### The match stage -/

/-- **A prediction is right**: of a listing that is new to both tables and goes through the match
stage without a failure, the rule that is predicted is the one that is found, and it can be
identified. -/
theorem Processing.predict {rules : RuleSet} {l : Listing} {now : Int} {s s' : Store}
    {m : Option MatchingPost} (hpost : l.id ∉ s.postIds) (htitle : l.id ∉ s.titleIds)
    (h : Processing rules l now s (.ok m) s') :
    ∃ p, rules.predict l.title l.flair = .ok p ∧ p.bind (·.rule) = m.map (·.rule) ∧
      ∀ r, m.map (·.rule) = some r → r.flaw? = none := by
  cases h with
  | known _ hmem => exact absurd hmem hpost
  | retitled _ _ _ _ hmem => exact absurd hmem htitle
  | untitled _ _ ht =>
    refine ⟨none, RuleSet.predict_of_untitled ht, rfl, fun r hr => ?_⟩
    cases hr
  | unmatched _ _ ht hrow _ hselect =>
    obtain ⟨price, hprice⟩ := ParsedTitle.exists_price hrow
    refine ⟨_, RuleSet.predict_of_titled ht hprice hselect, rfl, fun r hr => ?_⟩
    cases hr
  | matched _ _ ht hrow _ hselect hsound =>
    obtain ⟨price, hprice⟩ := ParsedTitle.exists_price hrow
    refine ⟨_, RuleSet.predict_of_titled ht hprice hselect, rfl, fun r hr => ?_⟩
    cases hr
    exact hsound

end DealWatch
