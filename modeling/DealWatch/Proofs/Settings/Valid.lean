import DealWatch.Proofs.Data.Verdict
import DealWatch.Settings.Check

/-!
# Valid settings

* `Verdict.Ensures` says that whatever a verdict accepts has a property, and the lemmas on it say so
  of each way of putting verdicts together;
* `Settings.Valid` says what is true of settings, section by section;
* `Settings.ensures_verdict` says that settings are accepted only if they are valid.

The bounds of a field hold of its default as well, which is not checked when settings are read. A
section is accepted field by field, so the proof for it follows its fields: those with a bound by
`Ensures.seq`, the others by `Ensures.skip`.

Fields without a bound of their own are not mentioned in `Settings.Valid`.
-/

namespace DealWatch

/-! ### What verdicts ensure -/

namespace Verdict

variable {α β : Type} {P : β → Prop} {Q : α → Prop} {v : Verdict α}

/-- Whatever a verdict accepts has a property. -/
def Ensures (v : Verdict α) (Q : α → Prop) : Prop := ∀ a, v = .accepted a → Q a

@[simp] theorem ensures_accepted {a : α} : (accepted a).Ensures Q ↔ Q a := by
  constructor
  · intro h
    exact h a rfl
  · intro h b hb
    cases hb
    exact h

@[simp] theorem ensures_refuse (c : Complaint) : (refuse c : Verdict α).Ensures Q := by
  intro a h
  cases h

/-- Nothing is known of what a verdict accepts. -/
theorem ensures_true (v : Verdict α) : v.Ensures fun _ => True := fun _ _ => trivial

theorem Ensures.under (h : v.Ensures Q) (key : String) : (v.under key).Ensures Q :=
  fun a ha => h a (under_eq_accepted.1 ha)

theorem Ensures.map {f : α → β} (hv : v.Ensures Q) (hf : ∀ a, Q a → P (f a)) :
    (f <$> v).Ensures P := by
  intro b hb
  obtain ⟨a, ha, rfl⟩ := map_eq_accepted.1 hb
  exact hf a (hv a ha)

theorem Ensures.seq {f : Verdict (α → β)} (hf : f.Ensures fun g => ∀ a, Q a → P (g a))
    (hv : v.Ensures Q) : (f <*> v).Ensures P := by
  intro b hb
  obtain ⟨g, a, hg, ha, rfl⟩ := seq_eq_accepted.1 hb
  exact hf g hg a (hv a ha)

/-- A part of which nothing is known. -/
theorem Ensures.skip {f : Verdict (α → β)} (hf : f.Ensures fun g => ∀ a, P (g a)) :
    (f <*> v).Ensures P :=
  .seq (fun g hg a _ => hf g hg a) (ensures_true v)

theorem Ensures.andThen {f : α → Verdict β} (hf : ∀ a, (f a).Ensures P) :
    (v.andThen f).Ensures P := by
  intro b hb
  cases v with
  | accepted a => exact hf a b hb
  | rejected ps => cases hb

theorem ensures_ofItems {vs : List (Verdict α)} (h : ∀ v ∈ vs, v.Ensures Q) (i : Nat) :
    (ofItems i vs).Ensures fun as => ∀ a ∈ as, Q a := by
  induction vs generalizing i with
  | nil => exact ensures_accepted.2 (List.forall_mem_nil _)
  | cons v vs ih =>
    obtain ⟨hv, hvs⟩ := List.forall_mem_cons.1 h
    refine .seq (.map (hv.under _) ?_) (ih hvs _)
    intro a ha as has
    exact List.forall_mem_cons.2 ⟨ha, has⟩

end Verdict

open Verdict

/-- What a check ensures and is true of the default is true of a field. -/
theorem Fields.ensures_withDefault {α : Type} {Q : α → Prop} {check : Check α} {fallback : α}
    (hfallback : Q fallback) (hcheck : ∀ d, (check d).Ensures Q) (es : Entries) (key : String) :
    (withDefault es key fallback check).Ensures Q := by
  intro a h
  cases Fields.withDefault_eq_accepted.1 h with
  | present _ ha => exact hcheck _ _ ha
  | absent _ ha =>
    cases ha
    exact hfallback

namespace Check

theorem ensures_fields {α : Type} {Q : α → Prop} {read : Entries → Verdict α}
    (h : ∀ es, (read es).Ensures Q) (d : Datum) : (fields read d).Ensures Q := by
  unfold fields
  split
  · exact h _
  · exact ensures_refuse _

/-- An integer lies within bounds. -/
def Within (low high i : Int) : Prop := low ≤ i ∧ i ≤ high

instance (low high i : Int) : Decidable (Within low high i) := inferInstanceAs (Decidable (_ ∧ _))

theorem ensures_intWithin (low high : Int) (d : Datum) :
    (intWithin low high d).Ensures (Within low high) := by
  refine .andThen fun i => ?_
  by_cases hlow : i < low
  · rw [if_pos hlow]
    exact ensures_refuse _
  · rw [if_neg hlow]
    by_cases hhigh : high < i
    · rw [if_pos hhigh]
      exact ensures_refuse _
    · rw [if_neg hhigh]
      exact ensures_accepted.2 ⟨Int.not_lt.1 hlow, Int.not_lt.1 hhigh⟩

/-- A double-precision number is above zero. -/
def Positive (x : Binary64) : Prop := x.gtInt 0 = true

instance (x : Binary64) : Decidable (Positive x) := inferInstanceAs (Decidable (_ = _))

theorem ensures_positiveFloat (d : Datum) : (positiveFloat d).Ensures Positive := by
  refine .andThen fun x => ?_
  by_cases hx : x.gtInt 0 = true
  · rw [if_pos hx]
    exact ensures_accepted.2 hx
  · rw [if_neg hx]
    exact ensures_refuse _

theorem ensures_level (d : Datum) : (level d).Ensures (· ∈ levels) := by
  unfold level
  split
  · dsimp only
    split
    · rename_i hmem
      exact ensures_accepted.2 (List.contains_iff_mem.1 hmem)
    · exact ensures_refuse _
  · exact ensures_refuse _

theorem ensures_list {α : Type} {Q : α → Prop} {check : Check α}
    (h : ∀ d, (check d).Ensures Q) (d : Datum) :
    (list check d).Ensures fun as => ∀ a ∈ as, Q a := by
  unfold list
  split
  · refine ensures_ofItems ?_ 0
    simpa only [List.forall_mem_map] using fun d _ => h d
  · refine ensures_ofItems ?_ 0
    simpa only [List.forall_mem_map] using fun s _ => h (.scalar s)
  · exact ensures_refuse _

/-! ### Definitions of rules -/

/-- All keys of some entries are texts. -/
def TextKeys (es : Entries) : Prop := ∀ e ∈ es, ∃ s, e.1 = .text s

theorem TextKeys.put {es : Entries} (h : TextKeys es) (s : String) (d : Datum) :
    TextKeys (Entries.put (.text s) d es) := by
  induction es with
  | nil => exact List.forall_mem_singleton.2 ⟨s, rfl⟩
  | cons e es ih =>
    obtain ⟨he, hes⟩ := List.forall_mem_cons.1 h
    rw [Entries.put]
    split
    · exact List.forall_mem_cons.2 ⟨he, hes⟩
    · exact List.forall_mem_cons.2 ⟨he, ih hes⟩

theorem TextKeys.foldl_put {given out : Entries} (hgiven : TextKeys given) (hout : TextKeys out) :
    TextKeys (given.foldl (fun out e => Entries.put e.1 e.2 out) out) := by
  induction given generalizing out with
  | nil => exact hout
  | cons e given ih =>
    obtain ⟨⟨s, hs⟩, hgiven⟩ := List.forall_mem_cons.1 hgiven
    refine ih hgiven ?_
    have hput := hout.put s e.2
    rwa [← hs] at hput

theorem ensures_ruleEntry (key : Scalar) (d : Datum) :
    (ruleEntry key d).Ensures fun e => ∃ s, e.1 = .text s := by
  refine .under (.under (.map (ensures_true _) ?_) _) _
  intro s _
  exact ⟨s, rfl⟩

theorem ensures_entriesOf (es : Entries) : (entriesOf es).Ensures TextKeys := by
  induction es with
  | nil => exact ensures_accepted.2 (List.forall_mem_nil _)
  | cons e es ih =>
    refine .seq (.map (ensures_ruleEntry e.1 e.2) ?_) ih
    intro e he es hes
    exact List.forall_mem_cons.2 ⟨he, hes⟩

theorem ensures_ruleEntries (d : Datum) : (ruleEntries d).Ensures TextKeys := by
  unfold ruleEntries
  split
  · refine .map (ensures_entriesOf _) ?_
    intro given hgiven
    exact hgiven.foldl_put (List.forall_mem_nil _)
  · exact ensures_refuse _

end Check

/-! ### Sections -/

/-- What is true of the settings of the source. -/
structure FeedSettings.Valid (s : FeedSettings) : Prop where
  waitSeconds : Check.Within 1 3600 s.waitSeconds
  pageSize : Check.Within 1 100 s.pageSize
  timeout : Check.Positive s.timeout

theorem FeedSettings.valid_default : ({} : FeedSettings).Valid :=
  ⟨by decide, by decide, by decide +kernel⟩

theorem FeedSettings.ensures_check (place : Surroundings) (d : Datum) :
    (check place d).Ensures Valid := by
  refine Check.ensures_fields (fun es => ?_) d
  -- The fields are arguments of the record, so the last one comes off first.
  refine .seq ?_ (Fields.ensures_withDefault valid_default.timeout Check.ensures_positiveFloat es _)
  refine .seq ?_ (Fields.ensures_withDefault valid_default.pageSize
    (Check.ensures_intWithin 1 100) es _)
  refine .skip (.seq ?_ (Fields.ensures_withDefault valid_default.waitSeconds
    (Check.ensures_intWithin 1 3600) es _))
  refine .skip (.skip (.skip (.skip (.skip (.skip (.skip (.map (ensures_true _) ?_)))))))
  intros
  constructor <;> assumption

/-- What is true of the settings of the webhook. -/
structure WebhookSettings.Valid (s : WebhookSettings) : Prop where
  interval : Check.Within 1 3600 s.interval

theorem WebhookSettings.valid_default : ({} : WebhookSettings).Valid := ⟨by decide⟩

theorem WebhookSettings.ensures_check (d : Datum) : (check d).Ensures Valid := by
  refine Check.ensures_fields (fun es => ?_) d
  refine .seq ?_ (Fields.ensures_withDefault valid_default.interval
    (Check.ensures_intWithin 1 3600) es _)
  refine .skip (.skip (.map (ensures_true _) ?_))
  intros
  constructor
  assumption

/-- What is true of the settings of the channels. -/
structure PipelineSettings.Valid (s : PipelineSettings) : Prop where
  capacity : Check.Within 1 10000 s.capacity

theorem PipelineSettings.valid_default : ({} : PipelineSettings).Valid := ⟨by decide⟩

theorem PipelineSettings.ensures_check (d : Datum) : (check d).Ensures Valid := by
  refine Check.ensures_fields (fun es => ?_) d
  refine .map (Fields.ensures_withDefault valid_default.capacity
    (Check.ensures_intWithin 1 10000) es _) ?_
  intro capacity hcapacity
  exact ⟨hcapacity⟩

/-- What is true of the settings of the journal. -/
structure LogSettings.Valid (s : LogSettings) : Prop where
  level : s.level ∈ Check.levels

theorem LogSettings.valid_default : ({} : LogSettings).Valid := ⟨by decide⟩

theorem LogSettings.ensures_check (d : Datum) : (check d).Ensures Valid := by
  refine Check.ensures_fields (fun es => ?_) d
  refine .skip (.skip (.map (Fields.ensures_withDefault valid_default.level
    Check.ensures_level es _) ?_))
  intro level hlevel
  intros
  exact ⟨hlevel⟩

/-! ### All settings -/

namespace Settings

/-- What is true of settings. -/
structure Valid (s : Settings) : Prop where
  feed : s.feed.Valid
  webhook : s.webhook.Valid
  pipeline : s.pipeline.Valid
  log : s.log.Valid
  rules : ∀ es ∈ s.rules, Check.TextKeys es

/-- Settings are accepted only if they are valid. -/
theorem ensures_verdict (place : Surroundings) (es : Entries) :
    (verdict place es).Ensures Valid := by
  have hfeed := Fields.ensures_withDefault FeedSettings.valid_default
    (FeedSettings.ensures_check place) es "reddit"
  have hwebhook := Fields.ensures_withDefault WebhookSettings.valid_default
    WebhookSettings.ensures_check es "discord"
  have hpipeline := Fields.ensures_withDefault PipelineSettings.valid_default
    PipelineSettings.ensures_check es "pipeline"
  have hlog := Fields.ensures_withDefault LogSettings.valid_default
    LogSettings.ensures_check es "logging"
  have hrules := Fields.ensures_withDefault (List.forall_mem_nil _)
    (Check.ensures_list Check.ensures_ruleEntries) es "rules"
  refine .seq (.skip (.seq (.seq (.skip (.skip (.seq (.map hfeed ?_) hwebhook))) hpipeline) hlog))
    hrules
  intros
  constructor <;> assumption

end Settings

end DealWatch
