import DealWatch.Pipeline.Match
import DealWatch.Proofs.Outside.Act
import DealWatch.Proofs.Rule.Fingerprint
import DealWatch.Proofs.Store.Insert
import Mathlib.Data.List.TakeWhile

/-!
# What the match stage does

A listing goes through the match stage in one of ten ways, each with its own end: `Processing` lists
them with the result and the store that each leaves, and `processing_of_run` says that
`processListing` takes one of them. The proof runs the stage step by step and leaves it where a step
fails or says that a row was there; what was written until then stays.

`storeRules_run` says what storing rules does: all of them are written, or those before the first
one that has a flaw.
-/

namespace DealWatch

theorem TitleParts.toTitle_postId {parts : TitleParts} {postId : String} {t : ParsedTitle}
    (h : parts.toTitle postId = .ok t) : t.postId = postId := by
  simp only [toTitle, bind, Except.bind, pure, Except.pure] at h
  repeat' split at h
  all_goals cases h
  all_goals rfl

/-- The title of a post has the key of the post. -/
theorem extractTitle_postId {title postId : String} {t : ParsedTitle}
    (h : extractTitle title postId = .ok (some t)) : t.postId = postId := by
  unfold extractTitle at h
  split at h
  · rename_i parts _
    cases hp : parts.toTitle postId with
    | error e => rw [hp] at h; cases h
    | ok t' =>
      rw [hp] at h
      cases h
      exact TitleParts.toTitle_postId hp
  · cases h

/-- The ways in which a listing goes through the match stage: the result, and the store it leaves
behind. The post is written before the title is read, and the title before a rule is chosen. -/
inductive Processing (rules : RuleSet) (l : Listing) (now : Int) (s : Store) :
    Outcome (Option MatchingPost) → Store → Prop
  /-- The post cannot be stored. -/
  | refused {e : Failure} : Store.postOf l = .error e → Processing rules l now s (.error e) s
  /-- The post is stored already. -/
  | known {p : Post} : Store.postOf l = .ok p → l.id ∈ s.postIds →
      Processing rules l now s (.ok none) s
  /-- The title has a number that cannot be read. -/
  | unreadable {p : Post} {e : Failure} : Store.postOf l = .ok p → l.id ∉ s.postIds →
      extractTitle l.title l.id = .error e →
      Processing rules l now s (.error e) { s with posts := s.posts ++ [p] }
  /-- The title is not of the kind that can be read. -/
  | untitled {p : Post} : Store.postOf l = .ok p → l.id ∉ s.postIds →
      extractTitle l.title l.id = .ok none →
      Processing rules l now s (.ok none) { s with posts := s.posts ++ [p] }
  /-- The title cannot be stored. -/
  | unstorable {p : Post} {t : ParsedTitle} {e : Failure} : Store.postOf l = .ok p →
      l.id ∉ s.postIds → extractTitle l.title l.id = .ok (some t) →
      Store.titleRow t = .error e →
      Processing rules l now s (.error e) { s with posts := s.posts ++ [p] }
  /-- The title is stored already. -/
  | retitled {p : Post} {t row : ParsedTitle} : Store.postOf l = .ok p → l.id ∉ s.postIds →
      extractTitle l.title l.id = .ok (some t) → Store.titleRow t = .ok row → l.id ∈ s.titleIds →
      Processing rules l now s (.ok none) { s with posts := s.posts ++ [p] }
  /-- The rules cannot be tried. -/
  | undecided {p : Post} {t row : ParsedTitle} {e : Failure} : Store.postOf l = .ok p →
      l.id ∉ s.postIds → extractTitle l.title l.id = .ok (some t) → Store.titleRow t = .ok row →
      l.id ∉ s.titleIds → rules.select l t = .error e →
      Processing rules l now s (.error e)
        { s with posts := s.posts ++ [p], titles := s.titles ++ [t] }
  /-- No rule accepts. -/
  | unmatched {p : Post} {t row : ParsedTitle} : Store.postOf l = .ok p → l.id ∉ s.postIds →
      extractTitle l.title l.id = .ok (some t) → Store.titleRow t = .ok row → l.id ∉ s.titleIds →
      rules.select l t = .ok none →
      Processing rules l now s (.ok none)
        { s with posts := s.posts ++ [p], titles := s.titles ++ [t] }
  /-- A rule accepts that cannot be identified. -/
  | unidentified {p : Post} {t row : ParsedTitle} {r : Rule} {e : Failure} :
      Store.postOf l = .ok p → l.id ∉ s.postIds → extractTitle l.title l.id = .ok (some t) →
      Store.titleRow t = .ok row → l.id ∉ s.titleIds → rules.select l t = .ok (some r) →
      r.flaw? = some e →
      Processing rules l now s (.error e)
        { s with posts := s.posts ++ [p], titles := s.titles ++ [t] }
  /-- A rule accepts. -/
  | matched {p : Post} {t row : ParsedTitle} {r : Rule} : Store.postOf l = .ok p →
      l.id ∉ s.postIds → extractTitle l.title l.id = .ok (some t) → Store.titleRow t = .ok row →
      l.id ∉ s.titleIds → rules.select l t = .ok (some r) → r.flaw? = none →
      Processing rules l now s (.ok (some ⟨r, l, t⟩))
        (Store.insertMatch { s with posts := s.posts ++ [p], titles := s.titles ++ [t] }
          r l.id now).1

/-! ### The steps of the stage -/

theorem insertRow_run (insert : Store → Outcome (Store × Bool)) (s : Store) (o : Outside) :
    (insertRow insert).runWith s o =
      match insert s with
      | .ok (s', fresh) => (.ok fresh, s', o)
      | .error e => (.error e, s, o) := by
  rw [insertRow, Act.runWith_bind, Act.runWith_state]
  simp only [Act.runWith_bind, Act.runWith_ofOutcome]
  rcases insert s with e | ⟨s', fresh⟩ <;> simp

theorem storeMatch_run {r : Rule} (h : r.flaw? = none) (postId : String) (s : Store)
    (o : Outside) : (storeMatch r postId).runWith s o =
      (.ok (s.insertMatch r postId o.now).2, (s.insertMatch r postId o.now).1, o) := by
  rw [storeMatch, Act.runWith_bind, Act.runWith_now]
  simp only [insertRow_run, Store.tryInsertMatch_of_sound s h]

theorem storeMatch_run_of_flaw {r : Rule} {f : Failure} (h : r.flaw? = some f) (postId : String)
    (s : Store) (o : Outside) : (storeMatch r postId).runWith s o = (.error f, s, o) := by
  rw [storeMatch, Act.runWith_bind, Act.runWith_now]
  simp only [insertRow_run, Store.tryInsertMatch_of_flaw s h]

/-- A listing that cannot be stored fails whatever the rules and the store are. -/
theorem processListing_of_refused {l : Listing} {e : Failure} (hp : Store.postOf l = .error e)
    (rules : RuleSet) (s : Store) (o : Outside) :
    (processListing rules l).runWith s o = (.error e, s, o) := by
  unfold processListing
  simp only [Act.runWith_bind, insertRow_run, Store.insertListing_error hp]

/-- A listing that can be stored and is there already changes nothing. -/
theorem processListing_of_known {l : Listing} {p : Post} {s : Store} (hp : Store.postOf l = .ok p)
    (hid : l.id ∈ s.postIds) (rules : RuleSet) (o : Outside) :
    ∃ o', (processListing rules l).runWith s o = (.ok none, s, o') := by
  unfold processListing
  simp only [Act.runWith_bind, insertRow_run, Store.insertListing_known hp hid]
  exact ⟨_, rfl⟩

/-- **The match stage** takes one of its ways. -/
theorem processing_of_run (rules : RuleSet) (l : Listing) (s : Store) (o : Outside) :
    Processing rules l o.now s ((processListing rules l).runWith s o).1
      ((processListing rules l).runWith s o).2.1 := by
  rcases hp : Store.postOf l with e | p
  · rw [processListing_of_refused hp]
    exact .refused hp
  by_cases hid : l.id ∈ s.postIds
  · obtain ⟨o', hrun⟩ := processListing_of_known hp hid rules o
    rw [hrun]
    exact .known hp hid
  unfold processListing
  simp only [Act.runWith_bind, insertRow_run, Store.insertListing_new hp hid]
  -- from here on the post stays, whatever happens
  rcases ht : extractTitle l.title l.id with e | _ | t
  · exact .unreadable hp hid ht
  · exact .untitled hp hid ht
  have hpost := extractTitle_postId ht
  simp only [Bool.not_true, Bool.false_eq_true, if_false, Act.runWith_bind, Act.runWith_ofOutcome,
    insertRow_run]
  rcases hrow : Store.titleRow t with e | row
  · simp only [Store.insertTitle_error hrow]
    exact .unstorable hp hid ht hrow
  by_cases htid : l.id ∈ s.titleIds
  · rw [Store.insertTitle_known hrow (by rwa [hpost])]
    exact .retitled hp hid ht hrow htid
  rw [Store.insertTitle_new hrow (by rwa [hpost])]
  simp only [Bool.not_true, Bool.false_eq_true, if_false, Act.runWith_bind, Act.runWith_ofOutcome]
  rcases hsel : rules.select l t with e | _ | r
  · exact .undecided hp hid ht hrow htid hsel
  · exact .unmatched hp hid ht hrow htid hsel
  cases hflaw : r.flaw? with
  | some f =>
    simp only [Act.runWith_bind, storeMatch_run_of_flaw hflaw]
    exact .unidentified hp hid ht hrow htid hsel hflaw
  | none =>
    simp only [Act.runWith_bind, storeMatch_run hflaw]
    exact .matched hp hid ht hrow htid hsel hflaw

/-! ### Storing rules -/

/-- A store after some rules are written. -/
def Store.withRules (s : Store) (rs : List Rule) : Store :=
  rs.foldl (fun s r => (s.insertRule r).1) s

theorem storeRule_run {r : Rule} (h : r.flaw? = none) (s : Store) (o : Outside) :
    ∃ o', (storeRule r).runWith s o = (.ok (s.insertRule r).2, (s.insertRule r).1, o') := by
  simp only [storeRule, Act.runWith_bind, insertRow_run, Store.tryInsertRule_of_sound s h]
  cases (s.insertRule r).2 with
  | false => exact ⟨o, rfl⟩
  | true => exact ⟨_, rfl⟩

theorem storeRule_run_of_flaw {r : Rule} {f : Failure} (h : r.flaw? = some f) (s : Store)
    (o : Outside) : (storeRule r).runWith s o = (.error f, s, o) := by
  simp only [storeRule, Act.runWith_bind, insertRow_run, Store.tryInsertRule_of_flaw s h]

/-- The rules before the first one with a flaw. -/
def RuleSet.storable (rs : List Rule) : List Rule := rs.takeWhile (·.flaw?.isNone)

theorem RuleSet.storable_eq_self {rs : List Rule} (h : ∀ r ∈ rs, r.flaw? = none) :
    storable rs = rs :=
  List.takeWhile_eq_self_iff.2 fun r hr => by rw [h r hr]; rfl

/-- What storing rules gives. -/
inductive Storing (rs : List Rule) : Outcome Nat → Prop
  | all {n : Nat} : (∀ r ∈ rs, r.flaw? = none) → Storing rs (.ok n)
  | flawed (before : List Rule) {r : Rule} {after : List Rule} {f : Failure} : rs = before ++ r :: after →
      (∀ q ∈ before, q.flaw? = none) → r.flaw? = some f → Storing rs (.error f)

theorem storeRules_run (rs : List Rule) (s : Store) (o : Outside) :
    ∃ result o', (storeRules rs).runWith s o = (result, s.withRules (RuleSet.storable rs), o') ∧
      Storing rs result := by
  induction rs generalizing s o with
  | nil => exact ⟨.ok 0, o, rfl, .all (List.forall_mem_nil _)⟩
  | cons r rs ih =>
    rw [storeRules, Act.runWith_bind]
    cases hflaw : r.flaw? with
    | some f =>
      have hstorable : RuleSet.storable (r :: rs) = [] := by
        rw [RuleSet.storable, List.takeWhile_cons, hflaw]
        rfl
      rw [storeRule_run_of_flaw hflaw, hstorable]
      exact ⟨_, o, rfl, .flawed [] rfl (List.forall_mem_nil _) hflaw⟩
    | none =>
      have hstorable : RuleSet.storable (r :: rs) = r :: RuleSet.storable rs := by
        rw [RuleSet.storable, List.takeWhile_cons, hflaw]
        rfl
      obtain ⟨o', hr⟩ := storeRule_run hflaw s o
      obtain ⟨result, o'', hrs, hstoring⟩ := ih (s.insertRule r).1 o'
      rw [hr, hstorable]
      simp only [Act.runWith_bind, hrs]
      cases hstoring with
      | all hall => exact ⟨_, o'', rfl, .all (List.forall_mem_cons.2 ⟨hflaw, hall⟩)⟩
      | flawed before hsplit hbefore hf =>
        exact ⟨_, o'', rfl, .flawed (r :: before) (congrArg (r :: ·) hsplit)
          (List.forall_mem_cons.2 ⟨hflaw, hbefore⟩) hf⟩

namespace Store

variable {s : Store}

theorem withRules_cons (s : Store) (r : Rule) (rs : List Rule) :
    s.withRules (r :: rs) = (s.insertRule r).1.withRules rs := rfl

/-- Writing rules touches no other table. -/
theorem withRules_frame (s : Store) (rs : List Rule) :
    (s.withRules rs).posts = s.posts ∧ (s.withRules rs).titles = s.titles ∧
      (s.withRules rs).hits = s.hits := by
  induction rs generalizing s with
  | nil => exact ⟨rfl, rfl, rfl⟩
  | cons r rs ih => exact ih (s.insertRule r).1

theorem postIds_withRules (rs : List Rule) : (s.withRules rs).postIds = s.postIds := by
  rw [postIds, (s.withRules_frame rs).1, postIds]

theorem titleIds_withRules (rs : List Rule) : (s.withRules rs).titleIds = s.titleIds := by
  rw [titleIds, (s.withRules_frame rs).2.1, titleIds]

theorem hitKeys_withRules (rs : List Rule) : (s.withRules rs).hitKeys = s.hitKeys := by
  rw [hitKeys, (s.withRules_frame rs).2.2, hitKeys]

/-- After one rule is written, its key is in the table. -/
theorem mem_ruleIds_insertRule {r : Rule} {id : String} :
    id ∈ (s.insertRule r).1.ruleIds ↔ id ∈ s.ruleIds ∨ id = r.fingerprint := by
  by_cases hr : r.fingerprint ∈ s.ruleIds
  · rw [insertRule_known hr]
    constructor
    · exact .inl
    · rintro (h | rfl)
      · exact h
      · exact hr
  · rw [insertRule_new hr]
    simp [ruleIds, Rule.toRecord]

theorem mem_ruleIds_withRules {rs : List Rule} {id : String} :
    id ∈ (s.withRules rs).ruleIds ↔ id ∈ s.ruleIds ∨ id ∈ rs.map (·.fingerprint) := by
  induction rs generalizing s with
  | nil => simp [withRules]
  | cons r rs ih =>
    rw [withRules_cons, ih, mem_ruleIds_insertRule, or_assoc, List.map_cons, List.mem_cons]

theorem mem_rules_insertRule {r : Rule} {row : RuleRecord} (h : row ∈ (s.insertRule r).1.rules) :
    row ∈ s.rules ∨ row = r.toRecord := by
  by_cases hr : r.fingerprint ∈ s.ruleIds
  · rw [insertRule_known hr] at h
    exact .inl h
  · rw [insertRule_new hr] at h
    simpa using h

/-- The rows after some rules are written are those from before and records of the rules. -/
theorem mem_rules_withRules {rs : List Rule} {row : RuleRecord}
    (h : row ∈ (s.withRules rs).rules) : row ∈ s.rules ∨ ∃ r ∈ rs, row = r.toRecord := by
  induction rs generalizing s with
  | nil => exact .inl h
  | cons r rs ih =>
    rw [withRules_cons] at h
    obtain h | ⟨r', hr', rfl⟩ := ih h
    · obtain h | rfl := mem_rules_insertRule h
      · exact .inl h
      · exact .inr ⟨r, List.mem_cons_self, rfl⟩
    · exact .inr ⟨r', List.mem_cons_of_mem _ hr', rfl⟩

end Store

end DealWatch
