import DealWatch.Proofs.Pipeline.History
import DealWatch.Proofs.Pipeline.Interleaving
import DealWatch.Proofs.Store.Recent

/-!
# The latest matches of the pipeline

The pipeline stores a rule before any match of it, and a post before any match of it. So a query for
the latest matches leaves none out that the pipeline recorded.

* `Store.Produced` says that a store is what runs of the pipeline made of an empty one, and starts
  that failed;
* `Store.Produced.exists_history` says that this is what a history of starts and offers leaves;
* `Store.recentMatches_found` says what the query finds in any store that was written, and that
  nothing is left out in those that the pipeline wrote.

A step of the pipeline leaves the store or offers a listing (`Flow.Step.store_eq`), so a run is a
start with offers behind it, by induction on the steps. What is true of histories is true of the
store then.
-/

namespace DealWatch

namespace Store

variable {s s' : Store}

/-! ### The match stage writes rows -/

theorem Written.withRules (h : s.Written) (rs : List Rule) : (s.withRules rs).Written := by
  induction rs generalizing s with
  | nil => exact h
  | cons r rs ih => exact ih (h.write (.rule r.toRecord))

theorem Written.withPost (h : s.Written) {p : Post} (hp : p.id ∉ s.postIds) :
    Written { s with posts := s.posts ++ [p] } := by
  have hwritten := h.write (.post p)
  rwa [Store.write, insertPost, addNew_new hp] at hwritten

theorem Written.withTitle (h : s.Written) {t : ParsedTitle} (ht : t.postId ∉ s.titleIds) :
    Written { s with titles := s.titles ++ [t] } := by
  have hwritten := h.write (.title t)
  rwa [Store.write, addNew_new ht] at hwritten

/-- A listing that goes through the match stage writes rows, wherever it ends. -/
theorem Written.processing (h : s.Written) {rules : RuleSet} {l : Listing} {now : Int}
    {x : Outcome (Option MatchingPost)} (hp : Processing rules l now s x s') : s'.Written := by
  have hposted {p : Post} (hpost : postOf l = .ok p) (hid : l.id ∉ s.postIds) :
      Written { s with posts := s.posts ++ [p] } :=
    h.withPost (by rwa [postOf_id hpost])
  have htitled {p : Post} {t : ParsedTitle} (hpost : postOf l = .ok p) (hid : l.id ∉ s.postIds)
      (ht : extractTitle l.title l.id = .ok (some t)) (htid : l.id ∉ s.titleIds) :
      Written { s with posts := s.posts ++ [p], titles := s.titles ++ [t] } := by
    refine (hposted hpost hid).withTitle ?_
    rwa [extractTitle_postId ht]
  cases hp with
  | refused | known => exact h
  | unreadable hpost hid | untitled hpost hid | unstorable hpost hid | retitled hpost hid =>
    exact hposted hpost hid
  | undecided hpost hid ht _ htid | unmatched hpost hid ht _ htid =>
    exact htitled hpost hid ht htid
  | unidentified hpost hid ht _ htid => exact htitled hpost hid ht htid
  | @matched p t row r hpost hid ht _ htid =>
    exact (htitled hpost hid ht htid).write (.hit ⟨r.fingerprint, l.id, now⟩)

end Store

namespace History

theorem written_step {h : History} (hw : h.store.Written) (e : Event) :
    (h.step e).store.Written := by
  cases e with
  | start rules o =>
    obtain ⟨result, o', hrun, -⟩ := storeRules_run rules.rules h.store o
    rw [step, hrun]
    exact hw.withRules _
  | offer l o => exact hw.processing (processing_of_run h.rules l h.store o)

theorem after_concat (es : List Event) (e : Event) : after (es ++ [e]) = (after es).step e := by
  rw [after, List.foldl_concat]
  rfl

/-- What a history leaves was written by it. -/
theorem written_after (es : List Event) : (after es).store.Written := by
  induction es using List.reverseRecOn with
  | nil => exact .empty
  | append_singleton es e ih =>
    rw [after_concat]
    exact written_step ih e

/-- The rule and the post of a match that was recorded are stored. -/
theorem isLinked_of_hit (es : List Event) {m : MatchRecord} (hm : m ∈ (after es).store.hits) :
    (after es).store.isLinked m = true := by
  have hc := consistent_after es
  have hkey : (m.ruleId, m.postId) ∈ (after es).store.hitKeys := List.mem_map_of_mem hm
  rw [hc.hits] at hkey
  obtain ⟨p, hp, hpkey⟩ := List.mem_map.1 hkey
  obtain ⟨hrule, hpost⟩ := Prod.mk.inj hpkey
  have hruleId : m.ruleId ∈ (after es).store.ruleIds :=
    hrule ▸ hc.stored p.rule (hc.accepted p hp)
  have hpostId : m.postId ∈ (after es).store.postIds := hpost ▸ hc.posted _ (hc.titled p hp)
  simp [Store.isLinked, hruleId, hpostId]

end History

/-! ### Runs of the pipeline -/

namespace Flow

variable {f f' : Flow}

/-- A step of the pipeline keeps its rules, and leaves the store or offers a listing to matching. -/
theorem Step.store_eq (h : Step f f') :
    f'.pipeline.rules = f.pipeline.rules ∧ (f'.pipeline.store = f.pipeline.store ∨
      ∃ l o, f'.pipeline.store =
        ((processListing f.pipeline.rules l).runWith f.pipeline.store o).2.1) := by
  cases h with
  | @skipListing l _ _ o _ _ _ _ hrun | @returnMatch l _ _ o _ _ _ _ _ hrun
  | @matchFails l _ _ o _ _ _ _ _ hrun => exact ⟨rfl, .inr ⟨l, o, by rw [hrun]⟩⟩
  | startFails | fetch | fetchFails | putListing | finishPage | finishPageFails | putMatch | tick
  | collect | pass | startBatch | sendGroup | sendGroupFails | endBatch | schedule =>
    exact ⟨rfl, .inl rfl⟩

/-- Steps of the pipeline go on with a history by offers. -/
theorem Steps.exists_history (h : Steps f f') {es : List History.Event}
    (hstore : (History.after es).store = f.pipeline.store)
    (hrules : (History.after es).rules = f.pipeline.rules) :
    ∃ es', (History.after es').store = f'.pipeline.store ∧
      (History.after es').rules = f'.pipeline.rules := by
  induction h with
  | refl => exact ⟨es, hstore, hrules⟩
  | tail _ hstep ih =>
    obtain ⟨es', hstore', hrules'⟩ := ih
    obtain ⟨hsame, hleft | ⟨l, o, hoffered⟩⟩ := hstep.store_eq
    · exact ⟨es', hstore'.trans hleft.symm, hrules'.trans hsame.symm⟩
    · refine ⟨es' ++ [.offer l o], ?_, ?_⟩
      · rw [History.after_concat, hoffered, ← hstore', ← hrules']
        rfl
      · rw [History.after_concat, hsame, ← hrules']
        rfl

end Flow

namespace Store

/-- What runs of the pipeline make of an empty store, one run after the other, each with its own
settings and rules and stopped anywhere. A run ends at once if there is a rule that cannot be
stored. -/
inductive Produced : Store → Prop
  | empty : Produced .empty
  | run {s : Store} {settings : Settings} {rules : RuleSet} {f : Flow} :
      Produced s → (∀ r ∈ rules.rules, r.flaw? = none) →
      Flow.Steps (.initial settings rules s) f → Produced f.pipeline.store
  | failedStart {s : Store} (rules : RuleSet) :
      Produced s → Produced (s.withRules (RuleSet.storable rules.rules))

variable {s : Store}

/-- What the pipeline leaves is what a history of starts and offers leaves. -/
theorem Produced.exists_history (h : s.Produced) : ∃ es, (History.after es).store = s := by
  induction h with
  | empty => exact ⟨[], rfl⟩
  | @run s settings rules f _ hsound hsteps ih =>
    obtain ⟨es, rfl⟩ := ih
    obtain ⟨result, o', hrun, hstoring⟩ :=
      storeRules_run rules.rules (History.after es).store default
    have hstore : (History.after (es ++ [.start rules default])).store =
        (History.after es).store.withRules (RuleSet.storable rules.rules) := by
      rw [History.after_concat, History.step, hrun]
    -- the rules are in use because all of them are stored
    have hrules : (History.after (es ++ [.start rules default])).rules = rules := by
      rw [History.after_concat, History.step, hrun]
      cases hstoring with
      | all _ => rfl
      | flawed before hsplit _ hflaw =>
        rw [hsound _ (by simp [hsplit])] at hflaw
        cases hflaw
    obtain ⟨es', hleft, -⟩ := hsteps.exists_history hstore hrules
    exact ⟨es', hleft⟩
  | @failedStart s rules _ ih =>
    obtain ⟨es, rfl⟩ := ih
    obtain ⟨result, o', hrun, -⟩ := storeRules_run rules.rules (History.after es).store default
    refine ⟨es ++ [.start rules default], ?_⟩
    rw [History.after_concat, History.step, hrun]

/-- **A run of the pipeline** on a store that runs have made makes another one. -/
theorem Produced.of_run (h : s.Produced) (settings : Settings) (rules : RuleSet) (o : Outside)
    (events : List (Pipeline.Event × Outside)) :
    ((Pipeline.start.runWith (.ofSettings settings rules s) o).2.1.after events).store.Produced := by
  obtain ⟨o', ⟨hsound, -⟩ | ⟨r, -, e, -, hfails⟩⟩ := Pipeline.pipeline_start_run settings rules s o
  · obtain ⟨f, hsteps, hpipeline⟩ := Flow.steps_of_run settings rules s o events
    rw [← hpipeline]
    exact h.run hsound hsteps
  · rw [hfails, Pipeline.after_of_ended (Option.some_ne_none e)]
    exact h.failedStart rules

/-- **The latest matches.**  In every store that was written, a limit that is a word finds different
matches that are stored, each with the row of its rule and the row of its post, the latest first;
those with both rows that are left out are no newer, and there are as many as the limit leaves.
Another limit is refused. What calls leave was written; and in what the pipeline leaves, stopped
anywhere in any of its runs, every match has both rows, so that none is left out for want of
them. -/
theorem recentMatches_found (limit : Int) :
    (isWord limit = true → ∀ s : Store, s.Written →
      ∃ found, s.recentMatches limit = .ok found ∧ s.Recent limit found) ∧
    (isWord limit = false → ∀ s : Store, s.recentMatches limit = .error .wideInteger) ∧
    (∀ calls, (after calls).Written) ∧
    (∀ s : Store, s.Produced → s.Written ∧ ∀ m ∈ s.hits, s.isLinked m = true) ∧
    ∀ settings rules o events, ∀ s : Store, s.Produced →
      ((Pipeline.start.runWith (.ofSettings settings rules s) o).2.1.after events).store.Produced := by
  refine ⟨fun hlimit s hs => hs.recentMatches hlimit, fun hlimit s => ?_, written_after,
    fun s hs => ?_, fun settings rules o events s hs => ?_⟩
  · simp [recentMatches, hlimit]
  · obtain ⟨es, rfl⟩ := hs.exists_history
    exact ⟨History.written_after es, fun m hm => History.isLinked_of_hit es hm⟩
  · exact hs.of_run settings rules o events

/-- A limit beyond all words is refused even if there is nothing to find. -/
theorem recentMatches_beyond :
    Written .empty ∧ ∀ found, Store.empty.recentMatches 9223372036854775808 ≠ .ok found :=
  ⟨.empty, nofun⟩

end Store

end DealWatch
