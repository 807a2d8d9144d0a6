import DealWatch.Proofs.Pipeline.Settling

/-!
# Stages that go on

Ingestion waits for matching if its channel is full, matching and the clock wait for the notifier if
theirs is, and the notifier waits for nothing but a notification. So the stages cannot all wait for
each other while there is something to do.

* `Flow.MatchStep` and `Flow.NotifyStep` are the steps of matching and of the notifier, by what they
  change;
* `Flow.Waiting` says that a stage or the clock cannot put what it has, and `Flow.Busy` that a
  channel holds something or somebody waits;
* `Flow.goes_on_of_reachable` says that one of the two can go on in every busy state that can be
  reached, and that a run comes to rest in no busy state.

Whoever waits to put an item waits at a full channel, so in a busy state some channel holds an item
(`Busy.held`). If it is the channel of notifications the notifier can take one; if it is empty there
is room in it, and matching can go on. That runs do go on until nothing is left is the other half,
and it is about the order in which tasks are woken (`Pipeline.idle_of_run`).
-/

namespace DealWatch

namespace Flow

variable {f f' : Flow}

/-- A step of matching, before the pipeline ends: a listing is taken, or a match is put. -/
structure MatchStep (f f' : Flow) : Prop where
  running : f.pipeline.ended = none
  step : Step f f'
  moved : f'.processed ≠ f.processed ∨ f'.pipeline.matching ≠ f.pipeline.matching

/-- A step of the notifier, before the pipeline ends: a notification is taken, or a batch goes
on. -/
structure NotifyStep (f f' : Flow) : Prop where
  running : f.pipeline.ended = none
  step : Step f f'
  moved : f'.pipeline.notices.items.length < f.pipeline.notices.items.length ∨ f'.batch ≠ f.batch

/-- A step of matching leaves ingestion, apart from its channel, and the notifier. -/
theorem MatchStep.spares (h : MatchStep f f') :
    { f'.pipeline.ingestion with outbox := f.pipeline.ingestion.outbox } = f.pipeline.ingestion ∧
      f'.pipeline.notifier = f.pipeline.notifier ∧ f'.batch = f.batch := by
  obtain ⟨-, hstep, hmoved⟩ := h
  cases hstep with
  | skipListing | returnMatch | matchFails | putMatch => exact ⟨rfl, rfl, rfl⟩
  | startFails | fetch | fetchFails | putListing | tick | collect | pass | startBatch | sendGroup
  | sendGroupFails | endBatch | schedule => simp [Pipeline.reschedule] at hmoved
  | finishPage | finishPageFails => simp at hmoved

/-- A step of the notifier leaves ingestion and matching. -/
theorem NotifyStep.spares (h : NotifyStep f f') :
    f'.pipeline.ingestion = f.pipeline.ingestion ∧ f'.pipeline.matching = f.pipeline.matching ∧
      f'.pipeline.store = f.pipeline.store := by
  obtain ⟨-, hstep, hmoved⟩ := h
  cases hstep with
  | collect | pass | startBatch | sendGroup | sendGroupFails | endBatch => exact ⟨rfl, rfl, rfl⟩
  | putMatch _ hput | tick hput =>
    -- a notification that is put makes the channel longer
    have hlonger := congrArg List.length (Channel.put?_items hput)
    rw [List.length_append, List.length_singleton] at hlonger
    obtain hshorter | hbatch := hmoved
    · simp only [hlonger] at hshorter
      omega
    · exact absurd rfl hbatch
  | startFails | fetch | fetchFails | putListing | skipListing | returnMatch | matchFails | schedule
  | finishPage | finishPageFails => simp [Pipeline.reschedule] at hmoved

/-! ### Steps that can be taken -/

/-- Matching takes a listing if there is one. -/
theorem matching_takes (hended : f.pipeline.ended = none)
    (hmatching : f.pipeline.matching = .taking)
    (hitems : f.pipeline.ingestion.outbox.items ≠ []) : ∃ f', MatchStep f f' := by
  obtain ⟨l, outbox, woken, htake⟩ := Channel.take?_of_ne_nil hitems
  have hmoved : f.processed ++ [l] ≠ f.processed := by simp
  -- whatever comes of it, the listing is taken
  rcases hrun : (processListing f.pipeline.rules l).runWith f.pipeline.store default with
    ⟨e | _ | m, store, o'⟩
  · exact ⟨_, hended, .matchFails hmatching htake hrun, .inl hmoved⟩
  · exact ⟨_, hended, .skipListing hmatching htake hrun, .inl hmoved⟩
  · exact ⟨_, hended, .returnMatch hmatching htake hrun, .inl hmoved⟩

/-- Matching puts a match if there is room. -/
theorem matching_puts {m : MatchingPost} (hended : f.pipeline.ended = none)
    (hmatching : f.pipeline.matching = .putting m)
    (hroom : f.pipeline.notices.isFull = false) : ∃ f', MatchStep f f' := by
  have hput := Channel.put?_of_room hroom (.hit m)
  refine ⟨_, hended, .putMatch hmatching hput, .inr ?_⟩
  rw [hmatching]
  nofun

/-- The notifier takes a notification if there is one, or goes on with a batch. -/
theorem notifier_goes_on (hended : f.pipeline.ended = none)
    (hitems : f.pipeline.notices.items ≠ []) : ∃ f', NotifyStep f f' := by
  rcases hbatch : f.batch with _ | ⟨posts, line, _ | ⟨group, rest⟩⟩
  · obtain ⟨n, notices, woken, htake⟩ := Channel.take?_of_ne_nil hitems
    have hshorter : notices.items.length < f.pipeline.notices.items.length := by
      rw [Channel.take?_items htake, List.length_cons]
      omega
    cases n with
    | hit m => exact ⟨_, hended, .collect hbatch htake, .inl hshorter⟩
    | tick =>
      by_cases hidle : f.pipeline.notifier.queued = [] ∨
          f.pipeline.notifier.webhook.isEnabled = false
      · exact ⟨_, hended, .pass hbatch htake hidle, .inl hshorter⟩
      · obtain ⟨hqueued, henabled⟩ := not_or.1 hidle
        have henabled := eq_true_of_ne_false henabled
        exact ⟨_, hended, .startBatch hbatch htake hqueued henabled, .inl hshorter⟩
  · refine ⟨_, hended, .endBatch hbatch, .inr ?_⟩
    rw [hbatch]
    nofun
  · have hmoved : some (⟨posts, none, rest⟩ : Batch) ≠ some ⟨posts, line, group :: rest⟩ := by
      simp
    rcases hrun : (Webhook.sendGroup line group).runWith f.pipeline.notifier.webhook default with
      ⟨e | _, webhook, o'⟩
    · let failed : Flow := { f with
        pipeline.notifier.webhook := webhook
        pipeline.ended := some e
        batch := none }
      have hstep : Step f failed := .sendGroupFails hbatch hrun
      refine ⟨failed, hended, hstep, .inr ?_⟩
      rw [hbatch]
      nofun
    · refine ⟨_, hended, .sendGroup hbatch hrun, .inr ?_⟩
      rw [hbatch]
      exact hmoved

/-! ### Waiting -/

/-- A stage or the clock has something to put and no room for it: ingestion a listing, matching a
match, or the clock a tick. -/
inductive Waiting (f : Flow) : Prop
  | ingestion {l : Listing} {rest : List Listing} {count : Nat} :
      f.pipeline.ingestion.phase = .delivering (l :: rest) count →
      f.pipeline.ingestion.outbox.put? l = none → Waiting f
  | matching {m : MatchingPost} :
      f.pipeline.matching = .putting m → f.pipeline.notices.put? (.hit m) = none → Waiting f
  | clock : f.pipeline.notices.put? .tick = none → Waiting f

/-- A channel holds something, or somebody waits for room. -/
def Busy (f : Flow) : Prop :=
  f.pipeline.ingestion.outbox.items ≠ [] ∨ f.pipeline.notices.items ≠ [] ∨ f.Waiting

/-- A channel holds something if somebody waits for room. -/
theorem Busy.held (h : f.Busy) :
    f.pipeline.ingestion.outbox.items ≠ [] ∨ f.pipeline.notices.items ≠ [] := by
  obtain hlistings | hnotices | hwaits := h
  · exact .inl hlistings
  · exact .inr hnotices
  · cases hwaits with
    | ingestion _ hput =>
      exact .inl (Channel.items_ne_nil_of_isFull (Channel.put?_eq_none_iff.1 hput))
    | matching _ hput | clock hput =>
      exact .inr (Channel.items_ne_nil_of_isFull (Channel.put?_eq_none_iff.1 hput))

/-- If a channel holds something, then matching or the notifier can go on. -/
theorem goes_on_of_held (hended : f.pipeline.ended = none)
    (hmatching : f.pipeline.matching ≠ .stopped)
    (hheld : f.pipeline.ingestion.outbox.items ≠ [] ∨ f.pipeline.notices.items ≠ []) :
    (∃ f', MatchStep f f') ∨ ∃ f', NotifyStep f f' := by
  by_cases hnotices : f.pipeline.notices.items = []
  · have hlistings := hheld.resolve_right (not_not_intro hnotices)
    cases hphase : f.pipeline.matching with
    | taking => exact .inl (matching_takes hended hphase hlistings)
    | putting m =>
      -- an empty channel has room for the match
      have hroom : f.pipeline.notices.isFull = false := by
        simp [Channel.isFull, hnotices]
        omega
      exact .inl (matching_puts hended hphase hroom)
    | stopped => exact absurd hphase hmatching
  · exact .inr (notifier_goes_on hended hnotices)

/-- **The stages never all wait for each other**, whatever the order of the steps, the replies and
the capacity are: as long as neither of the two has failed, matching or the notifier can go on if a
channel holds something or somebody waits for room. In a run nobody who could go on is forgotten: it
comes to rest only when the channels are empty and nobody waits. -/
theorem goes_on_of_reachable (settings : Settings) (rules : RuleSet) (store : Store) :
    (∀ f, Steps (initial settings rules store) f →
      f.pipeline.matching ≠ .stopped → f.pipeline.ended = none → f.Busy →
      (∃ f', MatchStep f f') ∨ ∃ f', NotifyStep f f') ∧
    ∀ o events, ∃ f, Steps (initial settings rules store) f ∧
      f.pipeline =
        (Pipeline.start.runWith (.ofSettings settings rules store) o).2.1.after events ∧
      (f.pipeline.matching ≠ .stopped → f.pipeline.ended = none →
        f.pipeline.ready = [] ∧ ¬ f.Busy) := by
  refine ⟨fun f _ hmatching hended hbusy => goes_on_of_held hended hmatching hbusy.held, ?_⟩
  intro o events
  obtain ⟨f, hsteps, hrun⟩ := steps_of_run settings rules store o events
  refine ⟨f, hsteps, hrun, fun hmatching hended => ?_⟩
  have hidle := Pipeline.idle_of_run settings rules store o events
  rw [← hrun] at hidle
  obtain ⟨hready, -, -, hlistings, hnotices, -⟩ := hidle hmatching hended
  refine ⟨hready, fun hbusy => ?_⟩
  obtain hheld | hheld := hbusy.held
  · exact hheld hlistings
  · exact hheld hnotices

/-- With room for one notification, the clock waits after the first tick, and the notifier can go
on. -/
theorem goes_on_of_reachable_full :
    ∃ (settings : Settings) (f : Flow), Steps (initial settings .empty .empty) f ∧
      f.pipeline.matching ≠ .stopped ∧ f.pipeline.ended = none ∧ f.Waiting ∧
      ((∃ f', MatchStep f f') ∨ ∃ f', NotifyStep f f') := by
  let settings : Settings := { pipeline := { capacity := 1 } }
  let f := initial settings .empty .empty
  let f' : Flow := { f with pipeline.notices := (f.pipeline.notices.push .tick).1 }
  have hsteps : Steps f f' := .single (.tick rfl)
  have hmatching : f'.pipeline.matching ≠ .stopped := nofun
  have hwaiting : f'.Waiting := .clock rfl
  have hmoves := (goes_on_of_reachable settings .empty .empty).1 f' hsteps hmatching rfl
    (.inr (.inr hwaiting))
  exact ⟨settings, f', hsteps, hmatching, rfl, hwaiting, hmoves⟩

end Flow

end DealWatch
