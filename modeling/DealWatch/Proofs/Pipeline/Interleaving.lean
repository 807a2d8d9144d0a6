import DealWatch.Proofs.Pipeline.Flow
import DealWatch.Proofs.Pipeline.Supervise
import Mathlib.Tactic.Choose

/-!
# Runs of the pipeline as steps

The pipeline runs every task until it has to wait, and tasks in the order in which they were woken.
Whatever it does in this way, the stages can do step by step.

* `Pipeline.Leads` says that steps lead from one state of the pipeline to another one;
* `deliver_leads`, `matchListings_leads` and `handleNotices_leads` are about the stages, which end
  in `endOf` if they fail, `runTask_leads` is about all tasks;
* `steps_of_start` and `happen_leads` are about what comes from outside;
* `Flow.conserved_of_reachable` is what holds in every state that can be reached, and so in every
  state of a run.

Each stage is followed through its loop: one round is a step or a few, and the rest of the loop goes
on from the state after them. Which tasks are ready and which wait in line is no matter of the
steps, so there are steps that change only that (`Pipeline.Leads.schedule`). The start has two ways
to go, by whether every rule can be stored (`pipeline_start_run`).

That every sequence of steps belongs to a run is not said, and is not true.
-/

namespace DealWatch

/-- The state that a stage leaves, with what is done to stop it if it fails. -/
def endOf {σ α : Type} (stop : σ → σ) (run : Outcome α × σ × Outside) : σ :=
  match run.1 with
  | .ok _ => run.2.1
  | .error _ => stop run.2.1

namespace Pipeline

/-- Which tasks of the pipeline wait for what and which can go on. -/
def schedule (p : Pipeline) : Schedule where
  ready := p.ready
  ticks := p.ticks
  woken := p.ingestion.woken
  listingTakers := p.ingestion.outbox.takers
  listingPutters := p.ingestion.outbox.putters
  noticeTakers := p.notices.takers
  noticePutters := p.notices.putters

/-- Steps lead from one state of the pipeline to another one, whatever came in and went out before.
No batch is on its way in the two states. -/
def Leads (p q : Pipeline) : Prop :=
  ∀ f : Flow, ∃ f' : Flow,
    Flow.Steps { f with pipeline := p, batch := none } { f' with pipeline := q, batch := none }

variable {p q r : Pipeline} {α β : Type}

theorem Leads.refl (p : Pipeline) : Leads p p := fun f => ⟨f, .refl⟩

theorem Leads.trans (h : Leads p q) (h' : Leads q r) : Leads p r := by
  intro f
  obtain ⟨f', hsteps⟩ := h f
  obtain ⟨f'', hsteps'⟩ := h' f'
  exact ⟨f'', hsteps.trans hsteps'⟩

/-- Which tasks wait makes no difference. -/
theorem Leads.schedule (h : p.reschedule q.schedule = q) : Leads p q := by
  intro f
  refine ⟨f, ?_⟩
  rw [← h]
  exact .single (.schedule q.schedule)

/-- If the first of two runs leads on, and the second always does, so do both together. -/
theorem Leads.bind {act : Act Pipeline α} {next : α → Act Pipeline β} {o : Outside}
    (h : Leads p (act.runWith p o).2.1)
    (hnext : ∀ a q o, Leads q ((next a).runWith q o).2.1) :
    Leads p ((act >>= next).runWith p o).2.1 := by
  rcases hrun : act.runWith p o with ⟨_ | a, q, o'⟩
  · rw [hrun] at h
    rw [Act.runWith_bind_error hrun]
    exact h
  · rw [hrun] at h
    rw [Act.runWith_bind_ok hrun]
    exact h.trans (hnext a q o')

/-! ### Ingestion -/

/-- Listings are put as long as there is room. -/
theorem putAll_leads (p : Pipeline) (rest : List Listing) (count : Nat) :
    Leads { p with ingestion.phase := .delivering rest count }
      { p with
        ingestion.outbox := (p.ingestion.outbox.putAll rest).1
        ingestion.phase := .delivering (p.ingestion.outbox.putAll rest).2.2 count } := by
  induction rest generalizing p with
  | nil => exact .refl _
  | cons l rest ih =>
    rw [Channel.putAll]
    rcases hput : p.ingestion.outbox.put? l with _ | ⟨outbox, woken⟩
    · exact .refl _
    · refine Leads.trans ?_ (ih { p with ingestion.outbox := outbox })
      exact fun f => ⟨f, .single (.putListing rfl hput)⟩

/-- Ingestion stops. -/
def stopIngestion (s : Ingestion) : Ingestion := { s with phase := .idle }

/-- The end of a page. -/
theorem finish_leads (p : Pipeline) (count : Nat) (s : Ingestion) (o : Outside) :
    Leads { p with ingestion := { s with phase := .delivering [] count } }
      { p with ingestion := endOf stopIngestion ((Ingestion.finish count).runWith s o) } := by
  -- the phase before makes no difference, so the run from `s` is the one that the step asks for
  obtain ⟨client, o', ⟨phase, -, hfinish⟩ | ⟨e, hfinish⟩⟩ := Ingestion.finish_run count s o
  · have hrun : (Ingestion.finish count).runWith s o = _ := hfinish s.phase
    rw [hrun]
    exact fun f => ⟨f, .single (.finishPage rfl (hfinish _))⟩
  · have hrun : (Ingestion.finish count).runWith s o = _ := hfinish s.phase
    rw [hrun]
    intro f
    let delivered : Pipeline := { p with ingestion := { s with phase := .delivering [] count } }
    have hstep := Flow.Step.finishPageFails (f := { f with pipeline := delivered, batch := none })
      rfl (hfinish _)
    exact ⟨f, .single hstep⟩

/-- **Ingestion puts a page**, as far as there is room. -/
theorem deliver_leads (p : Pipeline) (rest : List Listing) (count : Nat) (s : Ingestion)
    (o : Outside) :
    Leads { p with ingestion := { s with phase := .delivering rest count } }
      { p with ingestion := endOf stopIngestion ((Ingestion.deliver rest count).runWith s o) } := by
  have hput := putAll_leads { p with ingestion := s } rest count
  simp only [Ingestion.deliver, Act.runWith_bind, Act.runWith_state]
  generalize s.outbox.putAll rest = delivered at hput ⊢
  obtain ⟨outbox, woken, _ | ⟨l, left⟩⟩ := delivered
  · -- nothing is left to put
    let s' : Ingestion := { s with outbox, woken := s.woken ++ woken }
    refine hput.trans (Leads.trans ?_ (finish_leads p count s' o))
    exact .schedule rfl
  · exact hput.trans (.schedule rfl)

/-- **Ingestion fetches a page** and begins to put it. -/
theorem steps_of_fetch {f : Flow} {poll : Feed.ClientAct (List Listing)}
    (hpoll : f.poll? = some poll) (o : Outside) :
    ∃ f' : Flow, Flow.Steps { f with batch := none } { f' with
      pipeline := { f.pipeline with
        ingestion := endOf stopIngestion
          ((do
            let page ← Ingestion.onClient poll
            Ingestion.deliver page page.length).runWith f.pipeline.ingestion o) }
      batch := none } := by
  simp only [Ingestion.onClient, Act.runWith_bind, Act.runWith_within]
  rcases hrun : poll.runWith f.pipeline.ingestion.client o with ⟨e | page, client, o'⟩
  · exact ⟨{ f with started := true }, .single (.fetchFails hpoll hrun)⟩
  · obtain ⟨f', hsteps⟩ := deliver_leads f.pipeline page page.length
      { f.pipeline.ingestion with client } o'
      { f with started := true, fetched := f.fetched ++ page }
    exact ⟨f', .head (.fetch hpoll hrun) hsteps⟩

/-- **The wait is over**, and ingestion fetches the next page. -/
theorem wake_leads (p : Pipeline) (o : Outside) :
    Leads p { p with
      ingestion := endOf stopIngestion (Ingestion.wake.runWith p.ingestion o) } := by
  simp only [Ingestion.wake, Act.runWith_bind, Act.runWith_state]
  rcases hphase : p.ingestion.phase with _ | ⟨rest, count⟩ | seconds | count
  · exact .schedule rfl
  · exact .schedule rfl
  · intro f
    have hpoll : { f with pipeline := p, batch := none : Flow }.poll? = some Ingestion.poll := by
      simp only [Flow.poll?, hphase]
    simp only [Act.runWith_bind, Act.runWith_change]
    exact steps_of_fetch hpoll _
  · exact .schedule rfl

/-- **There is room again**, and ingestion goes on to put its page. -/
theorem resume_leads (p : Pipeline) (o : Outside) :
    Leads p { p with
      ingestion := endOf stopIngestion (Ingestion.resume.runWith p.ingestion o) } := by
  simp only [Ingestion.resume, Act.runWith_bind, Act.runWith_state]
  rcases hphase : p.ingestion.phase with _ | ⟨rest, count⟩ | seconds | count
  · exact .schedule rfl
  · have h := deliver_leads p rest count p.ingestion o
    rw [← hphase] at h
    exact h
  · exact .schedule rfl
  · exact .schedule rfl

/-- A stage that polls again and again begins with its first page. -/
theorem start_run {s : Ingestion} (hforever : s.forever = true) (o : Outside) :
    (Ingestion.start true).runWith s o =
      (do
        let page ← Ingestion.onClient Ingestion.firstPoll
        Ingestion.deliver page page.length).runWith s o := by
  have hself : { s with forever := true } = s := by rw [← hforever]
  -- the token is taken from the file in a step of its own
  simp only [Ingestion.start, Ingestion.pollAndDeliver, Ingestion.firstPoll, Ingestion.onClient,
    Act.runWith_bind, Act.runWith_state, Act.runWith_put, Act.runWith_within, if_true, hself]
  generalize Feed.restore.runWith s.client o = run
  obtain ⟨_ | _, client, o'⟩ := run <;> rfl

/-- **Ingestion begins to poll**, with the token from the file if there is one. -/
theorem steps_of_begin {f : Flow} (hphase : f.pipeline.ingestion.phase = .idle)
    (hstarted : f.started = false) (hforever : f.pipeline.ingestion.forever = true) (o : Outside) :
    ∃ f' : Flow, Flow.Steps { f with batch := none } { f' with
      pipeline := { f.pipeline with
        ingestion := endOf stopIngestion
          ((Ingestion.start true).runWith f.pipeline.ingestion o) }
      batch := none } := by
  have hpoll : f.poll? = some Ingestion.firstPoll := by rw [Flow.poll?, hphase, hstarted]
  rw [start_run hforever]
  exact steps_of_fetch hpoll o

/-! ### Stages -/

/-- A stage under supervision leaves what it leaves on its own, and fails if it does so. -/
theorem guarded_run (stage : String) (act : Act Pipeline α) (p : Pipeline) (o : Outside) :
    ∃ q o₁ o₂ o₃,
      (∃ a, act.runWith p o₁ = (.ok a, q, o₂) ∧
        (guarded stage act).runWith p o = (.ok (.ok a), q, o₃)) ∨
      (∃ e e', act.runWith p o₁ = (.error e, q, o₂) ∧
        (guarded stage act).runWith p o = (.ok (.error e'), q, o₃)) := by
  obtain ⟨result, o₃, hrun, hresult⟩ := supervise_run stage (some p.settings.sms) act p o
  simp only [guarded, Act.runWith_bind, Act.runWith_state, Act.runWith_attempt, hrun]
  rcases hact : act.runWith p { o with stage := some stage } with ⟨e | a, q, o₂⟩
  · rw [hact] at hresult
    obtain e' | a' := result
    · exact ⟨q, _, o₂, o₃, .inr ⟨e, e', hact, rfl⟩⟩
    · cases hresult
  · rw [hact] at hresult
    obtain e' | a' := result
    · cases hresult
    · cases hresult
      exact ⟨q, _, o₂, o₃, .inl ⟨a, hact, rfl⟩⟩

/-- The pipeline with ingestion stopped. -/
def withoutIngestion (p : Pipeline) : Pipeline :=
  { p with ingestion := stopIngestion p.ingestion }

theorem endOf_onIngestion (act : Act Ingestion Unit) (p : Pipeline) (o : Outside) :
    endOf withoutIngestion ((onIngestion act).runWith p o) =
      { p with ingestion := endOf stopIngestion (act.runWith p.ingestion o) } := by
  rw [onIngestion, Act.runWith_within]
  generalize act.runWith p.ingestion o = run
  obtain ⟨_ | _, s, o'⟩ := run <;> rfl

/-- A step of ingestion leaves the state that it leaves on its own, and the tasks that it woke can
go on. -/
theorem runIngestion_run (act : Act Ingestion Unit) (p : Pipeline) (o : Outside) :
    ∃ o₁ o₂, (runIngestion act).runWith p o = (.ok (), { p with
      ingestion := { endOf stopIngestion (act.runWith p.ingestion o₁) with woken := [] }
      ready := p.ready ++ (endOf stopIngestion (act.runWith p.ingestion o₁)).woken }, o₂) := by
  obtain ⟨q, o₁, o₂, o₃, hruns⟩ := guarded_run "ingestion" (onIngestion act) p o
  have hend := endOf_onIngestion act p o₁
  -- in both cases the state is the one that ingestion ends in, with the woken tasks moved
  have hmoved {q' : Pipeline}
      (hq : q' = { p with ingestion := endOf stopIngestion (act.runWith p.ingestion o₁) }) :
      { q' with
        ingestion := { q'.ingestion with woken := [] }, ready := q'.ready ++ q'.ingestion.woken } =
      { p with
        ingestion := { endOf stopIngestion (act.runWith p.ingestion o₁) with woken := [] }
        ready := p.ready ++ (endOf stopIngestion (act.runWith p.ingestion o₁)).woken } := by
    rw [hq]
  obtain ⟨a, hact, hrun⟩ | ⟨e, e', hact, hrun⟩ := hruns
  · rw [runIngestion, Act.runWith_bind_ok hrun]
    rw [hact] at hend
    exact ⟨o₁, o₃, congrArg (fun q => (Except.ok (), q, o₃)) (hmoved hend)⟩
  · rw [runIngestion, Act.runWith_bind_ok hrun]
    rw [hact] at hend
    exact ⟨o₁, o₃, congrArg (fun q => (Except.ok (), q, o₃)) (hmoved hend)⟩

/-- Ingestion takes its step if that is a step of the stages. -/
theorem runIngestion_leads {act : Act Ingestion Unit}
    (h : ∀ p o, Leads p { p with ingestion := endOf stopIngestion (act.runWith p.ingestion o) })
    (p : Pipeline) (o : Outside) : Leads p ((runIngestion act).runWith p o).2.1 := by
  obtain ⟨o₁, o₂, hrun⟩ := runIngestion_run act p o
  rw [hrun]
  exact (h p o₁).trans (.schedule rfl)

/-! ### Matching -/

/-- The pipeline with matching stopped. -/
def withoutMatching (p : Pipeline) : Pipeline := { p with matching := .stopped }

theorem putNotice_run (t : TaskId) (n : Notification) (p : Pipeline) (o : Outside) :
    (putNotice t n).runWith p o =
      match p.notices.put? n with
      | some (notices, woken) =>
        (.ok true, { p with notices, ready := p.ready ++ woken.toList }, o)
      | none => (.ok false, { p with notices := p.notices.awaitRoom t }, o) := by
  simp only [putNotice, Act.runWith_bind, Act.runWith_state]
  rcases p.notices.put? n with _ | ⟨notices, woken⟩ <;> rfl

/-- A match is put, or is still to be put. -/
theorem putMatch_run (m : MatchingPost) (p : Pipeline) (o : Outside) :
    (putMatch m).runWith p o =
      match p.notices.put? (.hit m) with
      | some (notices, woken) =>
        (.ok true, { p with notices, ready := p.ready ++ woken.toList, matching := .taking }, o)
      | none =>
        (.ok false, { p with notices := p.notices.awaitRoom .matching, matching := .putting m },
          o) := by
  rw [putMatch, Act.runWith_bind, putNotice_run]
  rcases p.notices.put? (.hit m) with _ | ⟨notices, woken⟩ <;> rfl

/-- Matching puts a match if there is room, and goes on if it did. -/
theorem putMatch_leads {next : Act Pipeline Unit}
    (hnext : ∀ {q : Pipeline}, q.matching = .taking → ∀ o,
      Leads q (endOf withoutMatching (next.runWith q o)))
    (m : MatchingPost) (p : Pipeline) (o : Outside) :
    Leads { p with matching := .putting m }
      (endOf withoutMatching ((do if ← putMatch m then next).runWith p o)) := by
  rw [Act.runWith_bind, putMatch_run]
  rcases hput : p.notices.put? (.hit m) with _ | ⟨notices, woken⟩
  · exact .schedule rfl
  · have hputs : Leads { p with matching := .putting m }
        { p with notices, matching := .taking } :=
      fun f => ⟨f, .single (.putMatch rfl hput)⟩
    exact hputs.trans (Leads.trans (.schedule rfl) (hnext rfl o))

theorem takeListing_run (p : Pipeline) (o : Outside) :
    takeListing.runWith p o =
      match p.ingestion.outbox.take? with
      | some (l, outbox, woken) =>
        (.ok (some l),
          { p with ingestion.outbox := outbox, ready := p.ready ++ woken.toList }, o)
      | none =>
        (.ok none, { p with ingestion.outbox := p.ingestion.outbox.awaitItem .matching }, o) := by
  simp only [takeListing, Act.runWith_bind, Act.runWith_state]
  rcases p.ingestion.outbox.take? with _ | ⟨l, outbox, woken⟩ <;> rfl

/-- **Matching takes listings**, until there are none, there is no room for a match or it fails. -/
theorem matchListings_leads (count : Nat) {p : Pipeline} (h : p.matching = .taking) (o : Outside) :
    Leads p (endOf withoutMatching ((matchListings count).runWith p o)) := by
  induction count generalizing p o with
  | zero => exact .refl _
  | succ count ih =>
    rw [matchListings, Act.runWith_bind, takeListing_run]
    rcases htake : p.ingestion.outbox.take? with _ | ⟨l, outbox, woken⟩
    · exact .schedule rfl
    · simp only [onStore, Act.runWith_bind, Act.runWith_state, Act.runWith_within]
      -- taking a listing and processing it is one step, as nothing can come between
      rcases hrun : (processListing p.rules l).runWith p.store o with ⟨e | _ | m, store, o'⟩
      · have hfails : Leads p { p with
            ingestion.outbox := outbox, store, matching := .stopped } :=
          fun f => ⟨{ f with processed := f.processed ++ [l] },
            .single (.matchFails h htake hrun)⟩
        exact hfails.trans (.schedule rfl)
      · have hskips : Leads p { p with ingestion.outbox := outbox, store } :=
          fun f => ⟨{ f with processed := f.processed ++ [l] },
            .single (.skipListing h htake hrun)⟩
        exact hskips.trans (Leads.trans (.schedule rfl) (ih (by exact h) o'))
      · have hreturns : Leads p { p with
            ingestion.outbox := outbox, store, matching := .putting m } :=
          fun f => ⟨{ f with processed := f.processed ++ [l], returned := f.returned ++ [m] },
            .single (.returnMatch h htake hrun)⟩
        let returned : Pipeline :=
          { p with ingestion.outbox := outbox, store, ready := p.ready ++ woken.toList }
        exact hreturns.trans (Leads.trans (.schedule rfl) (putMatch_leads ih m returned o'))

/-- **Matching goes on** with a match that is still to be put, or with the next listing. -/
theorem resumeMatching_leads (p : Pipeline) (o : Outside) :
    Leads p (endOf withoutMatching (resumeMatching.runWith p o)) := by
  simp only [resumeMatching, Act.runWith_bind, Act.runWith_state]
  rcases hmatching : p.matching with _ | m | _
  · exact matchListings_leads _ hmatching o
  · let next : Act Pipeline Unit := do
      matchListings ((← Act.state).ingestion.outbox.items.length + 1)
    have hnext {q : Pipeline} (hq : q.matching = .taking) (o : Outside) :
        Leads q (endOf withoutMatching (next.runWith q o)) := matchListings_leads _ hq o
    have h := putMatch_leads hnext m p o
    rw [← hmatching] at h
    exact h
  · exact .refl _

/-- Matching leaves the state that it leaves on its own, and stops if it fails. -/
theorem runMatching_run (p : Pipeline) (o : Outside) :
    ∃ o₁ o₂, runMatching.runWith p o =
      (.ok (), endOf withoutMatching (resumeMatching.runWith p o₁), o₂) := by
  obtain ⟨q, o₁, o₂, o₃, ⟨a, hact, hrun⟩ | ⟨e, e', hact, hrun⟩⟩ :=
    guarded_run "match" resumeMatching p o
  · rw [runMatching, Act.runWith_bind_ok hrun]
    exact ⟨o₁, o₃, by rw [hact]; rfl⟩
  · rw [runMatching, Act.runWith_bind_ok hrun]
    exact ⟨o₁, o₃, by rw [hact]; rfl⟩

theorem runMatching_leads (p : Pipeline) (o : Outside) :
    Leads p (runMatching.runWith p o).2.1 := by
  obtain ⟨o₁, o₂, hrun⟩ := runMatching_run p o
  rw [hrun]
  exact resumeMatching_leads p o₁

/-! ### The notifier -/

/-- The pipeline after the notifier has failed. -/
def endedBy (e : Failure) (p : Pipeline) : Pipeline := { p with ended := some e, ready := [] }

/-- **The notifier sends the groups of a batch**, up to the first failure. -/
theorem steps_of_groups {f : Flow} {posts : List MatchingPost} {line : Option String}
    {groups : List (List Notice)} (h : f.batch = some ⟨posts, line, groups⟩) (e : Failure)
    (o : Outside) :
    match (Webhook.sendChunks line groups).runWith f.pipeline.notifier.webhook o with
    | (.ok (), webhook, _) => ∃ line', Flow.Steps f { f with
        pipeline.notifier.webhook := webhook, batch := some ⟨posts, line', []⟩ }
    | (.error _, webhook, _) => Flow.Steps f { f with
        pipeline.notifier.webhook := webhook, pipeline.ended := some e, batch := none } := by
  induction groups generalizing f line o with
  | nil =>
    refine ⟨line, ?_⟩
    rw [← h]
  | cons group groups ih =>
    rw [Webhook.sendChunks_cons, Act.runWith_bind]
    rcases hrun : (Webhook.sendGroup line group).runWith f.pipeline.notifier.webhook o with
      ⟨_ | ⟨⟩, webhook, o'⟩
    · exact .single (.sendGroupFails h hrun)
    · have hstep := Flow.Step.sendGroup h hrun
      let f' : Flow := { f with
        pipeline.notifier.webhook := webhook, batch := some ⟨posts, none, groups⟩ }
      have hmore := @ih f' none rfl o'
      simp only
      generalize (Webhook.sendChunks none groups).runWith _ o' = run at hmore ⊢
      obtain ⟨_ | ⟨⟩, webhook', o''⟩ := run
      · exact .head hstep hmore
      · obtain ⟨line', hmore⟩ := hmore
        exact ⟨line', .head hstep hmore⟩

/-- A tick while there is nothing to send or the webhook cannot send. -/
theorem handle_idle_leads {notices : Channel Notification} {woken : Option TaskId}
    (htake : p.notices.take? = some (.tick, notices, woken))
    (hidle : p.notifier.queued = [] ∨ p.notifier.webhook.isEnabled = false) (e : Failure)
    (o : Outside) :
    Leads p (endOf (endedBy e) ((onNotifier (Notifier.handle .tick)).runWith
      { p with notices, ready := p.ready ++ woken.toList } o)) := by
  have hpasses : Leads p { p with notices } := fun f => ⟨f, .single (.pass rfl htake hidle)⟩
  obtain ⟨journal, hflush⟩ := Notifier.flush_idle hidle o
  rw [onNotifier, Act.runWith_within, Notifier.handle, Act.runWith_discard, hflush]
  exact hpasses.trans (.schedule rfl)

/-- A tick while there is something to send. -/
theorem handle_sending_leads {notices : Channel Notification} {woken : Option TaskId}
    (htake : p.notices.take? = some (.tick, notices, woken)) (hqueued : p.notifier.queued ≠ [])
    (henabled : p.notifier.webhook.isEnabled = true) (e : Failure) (o : Outside) :
    Leads p (endOf (endedBy e) ((onNotifier (Notifier.handle .tick)).runWith
      { p with notices, ready := p.ready ++ woken.toList } o)) := by
  obtain ⟨journal, hflush⟩ := Notifier.flush_sending hqueued henabled o
  rw [onNotifier, Act.runWith_within, Notifier.handle, Act.runWith_discard, hflush]
  have hgroups (f : Flow) := steps_of_groups
    (f := { f with pipeline := { p with notices }, batch := some (.ofPosts p.notifier.queued) })
    rfl e { o with journal }
  have hstarts (f : Flow) : Flow.Step { f with pipeline := p, batch := none }
      { f with pipeline := { p with notices }, batch := some (.ofPosts p.notifier.queued) } :=
    .startBatch rfl htake hqueued henabled
  simp only at hgroups
  generalize (Webhook.sendChunks _ _).runWith _ _ = run at hgroups ⊢
  obtain ⟨_ | ⟨⟩, webhook, o''⟩ := run
  · -- the pipeline may end with another failure, if reporting the first one fails
    have hfails : Leads p { p with notices, notifier.webhook := webhook, ended := some e } :=
      fun f => ⟨f, .head (hstarts f) (hgroups f)⟩
    exact hfails.trans (.schedule rfl)
  · have hsends : Leads p { p with notices, notifier := ⟨webhook, []⟩ } := by
      intro f
      obtain ⟨line, hgroups⟩ := hgroups f
      exact ⟨{ f with sent := f.sent ++ p.notifier.queued },
        .head (hstarts f) (hgroups.tail (.endBatch rfl))⟩
    exact hsends.trans (.schedule rfl)

/-- **The notifier takes what is in its channel**, until there is nothing or it fails. -/
theorem handleNotices_leads (count : Nat) (p : Pipeline) (e : Failure) (o : Outside) :
    Leads p (endOf (endedBy e) ((handleNotices count).runWith p o)) := by
  induction count generalizing p o with
  | zero => exact .refl _
  | succ count ih =>
    rw [handleNotices, Act.runWith_bind, takeNotice_run]
    rcases htake : p.notices.take? with _ | ⟨n, notices, woken⟩
    · exact .schedule rfl
    · have hhandle : Leads p (endOf (endedBy e) ((onNotifier (Notifier.handle n)).runWith
          { p with notices, ready := p.ready ++ woken.toList } o)) := by
        cases n with
        | hit m =>
          have hcollects : Leads p { p with
              notices, notifier.queued := p.notifier.queued ++ [m] } :=
            fun f => ⟨f, .single (.collect rfl htake)⟩
          exact hcollects.trans (.schedule rfl)
        | tick =>
          by_cases hidle : p.notifier.queued = [] ∨ p.notifier.webhook.isEnabled = false
          · exact handle_idle_leads htake hidle e o
          · obtain ⟨hqueued, henabled⟩ := not_or.1 hidle
            exact handle_sending_leads htake hqueued (eq_true_of_ne_false henabled) e o
      simp only [Act.runWith_bind]
      generalize (onNotifier (Notifier.handle n)).runWith _ o = run at hhandle ⊢
      obtain ⟨_ | _, q, o'⟩ := run
      · exact hhandle
      · exact hhandle.trans (ih q o')

/-- What the notifier does under supervision. -/
def handling : Act Pipeline Unit := do handleNotices ((← Act.state).notices.items.length + 1)

theorem runNotifier_eq : runNotifier = (do
    match ← guarded "notify" handling with
    | .ok () => return
    | .error f =>
      Act.put { (← Act.state) with ended := some f, ready := [] }
      Act.log .info "Pipeline stopped" []) := rfl

/-- The notifier leaves the state that it leaves on its own, and if it fails the pipeline ends. -/
theorem runNotifier_run (p : Pipeline) (o : Outside) :
    ∃ e o₁ o₂, runNotifier.runWith p o =
      (.ok (), endOf (endedBy e) (handling.runWith p o₁), o₂) := by
  obtain ⟨q, o₁, o₂, o₃, ⟨a, hact, hrun⟩ | ⟨e, e', hact, hrun⟩⟩ := guarded_run "notify" handling p o
  · rw [runNotifier_eq, Act.runWith_bind_ok hrun]
    exact ⟨default, o₁, o₃, by rw [hact]; rfl⟩
  · rw [runNotifier_eq, Act.runWith_bind_ok hrun]
    exact ⟨e', o₁, _, by rw [hact]; rfl⟩

theorem runNotifier_leads (p : Pipeline) (o : Outside) :
    Leads p (runNotifier.runWith p o).2.1 := by
  obtain ⟨e, o₁, o₂, hrun⟩ := runNotifier_run p o
  rw [hrun]
  exact handleNotices_leads _ p e o₁

/-- With nothing in its channel, the notifier waits. -/
theorem runNotifier_run_of_nil {p : Pipeline} (h : p.notices.items = []) (o : Outside) :
    ∃ o', runNotifier.runWith p o =
      (.ok (), { p with notices := p.notices.awaitItem .notify }, o') := by
  have hhandling (o : Outside) : handling.runWith p o =
      (.ok (), { p with notices := p.notices.awaitItem .notify }, o) := by
    simp only [handling, handleNotices, Act.runWith_bind, Act.runWith_state, takeNotice_run,
      Channel.take?, h, Act.runWith_pure]
  obtain ⟨e, o₁, o₂, hrun⟩ := runNotifier_run p o
  rw [hhandling] at hrun
  exact ⟨o₂, hrun⟩

/-! ### All tasks -/

/-- A tick is put if there is room. -/
theorem runTick_leads (number : Nat) (p : Pipeline) (o : Outside) :
    Leads p ((runTick number).runWith p o).2.1 := by
  rw [runTick, Act.runWith_bind, putNotice_run]
  rcases hput : p.notices.put? .tick with _ | ⟨notices, woken⟩
  · exact .schedule rfl
  · have hticks : Leads p { p with notices } := fun f => ⟨f, .single (.tick hput)⟩
    exact hticks.trans (.schedule rfl)

/-- **A task that goes on** takes steps of its stage. -/
theorem runTask_leads (t : TaskId) (p : Pipeline) (o : Outside) :
    Leads p ((runTask t).runWith p o).2.1 := by
  cases t with
  | ingestion => exact runIngestion_leads resume_leads p o
  | matching => exact runMatching_leads p o
  | notify => exact runNotifier_leads p o
  | tick number => exact runTick_leads number p o

theorem settleWithin_leads (fuel : Nat) (p : Pipeline) (o : Outside) :
    Leads p ((settleWithin fuel).runWith p o).2.1 := by
  induction fuel generalizing p o with
  | zero => exact .refl _
  | succ fuel ih =>
    rw [settleWithin, Act.runWith_bind_ok (Act.runWith_state _ _)]
    rcases hready : p.ready with _ | ⟨t, rest⟩
    · exact .refl _
    · simp only
      rw [Act.runWith_bind_ok (Act.runWith_put _ _ _)]
      have hpops : Leads p { p with ready := rest } := .schedule rfl
      exact hpops.trans ((runTask_leads t _ o).bind fun _ => ih)

theorem settle_leads (p : Pipeline) (o : Outside) : Leads p (settle.runWith p o).2.1 := by
  simp only [settle, Act.runWith_bind, Act.runWith_state]
  exact settleWithin_leads _ p o

/-! ### Runs -/

/-- A tick of the clock is a task that goes on with the others. -/
theorem tick_leads (p : Pipeline) (o : Outside) : Leads p (tick.runWith p o).2.1 := by
  let ticked : Pipeline := { p with ticks := p.ticks + 1, ready := p.ready ++ [.tick p.ticks] }
  have hticks : Leads p ticked := .schedule rfl
  have hrun : tick.runWith p o = settle.runWith ticked o := by
    simp only [tick, Act.runWith_bind, Act.runWith_state, Act.runWith_put, ticked]
  rw [hrun]
  exact hticks.trans (settle_leads ticked o)

/-- **What comes from outside** lets tasks go on. -/
theorem happen_leads (event : Event) (p : Pipeline) (o : Outside) :
    Leads p ((happen event).runWith p o).2.1 := by
  unfold happen
  rw [Act.runWith_bind_ok (Act.runWith_state p o)]
  split
  · exact .refl p
  · cases event with
    | tick => exact tick_leads p o
    | wake => exact (runIngestion_leads wake_leads p o).bind fun _ => settle_leads

/-- The pipeline after some things have happened, each with its own clock, replies and files. -/
def after (p : Pipeline) (events : List (Event × Outside)) : Pipeline :=
  events.foldl (fun p event => ((happen event.1).runWith p event.2).2.1) p

/-- Nothing happens to a pipeline that has ended. -/
theorem after_of_ended (h : p.ended ≠ none) (events : List (Event × Outside)) :
    p.after events = p := by
  induction events with
  | nil => rfl
  | cons event events ih =>
    have hsame : ((happen event.1).runWith p event.2).2.1 = p := by
      unfold happen
      rw [Act.runWith_bind_ok (Act.runWith_state p event.2),
        if_pos (Option.isSome_iff_ne_none.2 h), Act.runWith_pure]
    rw [after, List.foldl_cons, hsame]
    exact ih

theorem after_leads (events : List (Event × Outside)) (p : Pipeline) :
    Leads p (p.after events) := by
  induction events generalizing p with
  | nil => exact .refl _
  | cons event events ih => exact (happen_leads event.1 p event.2).trans (ih _)

/-- With the notifier waiting, ingestion begins to poll. -/
theorem steps_of_runIngestion {f : Flow} (hphase : f.pipeline.ingestion.phase = .idle)
    (hstarted : f.started = false) (hforever : f.pipeline.ingestion.forever = true) (o : Outside) :
    ∃ f' : Flow, Flow.Steps { f with batch := none } { f' with
      pipeline := ((runIngestion (Ingestion.start true)).runWith f.pipeline o).2.1
      batch := none } := by
  obtain ⟨o₁, o₂, hrun⟩ := runIngestion_run (Ingestion.start true) f.pipeline o
  obtain ⟨f', hbegins⟩ := steps_of_begin hphase hstarted hforever o₁
  let begun := endOf stopIngestion ((Ingestion.start true).runWith f.pipeline.ingestion o₁)
  have hmoves : Leads { f.pipeline with ingestion := begun }
      { f.pipeline with
        ingestion := { begun with woken := [] }, ready := f.pipeline.ready ++ begun.woken } :=
    .schedule rfl
  obtain ⟨f'', hmoves⟩ := hmoves f'
  rw [hrun]
  exact ⟨f'', hbegins.trans hmoves⟩

/-- The pipeline when ingestion begins to poll: the rules are stored, the notifier waits, and
matching is ready. -/
def begun (settings : Settings) (rules : RuleSet) (store : Store) : Pipeline :=
  let p := ofSettings settings rules (store.withRules (RuleSet.storable rules.rules))
  { p with notices := p.notices.awaitItem .notify, ready := [.matching] }

/-- The pipeline when a rule could not be stored. -/
def halted (settings : Settings) (rules : RuleSet) (store : Store) (e : Failure) : Pipeline :=
  { ofSettings settings rules (store.withRules (RuleSet.storable rules.rules)) with ended := some e }

theorem storeAll_run (settings : Settings) (rules : RuleSet) (store : Store) (o : Outside) :
    ∃ o', (∃ stored, (∀ r ∈ rules.rules, r.flaw? = none) ∧
        storeAll.runWith (ofSettings settings rules store) o = (.ok stored,
          ofSettings settings rules (store.withRules (RuleSet.storable rules.rules)), o')) ∨
      ∃ r ∈ rules.rules, ∃ e, r.flaw? = some e ∧
        storeAll.runWith (ofSettings settings rules store) o =
          (.error e, halted settings rules store e, o') := by
  let p := ofSettings settings rules store
  obtain ⟨result, o', hstore, hstoring⟩ := storeRules_run rules.rules store o
  have hrules : (onStore (storeRules p.rules.rules)).runWith p o = (result,
      ofSettings settings rules (store.withRules (RuleSet.storable rules.rules)), o') := by
    rw [onStore, Act.runWith_within]
    exact congrArg (fun run => (run.1, { p with store := run.2.1 }, run.2.2)) hstore
  have hattempt := Act.runWith_attempt (onStore (storeRules p.rules.rules)) p o
  rw [hrules] at hattempt
  rw [storeAll, Act.runWith_bind_ok (Act.runWith_state _ _), Act.runWith_bind_ok hattempt]
  cases hstoring with
  | all hall => exact ⟨o', .inl ⟨_, hall, rfl⟩⟩
  | @flawed before r after f hsplit _ hflaw =>
    exact ⟨o', .inr ⟨r, by simp [hsplit], f, hflaw, rfl⟩⟩

/-- **The start** begins to poll, with all rules stored, or it ends the pipeline. -/
theorem pipeline_start_run (settings : Settings) (rules : RuleSet) (store : Store) (o : Outside) :
    ∃ o', (∀ r ∈ rules.rules, r.flaw? = none) ∧
        start.runWith (ofSettings settings rules store) o =
          (do
            runIngestion (Ingestion.start true)
            settle).runWith (begun settings rules store) o' ∨
      ∃ r ∈ rules.rules, ∃ e, r.flaw? = some e ∧
        start.runWith (ofSettings settings rules store) o =
          (.error e, halted settings rules store e, o') := by
  rw [start, Act.runWith_bind_ok (Act.runWith_state _ _)]
  obtain ⟨o₁, ⟨stored, hsound, hstores⟩ | ⟨r, hr, e, hflaw, hfails⟩⟩ :=
    storeAll_run settings rules store o
  · -- the notifier runs before ingestion, and has nothing to take yet
    choose waiting hwaits using runNotifier_run_of_nil
      (p := ofSettings settings rules (store.withRules (RuleSet.storable rules.rules))) rfl
    rw [Act.runWith_bind_ok hstores, Act.runWith_bind_ok (Act.runWith_log _ _ _ _ _),
      Act.runWith_bind_ok (Act.runWith_log _ _ _ _ _), Act.runWith_bind_ok (hwaits _),
      Act.runWith_bind_ok (Act.runWith_state _ _), Act.runWith_bind_ok (Act.runWith_put _ _ _)]
    exact ⟨waiting _, .inl ⟨hsound, rfl⟩⟩
  · exact ⟨o₁, .inr ⟨r, hr, e, hflaw, Act.runWith_bind_error hfails _⟩⟩

/-- **The start** takes steps too: the rules are stored, the notifier waits, and ingestion begins to
poll; or there is a rule that cannot be stored. -/
theorem steps_of_start (settings : Settings) (rules : RuleSet) (store : Store) (o : Outside) :
    ∃ f' : Flow, Flow.Steps (Flow.initial settings rules store) { f' with
      pipeline := (start.runWith (ofSettings settings rules store) o).2.1, batch := none } := by
  let f := Flow.initial settings rules store
  obtain ⟨o₁, ⟨-, hstart⟩ | ⟨r, hr, e, hflaw, hstart⟩⟩ := pipeline_start_run settings rules store o
  · let waits := begun settings rules store
    have hwaiting : Flow.Steps f { f with pipeline := waits } := .single (.schedule waits.schedule)
    obtain ⟨f', hbegins⟩ := steps_of_runIngestion (f := { f with pipeline := waits }) rfl rfl rfl o₁
    obtain ⟨o₂, o₃, hrun⟩ := runIngestion_run (Ingestion.start true) waits o₁
    rw [hrun] at hbegins
    rw [hstart, Act.runWith_bind_ok hrun]
    obtain ⟨f'', hsettles⟩ := settle_leads _ o₃ f'
    exact ⟨f'', hwaiting.trans (hbegins.trans hsettles)⟩
  · rw [hstart]
    exact ⟨f, .single (.startFails rfl hr hflaw)⟩

end Pipeline

namespace Flow

/-- **A run of the pipeline** goes through states that can be reached step by step. -/
theorem steps_of_run (settings : Settings) (rules : RuleSet) (store : Store) (o : Outside)
    (events : List (Pipeline.Event × Outside)) :
    ∃ f, Steps (initial settings rules store) f ∧
      f.pipeline =
        (Pipeline.start.runWith (.ofSettings settings rules store) o).2.1.after events := by
  obtain ⟨f, hstarts⟩ := Pipeline.steps_of_start settings rules store o
  obtain ⟨f', hruns⟩ := Pipeline.after_leads events
    (Pipeline.start.runWith (.ofSettings settings rules store) o).2.1 f
  exact ⟨_, hstarts.trans hruns, rfl⟩

/-- **Nothing is lost, added or moved**, whatever the order of the steps, the replies and the
failures are. No channel holds more than its capacity. The listings that were fetched are those that
were processed, those in the channel and those still to be put, in this order. The matches that were
returned are those of the batches that were sent, those that the notifier keeps, those in the
channel and the one still to be put, in this order. Every run of the pipeline goes through such
states. -/
theorem conserved_of_reachable (settings : Settings) (rules : RuleSet) (store : Store)
    (h : 1 ≤ settings.pipeline.capacity) :
    (∀ f, Steps (initial settings rules store) f →
      (f.pipeline.ingestion.outbox.items.length : Int) ≤ settings.pipeline.capacity ∧
      (f.pipeline.notices.items.length : Int) ≤ settings.pipeline.capacity ∧
      f.fetched = f.processed ++ f.pipeline.ingestion.outbox.items ++
        f.pipeline.ingestion.phase.undelivered ∧
      f.returned = f.sent ++ f.pipeline.notifier.queued ++ hits f.pipeline.notices.items ++
        f.pipeline.matching.held) ∧
    ∀ o events, ∃ f, Steps (initial settings rules store) f ∧
      f.pipeline =
        (Pipeline.start.runWith (.ofSettings settings rules store) o).2.1.after events := by
  have hlimit : 1 ≤ settings.pipeline.capacity.toNat := by omega
  refine ⟨fun f hf => ?_, steps_of_run settings rules store⟩
  have hc := (conserved_initial settings rules store).steps hlimit hf
  have hlistings := hc.listingQueue.bounded
  have hnotices := hc.noticeQueue.bounded
  exact ⟨by omega, by omega, hc.listings, hc.posts⟩

/-- With room for one item, a tick can be put at once, and then nothing else until it is taken. -/
theorem conserved_of_reachable_full :
    ∃ (settings : Settings) (f : Flow), Steps (initial settings .empty .empty) f ∧
      (f.pipeline.notices.items.length : Int) ≤ settings.pipeline.capacity ∧
      f.pipeline.notices.items = [.tick] ∧
      ∀ n, f.pipeline.notices.put? n = none := by
  let settings : Settings := { pipeline := { capacity := 1 } }
  let f := initial settings .empty .empty
  let f' : Flow := { f with pipeline.notices := (f.pipeline.notices.push .tick).1 }
  have hsteps : Steps f f' := .single (.tick rfl)
  have hbounded :=
    ((conserved_of_reachable settings .empty .empty (by decide)).1 f' hsteps).2.1
  exact ⟨settings, f', hsteps, hbounded, rfl, fun _ => rfl⟩

end Flow

end DealWatch
