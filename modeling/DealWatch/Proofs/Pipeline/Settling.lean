import DealWatch.Proofs.Pipeline.Waking

/-!
# Runs that come to rest

* `Pipeline.runTask_eases` says that a task that goes on forgets nobody and takes from the load;
* `Pipeline.settleWithin_rests` says that tasks go on until none is ready, by induction on the load;
* `Pipeline.idle_of_run` says that a run comes to rest only when nothing is left to do.

A task that goes on is taken from those that are ready, and its loop is followed round by round: a
round that moves an item takes from the load, and the round that has to wait ends it. When no task
is ready none can be about to wake another one, so nobody waits for room any more and both channels
are empty.
-/

namespace DealWatch

namespace Pipeline

variable {p q : Pipeline} {t : TaskId}

/-! ### Tasks -/

/-- Matching puts a match, or waits for room. -/
theorem putMatch_eases (next : Act Pipeline Unit) {m : MatchingPost}
    (h : Lively (requeue .matching { p with matching := .putting m }))
    (hnext : ∀ {q : Pipeline}, q.ingestion = p.ingestion → q.matching = .taking →
      Lively (requeue .matching q) → ∀ o,
      Eases (requeue .matching q) (endOf withoutMatching (next.runWith q o))) (o : Outside) :
    Eases (requeue .matching { p with matching := .putting m })
      (endOf withoutMatching ((do if ← putMatch m then next).runWith p o)) := by
  rw [Act.runWith_bind, putMatch_run]
  rcases hput : p.notices.put? (.hit m) with _ | ⟨notices, woken⟩
  · exact h.awaitRoom (.inr ⟨rfl, List.cons_ne_nil _ _⟩) (Channel.put?_eq_none_iff.1 hput)
  · obtain ⟨hputs, hload⟩ := h.putNotice hput
    have hitems := Channel.put?_items hput
    let p' : Pipeline := { p with notices, ready := p.ready ++ woken.toList }
    have htaking : Lively (requeue .matching { p' with matching := .taking }) :=
      hputs.rephase fun _ => .inr (by simp [hitems])
    have hphase : load (requeue .matching { p' with matching := .taking }) + 2 =
        load (requeue .matching { p' with matching := .putting m }) :=
      load_rephase .taking (requeue .matching { p' with matching := .putting m })
    have hloads := Nat.le_of_add_le_add_right (Nat.le_trans (Nat.le_of_eq hphase) hload)
    exact (hnext (q := { p' with matching := .taking }) rfl rfl htaking o).of_le hloads

/-- **Matching takes listings** until it waits or fails. -/
theorem matchListings_eases (count : Nat) {p : Pipeline} (h : Lively (requeue .matching p))
    (htaking : p.matching = .taking) (hcount : p.ingestion.outbox.items.length < count)
    (o : Outside) :
    Eases (requeue .matching p) (endOf withoutMatching ((matchListings count).runWith p o)) := by
  induction count generalizing p o with
  | zero => omega
  | succ count ih =>
    rw [matchListings, Act.runWith_bind, takeListing_run]
    rcases htake : p.ingestion.outbox.take? with _ | ⟨l, outbox, woken⟩
    · exact h.awaitListing htaking (Channel.take?_eq_none htake)
    · obtain ⟨htakes, hload⟩ := h.takeListing htake
      have hitems := Channel.take?_items htake
      have hfewer : outbox.items.length < count := by
        rw [hitems, List.length_cons] at hcount
        omega
      let p' : Pipeline :=
        { p with ingestion.outbox := outbox, ready := p.ready ++ woken.toList }
      have hle : (requeue .matching p').load ≤ (requeue .matching p).load :=
        Nat.le_of_add_right_le hload
      simp only [onStore, Act.runWith_bind, Act.runWith_state, Act.runWith_within]
      rcases hrun : (processListing p.rules l).runWith p.store o with ⟨e | _ | m, store, o'⟩
      · have hfails : Lively (requeue .matching { p' with store }) := { htakes with }
        exact (hfails.stop htaking).of_le hle
      · have hskips : Lively (requeue .matching { p' with store }) := { htakes with }
        exact (ih hskips htaking hfewer o').of_le hle
      · -- the match counts twice, and the listing that was taken paid for it
        have hputs : Puts (.putting m) .matching := .inr ⟨rfl, List.cons_ne_nil m []⟩
        have hholds : Lively (requeue .matching { p' with matching := .putting m }) :=
          htakes.rephase fun _ => .inl ⟨.matching, List.mem_cons_self, hputs⟩
        have hphase : load (requeue .matching { p' with matching := .putting m }) +
            2 * p.matching.held.length = load (requeue .matching p') + 2 :=
          load_rephase (.putting m) (requeue .matching p')
        have hputs := putMatch_eases (matchListings count) (p := { p' with store }) (m := m)
          { hholds with }
          (fun {q} hq htaking' hlively o => ih hlively htaking' (by rw [hq]; exact hfewer) o) o'
        exact hputs.of_le (Nat.le_trans (Nat.le_of_add_right_le (Nat.le_of_eq hphase)) hload)

/-- **Matching goes on** until it waits or fails. -/
theorem resumeMatching_eases (h : Lively (requeue .matching p)) (o : Outside) :
    Eases (requeue .matching p) (endOf withoutMatching (resumeMatching.runWith p o)) := by
  simp only [resumeMatching, Act.runWith_bind, Act.runWith_state]
  rcases hmatching : p.matching with _ | m | _
  · exact matchListings_eases _ h hmatching (Nat.lt_succ_self _) o
  · let next : Act Pipeline Unit := do
      matchListings ((← Act.state).ingestion.outbox.items.length + 1)
    have hself : { p with matching := .putting m } = p := by rw [← hmatching]
    have hputs := putMatch_eases next (p := p) (m := m) (hself.symm ▸ h)
      (fun _ htaking hlively o =>
        matchListings_eases _ hlively htaking (Nat.lt_succ_self _) o) o
    rw [hself] at hputs
    exact hputs
  · have hheld : p.matching.held = [] := by rw [hmatching]; rfl
    exact h.leave TaskId.noConfusion (fun _ => hmatching) TaskId.noConfusion fun hputs =>
      absurd hputs (not_puts_of_held hheld)

/-- **The notifier takes notifications** until it waits, or the pipeline ends. -/
theorem handleNotices_eases (count : Nat) {p : Pipeline} (h : Lively (requeue .notify p))
    (hcount : p.notices.items.length < count) (e : Failure) (o : Outside) :
    (endOf (endedBy e) ((handleNotices count).runWith p o)).ended ≠ none ∨
      Eases (requeue .notify p) (endOf (endedBy e) ((handleNotices count).runWith p o)) := by
  induction count generalizing p o with
  | zero => omega
  | succ count ih =>
    rw [handleNotices, Act.runWith_bind, takeNotice_run]
    rcases htake : p.notices.take? with _ | ⟨n, notices, woken⟩
    · exact .inr (h.awaitNotice (Channel.take?_eq_none htake))
    · obtain ⟨htakes, hload⟩ := h.takeNotice htake
      have hitems := Channel.take?_items htake
      have hfewer : notices.items.length < count := by
        rw [hitems, List.length_cons] at hcount
        omega
      let p' : Pipeline := { p with notices, ready := p.ready ++ woken.toList }
      simp only [onNotifier, Act.runWith_bind, Act.runWith_within]
      rcases hrun : (Notifier.handle n).runWith p.notifier o with ⟨e' | ⟨⟩, notifier, o'⟩
      · exact .inl (Option.some_ne_none _)
      · have hhandles : Lively (requeue .notify { p' with notifier }) := { htakes with }
        exact (ih hhandles hfewer o').imp_right (·.of_le hload)

/-- A tick is put, or waits for room. -/
theorem runTick_eases {number : Nat} (h : Lively (requeue (.tick number) p)) (o : Outside) :
    ∃ q o', (runTick number).runWith p o = (.ok (), q, o') ∧
      Eases (requeue (.tick number) p) q := by
  have hputs : Puts p.matching (.tick number) := .inl rfl
  rw [runTick, Act.runWith_bind, putNotice_run]
  rcases hput : p.notices.put? .tick with _ | ⟨notices, woken⟩
  · exact ⟨_, o, rfl, h.awaitRoom hputs (Channel.put?_eq_none_iff.1 hput)⟩
  · let p' : Pipeline := { p with notices, ready := p.ready ++ woken.toList }
    obtain ⟨hlively, hload⟩ : Lively (requeue (.tick number) p') ∧ _ := h.putNotice hput
    have hitems : notices.items ≠ [] := by simp [Channel.put?_items hput]
    -- whoever waits for room is woken by the notifier, which takes this tick
    have hleaves := hlively.leave TaskId.noConfusion TaskId.noConfusion TaskId.noConfusion
      fun _ _ => hitems
    have hload : (requeue (.tick number) p').load ≤ (requeue (.tick number) p).load + 2 := hload
    have htick : (requeue (.tick number) p').load = p'.load + 3 := load_requeue (.tick number) p'
    exact ⟨p', _, rfl, hleaves.lively, by omega⟩

/-! ### Ingestion -/

theorem undelivered_idle : IngestionPhase.idle.undelivered = [] := rfl

/-- Ingestion leaves once it has put its page, whatever it does after that. -/
theorem Lively.deliver (h : Lively (requeue .ingestion p))
    (hnone : p.ingestion.phase.undelivered = []) (client : Feed.Client) {phase : IngestionPhase}
    (hphase : phase.undelivered = []) :
    Eases (requeue .ingestion p)
      { p with ingestion.client := client, ingestion.phase := phase } := by
  have hleaves := h.leave TaskId.noConfusion TaskId.noConfusion (fun _ hrest => absurd hnone hrest)
    fun hputs => absurd rfl hputs.ne.2
  refine ⟨{ hleaves.lively with ingestion := fun hrest => absurd hphase hrest }, ?_⟩
  refine Nat.lt_of_le_of_lt (Nat.le_of_eq ?_) hleaves.load
  simp only [load, tally, hphase, hnone]

/-- **Ingestion puts listings** as long as there is room. -/
theorem Lively.putListings {count : Nat} (rest : List Listing)
    (h : Lively (requeue .ingestion { p with ingestion.phase := .delivering rest count }))
    {outbox : Channel Listing} {woken : List TaskId} {left : List Listing}
    (hput : p.ingestion.outbox.putAll rest = (outbox, woken, left)) :
    Lively (requeue .ingestion { p with
      ingestion.outbox := outbox
      ingestion.phase := .delivering left count
      ready := p.ready ++ woken }) ∧
      (requeue .ingestion { p with
        ingestion.outbox := outbox
        ingestion.phase := .delivering left count
        ready := p.ready ++ woken }).load ≤
          (requeue .ingestion { p with ingestion.phase := .delivering rest count }).load ∧
      (left ≠ [] → outbox.isFull = true) := by
  induction rest generalizing p woken with
  | nil =>
    cases hput
    rw [List.append_nil]
    exact ⟨h, Nat.le_refl _, fun hleft => absurd rfl hleft⟩
  | cons l rest ih =>
    rw [Channel.putAll] at hput
    rcases hfirst : p.ingestion.outbox.put? l with _ | ⟨outbox₁, woken₁⟩
    · rw [hfirst] at hput
      cases hput
      rw [List.append_nil]
      exact ⟨h, Nat.le_refl _, fun _ => Channel.put?_eq_none_iff.1 hfirst⟩
    · rw [hfirst] at hput
      obtain ⟨hputs, hload⟩ := h.putListing hfirst
      rcases hmore : outbox₁.putAll rest with ⟨outbox₂, woken₂, left₂⟩
      simp only [hmore] at hput
      cases hput
      let p' : Pipeline :=
        { p with ingestion.outbox := outbox₁, ready := p.ready ++ woken₁.toList }
      obtain ⟨hlively, hloads, hfull⟩ := ih (p := p') hputs hmore
      rw [← List.append_assoc]
      exact ⟨hlively, Nat.le_trans hloads hload, hfull⟩

/-- **Ingestion puts a page** until it waits, is done or fails. -/
theorem deliver_eases {rest : List Listing} {count : Nat} (hwoken : p.ingestion.woken = [])
    (h : Lively (requeue .ingestion { p with ingestion.phase := .delivering rest count }))
    (o : Outside) :
    Eases (requeue .ingestion { p with ingestion.phase := .delivering rest count }) { p with
      ingestion := { endOf stopIngestion ((Ingestion.deliver rest count).runWith p.ingestion o) with
        woken := [] }
      ready := p.ready ++
        (endOf stopIngestion ((Ingestion.deliver rest count).runWith p.ingestion o)).woken } := by
  simp only [Ingestion.deliver, Act.runWith_bind, Act.runWith_state, hwoken, List.nil_append]
  rcases hput : p.ingestion.outbox.putAll rest with ⟨outbox, woken, _ | ⟨l, left⟩⟩
  · obtain ⟨hputs, hload, -⟩ := h.putListings rest hput
    let s : Ingestion := { p.ingestion with outbox, woken }
    obtain ⟨client, o', ⟨phase, hphase, hfinish⟩ | ⟨e, hfinish⟩⟩ := Ingestion.finish_run count s o
    · have hrun : (Ingestion.finish count).runWith s o = _ := hfinish s.phase
      have hdone := (hputs.deliver rfl client hphase).of_le hload
      simp only [List.isEmpty_nil, if_true, Act.runWith_bind, Act.runWith_put, s] at hrun ⊢
      rw [hrun]
      exact ⟨{ hdone.lively with woken := rfl }, hdone.load⟩
    · have hrun : (Ingestion.finish count).runWith s o = _ := hfinish s.phase
      have hdone := (hputs.deliver rfl client undelivered_idle).of_le hload
      simp only [List.isEmpty_nil, if_true, Act.runWith_bind, Act.runWith_put, s] at hrun ⊢
      rw [hrun]
      exact ⟨{ hdone.lively with woken := rfl }, hdone.load⟩
  · obtain ⟨hputs, hload, hfull⟩ := h.putListings rest hput
    have hwaits := (hputs.awaitDelivery (hfull (List.cons_ne_nil _ _))).of_le hload
    exact ⟨{ hwaits.lively with woken := rfl }, hwaits.load⟩

/-- **Ingestion goes on** to put its page. -/
theorem resume_eases (h : Lively (requeue .ingestion p)) (o : Outside) :
    ∃ q o', (runIngestion Ingestion.resume).runWith p o = (.ok (), q, o') ∧
      Eases (requeue .ingestion p) q := by
  have hwoken : p.ingestion.woken = [] := h.woken
  obtain ⟨o₁, o₂, hrun⟩ := runIngestion_run Ingestion.resume p o
  refine ⟨_, o₂, hrun, ?_⟩
  have hidle (hnone : p.ingestion.phase.undelivered = []) : Eases (requeue .ingestion p)
      { p with
        ingestion := { p.ingestion with woken := [] }, ready := p.ready ++ p.ingestion.woken } := by
    have hdone := h.deliver hnone p.ingestion.client hnone
    rw [hwoken, List.append_nil]
    exact ⟨{ hdone.lively with woken := rfl }, hdone.load⟩
  simp only [Ingestion.resume, Act.runWith_bind, Act.runWith_state]
  rcases hphase : p.ingestion.phase with _ | ⟨rest, count⟩ | seconds | count
  · exact hidle (by rw [hphase]; rfl)
  · have hself : { p with ingestion.phase := .delivering rest count } = p := by rw [← hphase]
    have hputs := deliver_eases hwoken (hself.symm ▸ h) o₁
    rw [hself] at hputs
    exact hputs
  · exact hidle (by rw [hphase]; rfl)
  · exact hidle (by rw [hphase]; rfl)

/-! ### Runs -/

/-- **A task that goes on** forgets nobody and leaves less to do, unless the pipeline ends. -/
theorem runTask_eases (h : Lively (requeue t p)) (o : Outside) :
    ∃ q o', (runTask t).runWith p o = (.ok (), q, o') ∧
      (q.ended ≠ none ∨ Eases (requeue t p) q) := by
  cases t with
  | ingestion =>
    obtain ⟨q, o', hrun, heases⟩ := resume_eases h o
    exact ⟨q, o', hrun, .inr heases⟩
  | matching =>
    obtain ⟨o₁, o₂, hrun⟩ := runMatching_run p o
    exact ⟨_, o₂, hrun, .inr (resumeMatching_eases h o₁)⟩
  | notify =>
    obtain ⟨e, o₁, o₂, hrun⟩ := runNotifier_run p o
    exact ⟨_, o₂, hrun, handleNotices_eases _ h (Nat.lt_succ_self _) e o₁⟩
  | tick number =>
    obtain ⟨q, o', hrun, heases⟩ := runTick_eases h o
    exact ⟨q, o', hrun, .inr heases⟩

/-- A pipeline that has ended does not begin again. -/
theorem ended_of_steps {f f' : Flow} (h : Flow.Steps f f') (hended : f.pipeline.ended ≠ none) :
    f'.pipeline.ended ≠ none := by
  induction h with
  | refl => exact hended
  | tail _ hstep ih =>
    cases hstep with
    | finishPage _ hrun | finishPageFails _ hrun => exact ih
    | startFails | sendGroupFails => exact Option.some_ne_none _
    | _ => exact ih

theorem Leads.ended (h : Leads p q) (hended : p.ended ≠ none) : q.ended ≠ none := by
  obtain ⟨f, hsteps⟩ := h ⟨p, none, false, [], [], [], []⟩
  exact ended_of_steps hsteps hended

/-- The pipeline has ended, or nobody is forgotten and no task can go on. -/
def Rests (p : Pipeline) : Prop := p.ended ≠ none ∨ Lively p ∧ p.ready = []

/-- **The tasks go on until none is ready**, if there is fuel for what is left to do. -/
theorem settleWithin_rests (fuel : Nat) (h : p.ended ≠ none ∨ Lively p ∧ p.load ≤ fuel)
    (o : Outside) : Rests ((settleWithin fuel).runWith p o).2.1 := by
  induction fuel generalizing p o with
  | zero =>
    refine h.imp_right (And.imp_right fun hload => ?_)
    have hnone : p.ready.length = 0 := by
      rw [load] at hload
      omega
    exact List.length_eq_zero_iff.1 hnone
  | succ fuel ih =>
    obtain hended | ⟨hlively, hload⟩ := h
    · -- an ended pipeline may go on until the fuel is gone, but stays ended
      exact .inl ((settleWithin_leads _ p o).ended hended)
    · rw [settleWithin, Act.runWith_bind_ok (Act.runWith_state _ _)]
      rcases hready : p.ready with _ | ⟨t, rest⟩
      · exact .inr ⟨hlively, hready⟩
      · simp only
        rw [Act.runWith_bind_ok (Act.runWith_put _ _ _)]
        have hself : requeue t { p with ready := rest } = p := by rw [requeue, ← hready]
        obtain ⟨q, o', hrun, heases⟩ := runTask_eases (hself.symm ▸ hlively) o
        rw [hself] at heases
        rw [Act.runWith_bind_ok hrun]
        exact ih (heases.imp_right fun heases => ⟨heases.lively, by have := heases.load; omega⟩) o'

theorem effort_eq (p : Pipeline) :
    p.effort = p.ready.length +
      4 * (p.ingestion.phase.undelivered.length + p.ingestion.outbox.items.length) +
      2 * (p.notices.items.length + p.ticks) + 8 := by
  simp only [effort]
  cases p.ingestion.phase <;> rfl

/-- The effort that a run is given is enough. -/
theorem Lively.load_le_effort (h : Lively p) : p.load ≤ p.effort := by
  have hticks := h.ticks
  have hheld : p.matching.held.length ≤ 1 := by cases p.matching <;> simp [MatchPhase.held]
  rw [load, effort_eq]
  omega

theorem settle_rests (h : p.ended ≠ none ∨ Lively p) (o : Outside) :
    Rests (settle.runWith p o).2.1 := by
  simp only [settle, Act.runWith_bind, Act.runWith_state]
  exact settleWithin_rests _ (h.imp_right fun hlively => ⟨hlively, hlively.load_le_effort⟩) o

/-- A tick of the clock is ready like another task. -/
theorem tick_rests (h : p.ended ≠ none ∨ Lively p) (o : Outside) :
    Rests (tick.runWith p o).2.1 := by
  let ticked : Pipeline := { p with ticks := p.ticks + 1, ready := p.ready ++ [.tick p.ticks] }
  have hrun : tick.runWith p o = settle.runWith ticked o := by
    simp only [tick, Act.runWith_bind, Act.runWith_state, Act.runWith_put, ticked]
  rw [hrun]
  refine settle_rests (p := ticked) (h.imp_right fun hlively => ?_) o
  have hcount (kind : TaskId → Bool) :
      ticked.tally kind = p.tally kind + if kind (.tick p.ticks) then 1 else 0 := by
    simp only [tally, ticked, List.countP_append, List.countP_cons, List.countP_nil]
    omega
  have hmore {t : TaskId} (ht : t ∈ p.ready) : t ∈ ticked.ready := List.mem_append_left _ ht
  exact { hlively with
    once := by rw [hcount]; exact hlively.once
    ticks := by rw [hcount]; exact Nat.succ_le_succ hlively.ticks
    notifier := hlively.notifier.imp_left hmore
    matching := hlively.matching.imp_left hmore
    ingestion := fun hrest => (hlively.ingestion hrest).imp_left hmore
    room := fun hwaits =>
      (hlively.room hwaits).imp_left (Exists.imp fun _ => And.imp_left hmore) }

/-- Ingestion is put back for another page. -/
theorem Lively.requeueIngestion (h : Lively p) (client : Feed.Client) (phase : IngestionPhase) :
    Lively (requeue .ingestion
      { p with ingestion.client := client, ingestion.phase := phase }) := by
  have hmore {t : TaskId} (ht : t ∈ p.ready) : t ∈ .ingestion :: p.ready :=
    List.mem_cons_of_mem _ ht
  exact { h with
    once := by rw [tally_requeue]; exact h.once
    ticks := by rw [tally_requeue]; exact h.ticks
    notifier := h.notifier.imp_left hmore
    matching := h.matching.imp_left hmore
    ingestion := fun _ => .inl List.mem_cons_self
    room := fun hwaits =>
      (h.room hwaits).imp_left (Exists.imp fun _ => And.imp_left hmore) }

/-- **A page that is fetched** is put until ingestion waits, is done or fails. -/
theorem fetched_lively (h : Lively p) (poll : Feed.ClientAct (List Listing)) (o : Outside) :
    Lively { p with
      ingestion := { endOf stopIngestion
        ((do
          let page ← Ingestion.onClient poll
          Ingestion.deliver page page.length).runWith p.ingestion o) with woken := [] }
      ready := p.ready ++ (endOf stopIngestion
        ((do
          let page ← Ingestion.onClient poll
          Ingestion.deliver page page.length).runWith p.ingestion o)).woken } := by
  simp only [Ingestion.onClient, Act.runWith_bind, Act.runWith_within]
  rcases hrun : poll.runWith p.ingestion.client o with ⟨e | page, client, o'⟩
  · have hfails := h.requeueIngestion client .idle
    have hdone := (hfails.deliver rfl client undelivered_idle).lively
    simp only [endOf, stopIngestion, h.woken, List.append_nil]
    exact { hdone with woken := rfl }
  · have hputs := h.requeueIngestion client (.delivering page page.length)
    exact (deliver_eases (p := { p with ingestion.client := client }) h.woken hputs o').lively

/-- The tasks that ingestion wakes go on after it. -/
theorem runIngestion_rests {act : Act Ingestion Unit}
    (h : p.ended ≠ none ∨ ∀ o, Lively { p with
      ingestion := { endOf stopIngestion (act.runWith p.ingestion o) with woken := [] }
      ready := p.ready ++ (endOf stopIngestion (act.runWith p.ingestion o)).woken })
    (o : Outside) :
    Rests ((do
      runIngestion act
      settle).runWith p o).2.1 := by
  obtain ⟨o₁, o₂, hrun⟩ := runIngestion_run act p o
  rw [Act.runWith_bind_ok hrun]
  refine settle_rests ?_ o₂
  exact h.imp_right fun hlively => hlively o₁

/-- **The wait is over**, and ingestion fetches the next page. -/
theorem wake_rests (h : p.ended ≠ none ∨ Lively p) (o : Outside) :
    Rests (wake.runWith p o).2.1 := by
  refine runIngestion_rests (h.imp_right fun hlively o => ?_) o
  have hstays : Lively { p with
      ingestion := { p.ingestion with woken := [] }, ready := p.ready ++ p.ingestion.woken } := by
    rw [hlively.woken, List.append_nil]
    exact { hlively with woken := rfl }
  simp only [Ingestion.wake, Act.runWith_bind, Act.runWith_state]
  rcases p.ingestion.phase with _ | ⟨rest, count⟩ | seconds | count
  · exact hstays
  · exact hstays
  · simp only [Act.runWith_bind, Act.runWith_change]
    exact fetched_lively hlively Ingestion.poll _
  · exact hstays

/-- **What comes from outside** lets the tasks go on until none is ready. -/
theorem happen_rests (event : Event) (h : p.ended ≠ none ∨ Lively p) (o : Outside) :
    Rests ((happen event).runWith p o).2.1 := by
  unfold happen
  rw [Act.runWith_bind_ok (Act.runWith_state p o)]
  split
  · rename_i hended
    exact .inl (Option.isSome_iff_ne_none.1 hended)
  · cases event with
    | tick => exact tick_rests h o
    | wake => exact wake_rests h o

/-- When ingestion begins to poll, the notifier waits and matching is ready. -/
theorem lively_begun (settings : Settings) (rules : RuleSet) (store : Store) :
    Lively (begun settings rules store) where
  noticeTakers := by simp [begun, ofSettings, Channel.ofCapacity, Channel.awaitItem]
  noticePutters := nofun
  listingTakers := nofun
  listingPutters := nofun
  woken := rfl
  once := Nat.le_refl 1
  ticks := Nat.le_refl 0
  notifier := .inr ⟨List.cons_ne_nil _ _, rfl⟩
  matching := .inl (List.mem_singleton_self _)
  ingestion := fun hrest => absurd rfl hrest
  room := fun hwaits => absurd rfl hwaits

theorem start_rests (settings : Settings) (rules : RuleSet) (store : Store) (o : Outside) :
    Rests (start.runWith (ofSettings settings rules store) o).2.1 := by
  obtain ⟨o', ⟨-, hrun⟩ | ⟨-, -, e, -, hrun⟩⟩ := pipeline_start_run settings rules store o
  · rw [hrun]
    refine runIngestion_rests (.inr fun o => ?_) o'
    rw [start_run rfl]
    exact fetched_lively (lively_begun settings rules store) Ingestion.firstPoll o
  · rw [hrun]
    exact .inl (Option.some_ne_none e)

theorem after_rests (events : List (Event × Outside)) (h : Rests p) : Rests (p.after events) := by
  induction events generalizing p with
  | nil => exact h
  | cons event events ih => exact ih (happen_rests event.1 (h.imp_right (·.1)) event.2)

/-- If nobody is forgotten and no task can go on, then nothing is left to do. -/
theorem Lively.idle (h : Lively p) (hready : p.ready = []) (hmatching : p.matching ≠ .stopped) :
    p.matching = .taking ∧ p.ingestion.phase.undelivered = [] ∧
      p.ingestion.outbox.items = [] ∧ p.notices.items = [] ∧ p.notices.putters = [] := by
  have hnone (t : TaskId) : t ∉ p.ready := by simp [hready]
  obtain ⟨-, hnotices⟩ := h.notifier.resolve_left (hnone _)
  have hputters : p.notices.putters = [] := by
    by_contra hwaits
    obtain ⟨t, ht, -⟩ | hitems := h.room hwaits
    · exact hnone t ht
    · exact hitems hnotices
  obtain hstopped | hwaits | ⟨htaking, -, hlistings⟩ := h.matching.resolve_left (hnone _)
  · exact absurd hstopped hmatching
  · rw [hputters] at hwaits
    cases hwaits
  · refine ⟨htaking, ?_, hlistings, hnotices, hputters⟩
    by_contra hrest
    obtain hready | ⟨-, hitems⟩ := h.ingestion hrest
    · exact hnone _ hready
    · exact hitems hlistings

/-- **A run comes to rest only when nothing is left to do**: after the start and after everything
that happens, no task is ready, all listings that were fetched have been taken, both channels are
empty and nobody waits for room, unless matching or the notifier has failed. -/
theorem idle_of_run (settings : Settings) (rules : RuleSet) (store : Store) (o : Outside)
    (events : List (Event × Outside)) :
    let p := (start.runWith (ofSettings settings rules store) o).2.1.after events
    p.matching ≠ .stopped → p.ended = none →
      p.ready = [] ∧ p.matching = .taking ∧ p.ingestion.phase.undelivered = [] ∧
        p.ingestion.outbox.items = [] ∧ p.notices.items = [] ∧ p.notices.putters = [] := by
  intro p hmatching hended
  obtain hended' | ⟨hlively, hready⟩ := after_rests events (start_rests settings rules store o)
  · exact absurd hended hended'
  · exact ⟨hready, hlively.idle hready hmatching⟩

end Pipeline

end DealWatch
