import DealWatch.Proofs.Pipeline.Interleaving

/-!
# Tasks that wake each other

A task that finds no room or no item waits in the line of its channel, and the task that makes room
or puts an item wakes the first in line.

* `Pipeline.Lively` says that no task is forgotten: who waits in line will be woken by another task
  that is ready, or that will be;
* `Pipeline.load` bounds how often tasks can still go on;
* `Pipeline.Eases` is a move after which nobody is forgotten and the load is less.

There is one lemma for each way to wait and for each item that moves, as `Pipeline.Lively.awaitRoom`
and `Pipeline.Lively.putNotice`. While a task runs it is in no line and not ready, so they speak of
the state in which it is put back among those that are ready (`requeue`).

In the load an item counts more the further it is from leaving the pipeline, so that it pays for the
task that it wakes.
-/

namespace DealWatch

/-- Whether a task is a tick of the clock. -/
def TaskId.isTick : TaskId → Bool
  | .tick _ => true
  | _ => false

namespace Pipeline

/-- A task that puts a notification when it goes on: a tick, or matching with a match to put. -/
def Puts (phase : MatchPhase) (t : TaskId) : Prop :=
  t.isTick = true ∨ t = .matching ∧ phase.held ≠ []

/-- How many tasks of some kind are ready or in a line. -/
def tally (kind : TaskId → Bool) (p : Pipeline) : Nat :=
  p.ready.countP kind +
    (p.ingestion.outbox.takers.countP kind + p.ingestion.outbox.putters.countP kind) +
    (p.notices.takers.countP kind + p.notices.putters.countP kind)

/-- Each task waits in its own lines only, and nobody is forgotten: a task that has something to do
is ready, or it waits in line for something that another one will do. -/
structure Lively (p : Pipeline) : Prop where
  noticeTakers : ∀ t ∈ p.notices.takers, t = .notify
  noticePutters : ∀ t ∈ p.notices.putters, Puts p.matching t
  listingTakers : ∀ t ∈ p.ingestion.outbox.takers, t = .matching
  listingPutters : ∀ t ∈ p.ingestion.outbox.putters, t = .ingestion
  /-- The tasks that ingestion woke are ready. -/
  woken : p.ingestion.woken = []
  /-- Matching is in one place only. -/
  once : p.tally (· == .matching) ≤ 1
  /-- There are no more ticks waiting than there were ticks. -/
  ticks : p.tally TaskId.isTick ≤ p.ticks
  notifier : .notify ∈ p.ready ∨ p.notices.takers ≠ [] ∧ p.notices.items = []
  matching : .matching ∈ p.ready ∨ p.matching = .stopped ∨ .matching ∈ p.notices.putters ∨
    p.matching = .taking ∧ p.ingestion.outbox.takers ≠ [] ∧ p.ingestion.outbox.items = []
  ingestion : p.ingestion.phase.undelivered ≠ [] → .ingestion ∈ p.ready ∨
    p.ingestion.outbox.putters ≠ [] ∧ p.ingestion.outbox.items ≠ []
  /-- If somebody waits for room, somebody will put something or there is something to take. -/
  room : p.notices.putters ≠ [] → (∃ t ∈ p.ready, Puts p.matching t) ∨ p.notices.items ≠ []

/-- A bound on the number of times that tasks can go on: each does so because it was ready, or
because an item was put into a channel or taken from one. -/
def load (p : Pipeline) : Nat :=
  p.ready.length + 4 * p.ingestion.phase.undelivered.length +
    3 * p.ingestion.outbox.items.length + p.notices.items.length +
    2 * p.tally TaskId.isTick + 2 * p.matching.held.length

/-- The pipeline with the running task put back in front of the ready ones. -/
def requeue (t : TaskId) (p : Pipeline) : Pipeline := { p with ready := t :: p.ready }

variable {p q : Pipeline} {t : TaskId} {woken : Option TaskId}

theorem Puts.of_ne {phase : MatchPhase} (h : Puts phase t) (ht : t ≠ .matching)
    (phase' : MatchPhase) : Puts phase' t :=
  .inl (h.resolve_right fun hmatching => ht hmatching.1)

/-- A task that puts notifications is neither the notifier nor ingestion. -/
theorem Puts.ne {phase : MatchPhase} (h : Puts phase t) : t ≠ .notify ∧ t ≠ .ingestion := by
  constructor
  · rintro rfl
    obtain htick | ⟨heq, -⟩ := h <;> contradiction
  · rintro rfl
    obtain htick | ⟨heq, -⟩ := h <;> contradiction

/-- Matching puts nothing if it holds no match. -/
theorem not_puts_of_held {phase : MatchPhase} (h : phase.held = []) : ¬ Puts phase .matching := by
  rintro (htick | ⟨-, hheld⟩)
  · cases htick
  · exact hheld h

/-- The other tasks are ready without the running one. -/
theorem mem_ready_of_requeue {other : TaskId} (h : other ∈ (requeue t p).ready) (hne : other ≠ t) :
    other ∈ p.ready :=
  List.mem_of_ne_of_mem hne h

theorem length_toList_le (woken : Option TaskId) : woken.toList.length ≤ 1 := by
  cases woken <;> simp

theorem tally_requeue (kind : TaskId → Bool) (t : TaskId) (p : Pipeline) :
    (requeue t p).tally kind = p.tally kind + if kind t then 1 else 0 := by
  simp only [tally, requeue, List.countP_cons]
  omega

/-- A tick that is ready counts twice more: for the notification and for the notifier. -/
theorem load_requeue (t : TaskId) (p : Pipeline) :
    (requeue t p).load = p.load + 1 + 2 * if t.isTick then 1 else 0 := by
  rw [load, load, tally_requeue]
  simp only [requeue, List.length_cons]
  omega

/-- Nobody is forgotten, and there is less left to do. -/
structure Eases (p q : Pipeline) : Prop where
  lively : Lively q
  load : q.load < p.load

theorem Eases.of_le {r : Pipeline} (h : Eases q r) (hle : q.load ≤ p.load) : Eases p r :=
  ⟨h.lively, Nat.lt_of_lt_of_le h.load hle⟩

/-- While matching runs it waits nowhere. -/
theorem Lively.matching_notMem (h : Lively (requeue .matching p)) :
    .matching ∉ p.ready ∧ .matching ∉ p.notices.putters := by
  have honce := h.once
  rw [tally_requeue, if_pos (by decide), tally] at honce
  have hnone {l : List TaskId} (hl : l.countP (· == .matching) = 0) : .matching ∉ l :=
    fun hmem => List.countP_eq_zero.1 hl _ hmem rfl
  exact ⟨hnone (by omega), hnone (by omega)⟩

/-- If somebody waits for room, it is not the leaving task that was to do something about it. -/
theorem Lively.room_of_not_puts (h : Lively (requeue t p)) (ht : ¬ Puts p.matching t)
    (hwaits : p.notices.putters ≠ []) :
    (∃ t' ∈ p.ready, Puts p.matching t') ∨ p.notices.items ≠ [] := by
  refine (h.room hwaits).imp_left ?_
  rintro ⟨t', ht', hputs⟩
  refine ⟨t', mem_ready_of_requeue ht' ?_, hputs⟩
  rintro rfl
  exact ht hputs

/-! ### Tasks that wait or leave -/

/-- A task that has seen to what it is for need not be put back. -/
theorem Lively.leave (h : Lively (requeue t p))
    (hnotifier : t = .notify → p.notices.takers ≠ [] ∧ p.notices.items = [])
    (hmatching : t = .matching → p.matching = .stopped)
    (hingestion : t = .ingestion → p.ingestion.phase.undelivered ≠ [] →
      p.ingestion.outbox.putters ≠ [] ∧ p.ingestion.outbox.items ≠ [])
    (hroom : Puts p.matching t → p.notices.putters ≠ [] → p.notices.items ≠ []) :
    Eases (requeue t p) p := by
  -- the hypotheses are about the leaving task; every other one is ready without it
  have honce := h.once
  have hticks := h.ticks
  rw [tally_requeue] at honce hticks
  refine ⟨{ h with
    once := Nat.le_of_add_right_le honce
    ticks := Nat.le_of_add_right_le hticks
    notifier := ?_, matching := ?_, ingestion := ?_, room := ?_ }, by rw [load_requeue]; omega⟩
  · by_cases ht : t = .notify
    · exact .inr (hnotifier ht)
    · exact h.notifier.imp_left (mem_ready_of_requeue · (Ne.symm ht))
  · by_cases ht : t = .matching
    · exact .inr (.inl (hmatching ht))
    · exact h.matching.imp_left (mem_ready_of_requeue · (Ne.symm ht))
  · intro hrest
    by_cases ht : t = .ingestion
    · exact .inr (hingestion ht hrest)
    · exact (h.ingestion hrest).imp_left (mem_ready_of_requeue · (Ne.symm ht))
  · intro hwaits
    by_cases hputs : Puts p.matching t
    · exact .inr (hroom hputs hwaits)
    · exact h.room_of_not_puts hputs hwaits

/-- A task that puts a notification and finds no room waits for it. -/
theorem Lively.awaitRoom (h : Lively (requeue t p)) (hputs : Puts p.matching t)
    (hfull : p.notices.isFull = true) :
    Eases (requeue t p) { p with notices := p.notices.awaitRoom t } := by
  obtain ⟨hnotify, hingestion⟩ := hputs.ne
  -- the task goes from the ready ones to the line, so the load is less by one
  have hmoves (kind : TaskId → Bool) :
      tally kind { p with notices := p.notices.awaitRoom t } = (requeue t p).tally kind := by
    simp only [tally, requeue, Channel.awaitRoom, List.countP_append, List.countP_cons,
      List.countP_nil]
    omega
  refine ⟨{ h with
    noticePutters :=
      List.forall_mem_append.2 ⟨h.noticePutters, List.forall_mem_singleton.2 hputs⟩
    once := hmoves _ ▸ h.once
    ticks := hmoves _ ▸ h.ticks
    notifier := h.notifier.imp_left (mem_ready_of_requeue · hnotify.symm)
    matching := ?_
    ingestion := fun hrest =>
      (h.ingestion hrest).imp_left (mem_ready_of_requeue · hingestion.symm)
    room := fun _ => .inr (Channel.items_ne_nil_of_isFull hfull) }, ?_⟩
  · obtain hready | hstopped | hwaits | hwaits := h.matching
    · obtain rfl | hready := List.mem_cons.1 hready
      · exact .inr (.inr (.inl (List.mem_append_right _ (List.mem_singleton_self _))))
      · exact .inl hready
    · exact .inr (.inl hstopped)
    · exact .inr (.inr (.inl (List.mem_append_left _ hwaits)))
    · exact .inr (.inr (.inr hwaits))
  · rw [load, load, hmoves]
    simp only [requeue, Channel.awaitRoom, List.length_cons]
    omega

/-- Matching waits for a listing. -/
theorem Lively.awaitListing (h : Lively (requeue .matching p)) (htaking : p.matching = .taking)
    (hnone : p.ingestion.outbox.items = []) :
    Eases (requeue .matching p)
      { p with ingestion.outbox := p.ingestion.outbox.awaitItem .matching } := by
  have hmoves (kind : TaskId → Bool) :
      tally kind { p with ingestion.outbox := p.ingestion.outbox.awaitItem .matching } =
        (requeue .matching p).tally kind := by
    simp only [tally, requeue, Channel.awaitItem, List.countP_append, List.countP_cons,
      List.countP_nil]
    omega
  refine ⟨{ h with
    listingTakers := List.forall_mem_append.2 ⟨h.listingTakers, List.forall_mem_singleton.2 rfl⟩
    once := hmoves _ ▸ h.once
    ticks := hmoves _ ▸ h.ticks
    notifier := h.notifier.imp_left (mem_ready_of_requeue · (by decide))
    matching := .inr (.inr (.inr ⟨htaking, by simp [Channel.awaitItem], hnone⟩))
    ingestion := ?_
    room := h.room_of_not_puts (not_puts_of_held (congrArg MatchPhase.held htaking)) }, ?_⟩
  · intro hrest
    -- ingestion does not wait for room in a channel that is empty
    obtain hready | ⟨-, hitems⟩ := h.ingestion hrest
    · exact .inl (mem_ready_of_requeue hready (by decide))
    · exact absurd hnone hitems
  · rw [load, load, hmoves]
    simp only [requeue, Channel.awaitItem, List.length_cons]
    omega

/-- The notifier waits for a notification. -/
theorem Lively.awaitNotice (h : Lively (requeue .notify p)) (hnone : p.notices.items = []) :
    Eases (requeue .notify p) { p with notices := p.notices.awaitItem .notify } := by
  have hmoves (kind : TaskId → Bool) :
      tally kind { p with notices := p.notices.awaitItem .notify } =
        (requeue .notify p).tally kind := by
    simp only [tally, requeue, Channel.awaitItem, List.countP_append, List.countP_cons,
      List.countP_nil]
    omega
  refine ⟨{ h with
    noticeTakers := List.forall_mem_append.2 ⟨h.noticeTakers, List.forall_mem_singleton.2 rfl⟩
    once := hmoves _ ▸ h.once
    ticks := hmoves _ ▸ h.ticks
    notifier := .inr ⟨by simp [Channel.awaitItem], hnone⟩
    matching := h.matching.imp_left (mem_ready_of_requeue · (by decide))
    ingestion := fun hrest =>
      (h.ingestion hrest).imp_left (mem_ready_of_requeue · (by decide))
    room := h.room_of_not_puts fun hputs => absurd rfl hputs.ne.1 }, ?_⟩
  rw [load, load, hmoves]
  simp only [requeue, Channel.awaitItem, List.length_cons]
  omega

/-- Ingestion waits for room. -/
theorem Lively.awaitDelivery (h : Lively (requeue .ingestion p))
    (hfull : p.ingestion.outbox.isFull = true) :
    Eases (requeue .ingestion p)
      { p with ingestion.outbox := p.ingestion.outbox.awaitRoom .ingestion } := by
  have hmoves (kind : TaskId → Bool) :
      tally kind { p with ingestion.outbox := p.ingestion.outbox.awaitRoom .ingestion } =
        (requeue .ingestion p).tally kind := by
    simp only [tally, requeue, Channel.awaitRoom, List.countP_append, List.countP_cons,
      List.countP_nil]
    omega
  refine ⟨{ h with
    listingPutters := List.forall_mem_append.2 ⟨h.listingPutters, List.forall_mem_singleton.2 rfl⟩
    once := hmoves _ ▸ h.once
    ticks := hmoves _ ▸ h.ticks
    notifier := h.notifier.imp_left (mem_ready_of_requeue · (by decide))
    matching := h.matching.imp_left (mem_ready_of_requeue · (by decide))
    ingestion := fun _ => .inr ⟨by simp [Channel.awaitRoom], Channel.items_ne_nil_of_isFull hfull⟩
    room := h.room_of_not_puts fun hputs => absurd rfl hputs.ne.2 }, ?_⟩
  rw [load, load, hmoves]
  simp only [requeue, Channel.awaitRoom, List.length_cons]
  omega

/-! ### Items that move -/

/-- Ready tasks stay ready when another one is woken. -/
theorem mem_ready_of_wake {other : TaskId} (h : other ∈ (requeue t p).ready)
    (woken : Option TaskId) : other ∈ t :: (p.ready ++ woken.toList) := by
  obtain rfl | hready := List.mem_cons.1 h
  · exact List.mem_cons_self
  · exact List.mem_cons_of_mem _ (List.mem_append_left _ hready)

theorem mem_wake {other : TaskId} (h : other ∈ woken.toList) :
    other ∈ t :: (p.ready ++ woken.toList) :=
  List.mem_cons_of_mem _ (List.mem_append_right _ h)

/-- The running task puts a notification, and the notifier is woken. -/
theorem Lively.putNotice (h : Lively (requeue t p)) {n : Notification}
    {notices : Channel Notification} (hput : p.notices.put? n = some (notices, woken)) :
    Lively (requeue t { p with notices, ready := p.ready ++ woken.toList }) ∧
      (requeue t { p with notices, ready := p.ready ++ woken.toList }).load ≤
        (requeue t p).load + 2 := by
  obtain ⟨hputters, htakers, hwakes⟩ := Channel.put?_wakes hput
  have hitems := Channel.put?_items hput
  have hmoves (kind : TaskId → Bool) :
      (requeue t { p with notices, ready := p.ready ++ woken.toList }).tally kind =
        (requeue t p).tally kind := by
    simp only [tally, requeue, hputters, ← htakers, List.countP_append, List.countP_cons]
    omega
  refine ⟨{ h with
    noticeTakers := fun t ht => h.noticeTakers t (htakers ▸ List.mem_append_right _ ht)
    noticePutters := fun t ht => h.noticePutters t (hputters ▸ ht)
    once := hmoves _ ▸ h.once
    ticks := hmoves _ ▸ h.ticks
    notifier := ?_, matching := ?_
    ingestion := fun hrest => (h.ingestion hrest).imp_left (mem_ready_of_wake · woken)
    room := fun _ => .inr (by simp [requeue, hitems]) }, ?_⟩
  · obtain hready | ⟨hwaits, -⟩ := h.notifier
    · exact .inl (mem_ready_of_wake hready woken)
    · -- only the notifier waits for notifications
      obtain ⟨t', ht'⟩ := List.exists_mem_of_ne_nil _ (hwakes hwaits)
      obtain rfl := h.noticeTakers t' (htakers ▸ List.mem_append_left _ ht')
      exact .inl (mem_wake ht')
  · have hmatching := h.matching.imp_left (mem_ready_of_wake · woken)
    rwa [requeue, hputters]
  · have hlength := length_toList_le woken
    rw [load, load, hmoves]
    simp only [requeue, hitems, List.length_cons, List.length_append, List.length_nil]
    omega

/-- The notifier takes a notification, and the first in line for room is woken. -/
theorem Lively.takeNotice (h : Lively (requeue .notify p)) {n : Notification}
    {notices : Channel Notification} (htake : p.notices.take? = some (n, notices, woken)) :
    Lively (requeue .notify { p with notices, ready := p.ready ++ woken.toList }) ∧
      (requeue .notify { p with notices, ready := p.ready ++ woken.toList }).load ≤
        (requeue .notify p).load := by
  obtain ⟨htakers, hputters, hwakes⟩ := Channel.take?_wakes htake
  have hitems := Channel.take?_items htake
  have hmoves (kind : TaskId → Bool) :
      (requeue .notify { p with notices, ready := p.ready ++ woken.toList }).tally kind =
        (requeue .notify p).tally kind := by
    simp only [tally, requeue, htakers, ← hputters, List.countP_append, List.countP_cons]
    omega
  have hline {t : TaskId} (ht : t ∈ notices.putters) : t ∈ p.notices.putters :=
    hputters ▸ List.mem_append_right _ ht
  refine ⟨{ h with
    noticeTakers := fun t ht => h.noticeTakers t (htakers ▸ ht)
    noticePutters := fun t ht => h.noticePutters t (hline ht)
    once := hmoves _ ▸ h.once
    ticks := hmoves _ ▸ h.ticks
    notifier := .inl List.mem_cons_self
    matching := ?_
    ingestion := fun hrest => (h.ingestion hrest).imp_left (mem_ready_of_wake · woken)
    room := ?_ }, ?_⟩
  · obtain hready | hstopped | hwaits | hwaits := h.matching
    · exact .inl (mem_ready_of_wake hready woken)
    · exact .inr (.inl hstopped)
    · have hwaits : .matching ∈ woken.toList ++ notices.putters := hputters.symm ▸ hwaits
      obtain hwoken | hwaits := List.mem_append.1 hwaits
      · exact .inl (mem_wake hwoken)
      · exact .inr (.inr (.inl hwaits))
    · exact .inr (.inr (.inr hwaits))
  · -- the task that is woken will put something
    intro hwaits
    obtain ⟨t, ht⟩ := List.exists_mem_of_ne_nil _ hwaits
    obtain ⟨t', ht'⟩ := List.exists_mem_of_ne_nil _ (hwakes (List.ne_nil_of_mem (hline ht)))
    exact .inl ⟨t', mem_wake ht', h.noticePutters t' (hputters ▸ List.mem_append_left _ ht')⟩
  · have hlength := length_toList_le woken
    rw [load, load, hmoves]
    simp only [requeue, hitems, List.length_cons, List.length_append]
    omega

/-- Matching takes a listing, and ingestion is woken if it waits for room. -/
theorem Lively.takeListing (h : Lively (requeue .matching p)) {l : Listing}
    {outbox : Channel Listing} (htake : p.ingestion.outbox.take? = some (l, outbox, woken)) :
    Lively (requeue .matching
      { p with ingestion.outbox := outbox, ready := p.ready ++ woken.toList }) ∧
      (requeue .matching
        { p with ingestion.outbox := outbox, ready := p.ready ++ woken.toList }).load + 2 ≤
          (requeue .matching p).load := by
  obtain ⟨htakers, hputters, hwakes⟩ := Channel.take?_wakes htake
  have hitems := Channel.take?_items htake
  have hmoves (kind : TaskId → Bool) :
      (requeue .matching
        { p with ingestion.outbox := outbox, ready := p.ready ++ woken.toList }).tally kind =
          (requeue .matching p).tally kind := by
    simp only [tally, requeue, htakers, ← hputters, List.countP_append, List.countP_cons]
    omega
  refine ⟨{ h with
    listingTakers := fun t ht => h.listingTakers t (htakers ▸ ht)
    listingPutters := fun t ht => h.listingPutters t (hputters ▸ List.mem_append_right _ ht)
    once := hmoves _ ▸ h.once
    ticks := hmoves _ ▸ h.ticks
    notifier := h.notifier.imp_left (mem_ready_of_wake · woken)
    matching := .inl List.mem_cons_self
    ingestion := ?_
    room := fun hwaits => (h.room hwaits).imp_left <|
      Exists.imp fun _ => And.imp_left (mem_ready_of_wake · woken) }, ?_⟩
  · intro hrest
    obtain hready | ⟨hwaits, -⟩ := h.ingestion hrest
    · exact .inl (mem_ready_of_wake hready woken)
    · -- only ingestion waits for room there
      obtain ⟨t', ht'⟩ := List.exists_mem_of_ne_nil _ (hwakes hwaits)
      obtain rfl := h.listingPutters t' (hputters ▸ List.mem_append_left _ ht')
      exact .inl (mem_wake ht')
  · have hlength := length_toList_le woken
    rw [load, load, hmoves]
    simp only [requeue, hitems, List.length_cons, List.length_append]
    omega

/-- Ingestion puts a listing, and matching is woken if it waits for one. -/
theorem Lively.putListing {l : Listing} {rest : List Listing} {count : Nat}
    (h : Lively (requeue .ingestion { p with ingestion.phase := .delivering (l :: rest) count }))
    {outbox : Channel Listing} (hput : p.ingestion.outbox.put? l = some (outbox, woken)) :
    Lively (requeue .ingestion { p with
      ingestion.outbox := outbox
      ingestion.phase := .delivering rest count
      ready := p.ready ++ woken.toList }) ∧
      (requeue .ingestion { p with
        ingestion.outbox := outbox
        ingestion.phase := .delivering rest count
        ready := p.ready ++ woken.toList }).load ≤
          (requeue .ingestion
            { p with ingestion.phase := .delivering (l :: rest) count }).load := by
  obtain ⟨hputters, htakers, hwakes⟩ := Channel.put?_wakes hput
  have hitems := Channel.put?_items hput
  have hmoves (kind : TaskId → Bool) :
      (requeue .ingestion { p with
        ingestion.outbox := outbox
        ingestion.phase := .delivering rest count
        ready := p.ready ++ woken.toList }).tally kind =
          (requeue .ingestion
            { p with ingestion.phase := .delivering (l :: rest) count }).tally kind := by
    simp only [tally, requeue, hputters, ← htakers, List.countP_append, List.countP_cons]
    omega
  refine ⟨{ h with
    listingTakers := fun t ht => h.listingTakers t (htakers ▸ List.mem_append_right _ ht)
    listingPutters := fun t ht => h.listingPutters t (hputters ▸ ht)
    once := hmoves _ ▸ h.once
    ticks := hmoves _ ▸ h.ticks
    notifier := h.notifier.imp_left (mem_ready_of_wake · woken)
    matching := ?_
    ingestion := fun _ => .inl List.mem_cons_self
    room := fun hwaits => (h.room hwaits).imp_left <|
      Exists.imp fun _ => And.imp_left (mem_ready_of_wake · woken) }, ?_⟩
  · obtain hready | hstopped | hwaits | ⟨-, hwaits, -⟩ := h.matching
    · exact .inl (mem_ready_of_wake hready woken)
    · exact .inr (.inl hstopped)
    · exact .inr (.inr (.inl hwaits))
    · -- only matching waits for listings
      obtain ⟨t', ht'⟩ := List.exists_mem_of_ne_nil _ (hwakes hwaits)
      obtain rfl := h.listingTakers t' (htakers ▸ List.mem_append_left _ ht')
      exact .inl (mem_wake ht')
  · have hlength := length_toList_le woken
    rw [load, load, hmoves]
    simp only [requeue, IngestionPhase.undelivered, hitems, List.length_cons, List.length_append,
      List.length_nil]
    omega

/-! ### Phases -/

/-- The running matching stage goes into another phase. -/
theorem Lively.rephase (h : Lively (requeue .matching p)) {phase : MatchPhase}
    (hroom : p.notices.putters ≠ [] →
      (∃ t ∈ .matching :: p.ready, Puts phase t) ∨ p.notices.items ≠ []) :
    Lively (requeue .matching { p with matching := phase }) := by
  refine { h with
    noticePutters := ?_
    matching := .inl List.mem_cons_self
    room := hroom }
  -- matching does not wait, and the others put their ticks in every phase
  intro t ht
  refine (h.noticePutters t ht).of_ne ?_ phase
  rintro rfl
  exact h.matching_notMem.2 ht

/-- A match that is held counts twice: for the notification and for the notifier. -/
theorem load_rephase (phase : MatchPhase) (p : Pipeline) :
    load { p with matching := phase } + 2 * p.matching.held.length =
      p.load + 2 * phase.held.length := by
  simp only [load, tally]
  omega

/-- Matching stops if it fails. -/
theorem Lively.stop (h : Lively (requeue .matching p)) (htaking : p.matching = .taking) :
    Eases (requeue .matching p) { p with matching := .stopped } := by
  have hstopped : Lively (requeue .matching { p with matching := .stopped }) := by
    refine h.rephase fun hwaits => (h.room hwaits).imp_left ?_
    rintro ⟨t, ht, hputs⟩
    refine ⟨t, ht, hputs.of_ne ?_ _⟩
    rintro rfl
    exact not_puts_of_held (congrArg MatchPhase.held htaking) hputs
  have hleaves := hstopped.leave TaskId.noConfusion (fun _ => rfl) TaskId.noConfusion fun hputs =>
    absurd hputs (not_puts_of_held rfl)
  have hload := load_rephase .stopped (requeue .matching p)
  exact hleaves.of_le (Nat.le_of_add_right_le (Nat.le_of_eq hload))

end Pipeline

end DealWatch
