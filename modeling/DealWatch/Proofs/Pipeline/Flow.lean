import DealWatch.Proofs.Pipeline.Channel
import DealWatch.Proofs.Pipeline.Delivery
import DealWatch.Proofs.Pipeline.Match
import Mathlib.Logic.Relation

/-!
# Listings and matches on their way

The stages take steps in any order. A stage that has to put an item into a full channel, or to take
one from an empty channel, takes no step until that changes. Nothing is lost on the way, and nothing
changes its place in line.

* `Flow` is the pipeline with what came in and went out so far, `Flow.Step` lists what a stage can
  do next, also what it can do when it fails;
* `Flow.Conserved` is the invariant that ties what came in to what went out and what is held;
* `Flow.Conserved.step` says that every step keeps it, `Flow.Conserved.steps` that it holds in every
  state that can be reached.

A step moves items from one place to the next, the first of the line behind it, so of
the two equations of the invariant one is put together anew and the other is left alone. A stage
that fails loses nothing either: ingestion fails only with no listing left to put, the listing on
which matching fails counts as processed, and a batch that fails stays queued.

A pipeline that could not store its rules ends before any stage starts (`Step.startFails`). The
steps of the stages do not ask for that, so there are more states here than runs come to.
-/

namespace DealWatch

/-- The listings of a page that are still to be put. -/
def IngestionPhase.undelivered : IngestionPhase → List Listing
  | .delivering rest _ => rest
  | _ => []

/-- The match that is still to be put. -/
def MatchPhase.held : MatchPhase → List MatchingPost
  | .putting m => [m]
  | _ => []

/-- Which tasks wait for what and which can go on, in which order. -/
structure Schedule where
  ready : List TaskId
  ticks : Nat
  woken : List TaskId
  listingTakers : List TaskId
  listingPutters : List TaskId
  noticeTakers : List TaskId
  noticePutters : List TaskId

/-- The pipeline with other tasks that wait or can go on. -/
def Pipeline.reschedule (p : Pipeline) (s : Schedule) : Pipeline :=
  { p with
    ready := s.ready
    ticks := s.ticks
    ingestion.woken := s.woken
    ingestion.outbox.takers := s.listingTakers
    ingestion.outbox.putters := s.listingPutters
    notices.takers := s.noticeTakers
    notices.putters := s.noticePutters }

/-- A batch that is being sent: its matches, the line above the next message, and the groups of
notices that are still to be sent. -/
structure Batch where
  posts : List MatchingPost
  line : Option String
  rest : List (List Notice)

/-- The batch with some matches before any of it is sent. -/
def Batch.ofPosts (posts : List MatchingPost) : Batch :=
  let notices := posts.map Notifier.noticeOf
  ⟨posts, some (Webhook.summary notices.length), Webhook.chunks notices⟩

/-- The pipeline with what came in and went out so far. -/
structure Flow where
  pipeline : Pipeline
  /-- The batch that the notifier is sending. -/
  batch : Option Batch
  /-- Whether ingestion has begun to poll. -/
  started : Bool
  /-- The listings of all pages. -/
  fetched : List Listing
  /-- The listings that matching has processed. -/
  processed : List Listing
  /-- The matches that it returned. -/
  returned : List MatchingPost
  /-- The matches of the batches that are sent. -/
  sent : List MatchingPost

/-- Fetches the first page, with the token from the file if there is one. -/
def Ingestion.firstPoll : Feed.ClientAct (List Listing) := do
  Feed.restore
  poll

/-- What the end of a poll does depends on no phase before it. If it does not fail there are no
listings left to put, and if it fails only the client may have changed. -/
theorem Ingestion.finish_run (count : Nat) (s : Ingestion) (o : Outside) :
    ∃ client o',
      (∃ phase : IngestionPhase, phase.undelivered = [] ∧ ∀ before,
        (finish count).runWith { s with phase := before } o =
          (.ok (), { s with client, phase }, o')) ∨
      (∃ e, ∀ before,
        (finish count).runWith { s with phase := before } o =
          (.error e, { s with client, phase := before }, o')) := by
  cases hforever : s.forever with
  | false =>
    refine ⟨s.client, o, .inl ⟨.polled count, rfl, fun before => ?_⟩⟩
    simp [finish, Act.runWith_bind, setPhase]
  | true =>
    rcases hwait : Feed.waitTime.runWith s.client o with ⟨e | wait, client, o'⟩
    · refine ⟨client, o', .inr ⟨e, fun before => ?_⟩⟩
      simp [finish, Act.runWith_bind, setPhase, onClient, Act.runWith_within, hwait]
    · let polled : JournalEntry :=
        ⟨.debug, "Polled", [("count", .nat count), ("seconds", .float wait)], o'.stage⟩
      refine ⟨client, { o' with journal := o'.journal ++ [polled] },
        .inl ⟨.sleeping wait, rfl, fun before => ?_⟩⟩
      simp [finish, Act.runWith_bind, setPhase, onClient, Act.runWith_within, hwait, polled]

namespace Flow

/-- A pipeline that has not begun to poll, with its rules stored, or those before the first one that
cannot be. -/
def initial (settings : Settings) (rules : RuleSet) (store : Store) : Flow where
  pipeline := .ofSettings settings rules (store.withRules (RuleSet.storable rules.rules))
  batch := none
  started := false
  fetched := []
  processed := []
  returned := []
  sent := []

/-- How ingestion fetches a page, if that is what it does next. -/
def poll? (f : Flow) : Option (Feed.ClientAct (List Listing)) :=
  match f.pipeline.ingestion.phase, f.started with
  | .idle, false => some Ingestion.firstPoll
  | .sleeping _, _ => some Ingestion.poll
  | _, _ => none

/-- Ingestion has no listings left to put when it fetches a page. -/
theorem undelivered_of_poll {f : Flow} {poll : Feed.ClientAct (List Listing)}
    (h : f.poll? = some poll) : f.pipeline.ingestion.phase.undelivered = [] := by
  unfold poll? at h
  split at h
  · rename_i hphase _
    rw [hphase]
    rfl
  · rename_i hphase
    rw [hphase]
    rfl
  · cases h

/-! ### Steps -/

/-- What can happen next. The clock, the replies and the files may be different ones every time. A
run ends when the notifier fails, or before it begins if there is a rule that cannot be stored; here
the stages may still go on. -/
inductive Step : Flow → Flow → Prop
  /-- A rule could not be stored, and the pipeline ends with a failure. -/
  | startFails {f : Flow} {r : Rule} {e : Failure} :
      f.started = false → r ∈ f.pipeline.rules.rules → r.flaw? = some e →
      Step f { f with pipeline.ended := some e }
  /-- Ingestion fetches a page. -/
  | fetch {f : Flow} {poll : Feed.ClientAct (List Listing)} {o o' : Outside} {page : List Listing}
      {client : Feed.Client} :
      f.poll? = some poll →
      poll.runWith f.pipeline.ingestion.client o = (.ok page, client, o') →
      Step f { f with
        pipeline.ingestion.client := client
        pipeline.ingestion.phase := .delivering page page.length
        started := true
        fetched := f.fetched ++ page }
  /-- Ingestion cannot fetch a page, and stops. -/
  | fetchFails {f : Flow} {poll : Feed.ClientAct (List Listing)} {o o' : Outside} {e : Failure}
      {client : Feed.Client} :
      f.poll? = some poll →
      poll.runWith f.pipeline.ingestion.client o = (.error e, client, o') →
      Step f { f with
        pipeline.ingestion.client := client
        pipeline.ingestion.phase := .idle
        started := true }
  /-- Ingestion puts a listing. -/
  | putListing {f : Flow} {l : Listing} {rest : List Listing} {count : Nat}
      {outbox : Channel Listing} {woken : Option TaskId} :
      f.pipeline.ingestion.phase = .delivering (l :: rest) count →
      f.pipeline.ingestion.outbox.put? l = some (outbox, woken) →
      Step f { f with
        pipeline.ingestion.outbox := outbox
        pipeline.ingestion.phase := .delivering rest count }
  /-- Ingestion has put a page, and waits for the next poll. -/
  | finishPage {f : Flow} {count : Nat} {o o' : Outside} {ingestion : Ingestion} :
      f.pipeline.ingestion.phase = .delivering [] count →
      (Ingestion.finish count).runWith f.pipeline.ingestion o = (.ok (), ingestion, o') →
      Step f { f with pipeline.ingestion := ingestion }
  /-- Ingestion has put a page and cannot tell how long to wait, and stops. -/
  | finishPageFails {f : Flow} {count : Nat} {o o' : Outside} {e : Failure}
      {ingestion : Ingestion} :
      f.pipeline.ingestion.phase = .delivering [] count →
      (Ingestion.finish count).runWith f.pipeline.ingestion o = (.error e, ingestion, o') →
      Step f { f with pipeline.ingestion := { ingestion with phase := .idle } }
  /-- Matching takes a listing that it returns no match for. -/
  | skipListing {f : Flow} {l : Listing} {outbox : Channel Listing} {woken : Option TaskId}
      {o o' : Outside} {store : Store} :
      f.pipeline.matching = .taking →
      f.pipeline.ingestion.outbox.take? = some (l, outbox, woken) →
      (processListing f.pipeline.rules l).runWith f.pipeline.store o = (.ok none, store, o') →
      Step f { f with
        pipeline.ingestion.outbox := outbox
        pipeline.store := store
        processed := f.processed ++ [l] }
  /-- Matching takes a listing, and returns a match that is to be put. -/
  | returnMatch {f : Flow} {l : Listing} {outbox : Channel Listing} {woken : Option TaskId}
      {o o' : Outside} {store : Store} {m : MatchingPost} :
      f.pipeline.matching = .taking →
      f.pipeline.ingestion.outbox.take? = some (l, outbox, woken) →
      (processListing f.pipeline.rules l).runWith f.pipeline.store o = (.ok (some m), store, o') →
      Step f { f with
        pipeline.ingestion.outbox := outbox
        pipeline.store := store
        pipeline.matching := .putting m
        processed := f.processed ++ [l]
        returned := f.returned ++ [m] }
  /-- Matching takes a listing and fails, and stops. -/
  | matchFails {f : Flow} {l : Listing} {outbox : Channel Listing} {woken : Option TaskId}
      {o o' : Outside} {store : Store} {e : Failure} :
      f.pipeline.matching = .taking →
      f.pipeline.ingestion.outbox.take? = some (l, outbox, woken) →
      (processListing f.pipeline.rules l).runWith f.pipeline.store o = (.error e, store, o') →
      Step f { f with
        pipeline.ingestion.outbox := outbox
        pipeline.store := store
        pipeline.matching := .stopped
        processed := f.processed ++ [l] }
  /-- Matching puts a match. -/
  | putMatch {f : Flow} {m : MatchingPost} {notices : Channel Notification}
      {woken : Option TaskId} :
      f.pipeline.matching = .putting m →
      f.pipeline.notices.put? (.hit m) = some (notices, woken) →
      Step f { f with pipeline.notices := notices, pipeline.matching := .taking }
  /-- The clock puts a tick. -/
  | tick {f : Flow} {notices : Channel Notification} {woken : Option TaskId} :
      f.pipeline.notices.put? .tick = some (notices, woken) →
      Step f { f with pipeline.notices := notices }
  /-- The notifier takes a match and keeps it. -/
  | collect {f : Flow} {m : MatchingPost} {notices : Channel Notification}
      {woken : Option TaskId} :
      f.batch = none →
      f.pipeline.notices.take? = some (.hit m, notices, woken) →
      Step f { f with
        pipeline.notices := notices
        pipeline.notifier.queued := f.pipeline.notifier.queued ++ [m] }
  /-- The notifier takes a tick while there is nothing to send or it cannot send. -/
  | pass {f : Flow} {notices : Channel Notification} {woken : Option TaskId} :
      f.batch = none →
      f.pipeline.notices.take? = some (.tick, notices, woken) →
      f.pipeline.notifier.queued = [] ∨ f.pipeline.notifier.webhook.isEnabled = false →
      Step f { f with pipeline.notices := notices }
  /-- The notifier takes a tick and begins to send what it kept. -/
  | startBatch {f : Flow} {notices : Channel Notification} {woken : Option TaskId} :
      f.batch = none →
      f.pipeline.notices.take? = some (.tick, notices, woken) →
      f.pipeline.notifier.queued ≠ [] → f.pipeline.notifier.webhook.isEnabled = true →
      Step f { f with
        pipeline.notices := notices
        batch := some (.ofPosts f.pipeline.notifier.queued) }
  /-- The notifier sends a group of the batch. -/
  | sendGroup {f : Flow} {posts : List MatchingPost} {line : Option String} {group : List Notice}
      {rest : List (List Notice)} {o o' : Outside} {webhook : Webhook} :
      f.batch = some ⟨posts, line, group :: rest⟩ →
      (Webhook.sendGroup line group).runWith f.pipeline.notifier.webhook o =
        (.ok (), webhook, o') →
      Step f { f with
        pipeline.notifier.webhook := webhook
        batch := some ⟨posts, none, rest⟩ }
  /-- The notifier cannot send a group of the batch, and the pipeline ends with a failure. -/
  | sendGroupFails {f : Flow} {posts : List MatchingPost} {line : Option String}
      {group : List Notice} {rest : List (List Notice)} {o o' : Outside} {e e' : Failure}
      {webhook : Webhook} :
      f.batch = some ⟨posts, line, group :: rest⟩ →
      (Webhook.sendGroup line group).runWith f.pipeline.notifier.webhook o =
        (.error e, webhook, o') →
      Step f { f with
        pipeline.notifier.webhook := webhook
        pipeline.ended := some e'
        batch := none }
  /-- The notifier has sent the batch, and forgets its matches. -/
  | endBatch {f : Flow} {posts : List MatchingPost} {line : Option String} :
      f.batch = some ⟨posts, line, []⟩ →
      Step f { f with
        pipeline.notifier.queued := []
        batch := none
        sent := f.sent ++ posts }
  /-- Other tasks wait or can go on. -/
  | schedule {f : Flow} (s : Schedule) : Step f { f with pipeline := f.pipeline.reschedule s }

/-- What can be reached from a state. -/
abbrev Steps : Flow → Flow → Prop := Relation.ReflTransGen Step

/-! ### The invariant -/

/-- Both channels keep to their limit. The listings that came in are those that were processed, that
are in the channel and that are still to be put, in this order; the matches that were returned are
those that were sent, that the notifier keeps, that are in the channel and that are still to be put,
in this order. What is being sent is what the notifier keeps. -/
structure Conserved (limit : Nat) (f : Flow) : Prop where
  listingQueue : f.pipeline.ingestion.outbox.Fits limit
  noticeQueue : f.pipeline.notices.Fits limit
  listings : f.fetched =
    f.processed ++ f.pipeline.ingestion.outbox.items ++ f.pipeline.ingestion.phase.undelivered
  posts : f.returned = f.sent ++ f.pipeline.notifier.queued ++ hits f.pipeline.notices.items ++
    f.pipeline.matching.held
  batch : ∀ b, f.batch = some b → b.posts = f.pipeline.notifier.queued

theorem conserved_initial (settings : Settings) (rules : RuleSet) (store : Store) :
    Conserved settings.pipeline.capacity.toNat (initial settings rules store) where
  listingQueue := Channel.fits_ofCapacity _
  noticeQueue := Channel.fits_ofCapacity _
  listings := rfl
  posts := rfl
  batch := nofun

variable {limit : Nat} {f f' : Flow}

/-- A listing that leaves the channel is processed next. -/
theorem Conserved.listings_of_take (hc : Conserved limit f) {l : Listing}
    {outbox : Channel Listing} {woken : Option TaskId}
    (h : f.pipeline.ingestion.outbox.take? = some (l, outbox, woken)) :
    f.fetched =
      (f.processed ++ [l]) ++ outbox.items ++ f.pipeline.ingestion.phase.undelivered := by
  rw [hc.listings, Channel.take?_items h, List.append_cons]

/-- **Every step** keeps the invariant. -/
theorem Conserved.step (hlimit : 1 ≤ limit) (hc : Conserved limit f) (h : Step f f') :
    Conserved limit f' := by
  cases h with
  | startFails hstarted hrule hflaw => exact { hc with }
  | @fetch poll o o' page client hpoll hrun =>
    refine { hc with listings := ?_ }
    have hnone := undelivered_of_poll hpoll
    rw [hc.listings, hnone, List.append_nil]
    rfl
  | fetchFails hpoll hrun =>
    refine { hc with listings := ?_ }
    rw [hc.listings, undelivered_of_poll hpoll]
    rfl
  | putListing hphase hput =>
    refine { hc with listingQueue := hc.listingQueue.put hlimit hput, listings := ?_ }
    rw [hc.listings, hphase, Channel.put?_items hput]
    simp [IngestionPhase.undelivered]
  | @finishPage count o o' ingestion hphase hrun =>
    -- the page was put before, so the phase may change without a listing being lost
    obtain ⟨client, o'', ⟨phase, hnone, hfinish⟩ | ⟨e, hfinish⟩⟩ :=
      Ingestion.finish_run count f.pipeline.ingestion o
    · cases (hfinish _).symm.trans hrun
      refine { hc with listings := ?_ }
      rw [hc.listings, hphase, hnone]
      rfl
    · cases (hfinish _).symm.trans hrun
  | @finishPageFails count o o' e ingestion hphase hrun =>
    obtain ⟨client, o'', ⟨phase, hnone, hfinish⟩ | ⟨e, hfinish⟩⟩ :=
      Ingestion.finish_run count f.pipeline.ingestion o
    · cases (hfinish _).symm.trans hrun
    · cases (hfinish _).symm.trans hrun
      refine { hc with listings := ?_ }
      rw [hc.listings, hphase]
      rfl
  | skipListing hmatching htake hrun =>
    exact { hc with
      listingQueue := hc.listingQueue.take htake
      listings := hc.listings_of_take htake }
  | returnMatch hmatching htake hrun =>
    refine { hc with
      listingQueue := hc.listingQueue.take htake
      listings := hc.listings_of_take htake
      posts := ?_ }
    rw [hc.posts, hmatching]
    simp [MatchPhase.held]
  | matchFails hmatching htake hrun =>
    refine { hc with
      listingQueue := hc.listingQueue.take htake
      listings := hc.listings_of_take htake
      posts := ?_ }
    rw [hc.posts, hmatching]
    rfl
  | putMatch hmatching hput =>
    refine { hc with noticeQueue := hc.noticeQueue.put hlimit hput, posts := ?_ }
    rw [hc.posts, hmatching, Channel.put?_items hput]
    simp [MatchPhase.held]
  | tick hput =>
    -- a tick stands among the matches without being one
    refine { hc with noticeQueue := hc.noticeQueue.put hlimit hput, posts := ?_ }
    rw [hc.posts, Channel.put?_items hput]
    simp
  | collect hbatch htake =>
    refine { hc with noticeQueue := hc.noticeQueue.take htake, posts := ?_, batch := ?_ }
    · rw [hc.posts, Channel.take?_items htake]
      simp
    · intro b hb
      cases hbatch.symm.trans hb
  | pass hbatch htake hidle =>
    refine { hc with noticeQueue := hc.noticeQueue.take htake, posts := ?_ }
    rw [hc.posts, Channel.take?_items htake, hits_tick]
  | startBatch hbatch htake hqueued henabled =>
    -- the matches stay with the notifier until the batch is sent
    refine { hc with noticeQueue := hc.noticeQueue.take htake, posts := ?_, batch := ?_ }
    · rw [hc.posts, Channel.take?_items htake, hits_tick]
    · intro b hb
      cases hb
      rfl
  | sendGroup hbatch hrun =>
    have hposts := hc.batch _ hbatch
    refine { hc with batch := ?_ }
    intro b hb
    cases hb
    exact hposts
  | sendGroupFails hbatch hrun => exact { hc with batch := nofun }
  | endBatch hbatch =>
    -- what was sent is all that the notifier kept, as it took nothing in the meantime
    have hposts := hc.batch _ hbatch
    refine { hc with posts := ?_, batch := nofun }
    rw [hc.posts, ← hposts]
    simp
  | schedule s =>
    exact { hc with
      listingQueue := ⟨hc.listingQueue.capacity, hc.listingQueue.bounded⟩
      noticeQueue := ⟨hc.noticeQueue.capacity, hc.noticeQueue.bounded⟩ }

/-- The invariant holds in every state that can be reached. -/
theorem Conserved.steps (hlimit : 1 ≤ limit) (hc : Conserved limit f) (h : Steps f f') :
    Conserved limit f' := by
  induction h with
  | refl => exact hc
  | tail _ hstep ih => exact ih.step hlimit hstep

end Flow

end DealWatch
