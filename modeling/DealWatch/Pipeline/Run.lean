import DealWatch.Pipeline.Ingestion
import DealWatch.Pipeline.Notify
import DealWatch.Pipeline.Supervise

/-!
# The pipeline

Ingestion puts listings into a channel, matching takes them and puts matches into a second channel,
and the notifier takes those. Ticks of the clock come through the second channel too. Every task
runs until it has to wait; tasks that are woken run in the order in which they were woken.

* `Pipeline` is the state of all stages;
* `Pipeline.start`, `Pipeline.tick` and `Pipeline.wake` do something from outside and then let all
  tasks run until each of them waits.

A failure of ingestion or matching stops that stage. A failure of the notifier ends the pipeline.
-/

namespace DealWatch

/-- What the matching stage is doing. -/
inductive MatchPhase where
  | taking
  /-- A match is still to be put. -/
  | putting (post : MatchingPost)
  | stopped
  deriving DecidableEq, Repr, Inhabited

/-- The state of all stages. -/
structure Pipeline where
  settings : Settings
  rules : RuleSet
  store : Store
  ingestion : Ingestion
  matching : MatchPhase
  notifier : Notifier
  notices : Channel Notification
  /-- The number of ticks so far. -/
  ticks : Nat
  /-- The tasks that can go on, the first to run first. -/
  ready : List TaskId
  /-- The failure that ended the pipeline. -/
  ended : Option Failure
  deriving Inhabited

namespace Pipeline

/-- The pipeline before it starts. -/
def ofSettings (settings : Settings) (rules : RuleSet) (store : Store) : Pipeline :=
  let capacity := settings.pipeline.capacity.toNat
  { settings, rules, store
    ingestion := ⟨⟨settings.feed, none⟩, Channel.ofCapacity capacity, true, .idle, []⟩
    matching := .taking
    notifier := ⟨⟨settings.webhook, none⟩, []⟩
    notices := Channel.ofCapacity capacity
    ticks := 0
    ready := []
    ended := none }

/-- A step of ingestion. -/
def onIngestion {α : Type} (act : Act Ingestion α) : Act Pipeline α :=
  act.within (·.ingestion) fun s p => { p with ingestion := s }

/-- A step of the store. -/
def onStore {α : Type} (act : Act Store α) : Act Pipeline α :=
  act.within (·.store) fun s p => { p with store := s }

/-- A step of the notifier. -/
def onNotifier {α : Type} (act : Act Notifier α) : Act Pipeline α :=
  act.within (·.notifier) fun s p => { p with notifier := s }

/-- Runs a step of a stage. -/
def guarded {α : Type} (stage : String) (act : Act Pipeline α) : Act Pipeline (Outcome α) := do
  let alerts := (← Act.state).settings.sms
  Act.attempt (supervise stage (some alerts) act)

/-! ### The tasks -/

/-- Runs a step of ingestion, which stops if it fails. -/
def runIngestion (act : Act Ingestion Unit) : Act Pipeline Unit := do
  match ← guarded "ingestion" (onIngestion act) with
  | .ok () => pure ()
  | .error _ => onIngestion (Ingestion.setPhase .idle)
  let p ← Act.state
  Act.put { p with ingestion := { p.ingestion with woken := [] },
                   ready := p.ready ++ p.ingestion.woken }

/-- Puts a notification, or waits for room. The result says which. -/
def putNotice (t : TaskId) (n : Notification) : Act Pipeline Bool := do
  let p ← Act.state
  match p.notices.put? n with
  | some (notices, woken) =>
    Act.put { p with notices, ready := p.ready ++ woken.toList }
    return true
  | none =>
    Act.put { p with notices := p.notices.awaitRoom t }
    return false

/-- Puts a match, or waits for room. -/
def putMatch (post : MatchingPost) : Act Pipeline Bool := do
  let done ← putNotice .matching (.hit post)
  Act.put { (← Act.state) with matching := if done then .taking else .putting post }
  return done

/-- The next listing, or a wait for one. -/
def takeListing : Act Pipeline (Option Listing) := do
  let p ← Act.state
  match p.ingestion.outbox.take? with
  | some (l, outbox, woken) =>
    Act.put { p with ingestion := { p.ingestion with outbox }, ready := p.ready ++ woken.toList }
    return some l
  | none =>
    let outbox := p.ingestion.outbox.awaitItem .matching
    Act.put { p with ingestion := { p.ingestion with outbox } }
    return none

/-- Processes listings until there are none or there is no room for a match; `count` bounds their
number. -/
def matchListings : Nat → Act Pipeline Unit
  | 0 => return
  | count + 1 => do
    match ← takeListing with
    | none => return
    | some l =>
      match ← onStore (processListing (← Act.state).rules l) with
      | none => matchListings count
      | some post => if ← putMatch post then matchListings count

/-- Lets matching go on. -/
def resumeMatching : Act Pipeline Unit := do
  match (← Act.state).matching with
  | .stopped => return
  | .putting post =>
    if ← putMatch post then matchListings ((← Act.state).ingestion.outbox.items.length + 1)
  | .taking => matchListings ((← Act.state).ingestion.outbox.items.length + 1)

/-- Runs matching, which stops if it fails. -/
def runMatching : Act Pipeline Unit := do
  match ← guarded "match" resumeMatching with
  | .ok () => return
  | .error _ => Act.put { (← Act.state) with matching := .stopped }

/-- The next notification, or a wait for one. -/
def takeNotice : Act Pipeline (Option Notification) := do
  let p ← Act.state
  match p.notices.take? with
  | some (n, notices, woken) =>
    Act.put { p with notices, ready := p.ready ++ woken.toList }
    return some n
  | none =>
    Act.put { p with notices := p.notices.awaitItem .notify }
    return none

/-- Handles notifications until there are none; `count` bounds their number. -/
def handleNotices : Nat → Act Pipeline Unit
  | 0 => return
  | count + 1 => do
    match ← takeNotice with
    | none => return
    | some n =>
      onNotifier (Notifier.handle n)
      handleNotices count

/-- Runs the notifier. If it fails the pipeline ends. -/
def runNotifier : Act Pipeline Unit := do
  match ← guarded "notify" (do handleNotices ((← Act.state).notices.items.length + 1)) with
  | .ok () => return
  | .error f =>
    Act.put { (← Act.state) with ended := some f, ready := [] }
    Act.log .info "Pipeline stopped" []

/-- Lets a tick of the clock go on. -/
def runTick (number : Nat) : Act Pipeline Unit := do
  if ← putNotice (.tick number) .tick then Act.log .debug "Tick" []

/-- Lets a task go on. -/
def runTask : TaskId → Act Pipeline Unit
  | .ingestion => runIngestion Ingestion.resume
  | .matching => runMatching
  | .notify => runNotifier
  | .tick number => runTick number

/-! ### Runs -/

/-- A bound on the number of times that tasks go on: each does so because it was ready, or because
an item was put into a channel or taken from one. -/
def effort (p : Pipeline) : Nat :=
  let undelivered := match p.ingestion.phase with
    | .delivering rest _ => rest.length
    | _ => 0
  let listings := undelivered + p.ingestion.outbox.items.length
  p.ready.length + 4 * listings + 2 * (p.notices.items.length + p.ticks) + 8

/-- Lets ready tasks go on, at most `fuel` times. -/
def settleWithin : Nat → Act Pipeline Unit
  | 0 => return
  | fuel + 1 => do
    let p ← Act.state
    match p.ready with
    | [] => return
    | t :: rest =>
      Act.put { p with ready := rest }
      runTask t
      settleWithin fuel

/-- Lets ready tasks go on until there are none. -/
def settle : Act Pipeline Unit := do settleWithin (effort (← Act.state))

/-- Stores the rules. If that fails the pipeline ends before it is started. -/
def storeAll : Act Pipeline Nat := do
  match ← Act.attempt (onStore (storeRules (← Act.state).rules.rules)) with
  | .ok stored => return stored
  | .error f =>
    Act.put { (← Act.state) with ended := some f }
    Act.fail f

/-- Stores the rules and starts all stages. -/
def start : Act Pipeline Unit := do
  let p ← Act.state
  let stored ← storeAll
  Act.log .info "Rules stored" [("total", .nat p.rules.size), ("new", .nat stored)]
  Act.log .info "Pipeline started" [("subreddit", .text p.settings.feed.subreddit),
    ("channel_capacity", .int p.settings.pipeline.capacity),
    ("sending_interval_secs", .int p.settings.webhook.interval)]
  runNotifier
  Act.put { (← Act.state) with ready := [.matching] }
  runIngestion (Ingestion.start true)
  settle

/-- A tick of the clock. -/
def tick : Act Pipeline Unit := do
  let p ← Act.state
  Act.put { p with ticks := p.ticks + 1, ready := p.ready ++ [.tick p.ticks] }
  settle

/-- The end of the wait between two polls. -/
def wake : Act Pipeline Unit := do
  runIngestion Ingestion.wake
  settle

/-- What can happen to a pipeline from outside. -/
inductive Event where
  | tick
  | wake
  deriving DecidableEq, Repr, Inhabited

/-- Lets something happen to the pipeline, unless it has ended. -/
def happen (e : Event) : Act Pipeline Unit := do
  if (← Act.state).ended.isSome then return
  else
    match e with
    | .tick => tick
    | .wake => wake

end Pipeline

end DealWatch
