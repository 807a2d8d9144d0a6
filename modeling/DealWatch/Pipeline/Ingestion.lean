import DealWatch.Feed.Client
import DealWatch.Pipeline.Channel

/-!
# Polling for listings

The stage fetches a page of listings, puts every one into its channel, and waits for the time that
the client advises.

* `Ingestion` is the state of the stage;
* `Ingestion.start` begins to poll, `Ingestion.resume` goes on when there is room again, and
  `Ingestion.wake` when the wait is over.
-/

namespace DealWatch

/-- What the stage is doing. -/
inductive IngestionPhase where
  | idle
  /-- Listings of a page of the given size are still to be put. -/
  | delivering (rest : List Listing) (count : Nat)
  | sleeping (seconds : Binary64)
  /-- A single poll with the given number of listings is over. -/
  | polled (count : Nat)
  deriving DecidableEq, Repr, Inhabited

/-- The client, the channel, whether to poll again and again, what is being done, and the takers
that were woken by listings. -/
structure Ingestion where
  client : Feed.Client
  outbox : Channel Listing
  forever : Bool
  phase : IngestionPhase
  woken : List TaskId
  deriving Repr, Inhabited

namespace Ingestion

/-- A step of the client. -/
def onClient {α : Type} (act : Feed.ClientAct α) : Act Ingestion α :=
  act.within (·.client) fun c s => { s with client := c }

/-- Sets what is being done. -/
def setPhase (phase : IngestionPhase) : Act Ingestion Unit := do
  Act.put { (← Act.state) with phase }

/-- Fetches a page of listings, with a new token if one is needed. -/
def poll : Feed.ClientAct (List Listing) := do
  if ← Feed.needsToken then
    Act.log .info "Authenticating" []
    Feed.authenticate
  let s := (← Act.state).settings
  Feed.fetch s.subreddit s.pageSize

/-- The end of a poll: the wait before the next one, if there is one. -/
def finish (count : Nat) : Act Ingestion Unit := do
  if (← Act.state).forever then
    let wait ← onClient Feed.waitTime
    Act.log .debug "Polled" [("count", .nat count), ("seconds", .float wait)]
    setPhase (.sleeping wait)
  else setPhase (.polled count)

/-- Puts listings as long as there is room. -/
def deliver (rest : List Listing) (count : Nat) : Act Ingestion Unit := do
  let s ← Act.state
  let (outbox, woken, left) := s.outbox.putAll rest
  let s := { s with woken := s.woken ++ woken }
  if left.isEmpty then
    Act.put { s with outbox }
    finish count
  else Act.put { s with outbox := outbox.awaitRoom .ingestion, phase := .delivering left count }

/-- Fetches a page and begins to put its listings. -/
def pollAndDeliver : Act Ingestion Unit := do
  let listings ← onClient poll
  deliver listings listings.length

/-- Begins to poll. A stage that polls again and again takes its token from the file first. -/
def start (forever : Bool) : Act Ingestion Unit := do
  Act.put { (← Act.state) with forever }
  if forever then onClient Feed.restore
  pollAndDeliver

/-- Goes on to put listings. -/
def resume : Act Ingestion Unit := do
  match (← Act.state).phase with
  | .delivering rest count => deliver rest count
  | _ => return

/-- Moves the clock to the end of the wait and polls again. -/
def wake : Act Ingestion Unit := do
  match (← Act.state).phase with
  | .sleeping seconds =>
    let passed := (microsOfSeconds? seconds).getD 0
    Act.change fun o => { o with now := o.now + passed }
    pollAndDeliver
  | _ => return

/-- The seconds of the wait. -/
def sleepingFor (s : Ingestion) : Option Binary64 :=
  match s.phase with
  | .sleeping seconds => some seconds
  | _ => none

end Ingestion

end DealWatch
