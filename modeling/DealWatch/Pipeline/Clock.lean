import DealWatch.Outside.Basic
import DealWatch.Pipeline.Channel
import DealWatch.Pipeline.Notify

/-!
# The clock of the notifier

The clock puts a tick into the channel of the notifier at a fixed interval, the first one at once.

* `Clock.start` and `Clock.stop` turn it on and off, `Clock.tick` puts one tick;
* `Clock.report` notes what goes wrong with a tick.
-/

namespace DealWatch

/-- The clock: the seconds between ticks, the channel for them, and whether it runs. -/
structure Clock where
  interval : Datum
  outbox : Channel Notification
  running : Bool
  deriving Repr, Inhabited

/-- What can go wrong with a tick. -/
inductive TickTrouble where
  /-- The tick before has still not found room. -/
  | backedUp
  | failed (message : String)
  deriving DecidableEq, Repr, Inhabited

namespace Clock

/-- A clock that does not run, with a channel without a limit. -/
def ofInterval (interval : Datum) : Clock := ⟨interval, Channel.ofCapacity 0, false⟩

/-- The name of the job that ticks. -/
def jobName : String := "notify_tick"

/-- Puts a tick, if there is room. -/
def tick : Act Clock Unit := do
  let c ← Act.state
  match c.outbox.put? .tick with
  | some (outbox, _) =>
    Act.put { c with outbox }
    Act.log .debug "Tick" []
  | none => Act.put { c with outbox := c.outbox.awaitRoom (.tick 0) }

/-- Turns the clock on. -/
def start : Act Clock Unit := do
  let c ← Act.state
  Act.put { c with running := true }
  Act.log .info "Clock started" [("interval_secs", c.interval)]
  tick

/-- Turns the clock off, unless it is off. -/
def stop : Act Clock Unit := do
  let c ← Act.state
  if c.running then
    Act.put { c with running := false }
    Act.log .info "Clock stopped" []

/-- Notes what goes wrong with a tick. -/
def report : TickTrouble → Act Clock Unit
  | .backedUp =>
    Act.log .warning "Skipped tick, notify queue is backed up" [("job_id", .text jobName)]
  | .failed message =>
    Act.log .error "Tick failed" [("job_id", .text jobName), ("exception", .text message)]

end Clock

end DealWatch
