import DealWatch.Notice.Webhook
import DealWatch.Pipeline.Match

/-!
# Collecting matches for notification

Matches are collected until a tick of the clock, and then sent as one batch.

* `Notifier` is the state of the stage;
* `Notifier.handle` takes one message, `Notifier.flush` sends what was collected.
-/

namespace DealWatch

/-- A message to the stage. -/
inductive Notification where
  | hit (post : MatchingPost)
  | tick
  deriving DecidableEq, Repr, Inhabited

/-- The webhook and the matches that are not sent yet, the oldest first. -/
structure Notifier where
  webhook : Webhook
  queued : List MatchingPost
  deriving DecidableEq, Repr, Inhabited

namespace Notifier

/-- The notice of a match. -/
def noticeOf (p : MatchingPost) : Notice := Notice.ofMatch p.listing p.rule

/-- A step of the webhook. -/
def onWebhook {α : Type} (act : Act Webhook α) : Act Notifier α :=
  act.within (·.webhook) fun w n => { n with webhook := w }

/-- Sends what was collected, and counts it. If the webhook cannot send, nothing is lost. -/
def flush : Act Notifier Nat := do
  let n ← Act.state
  if n.queued.isEmpty then
    Act.log .debug "Nothing to send" []
    return 0
  else if ← onWebhook (Webhook.sendBatch (n.queued.map noticeOf)) then
    Act.put { (← Act.state) with queued := [] }
    return n.queued.length
  else
    Act.log .warning "Notifier sent nothing, keeping matches" [("queued", .nat n.queued.length)]
    return 0

/-- Takes one message. -/
def handle (m : Notification) : Act Notifier Unit := do
  match m with
  | .hit p =>
    let n ← Act.state
    Act.put { n with queued := n.queued ++ [p] }
  | .tick => discard flush

end Notifier

end DealWatch
