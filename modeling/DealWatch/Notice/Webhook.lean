import DealWatch.Json.Printer
import DealWatch.Outside.Basic
import DealWatch.Settings.Basic

/-!
# The webhook

Notices are sent in messages of at most ten. Every reply may say how many requests are left; when
none are, nothing more is sent.

* `Webhook` is the state of the notifier;
* `Webhook.sendBatch` sends some notices.
-/

namespace DealWatch

/-- The notifier: its settings and the requests left after the last reply, if it said so. -/
structure Webhook where
  settings : WebhookSettings
  remaining : Option Int
  deriving DecidableEq, Repr, Inhabited

namespace Webhook

/-- The name of the channel. -/
def channelName : String := "discord"

/-- The most notices in a message. -/
def maxNotices : Nat := 10

/-- Whether the notifier can send. -/
def isEnabled (w : Webhook) : Bool := w.settings.enabled && w.settings.url != ""

/-- Fails if no requests are left. -/
def checkQuota : Act Webhook Unit := do
  if (← Act.state).remaining == some 0 then Act.fail .noRequestsLeft

/-- Some notices in groups of at most ten. -/
def chunks (notices : List Notice) : List (List Notice) :=
  match notices with
  | [] => []
  | n :: ns => (n :: ns).take maxNotices :: chunks ((n :: ns).drop maxNotices)
termination_by notices.length
decreasing_by simp only [List.length_drop, List.length_cons, maxNotices]; omega

/-- The line above the first message of a batch. -/
def summary (count : Nat) : String := "Found " ++ toString count ++ " matches:"

/-- The message with some notices. -/
def message (s : WebhookSettings) (content : Option String) (notices : List Notice) :
    WebhookMessage :=
  { url := s.url, username := s.username, content, notices }

/-- Keeps what a reply says about the requests left. -/
def keepQuota (reply : Reply) : Act Webhook Unit := do
  match reply.header? "X-RateLimit-Remaining" with
  | none => return
  | some raw =>
    match readInt? raw with
    | none => Act.fail (.badInteger raw)
    | some n =>
      Act.put { (← Act.state) with remaining := some n }
      Act.log .info "Discord requests remaining" [("remaining", .int n)]

/-- The text of a body. -/
def bodyText (b : Body) : String :=
  match b with
  | .text s => s
  | .document d => Json.write Json.spaced d

/-- Fails unless a reply accepts the message. -/
def requireAccepted (reply : Reply) : Act Webhook Unit := do
  if reply.status != 200 && reply.status != 204 then
    Act.fail (.rejectedNotice
      ("Discord webhook returned " ++ toString reply.status ++ ": " ++ bodyText reply.body))

/-- Sends one message. -/
def execute (m : WebhookMessage) : Act Webhook Unit := do
  let reply ← Act.sendMessage m
  keepQuota reply
  requireAccepted reply

/-- Sends groups of notices one after the other; only the first has a line above it. -/
def sendChunks (content : Option String) : List (List Notice) → Act Webhook Unit
  | [] => return
  | chunk :: rest => do
    checkQuota
    execute (message (← Act.state).settings content chunk)
    sendChunks none rest

/-- Sends some notices. The result says whether the notifier can send at all. -/
def sendBatch (notices : List Notice) : Act Webhook Bool := do
  if !(← Act.state).isEnabled then
    Act.log .warning "Discord notifier not enabled or configured" []
    return false
  else
    Act.log .info "Sending matches" [("count", .nat notices.length)]
    sendChunks (some (summary notices.length)) (chunks notices)
    return true

end Webhook

end DealWatch
