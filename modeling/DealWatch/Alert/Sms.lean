import DealWatch.Outside.Basic
import DealWatch.Settings.Basic
import DealWatch.Web.Url

/-!
# Alerts as text messages

* `Sms.send` sends a text message and gives the address of its receipt;
* `Sms.alert` tells the operator that a stage has stopped.
-/

namespace DealWatch

namespace Sms

/-- The name of the channel. -/
def channelName : String := "sms"

/-- Whether alerts can be sent. -/
def isEnabled (s : SmsSettings) : Bool :=
  s.enabled && s.accountSid != "" && s.apiKey != "" && s.sender != "" && s.recipient != ""

/-- The request that sends a text. -/
def request (s : SmsSettings) (url body : String) : Request where
  method := .post
  url := url
  form := some [("Body", body), ("From", s.sender), ("To", s.recipient)]
  credentials := some (s.apiKey, s.apiKeySecret)

variable {σ : Type}

/-- Sends a text. -/
def send (s : SmsSettings) (body : String) : Act σ Datum := do
  let url := (Url.join s.apiUrl (s.accountSid ++ "/Messages.json")).mapError .badAddress
  let r := request s (← Act.ofOutcome url) body
  let reply ← Act.send r
  Act.ofOutcome (reply.requireSuccess r.url)
  let uri ← Act.ofOutcome (do (← reply.document).index "uri")
  Act.log .info "SMS sent" [("uri", uri)]
  return uri

/-- The text of an alert. -/
def alertText (stage : String) (f : Failure) : String :=
  "SaleWatch " ++ stage ++ " stage stopped: " ++ f.name ++ ": " ++ f.message

/-- Tells the operator that a stage has stopped, if alerts can be sent. A request that fails is
noted in the journal. -/
def alert (settings : Option SmsSettings) (stage : String) (f : Failure) : Act σ Unit := do
  match settings with
  | none => return
  | some s =>
    if !isEnabled s then return
    else
      match ← Act.attempt (send s (alertText stage f)) with
      | .ok _ => return
      | .error e =>
        if e.isTransport then
          Act.log .error "Failed to send alert" [("stage", .text stage), ("error", .text e.message)]
        else Act.fail e

end Sms

end DealWatch
