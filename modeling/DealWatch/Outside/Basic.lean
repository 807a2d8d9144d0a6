import DealWatch.Log.Entry
import DealWatch.Outside.Files
import DealWatch.Web.Message

/-!
# What the program meets outside

The program reads a clock, sends requests and notifications, writes a journal and keeps files. The
replies to come are part of what is outside.

* `Outside` is all of this at one moment;
* `Act σ α` is a step that computes an `α` over a state `σ` of the program's own and what is
  outside. What a step did before it failed stays done.
-/

namespace DealWatch

/-- What is outside at one moment. -/
structure Outside where
  /-- The microseconds since the start of 1970. -/
  now : Int
  environment : List (String × String)
  files : Files
  /-- The replies to requests that are to come. -/
  replies : List (Outcome Reply)
  /-- The replies to notifications that are to come. -/
  webhookReplies : List (Outcome Reply)
  /-- The requests so far. -/
  requests : List Request
  /-- The notifications so far. -/
  messages : List WebhookMessage
  journal : List JournalEntry
  /-- The stage that is running. -/
  stage : Option String
  deriving Inhabited

/-- A step over a state and what is outside. -/
abbrev Act (σ : Type) := ExceptT Failure (StateM (σ × Outside))

namespace Act

variable {σ α : Type}

/-- The result of a step, with the state and what is outside after it. -/
def runWith (act : Act σ α) (s : σ) (o : Outside) : Outcome α × σ × Outside :=
  Id.run (ExceptT.run act (s, o))

/-- The state. -/
def state : Act σ σ := do return (← getThe (σ × Outside)).1

/-- Replaces the state. -/
def put (s : σ) : Act σ Unit := modifyThe (σ × Outside) fun (_, o) => (s, o)

/-- What is outside. -/
def outside : Act σ Outside := do return (← getThe (σ × Outside)).2

/-- Changes what is outside. -/
def change (f : Outside → Outside) : Act σ Unit := modifyThe (σ × Outside) fun (s, o) => (s, f o)

/-- Ends a step early. -/
def fail (f : Failure) : Act σ α := throw f

/-- Takes an outcome for the end of a step. -/
def ofOutcome : Outcome α → Act σ α
  | .ok a => pure a
  | .error f => fail f

/-- A step over a part of the state. -/
def within {τ : Type} (part : τ → σ) (replace : σ → τ → τ) (act : Act σ α) : Act τ α :=
  ExceptT.mk fun (t, o) =>
    let (result, s, o) := act.runWith (part t) o
    (result, (replace s t, o))

/-- The outcome of a step, which does not end the step around it. -/
def attempt (act : Act σ α) : Act σ (Outcome α) :=
  ExceptT.mk fun (s, o) =>
    let (result, s, o) := act.runWith s o
    (.ok result, (s, o))

/-- A step over a state of its own. -/
def alone {τ : Type} (t : τ) (act : Act τ α) : Act σ α :=
  ExceptT.mk fun (s, o) =>
    let (result, _, o) := act.runWith t o
    (result, (s, o))

/-- The clock. -/
def now : Act σ Int := do return (← outside).now

/-- Writes an entry of the journal. -/
def log (severity : Severity) (event : String) (fields : List (String × Datum)) : Act σ Unit :=
  change fun o => { o with journal := o.journal ++ [⟨severity, event, fields, o.stage⟩] }

/-- Runs a step in a stage. -/
def inStage (stage : String) (act : Act σ α) : Act σ α :=
  ExceptT.mk fun (s, o) =>
    let (result, s, o') := act.runWith s { o with stage := some stage }
    (result, (s, { o' with stage := o.stage }))

/-- Sends a request and takes the reply. Without one the connection fails. -/
def send (request : Request) : Act σ Reply := do
  change fun o => { o with requests := o.requests ++ [request] }
  match (← outside).replies with
  | [] => fail (.transport .connection "no response")
  | reply :: rest =>
    change fun o => { o with replies := rest }
    ofOutcome reply

/-- Sends a notification and takes the reply; without one it is accepted. -/
def sendMessage (message : WebhookMessage) : Act σ Reply := do
  change fun o => { o with messages := o.messages ++ [message] }
  match (← outside).webhookReplies with
  | [] => return { status := 204, body := .text "" }
  | reply :: rest =>
    change fun o => { o with webhookReplies := rest }
    ofOutcome reply

/-- The files. -/
def files : Act σ Files := do return (← outside).files

/-- Replaces the files. -/
def putFiles (fs : Files) : Act σ Unit := change fun o => { o with files := fs }

end Act

end DealWatch
