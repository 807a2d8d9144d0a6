import DealWatch.Failure
import DealWatch.Json.Encoding
import DealWatch.Notice.Basic

/-!
# Requests and replies

* `Request` is a call of a remote service, `Reply` what it answers;
* `Reply.requireSuccess` turns a bad status into a failure, `Reply.document` reads the body;
* `Reply.header?` finds a header, whatever the case of the letters in its name;
* `WebhookMessage` is a notification as it is sent.
-/

namespace DealWatch

/-- The kind of a request. -/
inductive Method where
  | get
  | post
  deriving DecidableEq, Repr, Inhabited

/-- How a kind of request is written. -/
def Method.name : Method → String
  | .get => "GET"
  | .post => "POST"

/-- A request. -/
structure Request where
  method : Method
  url : String
  /-- The fields of a form. -/
  form : Option (List (String × String)) := none
  credentials : Option (String × String) := none
  /-- The parameters behind the address. -/
  query : Option (List (String × Int)) := none
  headers : Option (List (String × String)) := none
  /-- The headers of every request of this client. -/
  clientHeaders : Option (List (String × String)) := none
  deriving DecidableEq, Repr, Inhabited

/-- The body of a reply: a text, or the document that it writes. -/
inductive Body where
  | text (s : String)
  | document (d : Datum)
  deriving Repr, Inhabited

/-- A reply. -/
structure Reply where
  status : Int := 200
  reason : String := ""
  headers : List (String × String) := []
  body : Body := .document (.dict [])
  deriving Repr, Inhabited

namespace Reply

/-- A text in lower-case ASCII letters. -/
def lowerName (s : String) : List Char := s.toList.map Char.toLower

/-- The last header with a name. -/
def header? (r : Reply) (name : String) : Option String :=
  (r.headers.reverse.find? fun (n, _) => lowerName n == lowerName name).map (·.2)

/-- The failure that a status stands for, if it is a bad one. -/
def statusFailure? (r : Reply) (url : String) : Option Failure :=
  let words (kind : String) : Failure :=
    .transport .badStatus (toString r.status ++ " " ++ kind ++ " Error: " ++ r.reason ++
      " for url: " ++ url)
  if 400 ≤ r.status && r.status < 500 then some (words "Client")
  else if 500 ≤ r.status && r.status < 600 then some (words "Server")
  else none

/-- Fails if the status is a bad one. -/
def requireSuccess (r : Reply) (url : String) : Outcome Unit :=
  match r.statusFailure? url with
  | some f => .error f
  | none => .ok ()

/-- The characters of a body, whose bytes show the encoding if there are more than three. -/
def bodyText (s : String) : List Char :=
  let bytes := utf8 s
  let decoded := do
    guard (3 < bytes.length)
    (← Json.Encoding.detect? bytes).decode? bytes
  decoded.getD s.toList

/-- The document in the body. -/
def document (r : Reply) : Outcome Datum :=
  match r.body with
  | .document d => .ok d
  | .text s =>
    let text := bodyText s
    match Json.read text with
    | .ok d => .ok d
    | .error e => .error (e.limit?.getD (.badBody (e.message text)))

end Reply

/-- A notification as it is sent. -/
structure WebhookMessage where
  url : String
  username : String
  content : Option String
  notices : List Notice
  deriving DecidableEq, Repr, Inhabited

namespace Datum

/-- The value under a key, as a failure if there is none or the value has no keys. -/
def index (d : Datum) (key : String) : Outcome Datum :=
  match d with
  | .dict es =>
    match Entries.get? es key with
    | some v => .ok v
    | none => .error (.missingKey key)
  | .list _ => .error (.wrongKind "list indices must be integers or slices, not str")
  | .text _ => .error (.wrongKind "string indices must be integers, not 'str'")
  | .null => .error (.wrongKind "'NoneType' object is not subscriptable")
  | .flag _ => .error (.wrongKind "'bool' object is not subscriptable")
  | .int _ => .error (.wrongKind "'int' object is not subscriptable")
  | .float _ => .error (.wrongKind "'float' object is not subscriptable")
  | .pair _ _ => .error (.wrongKind "tuple indices must be integers or slices, not str")
  | .scalar _ | .set _ => .error (.wrongKind "object is not subscriptable")

/-- The items of a value: those of a list, a set or a pair, the keys of a dictionary and the
characters of a text. -/
def iterate (d : Datum) : Outcome (List Datum) :=
  match d with
  | .list items => .ok items
  | .set members => .ok (members.map .scalar)
  | .pair key value => .ok [key, value]
  | .dict es => .ok (es.map fun (k, _) => .scalar k)
  | .text s => .ok (s.toList.map fun c => .text (String.singleton c))
  | .null => .error (.wrongKind "'NoneType' object is not iterable")
  | .flag _ => .error (.wrongKind "'bool' object is not iterable")
  | .int _ => .error (.wrongKind "'int' object is not iterable")
  | .float _ => .error (.wrongKind "'float' object is not iterable")
  | .scalar _ => .error (.wrongKind "object is not iterable")

end Datum

end DealWatch
