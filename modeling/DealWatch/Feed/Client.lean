import DealWatch.Calendar.Duration
import DealWatch.Feed.Auth
import DealWatch.Outside.Basic
import DealWatch.Settings.Basic
import DealWatch.Web.Url

/-!
# The client of the listing source

The client asks for a token, keeps it in a file so that it outlives a restart, and fetches the
newest listings. Every reply says how much of the quota is used and when it is renewed.

* `Feed.Client` is the state of a client;
* `Feed.authenticate` asks for a token, `Feed.restore` takes it from the file;
* `Feed.fetch` fetches listings and keeps what the reply says about the quota;
* `Feed.waitTime` is the time to wait before the next poll.
-/

namespace DealWatch

namespace Feed

/-- A client: its settings and its token. -/
structure Client where
  settings : FeedSettings
  auth : Option Auth
  deriving DecidableEq, Repr, Inhabited

/-- A step of the client. -/
abbrev ClientAct := Act Client

/-- The current time in universal time. -/
def currentTime : ClientAct Timestamp := do return .utc (← Act.now)

/-- Whether a point in time is before another one. -/
def isBefore (s t : Timestamp) : Outcome Bool :=
  match s.isBefore? t with
  | some b => .ok b
  | none => .error .mixedZones

/-- Whether a token is missing or past its end. -/
def authExpired (auth : Option Auth) (now : Timestamp) : Outcome Bool :=
  match auth with
  | none => .ok true
  | some a => isBefore a.expiresAt now

/-- Whether the client needs a new token. -/
def needsToken : ClientAct Bool := do
  Act.ofOutcome (authExpired (← Act.state).auth (← currentTime))

/-- The seconds to wait before the next poll: the set time while there is quota left, otherwise the
time until it is renewed. -/
def waitTime : ClientAct Binary64 := do
  let c ← Act.state
  let set := Binary64.ofInt c.settings.waitSeconds
  match c.auth with
  | none => return set
  | some a =>
    if 0 < a.remaining then return set
    else
      match a.resetAt.instant? with
      | none => Act.fail .mixedZones
      | some reset => return secondsOfMicros (max (reset - (← Act.now)) 0)

/-- The headers of every request. -/
def clientHeaders (s : FeedSettings) : List (String × String) := [("User-Agent", s.userAgent)]

/-! ### The token file -/

/-- The text that a token is kept as. -/
def tokenText (a : Auth) : Outcome String :=
  match a.fault with
  | some fault => .error (.unwritableToken fault)
  | none => .ok a.toJson

/-- Writes the token to its file. The directory stays made if the token cannot be written. -/
def saveToken (a : Auth) : ClientAct Unit := do
  let path := (← Act.state).settings.tokenFile
  let fs ← Act.ofOutcome ((← Act.files).makeFolder path.parent)
  Act.putFiles fs
  let fs ← Act.ofOutcome (do fs.writeText path (← tokenText a))
  Act.putFiles fs
  Act.log .debug "Saved token" [("path", .text path.toText)]

/-- Takes the token from its file, unless it is past its end. A file that is not there or cannot be
read as a token changes nothing. -/
def restore : ClientAct Unit := do
  let c ← Act.state
  let path := c.settings.tokenFile
  let shown : String × Datum := ("path", .text path.toText)
  let fs ← Act.files
  if !fs.contains path then Act.log .info "No saved token" [shown]
  else
    let text ← Act.ofOutcome (fs.readText path)
    match Auth.ofJson text with
    | .rejected _ => Act.log .warning "Ignoring unreadable token file" [shown]
    | .accepted a =>
      if ← Act.ofOutcome (isBefore (← currentTime) a.expiresAt) then
        Act.put { c with auth := some a }
        Act.log .info "Loaded saved token" [("expires_at", .text a.expiresAt.isoText)]
      else Act.log .info "Saved token has expired" [shown]

/-! ### Asking for a token -/

/-- A reference as seen from the address of a service. -/
def resolve (host reference : String) : Outcome String :=
  (Url.join host reference).mapError .badAddress

/-- The request for a token. -/
def tokenRequest (s : FeedSettings) (url : String) : Request where
  method := .post
  url := url
  form := some [("grant_type", "password"), ("username", s.username), ("password", s.password)]
  credentials := some (s.clientId, s.clientSecret)
  clientHeaders := some (clientHeaders s)

/-- A point in time a duration later. -/
def later (t : Timestamp) (micros : Int) : Outcome Timestamp :=
  if !durationFits micros then .error .timeOutOfRange
  else
    match t.shift? micros with
    | some t => .ok t
    | none => .error .timeOutOfRange

/-- The duration of a number of seconds in a document. -/
def durationOf (d : Datum) : Outcome Int :=
  match d with
  | .int i => .ok (i * microsPerSecond)
  | .flag b => .ok (b.toInt * microsPerSecond)
  | .float (.nan _) => .error .nanCount
  | .float x =>
    match microsOfSeconds? x with
    | some micros => .ok micros
    | none => .error .infiniteCount
  | .null => .error (.wrongKind "unsupported type for timedelta seconds component: NoneType")
  | .text _ => .error (.wrongKind "unsupported type for timedelta seconds component: str")
  | .list _ => .error (.wrongKind "unsupported type for timedelta seconds component: list")
  | .dict _ => .error (.wrongKind "unsupported type for timedelta seconds component: dict")
  | .scalar _ | .set _ | .pair _ _ =>
    .error (.wrongKind "unsupported type for timedelta seconds component")

/-- The time after which the quota is taken to be renewed before a reply says so. -/
def assumedReset : Int := 3600 * microsPerSecond

/-- Why a value cannot be encoded, if it is a text with halves of surrogate pairs. -/
def faultOf? : Datum → Option EncodingFault
  | .scalar (.unpaired t) => some t.fault
  | _ => none

/-- The token in the document of a reply to a request that was made at a point in time. -/
def tokenOf (body : Datum) (requested : Timestamp) : Outcome Auth := do
  let token ← body.index "access_token"
  let duration ← durationOf (← body.index "expires_in")
  let expiresAt ← later requested duration
  let resetAt ← later requested assumedReset
  match Check.text token with
  | .accepted s =>
    return { accessToken := s, expiresAt, used := 0, remaining := Auth.assumedRemaining, resetAt
             fault := faultOf? token }
  | .rejected ps => .error (.invalid (ps.map (Problem.under "access_token")))

/-- Asks for a token and keeps it. -/
def authenticate : ClientAct Unit := do
  let c ← Act.state
  let url ← Act.ofOutcome (resolve c.settings.authHost "access_token")
  let request := tokenRequest c.settings url
  let requested ← currentTime
  let reply ← Act.send request
  Act.ofOutcome (reply.requireSuccess request.url)
  let body ← Act.ofOutcome reply.document
  let a ← Act.ofOutcome (tokenOf body requested)
  Act.put { c with auth := some a }
  Act.log .info "Authenticated with Reddit" [("expires_at", .text a.expiresAt.isoText)]
  saveToken a

/-! ### Fetching listings -/

/-- The request for the newest listings with a token. -/
def listingRequest (s : FeedSettings) (url token : String) (pageSize : Int) : Request where
  method := .get
  url := url
  query := some [("limit", pageSize), ("count", 0)]
  headers := some [("Authorization", "bearer " ++ token)]
  clientHeaders := some (clientHeaders s)

/-- The token for a request. It must not be past its end. A header with halves of surrogate pairs in
it cannot be encoded, so no request goes out with such a token. -/
def validToken : ClientAct String := do
  match (← Act.state).auth with
  | none => Act.fail .needsAuthorization
  | some a =>
    if ← needsToken then Act.fail .needsAuthorization
    else
      match a.fault with
      | some fault => Act.fail (.unencodable fault)
      | none => return a.accessToken

/-- A whole number in a header, where it may be written with a part after the point. -/
def headerCount (reply : Reply) (name : String) : Outcome Int :=
  match reply.header? name with
  | none => .error (.missingHeader name)
  | some raw =>
    match readFloat? raw with
    | none => .error (.badNumber raw)
    | some (.nan _) => .error .nanCount
    | some x =>
      match x.truncate? with
      | some n => .ok n
      | none => .error .infiniteCount

/-- Keeps what a reply says about the quota. The counts are kept before the time is computed. -/
def keepQuota (reply : Reply) : ClientAct Unit := do
  let c ← Act.state
  match c.auth with
  | none => return
  | some a =>
    let used ← Act.ofOutcome (headerCount reply "X-Ratelimit-Used")
    let remaining ← Act.ofOutcome (headerCount reply "X-Ratelimit-Remaining")
    let reset ← Act.ofOutcome (headerCount reply "X-Ratelimit-Reset")
    let a := { a with used, remaining }
    Act.put { c with auth := some a }
    let resetAt ← Act.ofOutcome (later (← currentTime) (reset * microsPerSecond))
    let a := { a with resetAt }
    Act.put { c with auth := some a }
    Act.log .debug "Rate limit updated" [("used", .int used), ("remaining", .int remaining),
      ("reset_at", .text resetAt.isoText)]
    saveToken a

/-- The listings in the document of a reply. -/
def listingsOf (body : Datum) : Outcome (List Listing) := do
  let children ← (← (← body.index "data").index "children").iterate
  children.mapM fun child => do (Listing.check (← child.index "data")).toOutcome

/-- Fetches the newest listings, the newest first. -/
def fetch (subreddit : String) (pageSize : Int) : ClientAct (List Listing) := do
  let c ← Act.state
  let url ← Act.ofOutcome (resolve c.settings.apiHost ("r/" ++ subreddit ++ "/new"))
  let request := listingRequest c.settings url (← validToken) pageSize
  let reply ← Act.send request
  Act.ofOutcome (reply.requireSuccess request.url)
  keepQuota reply
  let listings ← Act.ofOutcome (do listingsOf (← reply.document))
  Act.log .debug "Fetched listings" [("subreddit", .text subreddit),
    ("count", .nat listings.length)]
  return listings

end Feed

end DealWatch
