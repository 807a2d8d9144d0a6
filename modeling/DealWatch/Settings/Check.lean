import DealWatch.Data.Shown
import DealWatch.Outside.Files
import DealWatch.Settings.Basic

/-!
# Checking settings

Every section is checked field by field, and the problems of all sections are listed.

* `FeedSettings.check` and its like read a section;
* `Settings.check` reads all sections.
-/

namespace DealWatch

/-- Where relative paths and the home directory are. -/
structure Surroundings where
  home : String
  workingDirectory : Path
  deriving DecidableEq, Repr, Inhabited

namespace Check

/-- A path in a text. -/
def path : Check Path
  | .text s => .accepted (.ofText s)
  | .scalar (.unpaired t) => .accepted (.ofText t.shown)
  | _ => .refuse .pathType

/-- The code points of a value as text. -/
def pointsOfValue : Datum → List CodePoint
  | .scalar (.unpaired t) => t.points
  | d => pointsOf d.plain

/-- The path that any value writes, with the home directory in place of a tilde. A user who is named
behind a tilde is looked up, and must have a name that can be handed to the system. -/
def homePath (place : Surroundings) : Check Path := fun d =>
  let user := userIn (pointsOfValue d)
  if (systemFault? user).isSome || user.contains (.char '\x00') then .refuse .valueError
  else .accepted (.ofText (Path.expandHome place.home d.plain))

/-- The same path made absolute, which must be one of a file. -/
def absolutePath (place : Surroundings) : Check Path := fun d =>
  (homePath place d).andThen fun p =>
    if (systemFault? (pointsOfValue d)).isSome || p.hasNul then .refuse .valueError
    else .accepted (place.workingDirectory.resolve p)

/-- A capital letter, where a dotless letter counts as the letter with a dot. -/
def upperLetter (c : Char) : Char := if c = '\u0131' then 'I' else c.toUpper

/-- The levels of the journal. -/
def levels : List String := ["DEBUG", "INFO", "WARNING", "ERROR", "CRITICAL"]

/-- One of the levels of the journal, in letters of any case. -/
def level : Check String
  | .text s =>
    let s := String.ofList (s.toList.map upperLetter)
    if levels.contains s then .accepted s else .refuse .valueError
  | _ => .refuse .valueError

/-- An entry of a definition, whose key must be a text. -/
def ruleEntry (key : Scalar) (value : Datum) : Verdict (Scalar × Datum) :=
  ((text (.scalar key)).map fun s => (.text s, value)).under "[key]" |>.under key.shown

/-- Some entries of a definition. -/
def entriesOf : Entries → Verdict Entries
  | [] => .accepted []
  | (k, d) :: es => List.cons <$> ruleEntry k d <*> entriesOf es

/-- A definition of a rule, whose values are checked when it is compiled. -/
def ruleEntries : Check Entries
  | .dict es =>
    (entriesOf es).map (·.foldl (fun out (k, d) => Entries.put k d out) [])
  | _ => .refuse .dictType

end Check

/-- Reads the section of the source. -/
def FeedSettings.check (place : Surroundings) : Check FeedSettings := Check.fields fun es =>
  let d : FeedSettings := {}
  FeedSettings.mk <$> Fields.withDefault es "auth_host" d.authHost Check.text
    <*> Fields.withDefault es "api_host" d.apiHost Check.text
    <*> Fields.withDefault es "token_file" d.tokenFile (Check.homePath place)
    <*> Fields.withDefault es "username" d.username Check.text
    <*> Fields.withDefault es "password" d.password Check.text
    <*> Fields.withDefault es "client_id" d.clientId Check.text
    <*> Fields.withDefault es "client_secret" d.clientSecret Check.text
    <*> Fields.withDefault es "user_agent" d.userAgent Check.text
    <*> Fields.withDefault es "wait_time_secs" d.waitSeconds (Check.intWithin 1 3600)
    <*> Fields.withDefault es "subreddit" d.subreddit Check.text
    <*> Fields.withDefault es "page_size" d.pageSize (Check.intWithin 1 100)
    <*> Fields.withDefault es "timeout_seconds" d.timeout Check.positiveFloat

/-- Reads the section of the webhook. -/
def WebhookSettings.check : Check WebhookSettings := Check.fields fun es =>
  let d : WebhookSettings := {}
  WebhookSettings.mk <$> Fields.withDefault es "enabled" d.enabled Check.flag
    <*> Fields.withDefault es "webhook_url" d.url Check.text
    <*> Fields.withDefault es "username" d.username Check.text
    <*> Fields.withDefault es "sending_interval_secs" d.interval (Check.intWithin 1 3600)

/-- Reads the section of the alerts. -/
def SmsSettings.check : Check SmsSettings := Check.fields fun es =>
  let d : SmsSettings := {}
  SmsSettings.mk <$> Fields.withDefault es "enabled" d.enabled Check.flag
    <*> Fields.withDefault es "api_url" d.apiUrl Check.text
    <*> Fields.withDefault es "api_key" d.apiKey Check.text
    <*> Fields.withDefault es "api_key_secret" d.apiKeySecret Check.text
    <*> Fields.withDefault es "account_sid" d.accountSid Check.text
    <*> Fields.withDefault es "phone_number_from" d.sender Check.text
    <*> Fields.withDefault es "phone_number_to" d.recipient Check.text

/-- Reads the section of the store. -/
def StoreSettings.check (place : Surroundings) : Check StoreSettings := Check.fields fun es =>
  let d : StoreSettings := {}
  StoreSettings.mk <$> Fields.withDefault es "path" d.path (Check.absolutePath place)

/-- Reads the section of the channels. -/
def PipelineSettings.check : Check PipelineSettings := Check.fields fun es =>
  let d : PipelineSettings := {}
  PipelineSettings.mk <$>
    Fields.withDefault es "channel_capacity" d.capacity (Check.intWithin 1 10000)

/-- Reads the section of the journal. -/
def LogSettings.check : Check LogSettings := Check.fields fun es =>
  let d : LogSettings := {}
  LogSettings.mk <$> Fields.withDefault es "level" d.level Check.level
    <*> Fields.withDefault es "format" d.format Check.text
    <*> Fields.optional es "file" Check.path

namespace Settings

/-- Reads the sections of a document. -/
def verdict (place : Surroundings) (es : Entries) : Verdict Settings :=
  let d : Settings := {}
  Settings.mk <$> Fields.withDefault es "reddit" d.feed (FeedSettings.check place)
    <*> Fields.withDefault es "discord" d.webhook WebhookSettings.check
    <*> Fields.withDefault es "twilio" d.sms SmsSettings.check
    <*> Fields.withDefault es "database" d.store (StoreSettings.check place)
    <*> Fields.withDefault es "pipeline" d.pipeline PipelineSettings.check
    <*> Fields.withDefault es "logging" d.log LogSettings.check
    <*> Fields.optional es "rules_file" Check.path
    <*> Fields.withDefault es "rules" d.rules (Check.list Check.ruleEntries)

/-- Fails if the level of the journal is a list, a dictionary or a text that cannot be put into the
words for what is wrong. -/
def requireLevel (journal : Option Datum) : Outcome Unit :=
  match journal.bind (Datum.get? · "level") with
  | some (.scalar (.unpaired t)) => .error (.unencodable t.fault)
  | some (.list _) => .error (.wrongKind "the level is a list")
  | some (.dict _) => .error (.wrongKind "the level is a dictionary")
  | _ => .ok ()

/-- Reads all sections. A level that cannot be compared or shown is a failure of its own. -/
def check (place : Surroundings) (es : Entries) : Outcome Settings := do
  requireLevel (Entries.get? es "logging")
  (verdict place es).toOutcome

end Settings

end DealWatch
