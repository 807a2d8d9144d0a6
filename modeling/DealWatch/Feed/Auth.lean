import DealWatch.Calendar.Reader
import DealWatch.Data.Check
import DealWatch.Json.Printer
import DealWatch.Json.Reader

/-!
# Access tokens

The state of a client that has a token: the token, when it expires, and what the last reply said
about the quota.

* `Auth.toJson` and `Auth.ofJson` write and read it as the text of the token file.
-/

namespace DealWatch

/-- An access token and what is known about the quota. The token is there as far as it can be
shown. -/
structure Auth where
  accessToken : String
  expiresAt : Timestamp
  used : Int
  remaining : Int
  resetAt : Timestamp
  /-- Why the token cannot be encoded, if it has halves of surrogate pairs. -/
  fault : Option EncodingFault := none
  deriving DecidableEq, Repr, Inhabited

/-- A point in time, or a number of seconds or a text that stands for one. -/
def Check.time : Check Timestamp
  | .scalar (.time t) => .accepted t
  | .text s =>
    match Timestamp.ofText? s with
    | some t => .accepted t
    | none => .refuse .timeParsing
  | .int i =>
    match Timestamp.ofSeconds? i with
    | some t => .accepted t
    | none => .refuse .timeParsing
  | .float x =>
    match Timestamp.ofFloat? x with
    | some t => .accepted t
    | none => .refuse .timeParsing
  | _ => .refuse .timeType

namespace Auth

/-- The quota that is assumed before a reply reports one. -/
def assumedRemaining : Int := 1

/-- Reads a token from a document without halves of surrogate pairs. -/
def check : Check Auth := Check.fields fun es =>
  Auth.mk <$> Fields.required es "access_token" Check.text
    <*> Fields.required es "expires_at" Check.time
    <*> Fields.withDefault es "ratelimit_used" 0 Check.int
    <*> Fields.withDefault es "ratelimit_remaining" assumedRemaining Check.int
    <*> Fields.required es "ratelimit_reset_at" Check.time
    <*> .accepted none

/-- The text of the token file. -/
def toJson (a : Auth) : String :=
  Json.write Json.compact (.record [
    ("access_token", .text a.accessToken),
    ("expires_at", .text a.expiresAt.compactText),
    ("ratelimit_used", .int a.used),
    ("ratelimit_remaining", .int a.remaining),
    ("ratelimit_reset_at", .text a.resetAt.compactText)])

/-- The most lists and dictionaries with content inside of each other in a token file. -/
def maxLevels : Nat := 200

/-- Reads the text of a token file. Halves of surrogate pairs and too many levels are refused
wherever they are, also in a value whose key is repeated. -/
def ofJson (text : String) : Verdict Auth :=
  match Json.readAll text.toList with
  | .ok d =>
    if Json.hasUnpaired d || maxLevels < Json.levelsOf d then .refuse .jsonInvalid
    else check (Json.withoutRepeats d)
  | .error _ => .refuse .jsonInvalid

end Auth

end DealWatch
