import DealWatch.Data.Check
import DealWatch.Rule.Error
import DealWatch.Text.Markup
import DealWatch.Text.Quoted
import DealWatch.Web.Host

/-!
# Failures

* `Failure` lists the causes for which a step of the program ends early;
* `Failure.name` is the name under which a failure is reported, `Failure.message` the words for it;
* `Failure.isTransport` holds of the failures of a request to a remote service.
-/

namespace DealWatch

/-- How a request to a remote service fails. -/
inductive TransportFault where
  | badStatus
  | connection
  | timeout
  | request
  deriving DecidableEq, Repr, Inhabited

/-- The name of a transport fault. -/
def TransportFault.name : TransportFault → String
  | .badStatus => "HTTPError"
  | .connection => "ConnectionError"
  | .timeout => "Timeout"
  | .request => "RequestException"

/-- Why a step of the program ends early. -/
inductive Failure where
  /-- A request is made without a valid token. -/
  | needsAuthorization
  | missingHeader (name : String)
  /-- The remote quota is used up. -/
  | noRequestsLeft
  /-- A notification was answered with a bad status. -/
  | rejectedNotice (message : String)
  | badRule (cause : RuleError)
  | invalid (problems : List Problem)
  | transport (fault : TransportFault) (message : String)
  /-- The body of a response is no JSON. -/
  | badBody (message : String)
  | missingKey (key : String)
  /-- A value is used as one of a kind that it is not. -/
  | wrongKind (message : String)
  | missingAttribute (message : String)
  /-- Points in time with a zone and without one are compared. -/
  | mixedZones
  /-- A price does not fit a double-precision number. -/
  | widePrice
  /-- An integer does not fit the store. -/
  | wideInteger
  /-- An integer does not fit the bytes that it is written in. -/
  | wideBound
  | infiniteCount
  | nanCount
  | timeOutOfRange
  | badInteger (text : String)
  | badNumber (text : String)
  | badFlag (text : String)
  /-- An integer has more digits than are converted. -/
  | longInteger
  /-- A file is no text in UTF-8. -/
  | undecodable
  /-- A text holds half of a surrogate pair and cannot be encoded. -/
  | unencodable (fault : EncodingFault)
  /-- A token holds half of a surrogate pair and cannot be written. -/
  | unwritableToken (fault : EncodingFault)
  /-- A path starts with a user that is not known. -/
  | unknownUser
  | badYaml
  /-- A scalar of a document does not write a value of its kind. -/
  | badScalar
  /-- A number of a document has no characters. -/
  | emptyNumber
  /-- An escape of a document has a number far beyond those of characters. -/
  | wideEscape
  /-- A document contains itself, or lists and dictionaries too deep inside of each other. -/
  | endless
  | badEnvironment
  | fileNotFound (path : String)
  | isDirectory (path : String)
  | database (message : String)
  /-- A row breaks a rule of the store. -/
  | integrity
  /-- A file that should hold a store holds something else. -/
  | foreignFile
  /-- A file stands where a directory should be. -/
  | fileInPlace (path : String)
  /-- A path leads through a file. -/
  | notDirectory (path : String)
  /-- A path holds the character NUL. -/
  | nullInPath
  /-- The host of an address is no good one. -/
  | badAddress (fault : Host.Fault)
  /-- A text for the screen is marked up badly. -/
  | badMarkup (fault : Markup.Fault)
  /-- A task is cancelled from outside. -/
  | cancelled (message : String)
  /-- A failure of another kind, raised outside of this program. -/
  | other (name message : String)
  deriving DecidableEq, Repr, Inhabited

namespace Failure

/-- The name under which a failure is reported. -/
@[simp]
def name : Failure → String
  | .needsAuthorization => "ReauthenticateError"
  | .missingHeader _ => "MissingHeaderError"
  | .noRequestsLeft => "OutOfRequestsError"
  | .rejectedNotice _ => "NotificationError"
  | .badRule _ => "RuleError"
  | .invalid _ => "ValidationError"
  | .transport fault _ => fault.name
  | .badBody _ => "JSONDecodeError"
  | .missingKey _ => "KeyError"
  | .wrongKind _ => "TypeError"
  | .missingAttribute _ => "AttributeError"
  | .mixedZones => "TypeError"
  | .widePrice => "OverflowError"
  | .wideInteger => "OverflowError"
  | .wideBound => "OverflowError"
  | .infiniteCount => "OverflowError"
  | .nanCount => "ValueError"
  | .timeOutOfRange => "OverflowError"
  | .badInteger _ => "ValueError"
  | .badNumber _ => "ValueError"
  | .badFlag _ => "ValueError"
  | .longInteger => "ValueError"
  | .undecodable => "UnicodeDecodeError"
  | .unencodable _ => "UnicodeEncodeError"
  | .unwritableToken _ => "PydanticSerializationError"
  | .unknownUser => "RuntimeError"
  | .badYaml => "YAMLError"
  | .badScalar => "ValueError"
  | .emptyNumber => "IndexError"
  | .wideEscape => "OverflowError"
  | .endless => "RecursionError"
  | .badEnvironment => "SettingsError"
  | .fileNotFound _ => "FileNotFoundError"
  | .isDirectory _ => "IsADirectoryError"
  | .database _ => "OperationalError"
  | .integrity => "IntegrityError"
  | .foreignFile => "DatabaseError"
  | .fileInPlace _ => "FileExistsError"
  | .notDirectory _ => "NotADirectoryError"
  | .nullInPath => "ValueError"
  | .badAddress _ => "ValueError"
  | .badMarkup .emptyPart => "ValueError"
  | .badMarkup _ => "MarkupError"
  | .cancelled _ => "CancelledError"
  | .other name _ => name

/-- The words for a failure. -/
def message : Failure → String
  | .needsAuthorization => "Need auth"
  | .missingHeader name => "Missing header: " ++ name
  | .noRequestsLeft => "no requests remaining"
  | .rejectedNotice message => message
  | .badRule cause => cause.message
  | .invalid _ => "validation failed"
  | .transport _ message => message
  | .badBody message => message
  | .missingKey key => quoted key
  | .wrongKind message => message
  | .missingAttribute message => message
  | .mixedZones => "can't compare offset-naive and offset-aware datetimes"
  | .widePrice => "int too large to convert to float"
  | .wideInteger => "Python int too large to convert to SQLite INTEGER"
  | .wideBound => "int too big to convert"
  | .infiniteCount => "cannot convert float infinity to integer"
  | .nanCount => "cannot convert float NaN to integer"
  | .timeOutOfRange => "date value out of range"
  | .badInteger text => "invalid literal for int() with base 10: " ++ quoted text
  | .badNumber text => "could not convert string to float: " ++ quoted text
  | .badFlag text => "String is not true/false: " ++ quoted text
  | .longInteger => "Exceeds the limit for integers"
  | .undecodable => "invalid start byte"
  | .unencodable fault => fault.message
  | .unwritableToken fault =>
    "Error serializing to JSON: UnicodeEncodeError: " ++ fault.message
  | .unknownUser => "Could not determine home directory."
  | .badYaml => "invalid document"
  | .badScalar => "invalid value"
  | .emptyNumber => "string index out of range"
  | .wideEscape => "signed integer is greater than maximum"
  | .endless => "maximum recursion depth exceeded"
  | .badEnvironment => "error parsing value"
  | .fileNotFound path => "No such file or directory: " ++ quoted path
  | .isDirectory path => "Is a directory: " ++ quoted path
  | .database message => message
  | .integrity => "constraint failed"
  | .foreignFile => "file is not a database"
  | .fileInPlace path => "File exists: " ++ quoted path
  | .notDirectory path => "Not a directory: " ++ quoted path
  | .nullInPath => "embedded null byte"
  | .badAddress fault => fault.message
  | .badMarkup fault => fault.message
  | .cancelled message => message
  | .other _ message => message

/-- Whether a task was cancelled. -/
def isCancelled : Failure → Bool
  | .cancelled _ => true
  | _ => false

/-- Whether a request to a remote service failed, or its answer could not be read. -/
def isTransport : Failure → Bool
  | .transport .. => true
  | .badBody _ => true
  | _ => false

/-- Whether the store failed. -/
def isDatabase : Failure → Bool
  | .database _ => true
  | .integrity => true
  | .foreignFile => true
  | _ => false

/-- Whether a notification was not delivered. -/
def isNotification : Failure → Bool
  | .rejectedNotice _ => true
  | .noRequestsLeft => true
  | _ => false

/-- Whether settings were read but are not valid. -/
def isConfiguration : Failure → Bool
  | .invalid _ => true
  | .badYaml => true
  | _ => false

end Failure

/-- A value, or the failure that took its place. -/
abbrev Outcome (α : Type) := Except Failure α

/-- The failure of reading a text in JSON that is beyond a limit, if that is what is wrong. -/
def Json.Error.limit? (e : Json.Error) : Option Failure :=
  match e.fault with
  | .longInteger => some .longInteger
  | .tooDeep => some .endless
  | _ => none

/-- A checked value, or the failure that lists its problems. -/
def Verdict.toOutcome {α : Type} : Verdict α → Outcome α
  | .accepted a => .ok a
  | .rejected ps => .error (.invalid ps)

end DealWatch
