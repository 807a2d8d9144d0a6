import DealWatch.Data.Datum
import DealWatch.Path

/-!
# Settings

The settings have a section for each part of the program. Every value has a default.
-/

namespace DealWatch

/-- The source of listings. -/
structure FeedSettings where
  authHost : String := "https://www.reddit.com/api/v1/"
  apiHost : String := "https://oauth.reddit.com/"
  tokenFile : Path := Path.ofText "data/token.json"
  username : String := ""
  password : String := ""
  clientId : String := ""
  clientSecret : String := ""
  userAgent : String := "salewatch/0.1"
  /-- The seconds between polls while there is quota left. -/
  waitSeconds : Int := 5
  subreddit : String := "buildapcsales"
  /-- The number of posts to ask for. -/
  pageSize : Int := 10
  timeout : Binary64 := Binary64.ofInt 30
  deriving DecidableEq, Repr, Inhabited

/-- The webhook that notifications go to. -/
structure WebhookSettings where
  enabled : Bool := false
  url : String := ""
  username : String := "SaleWatch"
  /-- The seconds between notifications. -/
  interval : Int := 10
  deriving DecidableEq, Repr, Inhabited

/-- The service that sends alerts as text messages. -/
structure SmsSettings where
  enabled : Bool := false
  apiUrl : String := "https://api.twilio.com/2010-04-01/Accounts/"
  apiKey : String := ""
  apiKeySecret : String := ""
  accountSid : String := ""
  sender : String := ""
  recipient : String := ""
  deriving DecidableEq, Repr, Inhabited

/-- The store. -/
structure StoreSettings where
  path : Path := Path.ofText "data/salewatch.db"
  deriving DecidableEq, Repr, Inhabited

/-- The stages and the channels between them. -/
structure PipelineSettings where
  /-- The number of items that a channel holds. -/
  capacity : Int := 32
  deriving DecidableEq, Repr, Inhabited

/-- The journal. -/
structure LogSettings where
  level : String := "INFO"
  format : String := "console"
  file : Option Path := none
  deriving DecidableEq, Repr, Inhabited

/-- All settings. -/
structure Settings where
  feed : FeedSettings := {}
  webhook : WebhookSettings := {}
  sms : SmsSettings := {}
  store : StoreSettings := {}
  pipeline : PipelineSettings := {}
  log : LogSettings := {}
  /-- The file with the first rules. -/
  rulesFile : Option Path := none
  /-- The definitions of the rules after those. -/
  rules : List Entries := []
  deriving Repr, Inhabited

end DealWatch
