import DealWatch.Main
import DealWatch.Pattern.Printer
import DealWatch.Pipeline.Clock
import DealWatch.Store.Shown
import DealWatch.Proofs.Pattern.Assembly
import DealWatch.Proofs.Pattern.Lexeme
import DealWatch.Proofs.Pattern.Walk
import DealWatch.Proofs.Pattern.Escape
import DealWatch.Proofs.Text.Tabs
import DealWatch.Proofs.Outside.Act
import DealWatch.Proofs.Pattern.Canonical
import DealWatch.Proofs.Pipeline.Match
import DealWatch.Proofs.Pipeline.History
import DealWatch.Proofs.Bytes.Base64
import DealWatch.Proofs.Pattern.Digest
import DealWatch.Proofs.Rule.Identity
import DealWatch.Proofs.Pipeline.RuleRecord
import DealWatch.Proofs.Pattern.Collision
import DealWatch.Proofs.Pipeline.Selection
import DealWatch.Proofs.Notice.Webhook
import DealWatch.Proofs.Notice.Answer
import DealWatch.Proofs.Notice.Sending
import DealWatch.Proofs.Notice.Quota
import DealWatch.Proofs.Pipeline.Channel
import DealWatch.Proofs.Pipeline.Supervise
import DealWatch.Proofs.Pipeline.Delivery
import DealWatch.Proofs.Pipeline.Flow
import DealWatch.Proofs.Pipeline.Interleaving
import DealWatch.Proofs.Pipeline.Acknowledgement
import DealWatch.Proofs.Pattern.Grouping
import DealWatch.Proofs.Pattern.Layout
import DealWatch.Proofs.Pattern.Reformatting
import DealWatch.Proofs.Rule.Reformatting
import DealWatch.Proofs.Feed.Client
import DealWatch.Proofs.Number.Rounding
import DealWatch.Proofs.Pipeline.Polling
import DealWatch.Proofs.Pipeline.Authorization
import DealWatch.Proofs.Text.Utf8
import DealWatch.Proofs.Outside.Files
import DealWatch.Proofs.Number.Digits
import DealWatch.Proofs.Number.Bounds
import DealWatch.Proofs.Json.RoundTrip
import DealWatch.Proofs.Calendar.Date
import DealWatch.Proofs.Calendar.Timestamp
import DealWatch.Proofs.Feed.Token
import DealWatch.Proofs.Feed.Restart
import DealWatch.Proofs.Pipeline.Progress
import DealWatch.Proofs.Pattern.Reprinting
import DealWatch.Proofs.Pipeline.Settling
import DealWatch.Proofs.Listing.Title
import DealWatch.Proofs.Pattern.Fault
import DealWatch.Proofs.Pattern.Location
import DealWatch.Proofs.Pattern.Traversal
import DealWatch.Proofs.Notice.Batch
import DealWatch.Proofs.Pipeline.FailedOffer
import DealWatch.Proofs.Feed.Report
import DealWatch.Proofs.Data.Verdict
import DealWatch.Proofs.Feed.TokenFile
import DealWatch.Proofs.Pipeline.Alert
import DealWatch.Proofs.Text.Lower
import DealWatch.Proofs.Pattern.Verbatim
import DealWatch.Proofs.Pattern.Column
import DealWatch.Proofs.Bytes.Word
import DealWatch.Proofs.Rule.Compilation
import DealWatch.Proofs.Store.FirstWrite
import DealWatch.Proofs.Store.Recent
import DealWatch.Proofs.Pipeline.Recent
import DealWatch.Proofs.Text.Markup
import DealWatch.Proofs.Text.Rendering
import DealWatch.Proofs.Cli.Screen
import DealWatch.Proofs.Number.Decimal
import DealWatch.Proofs.Cli.Prediction
import DealWatch.Proofs.Cli.Loading
import DealWatch.Proofs.Json.Limits
import DealWatch.Proofs.Rule.File
import DealWatch.Proofs.Cli.RuleFile
import DealWatch.Proofs.Pattern.Guarded
import DealWatch.Proofs.Number.Magnitude
import DealWatch.Proofs.Pipeline.Admission
import DealWatch.Proofs.Text.Stretch
import DealWatch.Proofs.Settings.Expand
import DealWatch.Proofs.Failure
import DealWatch.Proofs.Yaml.Layout
import DealWatch.Proofs.Yaml.Value
import DealWatch.Proofs.Settings.Valid
import DealWatch.Proofs.Settings.Source
import DealWatch.Proofs.Settings.Load
import DealWatch.Proofs.Cli.Configuration
