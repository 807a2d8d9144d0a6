import DealWatch.Alert.Sms
import DealWatch.Cli.Arguments
import DealWatch.Cli.Screen
import DealWatch.Log.File
import DealWatch.Number.Decimal
import DealWatch.Pipeline.Run
import DealWatch.Rule.Prediction
import DealWatch.Text.Lower

/-!
# What commands do

Every command reads the settings first and then prints what it finds. Invalid settings, invalid
rules, a store that cannot be created and a notification that is not delivered end a command with
status one.

* `Command.perform` is a command that ends by itself;
* `Watching.start` and `Watching.finish` are the two ends of the command that watches the source:
  in between, the pipeline runs.
-/

namespace DealWatch

open CommandAct

/-! ### Settings and rules -/

/-- Reads the settings and makes the journal ready. -/
def loadSettings (config : Path) : CommandAct Settings := do
  let o ← ofAct Act.outside
  match Settings.load o.environment o.files config with
  | .ok s =>
    ofAct (Log.prepare s.log)
    return s
  | .error f =>
    if f.isConfiguration then
      say ("[red]Invalid configuration: " ++ Markup.escape f.message ++ "[/red]")
      quit
    else ofAct (Act.fail f)

/-- The rules that settings name. -/
def loadRules (s : Settings) : CommandAct RuleSet := do
  match s.ruleSet (← ofAct Act.files) with
  | .ok rules => return rules
  | .error (.badRule cause) =>
    say ("[red]Invalid rules: " ++ Markup.escape cause.message ++ "[/red]")
    quit
  | .error f => ofAct (Act.fail f)

/-- Runs a step that makes a store. A store that cannot be made ends the command. -/
def makeStore {α : Type} (act : CommandAct α) : CommandAct α :=
  ExceptT.mk do
    match ← Act.attempt (ExceptT.run act) with
    | .ok result => return result
    | .error f => ExceptT.run do
      if f.isDatabase then
        ofAct (Act.log .failure "Failed to initialize database" [])
        say ("[red]Error initializing database: " ++ Markup.escape f.message ++ "[/red]")
        quit
      else ofAct (Act.fail f)

/-! ### Commands that end by themselves -/

/-- Creates the store of the settings. One that is there stays, unless it is forced to be made
anew. -/
def createStore (s : Settings) (force : Bool) : CommandAct Unit := do
  let path := s.store.path
  let isThere := (← ofAct Act.files).contains path
  if isThere && !force then
    say ("[green]Database already exists at " ++ path.toText ++ "[/green]\n" ++
      "[dim]Use --force to reinitialize (this will delete all data).[/dim]")
  else
    makeStore do
      let _ ← onDatabase (Database.openAt (some path))
      if isThere then
        ofAct (Act.log .warning "Reinitializing database" [("path", .text path.toText)])
        onDatabase Database.reset
        say ("[green]Database reinitialized at " ++ path.toText ++ "[/green]")
      else
        ofAct (Act.log .info "Initializing database" [("path", .text path.toText)])
        onDatabase Database.create
        say ("[green]Database initialized at " ++ path.toText ++ "[/green]")
    onDatabase Database.close

/-- The source of a pattern in a table. -/
def patternCell (p : Option SourcedPattern) : String :=
  match p with
  | some p => Markup.escape p.source
  | none => "-"

/-- The bounds of a price in a table. -/
def priceCell (low high : Option Int) : String :=
  let amount (bound : Option Int) : String := (bound.map fun i => "$" ++ toString i).getD ""
  if low.isNone && high.isNone then "any" else amount low ++ ".." ++ amount high

/-- The row of a rule with its position. -/
def ruleRow (position : Nat) (r : Rule) : Outcome (List String) := do
  return [toString position, Markup.escape r.displayName, patternCell r.flair,
    patternCell r.productType, patternCell r.description, priceCell r.priceMin r.priceMax,
    ← r.tryFingerprint]

/-- Shows rules in their order. -/
def showRules (rules : RuleSet) : CommandAct Unit := do
  if rules.rules.isEmpty then
    say "[yellow]No rules configured.[/yellow]"
    say "Set rules_file or rules in your config.yaml file."
  else
    let rows ← ofAct (Act.ofOutcome (rules.rules.zipIdx.mapM fun e => ruleRow (e.2 + 1) e.1))
    showTable "Rules" ["#", "Name", "Flair", "Type", "Description", "Price", "Fingerprint"] rows

/-- An optional text in a table. -/
def optionalCell (s : Option String) : String :=
  match s with
  | none => "-"
  | some s => if s == "" then "-" else Markup.escape s

/-- Shows how a title is read and which rule would accept it. -/
def showPrediction (rules : RuleSet) (title : String) (flair : Option String) :
    CommandAct Unit := do
  match ← ofAct (Act.ofOutcome (rules.predict title flair)) with
  | none =>
    say "[yellow]Title could not be parsed.[/yellow]"
    say "Expected a title like: [bold]\\[GPU] Some card $499.99[/bold]"
    quit
  | some p =>
    showTable "Parsed Title" ["Field", "Value"] [
      ["Product Type", Markup.escape p.title.productType],
      ["Description", Markup.escape p.title.description],
      ["Price", p.price.generalText],
      ["Extra", optionalCell p.title.extra],
      ["Flair", optionalCell flair]]
    match p.rule with
    | none => say "[yellow]No rule matches.[/yellow]"
    | some r =>
      let fingerprint ← ofAct (Act.ofOutcome r.tryFingerprint)
      say ("[green]Matches rule:[/green] " ++ Markup.escape r.displayName ++
        " [dim](" ++ fingerprint ++ ")[/dim]")

/-- The name of a stored rule. -/
def recordName (r : RuleRecord) : String :=
  match r.name with
  | none => Rule.unnamed
  | some s => if s == "" then Rule.unnamed else s

/-- The date and the time of day, without the part of the second. -/
def momentCell (micros : Int) : String :=
  let t : Timestamp := ⟨micros, none⟩
  t.date.isoText ++ " " ++ t.clockText

/-- The row of a match with its rule and its post. -/
def matchRow (m : MatchRecord) (r : RuleRecord) (p : Post) : List String :=
  [momentCell m.created, Markup.escape (recordName r), Markup.escape p.title]

/-- Shows how much is stored, and the latest matches. -/
def showStatus (s : Settings) (limit : Int) : CommandAct Unit := do
  let path := s.store.path
  if (← ofAct Act.files).contains path then
    let _ ← onDatabase (Database.openAt (some path))
    onDatabase Database.create
    let (counts, recent) ← onDatabase (Database.run do
      let stored ← Act.state
      return (stored.counts, ← Act.ofOutcome (stored.recentMatches limit)))
    showTable "SaleWatch Status" ["Metric", "Value"] [
      ["Database Path", path.toText],
      ["Posts", toString counts.posts],
      ["Parsed Titles", toString counts.titles],
      ["Rules", toString counts.rules],
      ["Matches", toString counts.hits]]
    if recent.isEmpty then say "[dim]No matches yet.[/dim]"
    else
      showTable ("Recent Matches (" ++ toString recent.length ++ " shown)")
        ["Matched", "Rule", "Title"] (recent.map fun (m, r, p) => matchRow m r p)
  else
    say ("[yellow]Database not found at " ++ path.toText ++ "[/yellow]")
    say "Run [bold]salewatch init[/bold] to create the database."
    quit

/-- The notice that shows whether notifications arrive. -/
def trialNotice (s : Settings) : Notice where
  title := "Test Rule"
  body := "[GPU] SaleWatch configuration test $0.00"
  link := "https://www.reddit.com/r/" ++ s.feed.subreddit ++ "/new"

/-- A channel by its name in letters of any case: whether it can send, and the step that sends
something through it. -/
def channel? (s : Settings) (name : String) : Option (Bool × Act Session Unit) :=
  if lower name == Webhook.channelName then
    let w : Webhook := ⟨s.webhook, none⟩
    some (w.isEnabled, Act.alone w (discard (Webhook.sendBatch [trialNotice s])))
  else if lower name == Sms.channelName then
    some (Sms.isEnabled s.sms, discard (Sms.send s.sms "This is a test message from SaleWatch."))
  else none

/-- Sends a notification through a channel. -/
def tryChannel (s : Settings) (name : String) : CommandAct Unit := do
  match channel? s name with
  | none =>
    say ("[red]Unknown channel: " ++ name ++ "[/red]")
    say "Valid channels: discord, sms"
    quit
  | some (isEnabled, send) =>
    if !isEnabled then
      say ("[yellow]" ++ name ++ " notifications are not enabled or configured.[/yellow]")
      say "Check your config.yaml file."
      quit
    else
      say ("[blue]Sending test notification via " ++ name ++ "...[/blue]")
      match ← ofAct (Act.attempt send) with
      | .ok () => say ("[green]Test notification sent successfully via " ++ name ++ "![/green]")
      | .error f =>
        if f.isNotification || f.isTransport then
          say ("[red]Failed to send test notification via " ++ name ++ ": " ++
            Markup.escape f.message ++ "[/red]")
          quit
        else ofAct (Act.fail f)

/-! ### Watching the source -/

namespace Watching

/-- Reads settings and rules, makes the store, and sets the pipeline up. -/
def start (config : Path) : CommandAct Pipeline := do
  let s ← loadSettings config
  let rules ← loadRules s
  let w : Webhook := ⟨s.webhook, none⟩
  if !w.isEnabled then
    say "[yellow]Discord notifications are not enabled or configured.[/yellow]"
    say "Matches would be stored but never sent. Check your config.yaml file."
    quit
  else
    makeStore do
      let _ ← onDatabase (Database.openAt (some s.store.path))
      onDatabase Database.create
    ofAct (Act.log .info "Starting SaleWatch" [("subreddit", .text s.feed.subreddit),
      ("rules", .nat rules.size), ("wait_time_secs", .int s.feed.waitSeconds)])
    say ("[blue]Watching r/" ++ s.feed.subreddit ++ " with " ++ toString rules.size ++
      " rules...[/blue]")
    say "[dim]Press Ctrl+C to stop[/dim]\n"
    return Pipeline.ofSettings s rules (← onDatabase (Database.run Act.state))

/-- Keeps what the pipeline stored, and says why it ended if it ended by itself. -/
def finish (p : Pipeline) (ended : Option Failure) : CommandAct Unit := do
  onDatabase (Database.run (Act.put p.store))
  onDatabase Database.close
  match ended with
  | none => return
  | some f =>
    say ("[red]Pipeline stopped: " ++ Markup.escape f.message ++ "[/red]")
    quit

/-- Watches the source while some events happen, until the pipeline ends. -/
def run (config : Path) (events : List Pipeline.Event) : CommandAct Unit := do
  let p ← start config
  let watch : Act Pipeline Unit := do
    Pipeline.start
    for e in events do
      unless (← Act.state).ended.isSome do Pipeline.happen e
  let (result, p) ← ofAct (Act.alone p (do return (← Act.attempt watch, ← Act.state)))
  finish p (match result with
    | .ok () => p.ended
    | .error f => some f)

end Watching

/-- Runs a command. One that watches the source sees some events. -/
def Command.perform (config : Path) (events : List Pipeline.Event) (c : Command) :
    CommandAct Unit := do
  match c with
  | .create force => createStore (← loadSettings config) force
  | .watch => Watching.run config events
  | .rules => showRules (← loadRules (← loadSettings config))
  | .check title flair => showPrediction (← loadRules (← loadSettings config)) title flair
  | .status limit => showStatus (← loadSettings config) limit
  | .trial name => tryChannel (← loadSettings config) name

/-- What the program says about its version. -/
def versionLine : String := "[bold blue]SaleWatch[/bold blue] version 0.1.0"

/-- Runs what the command line asks for. The result is the status. -/
def CommandLine.perform (events : List Pipeline.Event) (c : CommandLine) : CommandAct Unit := do
  match c with
  | .command config c => c.perform config events
  | .version => say versionLine
  | .help => return
  | .misuse => throw 2

end DealWatch
