import DealWatch.Proofs.Cli.Loading
import DealWatch.Proofs.Rule.File
import DealWatch.Proofs.Settings.Load

/-!
# Commands and the file of rules

A command that needs the rules reads them right after the settings.

* `Settings.ruleSet_of_file` says how wrong rules in the file reach the command;
* `Command.perform_ruleFile` says how the command ends then.

What the bytes of the file can give is said in one place for all commands (`RuleSet.ReadAs`). Of its
failures an error of the rules is printed, and the others pass through the command unchanged.
-/

namespace DealWatch

open CommandAct

/-- Whether a command needs the rules. -/
def Command.needsRules : Command → Bool
  | .watch | .rules | .check .. => true
  | _ => false

/-- A command that needs the rules reads the settings and the rules before anything else. -/
theorem Command.perform_eq_bind {c : Command} (hc : c.needsRules = true) (config : Path)
    (events : List Pipeline.Event) :
    ∃ next : Settings → RuleSet → CommandAct Unit,
      c.perform config events =
        loadSettings config >>= fun settings => loadRules settings >>= next settings := by
  cases c with
  | watch =>
    simp only [Command.perform, Watching.run, Watching.start, bind_assoc]
    exact ⟨_, rfl⟩
  | rules => exact ⟨fun _ rules => showRules rules, rfl⟩
  | check title flair => exact ⟨fun _ rules => showPrediction rules title flair, rfl⟩
  | create | status | trial => cases hc

theorem Files.readRules_of_find? {fs : Files} {p : Path} {bytes : List UInt8}
    (h : fs.find? p = some (.file bytes)) :
    fs.readRules p = RuleSet.ofBytes p.toText (some bytes) := by
  have hcontains : fs.contains p = true := by rw [contains, h]; rfl
  have hbytes : fs.readBytes p = .ok bytes := by rw [readBytes, h]
  rw [readRules, if_pos hcontains, hbytes]
  rfl

/-- What is wrong with the file of rules is what is wrong with the rules of the settings. -/
theorem Settings.ruleSet_of_file {fs : Files} {settings : Settings} {p : Path}
    {bytes : List UInt8} {f : Failure} (hfile : settings.rulesFile = some p)
    (hnode : fs.find? p = some (.file bytes))
    (h : RuleSet.ofBytes p.toText (some bytes) = .error f) : settings.ruleSet fs = .error f := by
  rw [← Files.readRules_of_find? hnode] at h
  rw [ruleSet, hfile]
  simp only [h]
  rfl

/-- **A file of rules and the commands that need it.** The bytes of the file give rules, an error of
the rules, or one of three other failures. An error of the rules is shown, and the command ends with
status one. Any other failure is one of the command. -/
theorem Command.perform_ruleFile {c : Command} (hc : c.needsRules = true) (config : Path)
    (events : List Pipeline.Event) {s s' : Session} {o o' : Outside} {settings : Settings}
    {p : Path} {bytes : List UInt8}
    (hsettings : (loadSettings config).runWith s o = (.ok (.ok settings), s', o'))
    (hfile : settings.rulesFile = some p) (hnode : o'.files.find? p = some (.file bytes)) :
    RuleSet.ReadAs p.toText bytes (RuleSet.ofBytes p.toText (some bytes)) ∧
    (∀ cause, RuleSet.ofBytes p.toText (some bytes) = .error (.badRule cause) → ∃ words,
      (c.perform config events).runWith s o =
        (.ok (.error 1), s'.show [.line ("Invalid rules: " ++ words)], o') ∧
      (cause.message.toList.getLast? ≠ some '\\' → words = Markup.onScreen cause.message)) ∧
    ∀ f, RuleSet.ofBytes p.toText (some bytes) = .error f → (∀ cause, f ≠ .badRule cause) →
      (c.perform config events).runWith s o = (.error f, s', o') := by
  obtain ⟨next, hnext⟩ := c.perform_eq_bind hc config events
  rw [hnext, runWith_bind_ok hsettings, runWith_bind]
  refine ⟨RuleSet.ofBytes_readAs _ _, fun cause hcause => ?_, fun f hf hother => ?_⟩
  · obtain ⟨words, hrun, hwords⟩ :=
      loadRules_refused (Settings.ruleSet_of_file hfile hnode hcause) s'
    exact ⟨words, by rw [hrun], hwords⟩
  · rw [loadRules_failed (Settings.ruleSet_of_file hfile hnode hf) hother s']

/-- This file of rules, which the settings name, holds a number. -/
theorem Command.perform_ruleFile_number :
    ∃ o : Outside, (Command.rules.perform Settings.standardPath []).runWith Session.start o =
      (.ok (.error 1), Session.start.show [.line "Invalid rules: JSON should be an array"], o) := by
  let rulesPath : Path := ⟨"", ["rules.json"]⟩
  let text := "rules_file: rules.json\n"
  let o : Outside := { (default : Outside) with
    files := ⟨⟨"/", ["home"]⟩, [(⟨"/", ["home", "config.yaml"]⟩, .file (utf8 text)),
      (⟨"/", ["home", "rules.json"]⟩, .file [0x37])]⟩ }
  have hnode : o.files.find? rulesPath = some (.file [0x37]) := by
    rw [Files.find?, Path.hasNul_eq_false (by decide)]
    decide +kernel
  have hconfig : o.files.find? Settings.standardPath = some (.file (utf8 text)) := by
    rw [Files.find?, Settings.hasNul_standardPath]
    decide +kernel
  have htext : o.files.readText Settings.standardPath = .ok text := by
    rw [Files.readText, Files.readBytes, hconfig]
    decide +kernel
  have hread : (do
      let settings ← Settings.load o.environment o.files Settings.standardPath
      if settings.log.file = none ∧ settings.rulesFile = some rulesPath then .ok ()
      else .error .badYaml : Outcome Unit) = .ok () := by
    rw [Settings.load_eq_bind, Settings.documentOf_of_text htext]
    decide +kernel
  obtain ⟨settings, hsettings, hfields⟩ := Outcome.bind_eq_ok.1 hread
  split at hfields
  · rename_i hfield
    have hload := loadSettings_run hsettings hfield.1 Session.start
    obtain ⟨-, hrefused, -⟩ :=
      Command.perform_ruleFile (c := .rules) rfl Settings.standardPath [] hload hfield.2 hnode
    obtain ⟨words, hrun, hwords⟩ := hrefused .notList (by decide +kernel)
    rw [hwords (by decide), Markup.onScreen_eq_self (by decide)] at hrun
    exact ⟨o, hrun⟩
  · cases hfields

end DealWatch
