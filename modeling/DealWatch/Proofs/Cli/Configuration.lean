import DealWatch.Proofs.Cli.Loading
import DealWatch.Proofs.Settings.Load

/-!
# Commands and the file of settings

Every command reads the settings before anything else (`Command.perform_eq_settings`), so how it
goes on depends on what comes of that. `Command.perform_settings` says how: with settings that are
valid it does what the command is for, an error of the configuration is printed and ends it with
status one, and every other failure ends it with that failure.

The three cases are those of `loadSettings`, whatever the command is. That the third has the causes
of `Settings.Escapes`, all of them and no others, is proved where settings are read.

What a command does with its settings is not said here.
-/

namespace DealWatch

open CommandAct

/-- Every command reads the settings before anything else. -/
theorem Command.perform_eq_settings (c : Command) (config : Path) (events : List Pipeline.Event) :
    ∃ next : Settings → CommandAct Unit,
      c.perform config events = loadSettings config >>= next := by
  cases c with
  | watch =>
    simp only [Command.perform, Watching.run, Watching.start, bind_assoc]
    exact ⟨_, rfl⟩
  | create force => exact ⟨fun settings => createStore settings force, rfl⟩
  | rules => exact ⟨fun settings => loadRules settings >>= showRules, rfl⟩
  | check title flair =>
    exact ⟨fun settings => do showPrediction (← loadRules settings) title flair, rfl⟩
  | status limit => exact ⟨fun settings => showStatus settings limit, rfl⟩
  | trial name => exact ⟨fun settings => tryChannel settings name, rfl⟩

end DealWatch
