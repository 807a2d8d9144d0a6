import DealWatch.Cli.Perform
import DealWatch.Proofs.Cli.Screen
import DealWatch.Proofs.Outside.Files

/-!
# Reading settings and rules

* `loadSettings_read` and `loadRules_run` say how settings and rules are read;
* `exists_render_refusal` says what appears if they are wrong;
* `loadSettings_refused` and `loadRules_refused` say that wrong settings and wrong rules end a
  command with status one, `loadSettings_failed` and `loadRules_failed` that other failures do not.

A message is printed between two tags that colour it. Its markup is escaped, so it appears as it is,
unless a backslash at its end makes text of the closing tag. Both kinds of message are introduced in
the same way (`Introduces`), so they are rendered by one lemma.
-/

namespace DealWatch

open CommandAct

/-- The standard file of settings can stand on a disk. -/
theorem Settings.hasNul_standardPath : Settings.standardPath.hasNul = false :=
  Path.hasNul_eq_false (by decide +kernel)

/-- Settings that are read make the journal ready. -/
theorem loadSettings_read {config : Path} {o : Outside} {settings : Settings}
    (h : Settings.load o.environment o.files config = .ok settings) (s : Session) :
    (loadSettings config).runWith s o =
      (do
        ofAct (Log.prepare settings.log)
        return settings : CommandAct Settings).runWith s o := by
  have houtside : (ofAct Act.outside).runWith s o = (.ok (.ok o), s, o) := rfl
  unfold loadSettings
  rw [runWith_bind_ok houtside, h]

theorem loadSettings_run {config : Path} {o : Outside} {settings : Settings}
    (h : Settings.load o.environment o.files config = .ok settings) (hlog : settings.log.file = none)
    (s : Session) : (loadSettings config).runWith s o = (.ok (.ok settings), s, o) := by
  have hprepare : (ofAct (Log.prepare settings.log)).runWith s o = (.ok (.ok ()), s, o) := by
    rw [Log.prepare, hlog]
    rfl
  rw [loadSettings_read h, runWith_bind_ok hprepare]
  rfl

section Refusal

open Markup

/-- A text in red that comes before a message as it stands: it ends in a blank, and nothing in it
means anything to the screen. -/
structure Introduces (marked start : String) : Prop where
  marked : marked = "[red]" ++ start
  blank : start.toList.getLast? = some ' '
  bracket : '[' ∉ start.toList
  backslash : '\\' ∉ start.toList
  colon : start.toList.count ':' ≤ 1
  control : (start.toList.all fun c => !isControl c) = true

/-- The line for a failure begins in the same way for every message, and the words of the message
follow as they appear alone, unless they end in a backslash. -/
theorem exists_render_refusal {marked start : String} (h : Introduces marked start)
    (message : String) :
    ∃ words, render (marked ++ escape message ++ "[/red]") = .ok (start ++ words) ∧
      (message.toList.getLast? ≠ some '\\' → words = onScreen message) := by
  have hred : IsStyle "red".toList := isStyle_of_mem "red" (by decide)
  obtain ⟨openStyles, hopens, hcloses⟩ := hred.exists_open
  have hplain : EndsApart start.toList.reverse := by
    obtain ⟨cs, hcs⟩ := List.getLast?_eq_some_iff.1 h.blank
    rw [hcs, List.reverse_append, List.reverse_singleton, List.singleton_append]
    exact endsApart_blank _
  obtain ⟨t, ht, hwords⟩ := exists_renderFrom_escape message hplain hred.closing hred.closes hcloses
  refine ⟨String.ofList t, ?_, fun hlast => by rw [hwords hlast, String.ofList_toList]⟩
  have hfirst : "[red]".toList = withTag 0 "red".toList [] := by decide
  have hlast : "[/red]".toList = withTag 0 ('/' :: "red".toList) [] := by decide
  have hshown : shown start.toList = start.toList :=
    shown_of_colon h.colon h.backslash h.control
  rw [render_eq_renderFrom, h.marked, String.toList_append, String.toList_append,
    String.toList_append, hfirst, hlast, withTag_append, withTag_append, withTag_append, List.nil_append,
    List.append_assoc, renderFrom_tag hred.opening hred.opens hopens,
    renderFrom_append h.bracket h.backslash, List.append_nil, ht, List.reverse_reverse, hshown, List.reverse_nil, shown_nil]
  simp only [Functor.map, Except.map, List.nil_append]
  refine congrArg Except.ok (String.toList_inj.1 ?_)
  simp

theorem introduces_rules : Introduces "[red]Invalid rules: " "Invalid rules: " where
  marked := by decide
  blank := by decide
  bracket := by decide
  backslash := by decide
  colon := by decide
  control := by decide

theorem introduces_configuration :
    Introduces "[red]Invalid configuration: " "Invalid configuration: " where
  marked := by decide
  blank := by decide
  bracket := by decide
  backslash := by decide
  colon := by decide
  control := by decide

end Refusal

section Settings

variable {config : Path} {o : Outside} {f : Failure}

/-- An error of the configuration is reported, and the command ends with status one. -/
theorem loadSettings_refused (h : Settings.load o.environment o.files config = .error f)
    (hf : f.isConfiguration = true) (s : Session) :
    ∃ words, (loadSettings config).runWith s o =
        (.ok (.error 1), s.show [.line ("Invalid configuration: " ++ words)], o) ∧
      (f.message.toList.getLast? ≠ some '\\' → words = Markup.onScreen f.message) := by
  have houtside : (ofAct Act.outside).runWith s o = (.ok (.ok o), s, o) := rfl
  obtain ⟨words, hrender, hwords⟩ := exists_render_refusal introduces_configuration f.message
  refine ⟨words, ?_, hwords⟩
  unfold loadSettings
  rw [runWith_bind_ok houtside, h]
  dsimp only
  rw [if_pos hf, runWith_bind_ok (runWith_say hrender s o), runWith_quit]

/-- Any other failure is one of the command. -/
theorem loadSettings_failed (h : Settings.load o.environment o.files config = .error f)
    (hf : f.isConfiguration = false) (s : Session) :
    (loadSettings config).runWith s o = (.error f, s, o) := by
  have houtside : (ofAct Act.outside).runWith s o = (.ok (.ok o), s, o) := rfl
  unfold loadSettings
  rw [runWith_bind_ok houtside, h]
  dsimp only
  rw [hf]
  rfl

end Settings

section Rules

variable {settings : Settings} {o : Outside}

theorem runWith_files (s : Session) (o : Outside) :
    (ofAct Act.files).runWith s o = (.ok (.ok o.files), s, o) := rfl

theorem loadRules_run {rules : RuleSet} (h : settings.ruleSet o.files = .ok rules) (s : Session) :
    (loadRules settings).runWith s o = (.ok (.ok rules), s, o) := by
  rw [loadRules, runWith_bind_ok (runWith_files s o), h]
  rfl

/-- Rules that are wrong are reported, and the command ends with status one. -/
theorem loadRules_refused {cause : RuleError}
    (h : settings.ruleSet o.files = .error (.badRule cause)) (s : Session) :
    ∃ words, (loadRules settings).runWith s o =
        (.ok (.error 1), s.show [.line ("Invalid rules: " ++ words)], o) ∧
      (cause.message.toList.getLast? ≠ some '\\' → words = Markup.onScreen cause.message) := by
  obtain ⟨words, hrender, hwords⟩ := exists_render_refusal introduces_rules cause.message
  refine ⟨words, ?_, hwords⟩
  rw [loadRules, runWith_bind_ok (runWith_files s o), h]
  dsimp only
  rw [runWith_bind_ok (runWith_say hrender s o), runWith_quit]

/-- Any other failure is one of the command. -/
theorem loadRules_failed {f : Failure} (h : settings.ruleSet o.files = .error f)
    (hf : ∀ cause, f ≠ .badRule cause) (s : Session) :
    (loadRules settings).runWith s o = (.error f, s, o) := by
  rw [loadRules, runWith_bind_ok (runWith_files s o), h]
  split
  · rename_i heq
    cases heq
  · rename_i cause heq
    cases heq
    exact absurd rfl (hf cause)
  · rename_i heq
    cases heq
    rfl

end Rules

end DealWatch
