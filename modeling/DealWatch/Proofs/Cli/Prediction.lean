import DealWatch.Cli.Perform
import DealWatch.Proofs.Bytes.Base64
import DealWatch.Proofs.Cli.Loading
import DealWatch.Proofs.Number.Decimal
import DealWatch.Proofs.Pipeline.Prediction

/-!
# Trying out a title

The command that tries out a title shows what the match stage does with a new listing of that title.

* `showPrediction_run` says what appears for each prediction;
* `Command.check_agrees` compares it with the match stage.

The stage and the command both compute the prediction, the stage from the listing it offers and the
command from the title and flair. Where the stage gives an answer the prediction is the rule in it,
and what is left is to render the prediction: the cells of the table and the line with the verdict
are escaped texts, numbers, and tags that the command puts around them.

Nothing is said about a listing on which the stage fails, or about one that was seen before.
-/

namespace DealWatch

open CommandAct

/-! ### Cells and lines -/

theorem Markup.isPlain_of_isNumeral {s : String} (h : IsNumeral s) :
    s.toList.all isPlain = true := by
  refine List.all_eq_true.2 fun c hc => ?_
  by_contra hplain
  have hletters : ['-', '+', '.', 'a', 'e', 'f', 'i', 'n'].all isPlain = true := by decide
  obtain hdigit | hletter := h c hc
  · have hspecial : c ∈ [':', '\\', '[', '\x07', '\x08', '\x0b', '\x0c', '\r'] := by
      simpa [isPlain, standsForItself, isControl, imp_iff_or_not, or_assoc, or_comm,
        or_left_comm] using hplain
    have hnone : [':', '\\', '[', '\x07', '\x08', '\x0b', '\x0c', '\r'].all
        (fun d => !d.isDigit) = true := by decide
    have hother := List.all_eq_true.1 hnone c hspecial
    rw [hdigit] at hother
    cases hother
  · exact hplain (List.all_eq_true.1 hletters c hletter)

theorem rendered_generalText (x : Binary64) : rendered x.generalText = .ok x.generalText :=
  rendered_of_render (Markup.render_of_plain (Markup.isPlain_of_isNumeral
    (Binary64.isNumeral_generalText x)))

/-- An optional text as it appears in a table. -/
def optionalShown (s : Option String) : String :=
  match s with
  | none => "-"
  | some s => if s == "" then "-" else Markup.onScreen s

theorem rendered_optionalCell (s : Option String) :
    rendered (optionalCell s) = .ok (optionalShown s) := by
  have hdash : rendered "-" = .ok "-" := rendered_of_render (Markup.render_of_plain (by decide))
  cases s with
  | none => exact hdash
  | some s =>
    simp only [optionalCell, optionalShown]
    split
    · exact hdash
    · exact rendered_escape s

/-- The table of a title that could be read. -/
def Prediction.table (p : Prediction) (flair : Option String) : Printed :=
  .table "Parsed Title" ["Field", "Value"] [
    ["Product Type", Markup.onScreen p.title.productType],
    ["Description", Markup.onScreen p.title.description],
    ["Price", p.price.generalText],
    ["Extra", optionalShown p.title.extra],
    ["Flair", optionalShown flair]]

/-- The line for the rule that accepts. -/
def verdictLine : Option Rule → Printed
  | none => .line "No rule matches."
  | some r =>
    .line ("Matches rule: " ++ Markup.onScreen r.displayName ++ " (" ++ r.fingerprint ++ ")")

/-- The lines for a title that cannot be read. -/
def unreadableLines : List Printed := [
  .line "Title could not be parsed.",
  .line "Expected a title like: [GPU] Some card $499.99"]

theorem isPlain_fingerprint (r : Rule) : r.fingerprint.toList.all Markup.isPlain = true := by
  have hall : ('=' :: base64Alphabet).all Markup.isPlain = true := by decide
  exact List.all_eq_true.2 fun c hc => List.all_eq_true.1 hall c (mem_base64 hc)

section Verdict

open Markup

theorem firstBracket?_blank_inStyle (name cs t : List Char) :
    firstBracket? (' ' :: inStyle name cs t) = some '[' :=
  firstBracket?_withTag 0 name (cs ++ withTag 0 ('/' :: name) t)

theorem render_verdict (r : Rule) :
    render ("[green]Matches rule:[/green] " ++ escape r.displayName ++ " [dim](" ++
      r.fingerprint ++ ")[/dim]") =
      .ok ("Matches rule: " ++ onScreen r.displayName ++ " (" ++ r.fingerprint ++ ")") := by
  have hgreen : IsStyle "green".toList := isStyle_of_mem "green" (by decide)
  have hdim : IsStyle "dim".toList := isStyle_of_mem "dim" (by decide)
  have hfingerprint : ('(' :: (r.fingerprint.toList ++ [')'])).all isPlain = true := by
    rw [List.all_cons, List.all_append, isPlain_fingerprint]
    rfl
  have hfirst : "[green]Matches rule:[/green] ".toList =
      inStyle "green".toList "Matches rule:".toList [' '] := by decide
  have hsecond : " [dim](".toList = ' ' :: withTag 0 "dim".toList ['('] := by decide
  have hthird : ")[/dim]".toList = ')' :: withTag 0 "/dim".toList [] := by decide
  have hmarkup : ("[green]Matches rule:[/green] " ++ escape r.displayName ++ " [dim](" ++
      r.fingerprint ++ ")[/dim]").toList =
      inStyle "green".toList "Matches rule:".toList (' ' :: ((escape r.displayName).toList ++
        ' ' :: inStyle "dim".toList ('(' :: (r.fingerprint.toList ++ [')'])) [])) := by
    simp only [String.toList_append, List.append_assoc, hfirst, hsecond, hthird, inStyle_append,
      List.cons_append, withTag_append, List.nil_append]
    rw [inStyle, inStyle, inStyle]
    simp
  have hshown : shown "Matches rule:".toList = "Matches rule:".toList :=
    shown_of_colon (by decide) (by decide) (by decide)
  have hblank : shown [' '] = [' '] := shown_eq_self rfl
  rw [render_eq_renderFrom, hmarkup, renderFrom_inStyle hgreen (by decide) (by decide), hshown,
    renderFrom_blank, renderFrom_escape _ (endsApart_blank []) (startsApart_blank _)
      (by rw [firstBracket?_blank_inStyle]; decide)
      (fun _ => tagAt?_other (by decide) (by decide) _), renderFrom_blank,
    renderFrom_inStyle hdim (notMem_of_isPlain hfingerprint rfl)
      (notMem_of_isPlain hfingerprint rfl), renderFrom_nil, shown_of_isPlain hfingerprint]
  simp only [List.reverse_nil, List.reverse_singleton, shown_nil, hblank, Functor.map, Except.map]
  refine congrArg Except.ok (String.toList_inj.1 ?_)
  simp

theorem render_unreadable : render "[yellow]Title could not be parsed.[/yellow]" =
    .ok "Title could not be parsed." :=
  render_inStyle "yellow" (isStyle_of_mem "yellow" (by decide)) (by decide) (by decide)

theorem render_expected : render "Expected a title like: [bold]\\[GPU] Some card $499.99[/bold]" =
    .ok "Expected a title like: [GPU] Some card $499.99" := by
  have hmarkup : "Expected a title like: [bold]\\[GPU] Some card $499.99[/bold]".toList =
      "Expected a title like: ".toList ++ withTag 0 "bold".toList
        ('\\' :: '[' :: ("GPU] Some card $499.99".toList ++
          withTag 0 ('/' :: "bold".toList) [])) := by
    decide
  have hbold : IsStyle "bold".toList := isStyle_of_mem "bold" (by decide)
  obtain ⟨openStyles, hopens, hcloses⟩ := hbold.exists_open
  have hprefix : shown "Expected a title like: ".toList = "Expected a title like: ".toList :=
    shown_of_colon (by decide) (by decide) (by decide)
  have htitle : shown (['[', '\\'].reverse ++ "GPU] Some card $499.99".toList) =
      "[GPU] Some card $499.99".toList :=
    (shown_bracket _).trans (shown_of_colon (by decide) (by decide) (by decide))
  -- the name of a type in capital letters is no tag
  rw [render_eq_renderFrom, hmarkup, renderFrom_append (by decide) (by decide),
    renderFrom_tag hbold.opening hbold.opens hopens, renderFrom_cons (by decide),
    renderFrom_cons (by decide), renderFrom_append (by decide) (by decide),
    renderFrom_tag hbold.closing hbold.closes hcloses, renderFrom_nil, List.append_nil,
    List.reverse_reverse, hprefix, List.reverse_append, List.reverse_reverse, List.reverse_nil,
    shown_nil]
  simp only [htitle, Functor.map, Except.map, List.append_nil]
  decide +kernel

theorem render_unmatched : render "[yellow]No rule matches.[/yellow]" = .ok "No rule matches." :=
  render_inStyle "yellow" (isStyle_of_mem "yellow" (by decide)) (by decide) (by decide)

end Verdict

/-! ### The command -/

theorem rendered_rows (p : Prediction) (flair : Option String) :
    [["Product Type", Markup.escape p.title.productType],
      ["Description", Markup.escape p.title.description],
      ["Price", p.price.generalText],
      ["Extra", optionalCell p.title.extra],
      ["Flair", optionalCell flair]].mapM (fun row => row.mapM rendered) =
      .ok [["Product Type", Markup.onScreen p.title.productType],
        ["Description", Markup.onScreen p.title.description],
        ["Price", p.price.generalText],
        ["Extra", optionalShown p.title.extra],
        ["Flair", optionalShown flair]] := by
  have hname (s : String) (h : s.toList.all Markup.isPlain = true) : rendered s = .ok s :=
    rendered_of_render (Markup.render_of_plain h)
  simp only [List.mapM_cons, List.mapM_nil, hname "Product Type" (by decide),
    hname "Description" (by decide), hname "Price" (by decide), hname "Extra" (by decide),
    hname "Flair" (by decide), rendered_escape, rendered_generalText, rendered_optionalCell, bind,
    Except.bind, pure, Except.pure]

/-- **What the command shows.** Without a prediction it says that the title cannot be read, and ends
with status one. A rule that cannot be identified is not shown. -/
theorem showPrediction_run (rules : RuleSet) (title : String) (flair : Option String)
    (s : Session) (o : Outside) :
    (showPrediction rules title flair).runWith s o =
      match rules.predict title flair with
      | .error e => (.error e, s, o)
      | .ok none => (.ok (.error 1), s.show unreadableLines, o)
      | .ok (some p) =>
        match p.rule.bind (·.flaw?) with
        | some e => (.error e, s.show [p.table flair], o)
        | none => (.ok (.ok ()), s.show [p.table flair, verdictLine p.rule], o) := by
  unfold showPrediction
  rw [runWith_bind, runWith_ofOutcome]
  rcases rules.predict title flair with e | _ | p
  · rfl
  · simp only [Except.map]
    rw [runWith_bind_ok (runWith_say render_unreadable s o),
      runWith_bind_ok (runWith_say render_expected _ o), runWith_quit, Session.show_show]
    rfl
  · simp only [Except.map]
    rw [runWith_bind_ok (runWith_showTable (rendered_rows p flair) _ _ s o)]
    rcases p.rule with _ | r
    · dsimp only
      rw [runWith_say render_unmatched, Session.show_show]
      rfl
    · simp only [Option.bind_some]
      cases hflaw : r.flaw? with
      | some e =>
        rw [Rule.tryFingerprint_of_flaw hflaw]
        rfl
      | none =>
        rw [Rule.tryFingerprint_of_sound hflaw,
          runWith_bind_ok (runWith_ofOutcome (.ok r.fingerprint) _ _),
          runWith_say (render_verdict r), Session.show_show]
        rfl

/-- What the command says of a title with a flair, by the rule that it names: how it ends and what
appears on the screen. -/
inductive Report (flair : Option String) : Option Rule → Except ExitStatus Unit → List Printed → Prop
  /-- The title cannot be read. -/
  | unreadable : Report flair none (.error 1) unreadableLines
  /-- No rule accepts the title. -/
  | unmatched (p : Prediction) : Report flair none (.ok ()) [p.table flair, verdictLine none]
  /-- A rule accepts the title. -/
  | matched (p : Prediction) (r : Rule) :
      Report flair (some r) (.ok ()) [p.table flair, verdictLine (some r)]

/-- The command reports what is predicted. -/
theorem showPrediction_report {rules : RuleSet} {title : String} {flair : Option String}
    {found : Option Prediction} (h : rules.predict title flair = .ok found)
    (hsound : ∀ r, found.bind (·.rule) = some r → r.flaw? = none) (s : Session) (o : Outside) :
    ∃ result lines, Report flair (found.bind (·.rule)) result lines ∧
      (showPrediction rules title flair).runWith s o = (.ok result, s.show lines, o) := by
  rw [showPrediction_run, h]
  rcases found with _ | ⟨t, price, _ | r⟩
  · exact ⟨_, _, .unreadable, rfl⟩
  · exact ⟨_, _, .unmatched _, rfl⟩
  · simp only [Option.bind_some, hsound r rfl]
    exact ⟨_, _, .matched _ r, rfl⟩

/-- **The command agrees with the match stage.** For a listing that is new to the posts and to the
titles, it names the rule that the match stage finds, whatever else the listing has beside its title
and flair. If the match stage finds none, the command says that the title cannot be read or that no
rule accepts it. -/
theorem Command.check_agrees (config : Path) (events : List Pipeline.Event) {rules : RuleSet}
    {session session' : Session} {o o' : Outside}
    (hload : (loadSettings config >>= loadRules).runWith session o =
      (.ok (.ok rules), session', o'))
    {l : Listing} {s : Store} {m : Option MatchingPost} {start : Outside}
    (hpost : l.id ∉ s.postIds) (htitle : l.id ∉ s.titleIds)
    (hm : ((processListing rules l).runWith s start).1 = .ok m) :
    ∃ result lines, Report l.flair (m.map (·.rule)) result lines ∧
      ((Command.check l.title l.flair).perform config events).runWith session o =
        (.ok result, session'.show lines, o') := by
  have hprocess := processing_of_run rules l s start
  rw [hm] at hprocess
  obtain ⟨found, hpredict, hrule, hsound⟩ := hprocess.predict hpost htitle
  -- once the rules are there, the command shows the prediction
  have hrun : ((Command.check l.title l.flair).perform config events).runWith session o =
      (showPrediction rules l.title l.flair).runWith session' o' := by
    have hnext := runWith_bind_ok hload fun rules => showPrediction rules l.title l.flair
    rw [bind_assoc] at hnext
    exact hnext
  rw [hrun, ← hrule]
  exact showPrediction_report hpredict (hrule ▸ hsound) session' o'

/-- The rule of these settings, which stand in a variable, accepts the title of this listing. -/
theorem Command.check_agrees_variable :
    ∃ (o : Outside) (l : Listing) (r : Rule) (lines : List Printed),
      Report l.flair (some r) (.ok ()) lines ∧
      ((processListing ⟨[r]⟩ l).runWith .empty o).1 =
        .ok (some ⟨r, l, ⟨l.id, "GPU", "RTX 4070", 499, 99, none⟩⟩) ∧
      ((Command.check l.title l.flair).perform Settings.standardPath []).runWith Session.start o =
        (.ok (.ok ()), Session.start.show lines, o) := by
  let o : Outside := { (default : Outside) with
    environment := [("SALEWATCH_RULES", "[\x7b\"product_type_pattern\": \"gpu\"\x7d]")]
    files := ⟨⟨"/", ["home"]⟩, []⟩ }
  let l : Listing := { (default : Listing) with id := "a", title := "[GPU] RTX 4070 $499.99" }
  let r : Rule := { (default : Rule) with productType := some ⟨"gpu", .keyword "gpu", none⟩ }
  have hcontains : o.files.contains Settings.standardPath = false := by
    rw [Files.contains, Files.find?, Settings.hasNul_standardPath]
    decide +kernel
  have hload : (loadSettings Settings.standardPath >>= loadRules).runWith Session.start o =
      (.ok (.ok ⟨[r]⟩), Session.start, o) := by
    have hread : (do
        let settings ← Settings.load o.environment o.files Settings.standardPath
        if settings.log.file = none then settings.ruleSet o.files else .error .badYaml) =
          .ok ⟨[r]⟩ := by
      rw [Settings.load, hcontains]
      decide +kernel
    obtain ⟨settings, hsettings, hrules⟩ := Outcome.bind_eq_ok.1 hread
    split at hrules
    · rename_i hlog
      rw [runWith_bind_ok (loadSettings_run hsettings hlog Session.start)]
      exact loadRules_run hrules Session.start
    · cases hrules
  have hm : ((processListing ⟨[r]⟩ l).runWith .empty o).1 =
      .ok (some ⟨r, l, ⟨l.id, "GPU", "RTX 4070", 499, 99, none⟩⟩) := by decide +kernel
  obtain ⟨result, lines, hreport, hrun⟩ :=
    Command.check_agrees _ [] hload (l := l) (s := .empty) (by decide) (by decide) hm
  cases hreport with
  | matched p r => exact ⟨o, l, _, _, .matched p r, hm, hrun⟩

end DealWatch
