import DealWatch.Proofs.Failure
import DealWatch.Settings.Source

/-!
# Which failures the sources of settings can have

Settings of variables and other files are read before any of them is checked, and reading fails in
ways of its own. `Settings.BadVariable` says that a variable for a section or list does not hold
JSON, and `Settings.fromVariables_eq_error` and `Settings.BadVariable.exists_error` say that this is
what can be wrong with variables: the sections are read one after the other, so the first bad
variable in their order is the one that counts.

`Settings.withSources_failsOnly` lists the failures of all sources, whatever the document says about
them: it follows the steps of reading, each of which fails in the listed ways only. That the list is
exact is not said for a document that names other sources. `Settings.Plain.withSources_eq_error` is
about the others: for them variables alone can be wrong.
-/

namespace DealWatch

open Outcome

/-! ### Files -/

/-- The failures of reading a file. -/
inductive Files.Unreadable : Failure → Prop
  | fileNotFound (path : String) : Unreadable (.fileNotFound path)
  | nullInPath : Unreadable .nullInPath
  | isDirectory (path : String) : Unreadable (.isDirectory path)
  | undecodable : Unreadable .undecodable

theorem Files.readText_failsOnly (fs : Files) (p : Path) :
    FailsOnly Unreadable (fs.readText p) := by
  refine FailsOnly.bind ?_ fun bytes => ?_
  · unfold readBytes
    split
    · split
      · exact failsOnly_error.2 .nullInPath
      · exact failsOnly_error.2 (.fileNotFound _)
    · exact failsOnly_error.2 (.isDirectory _)
    · exact failsOnly_ok _
    · exact failsOnly_error.2 .undecodable
  · split
    · exact failsOnly_ok _
    · exact failsOnly_error.2 .undecodable

namespace Settings

/-! ### Variables -/

/-- The sections and lists that a variable writes in JSON. -/
def writtenKeys : List String := sections.map (·.1) ++ ["rules"]

/-- A variable of a section or list is no JSON, or one that is too deep. -/
def BadVariable (style : VariableStyle) (vars : Variables) (f : Failure) : Prop :=
  ∃ key ∈ writtenKeys, ∃ s, given? style vars key = some (.text s) ∧ decoded s = .error f

theorem decoded_failsOnly (s : String) :
    FailsOnly (fun f => f = .endless ∨ f = .badEnvironment) (decoded s) := by
  unfold decoded
  split
  · exact failsOnly_ok _
  · split
    · exact failsOnly_error.2 (.inl rfl)
    · exact failsOnly_error.2 (.inr rfl)

section Variables

variable {style : VariableStyle} {vars : Variables}

theorem valueOf_eq_error_iff {key : String} {f : Failure} :
    valueOf style key vars = .error f ↔
      ∃ s, given? style vars key = some (.text s) ∧ decoded s = .error f := by
  unfold valueOf
  dsimp only
  split
  · rename_i s hs
    rw [bind_eq_error]
    constructor
    -- Only decoding fails: once there is a value it is taken, whatever it is.
    · rintro (hf | ⟨d, -, hf⟩)
      · exact ⟨s, hs, hf⟩
      · split at hf <;> cases hf
    · rintro ⟨t, ht, hf⟩
      rw [hs] at ht
      cases ht
      exact .inl hf
  · rename_i d hno hd
    constructor
    · intro hf
      cases hf
    · rintro ⟨s, hs, -⟩
      rw [hd] at hs
      exact absurd (Option.some.inj hs) (hno s)
  · rename_i hnone
    constructor
    · intro hf
      cases hf
    · rintro ⟨s, hs, -⟩
      rw [hnone] at hs
      cases hs

theorem sectionsOf_eq_error {named : List (String × List String)} {f : Failure}
    (h : sectionsOf style vars named = .error f) :
    ∃ key ∈ named.map (·.1), valueOf style key vars = .error f := by
  induction named with
  | nil => cases h
  | cons e named ih =>
    rw [sectionsOf, bind_eq_error] at h
    rcases h with h | ⟨value, -, h⟩
    · exact ⟨e.1, List.mem_cons_self, h⟩
    · rcases bind_eq_error.1 h with h | ⟨others, -, h⟩
      · obtain ⟨key, hkey, hvalue⟩ := ih h
        exact ⟨key, List.mem_cons_of_mem _ hkey, hvalue⟩
      · cases h

/-- Nothing but a bad variable keeps variables from being read. -/
theorem fromVariables_eq_error {given : List (Scalar × Option String)} {f : Failure}
    (h : fromVariables style given = .error f) : BadVariable style (variablesOf style given) f := by
  rw [fromVariables, bind_eq_error] at h
  rcases h with h | ⟨es, -, h⟩
  · obtain ⟨key, hkey, hvalue⟩ := sectionsOf_eq_error h
    exact ⟨key, List.mem_append_left _ hkey, valueOf_eq_error_iff.1 hvalue⟩
  · rcases bind_eq_error.1 h with h | ⟨rules, -, h⟩
    · exact ⟨"rules", List.mem_append_right _ (List.mem_singleton.2 rfl),
        valueOf_eq_error_iff.1 h⟩
    · cases h

theorem exists_sectionsOf_error {named : List (String × List String)} {key : String} {f : Failure}
    (hkey : key ∈ named.map (·.1)) (h : valueOf style key vars = .error f) :
    ∃ g, sectionsOf style vars named = .error g := by
  induction named with
  | nil => cases hkey
  | cons e named ih =>
    rw [sectionsOf]
    cases hvalue : valueOf style e.1 vars with
    | error g => exact ⟨g, rfl⟩
    | ok value =>
      rcases List.mem_cons.1 hkey with rfl | hkey
      · rw [h] at hvalue
        cases hvalue
      · obtain ⟨g, hg⟩ := ih hkey
        exact ⟨g, bind_eq_error.2 (.inr ⟨value, rfl, bind_eq_error.2 (.inl hg)⟩)⟩

/-- A bad variable is never passed over. -/
theorem BadVariable.exists_error {given : List (Scalar × Option String)} {f : Failure}
    (h : BadVariable style (variablesOf style given) f) :
    ∃ g, fromVariables style given = .error g := by
  obtain ⟨key, hkey, hbad⟩ := h
  have hvalue := valueOf_eq_error_iff.2 hbad
  rw [fromVariables]
  cases hsections : sectionsOf style (variablesOf style given) sections with
  | error g => exact ⟨g, rfl⟩
  | ok es =>
    rcases List.mem_append.1 hkey with hkey | hkey
    · obtain ⟨g, hg⟩ := exists_sectionsOf_error hkey hvalue
      rw [hsections] at hg
      cases hg
    · obtain rfl := List.mem_singleton.1 hkey
      exact ⟨f, bind_eq_error.2 (.inr ⟨es, rfl, bind_eq_error.2 (.inl hvalue)⟩)⟩

end Variables

/-! ### Sources that a document names -/

/-- The keys under which a document says how variables are read and where else settings are. -/
def optionKeys : List String := ["_env_prefix", "_env_nested_max_split", "_env_nested_delimiter",
  "_case_sensitive", "_env_ignore_empty", "_env_parse_none_str", "_env_file", "_secrets_dir",
  "_cli_parse_args"]

/-- A document does not say how variables are read or where else settings are. -/
def Plain (es : Entries) : Prop := ∀ key ∈ optionKeys, VariableStyle.option? es key = none

/-- The failures of reading the sources of settings. -/
inductive SourceFault : Failure → Prop
  | unreadable {f : Failure} : Files.Unreadable f → SourceFault f
  | badEnvironment : SourceFault .badEnvironment
  | endless : SourceFault .endless
  | wrongKind (message : String) : SourceFault (.wrongKind message)
  /-- A path starts with a user whose name cannot be handed to the system. -/
  | unencodable (fault : EncodingFault) : SourceFault (.unencodable fault)
  | unknownUser : SourceFault .unknownUser

section Sources

variable {env : Environment} {fs : Files} {es : Entries} {style : VariableStyle}

theorem BadVariable.sourceFault {vars : Variables} {f : Failure} (h : BadVariable style vars f) :
    SourceFault f := by
  obtain ⟨_, -, s, -, hs⟩ := h
  rcases decoded_failsOnly s f hs with rfl | rfl
  · exact .endless
  · exact .badEnvironment

theorem fromVariables_failsOnly (given : List (Scalar × Option String)) :
    FailsOnly SourceFault (fromVariables style given) :=
  fun _ hf => (fromVariables_eq_error hf).sourceFault

theorem startOf_failsOnly (d : Datum) : FailsOnly SourceFault (VariableStyle.startOf d) := by
  unfold VariableStyle.startOf
  split
  · exact failsOnly_ok _
  · exact failsOnly_ok _
  · exact failsOnly_error.2 .badEnvironment
  · exact failsOnly_error.2 (.wrongKind _)
  · exact failsOnly_error.2 .badEnvironment

theorem cutsOf_failsOnly (d : Datum) : FailsOnly SourceFault (VariableStyle.cutsOf d) := by
  unfold VariableStyle.cutsOf
  refine .ite (failsOnly_ok _) ?_
  split
  · exact failsOnly_ok _
  · exact failsOnly_ok _
  · exact failsOnly_ok _
  · exact failsOnly_error.2 (.wrongKind _)

theorem ofEntries_failsOnly (es : Entries) :
    FailsOnly SourceFault (VariableStyle.ofEntries es) := by
  unfold VariableStyle.ofEntries
  extract_lets standard delimiter isSet nullWord rest
  have hrest : ∀ start, FailsOnly SourceFault (rest start) := by
    intro start
    unfold rest
    dsimp only
    split
    · exact (cutsOf_failsOnly _).bind fun _ => failsOnly_ok _
    · exact failsOnly_ok _
  split
  · exact (startOf_failsOnly _).bind hrest
  · exact (failsOnly_pure _).bind hrest

theorem userPath_failsOnly (home s : String) : FailsOnly SourceFault (userPath home s) := by
  unfold userPath
  dsimp only
  split
  · exact failsOnly_ok _
  · refine .ite (failsOnly_ok _) (.ite ?_ ?_)
    · exact failsOnly_error.2 (.unreadable .nullInPath)
    · exact failsOnly_error.2 .unknownUser
  · exact failsOnly_ok _

theorem halvedPaths_failsOnly (t : HalvedText) : FailsOnly SourceFault (halvedPaths t) := by
  unfold halvedPaths
  split
  · exact failsOnly_ok _
  · split
    · exact failsOnly_error.2 (.unencodable _)
    · exact failsOnly_error.2 .unknownUser

theorem pathsOfScalar_failsOnly (home : String) (s : Scalar) :
    FailsOnly SourceFault (pathsOfScalar home s) := by
  unfold pathsOfScalar
  split
  · exact (userPath_failsOnly home _).bind fun _ => failsOnly_ok _
  · exact halvedPaths_failsOnly _
  · exact failsOnly_error.2 (.wrongKind _)

theorem pathsOfItem_failsOnly (home : String) (d : Datum) :
    FailsOnly SourceFault (pathsOfItem home d) := by
  unfold pathsOfItem
  split
  · exact pathsOfScalar_failsOnly home _
  · exact failsOnly_error.2 (.wrongKind _)

theorem pathsOf_failsOnly (home : String) (d : Datum) :
    FailsOnly SourceFault (pathsOf home d) := by
  unfold pathsOf
  split
  · exact pathsOfScalar_failsOnly home _
  · exact FailsOnly.bind (.mapM fun d _ => pathsOfItem_failsOnly home d) fun _ => failsOnly_ok _
  · exact FailsOnly.bind (.mapM fun e _ => pathsOfScalar_failsOnly home e.1) fun _ =>
      failsOnly_ok _
  · exact FailsOnly.bind (.mapM fun k _ => pathsOfScalar_failsOnly home k) fun _ =>
      failsOnly_ok _
  · exact failsOnly_error.2 (.wrongKind _)

theorem readText_failsOnly (p : Path) : FailsOnly SourceFault (fs.readText p) :=
  (fs.readText_failsOnly p).mono fun _ => .unreadable

theorem fileVariables_failsOnly : FailsOnly SourceFault (fileVariables env fs es) := by
  unfold fileVariables
  split
  · exact failsOnly_ok _
  · refine (pathsOf_failsOnly _ _).bind fun paths => FailsOnly.bind (.mapM fun p _ => ?_) fun _ =>
      failsOnly_ok _
    exact (readText_failsOnly p).bind fun _ => failsOnly_ok _

theorem secretOf_failsOnly (directories : List Path) (key : String) :
    FailsOnly SourceFault (secretOf style fs directories key) := by
  unfold secretOf
  dsimp only
  split
  · exact (readText_failsOnly _).bind fun _ => failsOnly_ok _
  · exact failsOnly_ok _

theorem secrets_failsOnly : FailsOnly SourceFault (secrets style env fs es) := by
  unfold secrets
  split
  · exact failsOnly_ok _
  · have hfound : ∀ directories, FailsOnly SourceFault (do
        let found ← fieldNames.mapM fun key => do
          return (← secretOf style fs directories key).map fun s =>
            (Scalar.text (style.nameOf key), some s)
        return found.filterMap id) := fun directories =>
      FailsOnly.bind (.mapM fun key _ => (secretOf_failsOnly _ key).bind fun _ => failsOnly_ok _)
        fun _ => failsOnly_ok _
    refine (pathsOf_failsOnly _ _).bind fun paths => ?_
    exact .ite ((failsOnly_throw.2 .badEnvironment).bind fun _ => hfound _) (hfound _)

theorem checkArguments_failsOnly : FailsOnly SourceFault (checkArguments es) := by
  unfold checkArguments
  split
  · exact failsOnly_ok _
  · exact failsOnly_ok _
  · exact failsOnly_ok _
  · exact failsOnly_ok _
  · exact .ite (failsOnly_ok _) (failsOnly_error.2 .badEnvironment)
  · exact failsOnly_error.2 .badEnvironment

/-- Whatever a document says about them, sources fail only in some ways. -/
theorem withSources_failsOnly : FailsOnly SourceFault (withSources env fs es) :=
  (ofEntries_failsOnly es).bind fun _ => fileVariables_failsOnly.bind fun _ =>
    checkArguments_failsOnly.bind fun _ => (fromVariables_failsOnly _).bind fun _ =>
      (fromVariables_failsOnly _).bind fun _ => secrets_failsOnly.bind fun _ =>
        (fromVariables_failsOnly _).bind fun _ => failsOnly_ok _

/-! ### Documents without such keys -/

theorem Plain.ofEntries_eq (h : Plain es) : VariableStyle.ofEntries es = .ok {} := by
  simp only [optionKeys, Plain, List.forall_mem_cons] at h
  obtain ⟨hstart, hcuts, hdelimiter, hcase, hempty, hword, -⟩ := h
  simp only [VariableStyle.ofEntries, hstart, hcuts, hdelimiter, hcase, hempty, hword]
  rfl

/-- Without variables nothing can be wrong with them. -/
theorem exists_fromVariables_nil (style : VariableStyle) :
    ∃ found, fromVariables style [] = .ok found := by
  cases h : fromVariables style [] with
  | ok found => exact ⟨found, rfl⟩
  | error f =>
    obtain ⟨_, -, _, hgiven, -⟩ := fromVariables_eq_error h
    cases hgiven

/-- The sources of a document that says nothing about them fail only because of a variable. -/
theorem Plain.withSources_eq_error (h : Plain es) {f : Failure}
    (hf : withSources env fs es = .error f) :
    BadVariable {} (variablesOf {} (ofEnvironment env)) f := by
  have hfiles : fileVariables env fs es = .ok [] := by
    rw [fileVariables, h "_env_file" (by decide)]
    rfl
  have harguments : checkArguments es = .ok () := by
    rw [checkArguments, h "_cli_parse_args" (by decide)]
  have hsecrets : secrets {} env fs es = .ok [] := by
    rw [secrets, h "_secrets_dir" (by decide)]
    rfl
  obtain ⟨second, hsecond⟩ := exists_fromVariables_nil {}
  obtain ⟨third, hthird⟩ := exists_fromVariables_nil (secretStyle {})
  cases hfirst : fromVariables {} (ofEnvironment env) with
  | error e =>
    rw [withSources, h.ofEntries_eq] at hf
    simp only [hfiles, harguments, hfirst, Except.bind, bind] at hf
    cases hf
    exact fromVariables_eq_error hfirst
  | ok first =>
    rw [withSources, h.ofEntries_eq] at hf
    simp only [hfiles, harguments, hfirst, hsecond, hsecrets, hthird, Except.bind, bind] at hf
    cases hf

/-- A bad variable keeps the sources of such a document from being read. -/
theorem Plain.exists_withSources_error (h : Plain es) (fs : Files) {f : Failure}
    (hf : BadVariable {} (variablesOf {} (ofEnvironment env)) f) :
    ∃ g, withSources env fs es = .error g := by
  obtain ⟨g, hg⟩ := hf.exists_error
  cases hsources : withSources env fs es with
  | error g => exact ⟨g, rfl⟩
  | ok sources =>
    rw [withSources, h.ofEntries_eq] at hsources
    obtain ⟨style, hstyle, hrest⟩ := bind_eq_ok.1 hsources
    cases hstyle
    obtain ⟨_, -, hrest⟩ := bind_eq_ok.1 hrest
    obtain ⟨_, -, hrest⟩ := bind_eq_ok.1 hrest
    obtain ⟨_, hfirst, -⟩ := bind_eq_ok.1 hrest
    rw [hg] at hfirst
    cases hfirst

end Sources

end Settings

end DealWatch
