import DealWatch.Proofs.Settings.Expand
import DealWatch.Proofs.Settings.Source
import DealWatch.Proofs.Settings.Valid
import DealWatch.Proofs.Yaml.Value
import DealWatch.Settings.Load

/-!
# What comes of reading settings

Settings are read in two steps: the file gives a document (`Settings.documentOf`), and the document
is put together with the other sources and checked (`Settings.load_eq_bind`). Only two kinds of
failures are about the configuration, a text that is no YAML and fields that are not valid.

`Settings.Escapes` lists the causes of all other failures. `Settings.load_eq_error` says that there
are no more of them, `Settings.Escapes.exists_error` that each of them is one, and
`Settings.Escapes.name_mem` how they are named. The first takes the steps apart where they fail, the
others put them together again. References are replaced before anything is looked up, so a cause
that is read off the file has to be followed through them: `Datum.Expanded` keeps the keys, and it
keeps what is no text.

When several causes are there one of them is reported, and this is not always the one that is
looked at; that some failure is reported which is no error of the configuration holds in any case.
-/

namespace DealWatch

open Outcome

/-! ### Values with references -/

namespace Datum

/-- A value that is a text, whole or with halves of pairs. -/
def IsText (d : Datum) : Prop := ∃ t, d = .scalar (.ofText t)

theorem isText_text (s : String) : IsText (.text s) := ⟨.whole s, rfl⟩

theorem isText_unpaired (t : HalvedText) : IsText (.scalar (.unpaired t)) := ⟨.halved t, rfl⟩

variable {env : Environment} {d d' : Datum}

theorem Expanded.isText_iff (h : Expanded env d d') : d'.IsText ↔ d.IsText := by
  cases h with
  | text ht => exact iff_of_true ⟨_, rfl⟩ ⟨_, congrArg Datum.scalar ht⟩
  | scalar => exact Iff.rfl
  | _ => exact iff_of_false nofun nofun

/-- What is no text stays present or absent. -/
theorem Expanded.truthy_eq (h : Expanded env d d') (hd : ¬ d.IsText) : d'.truthy = d.truthy := by
  cases h with
  | text ht => exact absurd ⟨_, congrArg Datum.scalar ht⟩ hd
  | list hitems => cases hitems <;> rfl
  | dict hkeys =>
    rename_i es es' _
    cases es <;> cases es' <;> first | rfl | cases hkeys
  | _ => rfl

theorem Expanded.entries?_eq_none_iff (h : Expanded env d d') :
    d'.entries? = none ↔ d.entries? = none := by
  cases h with
  | dict => exact iff_of_false nofun nofun
  | _ => exact iff_of_true rfl rfl

theorem entries?_eq_some_iff {es : Entries} : d.entries? = some es ↔ d = .dict es := by
  cases d <;> simp [entries?]

theorem Expanded.entries {es' : Entries} (h : Expanded env d (.dict es')) : ∃ es, d = .dict es ∧
    es'.map (·.1) = es.map (·.1) ∧
      List.Forall₂ (Expanded env) (es.map (·.2)) (es'.map (·.2)) := by
  cases h with
  | dict hkeys hvalues => exact ⟨_, rfl, hkeys, hvalues⟩

/-- A value that cannot be expanded is not. -/
theorem Unexpandable.exists_error {levels : Nat} {f : Failure} (h : Unexpandable levels d f)
    (env : Environment) : ∃ g, d.expand env levels = .error g ∧ Unexpandable levels d g := by
  cases hd : d.expand env levels with
  | error g => exact ⟨g, rfl, failsOnly_expand env levels d g hd⟩
  | ok d' =>
    obtain ⟨hdepth, hnames, -⟩ := expand_eq_ok_iff.1 hd
    cases h with
    | deep h => exact absurd hdepth (Nat.not_le.2 h)
    | name hname hfault =>
      rw [hnames _ hname] at hfault
      cases hfault

end Datum

/-- What is under a key of entries with the same keys is related like their values. -/
theorem Entries.get?_rel {r : Datum → Datum → Prop} {es es' : Entries}
    (hkeys : es'.map (·.1) = es.map (·.1)) (hvalues : List.Forall₂ r (es.map (·.2)) (es'.map (·.2)))
    (key : String) : Option.Rel r (Entries.get? es key) (Entries.get? es' key) := by
  induction es generalizing es' with
  | nil =>
    obtain rfl := List.map_eq_nil_iff.1 hkeys
    exact .none
  | cons e es ih =>
    cases es' with
    | nil => cases hkeys
    | cons e' es' =>
      obtain ⟨k, v⟩ := e
      obtain ⟨k', v'⟩ := e'
      obtain ⟨hkey, hmoreKeys⟩ := List.cons.inj hkeys
      obtain ⟨hvalue, hmoreValues⟩ := List.forall₂_cons.1 hvalues
      have hrest := ih hmoreKeys hmoreValues
      obtain rfl : k' = k := hkey
      unfold Entries.get? at hrest ⊢
      simp only [List.find?_cons]
      cases k' == .text key with
      | true => exact .some hvalue
      | false => exact hrest

namespace Settings

variable {env : Environment} {fs : Files} {path : Path}

/-! ### The document of a file -/

/-- The document of a value that a file holds, with its references replaced and its file of rules
located. -/
def documentIn (env : Environment) (path : Path) (d : Datum) : Outcome Entries := do
  match (← d.expand env maxLevels).entries? with
  | some es => locateRules path.parent es
  | none => .error (.missingAttribute "the settings are no dictionary")

/-- The document of the file of settings; an empty one without a file. -/
def documentOf (env : Environment) (fs : Files) (path : Path) : Outcome Entries :=
  if fs.contains path then do documentIn env path (← fs.readYaml path) else .ok []

theorem ofFileValue_eq_bind (d : Datum) :
    ofFileValue env fs path d = documentIn env path d >>= ofDocument env fs := by
  rw [ofFileValue, documentIn, bind_assoc]
  congr 1
  funext d
  cases d <;> rfl

/-- Reading settings is reading their document, and then reading the settings of the document. -/
theorem load_eq_bind (env : Environment) (fs : Files) (path : Path) :
    load env fs path = documentOf env fs path >>= ofDocument env fs := by
  unfold load documentOf
  split
  · rw [bind_assoc]
    congr 1
    funext d
    exact ofFileValue_eq_bind d
  · rfl

theorem load_of_documentOf_error {f : Failure} (h : documentOf env fs path = .error f) :
    load env fs path = .error f := by
  rw [load_eq_bind, h]
  rfl

theorem load_of_documentOf_ok {es : Entries} (h : documentOf env fs path = .ok es) :
    load env fs path = ofDocument env fs es := by
  rw [load_eq_bind, h]
  rfl

/-- The causes for which settings are not read, beside errors of the configuration. -/
inductive Escapes (env : Environment) (fs : Files) (path : Path) : Failure → Prop
  /-- The file is a directory, or no text. -/
  | unreadable {f : Failure} : fs.contains path = true → fs.readText path = .error f →
      Escapes env fs path f
  /-- The file is YAML, but no value can be made of it. -/
  | noValue {text : String} {f : Failure} : fs.readText path = .ok text →
      Yaml.read text.toList = .error f → f ≠ .badYaml → Escapes env fs path f
  /-- The file holds a value whose references cannot be replaced: it is too deep, or refers to a
  variable that the system cannot be asked for. -/
  | unexpandable {text : String} {d : Datum} {f : Failure} : fs.readText path = .ok text →
      Yaml.read text.toList = .ok d → d.truthy = true → d.Unexpandable maxLevels f →
      Escapes env fs path f
  /-- The file holds a value with content that is no dictionary. -/
  | noDictionary {text : String} {d : Datum} : fs.readText path = .ok text →
      Yaml.read text.toList = .ok d → d.truthy = true → d.entries? = none →
      Escapes env fs path (.missingAttribute "the settings are no dictionary")
  /-- The file of rules is named by a value that is no text. -/
  | badRulesFile {text : String} {es : Entries} {d : Datum} : fs.readText path = .ok text →
      Yaml.read text.toList = .ok (.dict es) → Entries.get? es "rules_file" = some d →
      ¬ d.IsText → d.truthy = true →
      Escapes env fs path (.wrongKind "the file of rules is no text")
  | badKey {es : Entries} {e : Scalar × Datum} : documentOf env fs path = .ok es → e ∈ es →
      isTextKey e.1 = false → Escapes env fs path (.wrongKind "a key is no text")
  | reservedKey {es : Entries} {d : Datum} : documentOf env fs path = .ok es →
      Entries.get? es reservedKey = some d → Escapes env fs path (.wrongKind "a key is reserved")
  /-- A variable for a section or list is no JSON, or one that is too deep. -/
  | badVariable {es : Entries} {f : Failure} : documentOf env fs path = .ok es → Plain es →
      BadVariable {} (variablesOf {} (ofEnvironment env)) f → Escapes env fs path f
  /-- The document names other sources, which cannot be read. -/
  | badSource {es : Entries} {f : Failure} : documentOf env fs path = .ok es → ¬ Plain es →
      withSources env fs es = .error f → Escapes env fs path f
  /-- The level of the journal is a list, a dictionary or a text with halves of pairs. -/
  | badLevel {es sources : Entries} {f : Failure} : documentOf env fs path = .ok es →
      withSources env fs es = .ok sources →
      requireLevel (Entries.get? sources "logging") = .error f → Escapes env fs path f

/-! ### The first step -/

theorem documentOf_eq_bind (h : fs.contains path = true) :
    documentOf env fs path = fs.readText path >>= fun text => Yaml.read text.toList >>= fun d =>
      documentIn env path (if d.truthy then d else .dict []) := by
  rw [documentOf, Files.readYaml, if_pos h, if_pos h]
  simp only [bind_assoc, pure_bind]

theorem contains_of_readText {text : String} (h : fs.readText path = .ok text) :
    fs.contains path = true := by
  obtain ⟨bytes, hbytes, -⟩ := bind_eq_ok.1 h
  unfold Files.readBytes at hbytes
  rw [Files.contains]
  cases hnode : fs.find? path with
  | none =>
    rw [hnode] at hbytes
    cases hbytes
  | some node => rfl

theorem documentOf_of_text {text : String} (h : fs.readText path = .ok text) :
    documentOf env fs path = Yaml.read text.toList >>= fun d =>
      documentIn env path (if d.truthy then d else .dict []) := by
  rw [documentOf_eq_bind (contains_of_readText h), h]
  rfl

theorem locateRules_eq_error_iff {directory : Path} {es : Entries} {f : Failure} :
    locateRules directory es = .error f ↔
      ∃ d, Entries.get? es "rules_file" = some d ∧ ¬ d.IsText ∧ d.truthy = true ∧
        f = .wrongKind "the file of rules is no text" := by
  unfold locateRules
  constructor
  · intro h
    split at h
    · cases h
    · cases h
    · rename_i d hno hhalved hd
      split at h
      · rename_i htruthy
        cases h
        refine ⟨d, hd, ?_, htruthy, rfl⟩
        rintro ⟨t, rfl⟩
        cases t with
        | whole s => exact hno s rfl
        | halved t => exact hhalved t rfl
      · cases h
    · cases h
  · rintro ⟨d, hd, hno, htruthy, rfl⟩
    rw [hd]
    split
    · rename_i s hs
      cases hs
      exact absurd (Datum.isText_text s) hno
    · rename_i t ht
      cases ht
      exact absurd (Datum.isText_unpaired t) hno
    · rename_i hs
      cases hs
      rw [if_pos htruthy]
    · rename_i hs
      cases hs

/-- Why a value gives no document. -/
inductive NoDocument (d : Datum) : Failure → Prop
  | unexpandable {f : Failure} : d.Unexpandable maxLevels f → NoDocument d f
  | noDictionary : d.entries? = none →
      NoDocument d (.missingAttribute "the settings are no dictionary")
  | badRulesFile {es : Entries} {r : Datum} : d = .dict es →
      Entries.get? es "rules_file" = some r → ¬ r.IsText → r.truthy = true →
      NoDocument d (.wrongKind "the file of rules is no text")

theorem noDocument_of_documentIn {d : Datum} {f : Failure} (h : documentIn env path d = .error f) :
    NoDocument d f := by
  rcases bind_eq_error.1 h with h | ⟨d', hd', h⟩
  · exact .unexpandable (Datum.failsOnly_expand env maxLevels d f h)
  · have hexpanded := (Datum.expand_eq_ok_iff.1 hd').2.2
    cases hes' : d'.entries? with
    | none =>
      rw [hes'] at h
      cases h
      exact .noDictionary (hexpanded.entries?_eq_none_iff.1 hes')
    | some es' =>
      rw [hes'] at h
      obtain ⟨r', hr', hno, htruthy, rfl⟩ := locateRules_eq_error_iff.1 h
      obtain rfl := Datum.entries?_eq_some_iff.1 hes'
      obtain ⟨es, rfl, hkeys, hvalues⟩ := hexpanded.entries
      have hrel := Entries.get?_rel hkeys hvalues "rules_file"
      rw [hr'] at hrel
      cases hr : Entries.get? es "rules_file" with
      | none =>
        rw [hr] at hrel
        cases hrel
      | some r =>
        rw [hr] at hrel
        cases hrel with
        | some hr'' =>
          have hno := mt hr''.isText_iff.2 hno
          exact .badRulesFile rfl hr hno ((hr''.truthy_eq hno).symm.trans htruthy)

/-- A value with such a cause gives no document, if perhaps for another of them. -/
theorem NoDocument.exists_error {d : Datum} {f : Failure} (h : NoDocument d f) (env : Environment)
    (path : Path) : ∃ g, documentIn env path d = .error g ∧ NoDocument d g := by
  cases hd' : d.expand env maxLevels with
  | error g =>
    have herror : documentIn env path d = .error g := bind_eq_error.2 (.inl hd')
    exact ⟨g, herror, noDocument_of_documentIn herror⟩
  | ok d' =>
    have hexpanded := (Datum.expand_eq_ok_iff.1 hd').2.2
    cases h with
    | unexpandable h =>
      obtain ⟨g, hg, -⟩ := h.exists_error env
      rw [hd'] at hg
      cases hg
    | noDictionary hno =>
      refine ⟨_, bind_eq_error.2 (.inr ⟨d', hd', ?_⟩), .noDictionary hno⟩
      rw [hexpanded.entries?_eq_none_iff.2 hno]
    | badRulesFile hd hr hno htruthy =>
      subst hd
      cases hexpanded with
      | @dict es es' hkeys hvalues =>
        have hrel := Entries.get?_rel hkeys hvalues "rules_file"
        rw [hr] at hrel
        cases hr' : Entries.get? es' "rules_file" with
        | none =>
          rw [hr'] at hrel
          cases hrel
        | some r' =>
          rw [hr'] at hrel
          cases hrel with
          | some hrr' =>
            refine ⟨_, bind_eq_error.2 (.inr ⟨_, hd', ?_⟩), .badRulesFile rfl hr hno htruthy⟩
            exact locateRules_eq_error_iff.2 ⟨r', hr', mt hrr'.isText_iff.1 hno,
              (hrr'.truthy_eq hno).trans htruthy, rfl⟩

theorem escapes_of_documentIn {text : String} {d : Datum} {f : Failure}
    (htext : fs.readText path = .ok text) (hread : Yaml.read text.toList = .ok d)
    (h : documentIn env path (if d.truthy then d else .dict []) = .error f) :
    Escapes env fs path f := by
  split at h
  · rename_i htruthy
    cases noDocument_of_documentIn h with
    | unexpandable hf => exact .unexpandable htext hread htruthy hf
    | noDictionary hno => exact .noDictionary htext hread htruthy hno
    | badRulesFile hd hr hno hrtruthy =>
      subst hd
      exact .badRulesFile htext hread hr hno hrtruthy
  · cases h

/-- The file gives a document unless it is no YAML or its contents have another cause to fail. -/
theorem documentOf_eq_error {f : Failure} (h : documentOf env fs path = .error f) :
    f = .badYaml ∨ Escapes env fs path f := by
  by_cases hcontains : fs.contains path = true
  · rw [documentOf_eq_bind hcontains] at h
    rcases bind_eq_error.1 h with htext | ⟨text, htext, h⟩
    · exact .inr (.unreadable hcontains htext)
    · rcases bind_eq_error.1 h with hread | ⟨d, hread, h⟩
      · by_cases hf : f = .badYaml
        · exact .inl hf
        · exact .inr (.noValue htext hread hf)
      · exact .inr (escapes_of_documentIn htext hread h)
  · rw [documentOf, if_neg hcontains] at h
    cases h

/-! ### The second step -/

/-- The keys of a document are looked at before anything else. -/
theorem ofDocument_cases (env : Environment) (fs : Files) (es : Entries) :
    (∃ message, ofDocument env fs es = .error (.wrongKind message)) ∨
    Entries.get? es reservedKey = none ∧
      ofDocument env fs es = withSources env fs es >>= check (surroundings env fs) := by
  unfold ofDocument
  split
  · exact .inl ⟨_, rfl⟩
  · split
    · exact .inl ⟨_, rfl⟩
    · rename_i hreserved
      exact .inr ⟨by simpa using hreserved, rfl⟩

theorem ofDocument_eq_error {es : Entries} {f : Failure} (hes : documentOf env fs path = .ok es)
    (h : ofDocument env fs es = .error f) : (∃ ps, f = .invalid ps) ∨ Escapes env fs path f := by
  unfold ofDocument at h
  split at h
  · rename_i hkeys
    cases h
    rw [Bool.not_eq_true', List.all_eq_false] at hkeys
    obtain ⟨e, he, hkey⟩ := hkeys
    exact .inr (.badKey hes he ((Bool.not_eq_true _).mp hkey))
  · split at h
    · rename_i hreserved
      cases h
      obtain ⟨d, hd⟩ := Option.isSome_iff_exists.1 hreserved
      exact .inr (.reservedKey hes hd)
    · rcases bind_eq_error.1 h with hsources | ⟨sources, hsources, h⟩
      · by_cases hplain : Plain es
        · exact .inr (.badVariable hes hplain (hplain.withSources_eq_error hsources))
        · exact .inr (.badSource hes hplain hsources)
      · rcases bind_eq_error.1 h with hlevel | ⟨_, -, h⟩
        · exact .inr (.badLevel hes hsources hlevel)
        · cases hverdict : verdict (surroundings env fs) sources with
          | accepted s =>
            rw [hverdict] at h
            cases h
          | rejected ps =>
            rw [hverdict] at h
            cases h
            exact .inl ⟨ps, rfl⟩

/-- **Why settings are not read**: an error of the configuration, or one of the listed causes. -/
theorem load_eq_error {f : Failure} (h : load env fs path = .error f) :
    f = .badYaml ∨ (∃ ps, f = .invalid ps) ∨ Escapes env fs path f := by
  rw [load_eq_bind] at h
  rcases bind_eq_error.1 h with h | ⟨es, hes, h⟩
  · rcases documentOf_eq_error h with hf | hf
    · exact .inl hf
    · exact .inr (.inr hf)
  · exact .inr (ofDocument_eq_error hes h)

/-- Settings that are read are valid. -/
theorem valid_of_load {s : Settings} (h : load env fs path = .ok s) : s.Valid := by
  rw [load_eq_bind] at h
  obtain ⟨es, -, h⟩ := bind_eq_ok.1 h
  rcases ofDocument_cases env fs es with ⟨message, hkey⟩ | ⟨-, heq⟩
  · rw [hkey] at h
    cases h
  · rw [heq] at h
    obtain ⟨sources, -, h⟩ := bind_eq_ok.1 h
    obtain ⟨_, -, h⟩ := bind_eq_ok.1 h
    cases hverdict : verdict (surroundings env fs) sources with
    | accepted t =>
      rw [hverdict] at h
      cases h
      exact ensures_verdict _ _ _ hverdict
    | rejected ps =>
      rw [hverdict] at h
      cases h

/-! ### The causes -/


/-- The names of the failures that are no errors of the configuration. -/
def uncaughtNames : List String := ["FileNotFoundError", "IsADirectoryError",
  "UnicodeDecodeError", "UnicodeEncodeError", "ValueError", "IndexError", "OverflowError",
  "RecursionError", "RuntimeError", "KeyError", "TypeError", "AttributeError", "SettingsError"]

theorem name_mem_of_unreadable {f : Failure} (h : Files.Unreadable f) : f.name ∈ uncaughtNames := by
  cases h <;> simp [uncaughtNames]

theorem name_mem_of_fault {f : Failure} (h : Yaml.Fault f) (hf : f ≠ .badYaml) :
    f.name ∈ uncaughtNames := by
  cases h with
  | badYaml => exact absurd rfl hf
  | _ => simp [uncaughtNames]

theorem name_mem_of_sourceFault {f : Failure} (h : SourceFault f) : f.name ∈ uncaughtNames := by
  cases h with
  | unreadable h => exact name_mem_of_unreadable h
  | _ => simp [uncaughtNames]

theorem name_mem_of_unexpandable {d : Datum} {levels : Nat} {f : Failure}
    (h : d.Unexpandable levels f) : f.name ∈ uncaughtNames := by
  cases h <;> simp [uncaughtNames]

theorem name_mem_of_requireLevel {journal : Option Datum} {f : Failure}
    (h : requireLevel journal = .error f) : f.name ∈ uncaughtNames := by
  unfold requireLevel at h
  split at h <;> cases h <;> simp [uncaughtNames]

/-- A failure with one of the other names is no error of the configuration. -/
theorem isConfiguration_of_name_mem {f : Failure} (h : f.name ∈ uncaughtNames) :
    f.isConfiguration = false := by
  cases f with
  | invalid ps => exact absurd h (by simp [uncaughtNames])
  | badYaml => exact absurd h (by simp [uncaughtNames])
  | _ => rfl

namespace Escapes

theorem name_mem {f : Failure} (h : Escapes env fs path f) : f.name ∈ uncaughtNames := by
  cases h with
  | unreadable _ hf => exact name_mem_of_unreadable (fs.readText_failsOnly path f hf)
  | noValue _ hread hf => exact name_mem_of_fault (Yaml.read_failsOnly _ f hread) hf
  | unexpandable _ _ _ hd => exact name_mem_of_unexpandable hd
  | noDictionary | badRulesFile | badKey | reservedKey => simp [uncaughtNames]
  | badVariable _ _ hvariable => exact name_mem_of_sourceFault hvariable.sourceFault
  | badSource _ _ hsources => exact name_mem_of_sourceFault (withSources_failsOnly f hsources)
  | badLevel _ _ hlevel => exact name_mem_of_requireLevel hlevel

/-- A value that gives no document is no error of the configuration. -/
theorem exists_error_of_document {text : String} {d : Datum} {f : Failure}
    (htext : fs.readText path = .ok text) (hread : Yaml.read text.toList = .ok d)
    (htruthy : d.truthy = true) (h : NoDocument d f) :
    ∃ g, load env fs path = .error g ∧ g.isConfiguration = false := by
  obtain ⟨g, hg, hcause⟩ := h.exists_error env path
  refine ⟨g, load_of_documentOf_error ?_, ?_⟩
  · rw [documentOf_of_text htext, hread]
    exact bind_eq_error.2 (.inr ⟨d, rfl, by rw [htruthy]; exact hg⟩)
  · cases hcause with
    | unexpandable hd => exact isConfiguration_of_name_mem (name_mem_of_unexpandable hd)
    | noDictionary | badRulesFile => rfl

/-- Sources that cannot be read are no error of the configuration. -/
theorem exists_error_of_sources {es : Entries} {f : Failure} (hes : documentOf env fs path = .ok es)
    (h : withSources env fs es = .error f) :
    ∃ g, load env fs path = .error g ∧ g.isConfiguration = false := by
  rw [load_of_documentOf_ok hes]
  rcases ofDocument_cases env fs es with ⟨message, hkey⟩ | ⟨-, heq⟩
  · exact ⟨_, hkey, rfl⟩
  · refine ⟨f, ?_, isConfiguration_of_name_mem
      (name_mem_of_sourceFault (withSources_failsOnly f h))⟩
    exact heq.trans (bind_eq_error.2 (.inl h))

/-- **Each of the causes counts**: settings of which one is true are not read, and what is reported
is no error of the configuration. -/
theorem exists_error {f : Failure} (h : Escapes env fs path f) :
    ∃ g, load env fs path = .error g ∧ g.isConfiguration = false := by
  have hname := h.name_mem
  cases h with
  | unreadable hcontains hf =>
    refine ⟨f, load_of_documentOf_error ?_, isConfiguration_of_name_mem hname⟩
    rw [documentOf_eq_bind hcontains, hf]
    rfl
  | noValue htext hread hno =>
    refine ⟨f, load_of_documentOf_error ?_, isConfiguration_of_name_mem hname⟩
    rw [documentOf_of_text htext, hread]
    rfl
  | unexpandable htext hread htruthy hd =>
    exact exists_error_of_document htext hread htruthy (.unexpandable hd)
  | noDictionary htext hread htruthy hno =>
    exact exists_error_of_document htext hread htruthy (.noDictionary hno)
  | badRulesFile htext hread hr hno htruthy =>
    rename_i es d
    have hes : Datum.truthy (.dict es) = true := by
      cases es with
      | nil => cases hr
      | cons => rfl
    exact exists_error_of_document htext hread hes (.badRulesFile rfl hr hno htruthy)
  | badKey hes he hkey =>
    refine ⟨_, (load_of_documentOf_ok hes).trans ?_, isConfiguration_of_name_mem hname⟩
    rw [ofDocument, if_pos]
    rw [Bool.not_eq_true', List.all_eq_false]
    exact ⟨_, he, (Bool.not_eq_true _).mpr hkey⟩
  | reservedKey hes hd =>
    rcases ofDocument_cases env fs _ with ⟨message, hkey⟩ | ⟨hreserved, -⟩
    · exact ⟨_, (load_of_documentOf_ok hes).trans hkey, rfl⟩
    · rw [hd] at hreserved
      cases hreserved
  | badVariable hes hplain hvariable =>
    obtain ⟨g, hg⟩ := hplain.exists_withSources_error fs hvariable
    exact exists_error_of_sources hes hg
  | badSource hes _ hsources => exact exists_error_of_sources hes hsources
  | badLevel hes hsources hlevel =>
    rcases ofDocument_cases env fs _ with ⟨message, hkey⟩ | ⟨-, heq⟩
    · exact ⟨_, (load_of_documentOf_ok hes).trans hkey, rfl⟩
    · refine ⟨f, (load_of_documentOf_ok hes).trans ?_, isConfiguration_of_name_mem hname⟩
      rw [heq, hsources]
      exact bind_eq_error.2 (.inr ⟨_, rfl, bind_eq_error.2 (.inl hlevel)⟩)

end Escapes

end Settings

end DealWatch
