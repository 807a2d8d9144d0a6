import DealWatch.Proofs.Failure
import DealWatch.Proofs.Rule.Reformatting
import DealWatch.Rule.Set

/-!
# Which definitions are read

A definition is read as a rule exactly if each of its fields is absent, null or of its kind, its
bounds are words and its patterns are patterns: `Rule.Acceptable` says which definitions are read,
`Rule.ReadFrom` what they are read as, and `Rule.Refuses` with which error the others are refused.
`RuleSet.definitions_compile` puts this together with what is true of lists of definitions.

The proof has two steps. First the fields are looked at all at once: every field has a check that
accepts the values of its kind and has one problem with any other (`Rule.Judges`), so the wrong
fields are those whose problems come up (`Rule.Definition.keys_check`). Then the bounds and the
patterns are looked at in their order, and the first that is wrong counts.

Not every rule that is read can be identified. The bounds are looked at for this purpose and always
can be written, but a text with half of a surrogate pair is read as well and cannot be encoded;
`Rule.compile_unidentified` is such a rule. So `RuleSet.definitions_compile` says which of the rules
that are read can be identified and stored.
-/

namespace DealWatch

/-! ### Fields -/

/-- The text that a value is, as far as it can be shown. -/
def Datum.text? : Datum → Option String
  | .text s => some s
  | .scalar (.unpaired t) => some t.shown
  | _ => none

/-- The integer that a value is; truth values and fractions are none. -/
def Datum.int? : Datum → Option Int
  | .int i => some i
  | _ => none

namespace Rule

/-- Whether a field is absent, null or of a kind. -/
def allows {α : Type} (kind : Datum → Option α) : Option Datum → Bool
  | none => true
  | some .null => true
  | some d => (kind d).isSome

/-- The keys of the bounds. -/
def boundKeys : List String := ["price_min", "price_max"]

/-- The keys of the texts. -/
def textKeys : List String := "name" :: patternKeys

/-- The keys of a definition in their order, with what may stand under them. -/
def fields : List (String × (Option Datum → Bool)) :=
  textKeys.map (·, allows Datum.text?) ++ boundKeys.map (·, allows Datum.int?)

/-- The keys under which something of another kind stands. -/
def wrongKeys (es : Entries) : List String :=
  fields.flatMap fun f => if f.2 (Entries.get? es f.1) then [] else [f.1]

/-- The text under a key, if there is one. -/
def textAt (es : Entries) (key : String) : Option String := (Entries.get? es key).bind Datum.text?

/-- The integer under a key, if there is one. -/
def intAt (es : Entries) (key : String) : Option Int := (Entries.get? es key).bind Datum.int?

/-- What the fields say when each of them is of its kind. -/
def Definition.ofEntries (es : Entries) : Definition where
  name := textAt es "name"
  flair := textAt es "link_flair_pattern"
  productType := textAt es "product_type_pattern"
  description := textAt es "description_pattern"
  priceMin := intAt es "price_min"
  priceMax := intAt es "price_max"

/-- A check that accepts the values of a kind, and has one problem with any other. -/
def Judges {α : Type} (check : Check α) (kind : Datum → Option α) : Prop :=
  ∀ d, (∃ a, check d = .accepted a ∧ kind d = some a) ∨ ∃ c, check d = .refuse c ∧ kind d = none

theorem judges_text : Judges Check.strictText Datum.text?
  | .scalar s => by cases s <;> simp [Check.strictText, Datum.text?]
  | .list _ | .dict _ | .set _ | .pair _ _ => .inr ⟨_, rfl, rfl⟩

theorem judges_int : Judges Check.strictInt Datum.int?
  | .scalar s => by cases s <;> simp [Check.strictInt, Datum.int?]
  | .list _ | .dict _ | .set _ | .pair _ _ => .inr ⟨_, rfl, rfl⟩

section Judges

variable {α : Type} {check : Check α} {kind : Datum → Option α} {es : Entries} {key : String}

theorem Judges.optional (h : Judges check kind) (hnull : kind .null = none) (es : Entries)
    (key : String) :
    (allows kind (Entries.get? es key) = true ∧
      Fields.optional es key check = .accepted ((Entries.get? es key).bind kind)) ∨
    (allows kind (Entries.get? es key) = false ∧
      ∃ c, Fields.optional es key check = .rejected [⟨[key], c⟩]) := by
  rw [Fields.optional, Fields.withDefault]
  cases Entries.get? es key with
  | none => exact .inl ⟨rfl, rfl⟩
  | some d =>
    by_cases hd : d = .null
    · subst hd
      exact .inl ⟨rfl, congrArg Verdict.accepted hnull.symm⟩
    · have hallows : allows kind (some d) = (kind d).isSome := by
        unfold allows
        split <;> simp_all
      have hcheck : Check.optional check d = some <$> check d := by
        unfold Check.optional
        split <;> simp_all
      rw [hallows]
      obtain ⟨a, ha, hkind⟩ | ⟨c, hc, hkind⟩ := h d
      · refine .inl ⟨by rw [hkind]; rfl, ?_⟩
        simp only [hcheck, ha, Option.bind_some, hkind]
        rfl
      · refine .inr ⟨by rw [hkind]; rfl, c, ?_⟩
        simp only [hcheck, hc]
        rfl

variable (h : Judges check kind) (hnull : kind .null = none)

include h hnull

theorem Judges.optional_eq_accepted {a : Option α} :
    Fields.optional es key check = .accepted a ↔
      allows kind (Entries.get? es key) = true ∧ a = (Entries.get? es key).bind kind := by
  obtain ⟨hallows, haccepted⟩ | ⟨hallows, c, hrejected⟩ := h.optional hnull es key
  · rw [haccepted, hallows, Verdict.accepted.injEq]
    simp [eq_comm]
  · simp [hrejected, hallows]

/-- The problem of a field is located at its key. -/
theorem Judges.keys_optional :
    (Fields.optional es key check).problems.filterMap (·.path.head?) =
      if allows kind (Entries.get? es key) then [] else [key] := by
  obtain ⟨hallows, haccepted⟩ | ⟨hallows, c, hrejected⟩ := h.optional hnull es key
  · rw [haccepted, hallows]
    rfl
  · rw [hrejected, hallows]
    rfl

end Judges

/-- The problems of a definition are located at the keys of its wrong fields. -/
theorem Definition.keys_check (es : Entries) :
    (Definition.check es).problems.filterMap (·.path.head?) = wrongKeys es := by
  simp only [Definition.check, Verdict.problems_seq, Verdict.problems_map, List.filterMap_append,
    judges_text.keys_optional rfl, judges_int.keys_optional rfl, List.append_assoc]
  simp [wrongKeys, fields, textKeys, patternKeys, boundKeys]

theorem wrongKeys_eq_nil_iff {es : Entries} :
    wrongKeys es = [] ↔ (∀ key ∈ textKeys, allows Datum.text? (Entries.get? es key) = true) ∧
      ∀ key ∈ boundKeys, allows Datum.int? (Entries.get? es key) = true := by
  simp [wrongKeys, fields, textKeys, patternKeys, boundKeys, and_assoc]

/-- The check of a definition accepts what the fields say, if each of them is of its kind. -/
theorem Definition.check_eq_accepted_iff {es : Entries} {d : Definition} :
    Definition.check es = .accepted d ↔ wrongKeys es = [] ∧ d = ofEntries es := by
  obtain ⟨name, flair, productType, description, priceMin, priceMax⟩ := d
  rw [Definition.check_eq_accepted]
  simp only [judges_text.optional_eq_accepted rfl, judges_int.optional_eq_accepted rfl]
  simp only [wrongKeys_eq_nil_iff, textKeys, patternKeys, boundKeys, ofEntries, textAt, intAt,
    List.forall_mem_cons, Definition.mk.injEq]
  grind

/-- The patterns and bounds of a definition count only if its fields are of their kinds. -/
theorem compile_dict (es : Entries) :
    compile (.dict es) =
      if wrongKeys es = [] then withHalvesOf es <$> (Definition.ofEntries es).compile
      else .error (.wrongType (wrongKeys es)) := by
  rw [compile]
  cases hcheck : Definition.check es with
  | accepted d =>
    obtain ⟨hkeys, rfl⟩ := Definition.check_eq_accepted_iff.1 hcheck
    rw [if_pos hkeys]
  | rejected ps =>
    have hne : wrongKeys es ≠ [] := by
      intro hnil
      have haccepted := Definition.check_eq_accepted_iff.2 ⟨hnil, rfl⟩
      rw [hcheck] at haccepted
      cases haccepted
    rw [if_neg hne, ← Definition.keys_check, hcheck]
    rfl

/-! ### Definitions that are read -/

/-- A bound that is absent or a signed integer of 64 bits. -/
def Ranged (b : Option Int) : Prop := ∀ i ∈ b, -2 ^ 63 ≤ i ∧ i < 2 ^ 63

theorem boundFits_iff_ranged {b : Option Int} : boundFits b = true ↔ Ranged b := by
  rw [boundFits_iff]
  exact forall₂_congr fun i _ => isWord_iff

/-- What is read under a key: the pattern in the text, with what is known of halves in it. -/
structure PatternAt (es : Entries) (key : String) (p : Option SourcedPattern) : Prop where
  source : p.map (·.source) = textAt es key
  parsed : ∀ q ∈ p, Pattern.parse q.source = .ok q.pattern
  halving : ∀ q ∈ p, q.halving = (Entries.halvedAt? es key).map (Halving.of q.pattern)

theorem patternAt_iff {es : Entries} {key : String} {p : Option SourcedPattern} :
    PatternAt es key p ↔
      ∃ p₀, compileField key (textAt es key) = .ok p₀ ∧ p = p₀.map (markHalves es key) := by
  cases hs : textAt es key with
  | none =>
    constructor
    · rintro ⟨hsource, -⟩
      obtain rfl := Option.map_eq_none_iff.1 (hsource.trans hs)
      exact ⟨none, rfl, rfl⟩
    · rintro ⟨_, ⟨⟩, rfl⟩
      exact ⟨hs.symm, by simp, by simp⟩
  | some s =>
    simp only [compileField_some]
    constructor
    · rintro ⟨hsource, hparsed, hhalving⟩
      obtain ⟨q, rfl, hq⟩ := Option.map_eq_some_iff.1 (hsource.trans hs)
      refine ⟨_, ⟨q.pattern, hq ▸ hparsed q rfl, rfl⟩, ?_⟩
      rw [Option.map_some, markHalves, ← hhalving q rfl, ← hq]
    · rintro ⟨_, ⟨q, hq, rfl⟩, rfl⟩
      exact ⟨hs.symm, by simpa [markHalves] using hq, by simp [markHalves]⟩

theorem compileField_eq_error_iff {key : String} {source : Option String} {e : RuleError} :
    compileField key source = .error e ↔
      ∃ s cause, source = some s ∧ Pattern.parse s = .error cause ∧ e = .badPattern key cause := by
  cases source with
  | none => simp [compileField]
  | some s =>
    rw [compileField, SourcedPattern.parse]
    cases hs : Pattern.parse s with
    | error cause => simp [hs, bind, Except.bind, eq_comm]
    | ok q => simp [hs, bind, Except.bind, pure, Except.pure]

/-- A text is a pattern if there is one. -/
def Parses (source : Option String) : Prop := ∀ s ∈ source, ∃ p, Pattern.parse s = .ok p

theorem parses_iff {key : String} {source : Option String} :
    Parses source ↔ ∃ p, compileField key source = .ok p := by
  cases source with
  | none => simp [Parses, compileField]
  | some s =>
    simp only [Parses, Option.mem_def, Option.some.injEq, forall_eq', compileField_some]
    constructor
    · rintro ⟨q, hq⟩
      exact ⟨_, q, hq, rfl⟩
    · rintro ⟨_, q, hq, rfl⟩
      exact ⟨q, hq⟩

theorem PatternAt.parses {es : Entries} {key : String} {p : Option SourcedPattern}
    (h : PatternAt es key p) : Parses (textAt es key) := by
  obtain ⟨p₀, hp₀, -⟩ := patternAt_iff.1 h
  exact parses_iff.2 ⟨p₀, hp₀⟩

theorem exists_patternAt {es : Entries} {key : String} (h : Parses (textAt es key)) :
    ∃ p, PatternAt es key p := by
  obtain ⟨p₀, hp₀⟩ := parses_iff.1 h
  exact ⟨_, patternAt_iff.2 ⟨p₀, hp₀, rfl⟩⟩

/-- The definitions that are read. -/
structure Acceptable (es : Entries) : Prop where
  texts : ∀ key ∈ textKeys, allows Datum.text? (Entries.get? es key) = true
  bounds : ∀ key ∈ boundKeys, allows Datum.int? (Entries.get? es key) = true
  ranged : ∀ key ∈ boundKeys, Ranged (intAt es key)
  parsed : ∀ key ∈ patternKeys, Parses (textAt es key)

/-- The rule that a definition is read as. -/
structure ReadFrom (es : Entries) (r : Rule) : Prop where
  name : r.name = textAt es "name"
  nameFault : r.nameFault = (Entries.halvedAt? es "name").map (·.fault)
  flair : PatternAt es "link_flair_pattern" r.flair
  productType : PatternAt es "product_type_pattern" r.productType
  description : PatternAt es "description_pattern" r.description
  priceMin : r.priceMin = intAt es "price_min"
  priceMax : r.priceMax = intAt es "price_max"

theorem forall_boundKeys {q : String → Prop} :
    (∀ key ∈ boundKeys, q key) ↔ q "price_min" ∧ q "price_max" := by
  simp [boundKeys]

theorem forall_patternKeys {q : String → Prop} :
    (∀ key ∈ patternKeys, q key) ↔
      q "link_flair_pattern" ∧ q "product_type_pattern" ∧ q "description_pattern" := by
  simp [patternKeys]

theorem exists_readFrom {es : Entries} (h : ∀ key ∈ patternKeys, Parses (textAt es key)) :
    ∃ r, ReadFrom es r := by
  obtain ⟨hflair, hproductType, hdescription⟩ := forall_patternKeys.1 h
  obtain ⟨flair, hflair⟩ := exists_patternAt hflair
  obtain ⟨productType, hproductType⟩ := exists_patternAt hproductType
  obtain ⟨description, hdescription⟩ := exists_patternAt hdescription
  exact ⟨⟨_, flair, productType, description, _, _, _⟩, rfl, rfl, hflair, hproductType,
    hdescription, rfl, rfl⟩

theorem Definition.compile_ofEntries {es : Entries} {r : Rule} :
    withHalvesOf es <$> (ofEntries es).compile = .ok r ↔
      (∀ key ∈ boundKeys, Ranged (intAt es key)) ∧ ReadFrom es r := by
  simp only [forall_boundKeys, ← boundFits_iff_ranged]
  constructor
  · intro h
    cases hr₀ : (ofEntries es).compile with
    | error e =>
      rw [hr₀] at h
      cases h
    | ok r₀ =>
      rw [hr₀] at h
      obtain rfl := Except.ok.inj h
      obtain ⟨hfits, ⟨hflair, hproductType, hdescription⟩, hname, hmin, hmax, -⟩ :=
        Definition.compile_eq_ok.1 hr₀
      exact ⟨hfits, hname, rfl, patternAt_iff.2 ⟨_, hflair, rfl⟩,
        patternAt_iff.2 ⟨_, hproductType, rfl⟩, patternAt_iff.2 ⟨_, hdescription, rfl⟩, hmin, hmax⟩
  · rintro ⟨hfits, hr⟩
    obtain ⟨flair, hflair, hflairEq⟩ := patternAt_iff.1 hr.flair
    obtain ⟨productType, hproductType, hproductTypeEq⟩ := patternAt_iff.1 hr.productType
    obtain ⟨description, hdescription, hdescriptionEq⟩ := patternAt_iff.1 hr.description
    let r₀ : Rule := ⟨textAt es "name", flair, productType, description, intAt es "price_min",
      intAt es "price_max", none⟩
    have hr₀ : (ofEntries es).compile = .ok r₀ :=
      Definition.compile_eq_ok.2 ⟨hfits, ⟨hflair, hproductType, hdescription⟩, rfl, rfl, rfl, rfl⟩
    have hmarked : withHalvesOf es r₀ = r := by
      obtain ⟨name, flair', productType', description', priceMin, priceMax, nameFault⟩ := r
      rw [withHalvesOf, Rule.mk.injEq]
      exact ⟨hr.name.symm, hflairEq.symm, hproductTypeEq.symm, hdescriptionEq.symm,
        hr.priceMin.symm, hr.priceMax.symm, hr.nameFault.symm⟩
    rw [hr₀, ← hmarked]
    rfl

/-- **What a definition is read as.** -/
theorem compile_eq_ok_iff {d : Datum} {r : Rule} :
    compile d = .ok r ↔ ∃ es, d = .dict es ∧ Acceptable es ∧ ReadFrom es r := by
  cases d with
  | dict es =>
    rw [compile_dict]
    split
    · rename_i hkeys
      obtain ⟨htexts, hbounds⟩ := wrongKeys_eq_nil_iff.1 hkeys
      simp only [Definition.compile_ofEntries, Datum.dict.injEq, exists_eq_left']
      constructor
      · rintro ⟨hranged, hr⟩
        exact ⟨⟨htexts, hbounds, hranged, forall_patternKeys.2
          ⟨hr.flair.parses, hr.productType.parses, hr.description.parses⟩⟩, hr⟩
      · exact fun ⟨hes, hr⟩ => ⟨hes.ranged, hr⟩
    · rename_i hkeys
      constructor
      · intro h
        cases h
      · rintro ⟨_, ⟨⟩, hes, -⟩
        exact absurd (wrongKeys_eq_nil_iff.2 ⟨hes.texts, hes.bounds⟩) hkeys
  | scalar | list | set | pair =>
    constructor
    · intro h
      cases h
    · rintro ⟨_, ⟨⟩, -⟩

/-- **Which definitions are read.** -/
theorem exists_compile_iff {d : Datum} :
    (∃ r, compile d = .ok r) ↔ ∃ es, d = .dict es ∧ Acceptable es := by
  simp only [compile_eq_ok_iff]
  constructor
  · rintro ⟨r, es, hd, hes, -⟩
    exact ⟨es, hd, hes⟩
  · rintro ⟨es, hd, hes⟩
    obtain ⟨r, hr⟩ := exists_readFrom hes.parsed
    exact ⟨r, es, hd, hes, hr⟩

/-! ### Definitions that are refused -/

/-- How a definition is refused: for all fields of the wrong kind at once, else for the first bound
that is out of range, else for the first text that is no pattern. -/
inductive Refuses : Datum → RuleError → Prop
  | notObject {d : Datum} : d.entries? = none → Refuses d .notObject
  | wrongKind {es : Entries} : wrongKeys es ≠ [] →
      Refuses (.dict es) (.wrongType (wrongKeys es))
  | outOfRange {es : Entries} (before : List String) {key : String} {after : List String} :
      wrongKeys es = [] → boundKeys = before ++ key :: after →
      (∀ k ∈ before, Ranged (intAt es k)) → ¬ Ranged (intAt es key) →
      Refuses (.dict es) (.wrongType [key])
  | badPattern {es : Entries} (before : List String) {key : String} {after : List String}
      {source : String} {cause : Pattern.SyntaxError} :
      wrongKeys es = [] → (∀ k ∈ boundKeys, Ranged (intAt es k)) →
      patternKeys = before ++ key :: after → (∀ k ∈ before, Parses (textAt es k)) →
      textAt es key = some source → Pattern.parse source = .error cause →
      Refuses (.dict es) (.badPattern key cause)

theorem refuses_of_compileField {es : Entries} (before : List String) {key : String}
    {after : List String} {e : RuleError} (hkeys : wrongKeys es = [])
    (hranged : ∀ k ∈ boundKeys, Ranged (intAt es k)) (hsplit : patternKeys = before ++ key :: after)
    (hbefore : ∀ k ∈ before, Parses (textAt es k))
    (h : compileField key (textAt es key) = .error e) : Refuses (.dict es) e := by
  obtain ⟨source, cause, hsource, hcause, rfl⟩ := compileField_eq_error_iff.1 h
  exact .badPattern before hkeys hranged hsplit hbefore hsource hcause

theorem parses_of_compileField {key : String} {source : Option String} {p : Option SourcedPattern}
    (h : compileField key source = .ok p) : Parses source :=
  parses_iff.2 ⟨p, h⟩

/-- The bounds are looked at before the patterns, and both in their order. -/
theorem Definition.compile_error_cases {d : Definition} {e : RuleError}
    (h : d.compile = .error e) :
    (boundFits d.priceMin = false ∧ e = .wrongType ["price_min"]) ∨
    boundFits d.priceMin = true ∧
      ((boundFits d.priceMax = false ∧ e = .wrongType ["price_max"]) ∨
      boundFits d.priceMax = true ∧
        (compileField "link_flair_pattern" d.flair = .error e ∨
        ∃ flair, compileField "link_flair_pattern" d.flair = .ok flair ∧
          (compileField "product_type_pattern" d.productType = .error e ∨
          ∃ productType, compileField "product_type_pattern" d.productType = .ok productType ∧
            compileField "description_pattern" d.description = .error e))) := by
  rw [Definition.compile] at h
  cases hmin : boundFits d.priceMin with
  | false =>
    rw [hmin] at h
    exact .inl ⟨rfl, (Except.error.inj h).symm⟩
  | true =>
    cases hmax : boundFits d.priceMax with
    | false =>
      rw [hmin, hmax] at h
      exact .inr ⟨rfl, .inl ⟨rfl, (Except.error.inj h).symm⟩⟩
    | true =>
      simp only [hmin, hmax, if_true, bind_eq_error, pure, Except.pure, reduceCtorEq, and_false,
        exists_false, or_false] at h
      exact .inr ⟨rfl, .inr ⟨rfl, h⟩⟩

theorem Definition.refuses_of_compile {es : Entries} {e : RuleError} (hkeys : wrongKeys es = [])
    (h : (ofEntries es).compile = .error e) : Refuses (.dict es) e := by
  have hout {b : Option Int} (hb : boundFits b = false) : ¬ Ranged b := by
    rw [← boundFits_iff_ranged, hb]
    exact Bool.false_ne_true
  obtain ⟨hmin, rfl⟩ | ⟨hmin, ⟨hmax, rfl⟩ | ⟨hmax, hpatterns⟩⟩ := compile_error_cases h
  · exact .outOfRange [] hkeys rfl (by simp) (hout hmin)
  · exact .outOfRange ["price_min"] hkeys rfl
      (List.forall_mem_singleton.2 (boundFits_iff_ranged.1 hmin)) (hout hmax)
  · have hranged : ∀ key ∈ boundKeys, Ranged (intAt es key) :=
      forall_boundKeys.2 ⟨boundFits_iff_ranged.1 hmin, boundFits_iff_ranged.1 hmax⟩
    obtain hflair | ⟨_, hflair, hproductType | ⟨_, hproductType, hdescription⟩⟩ := hpatterns
    · exact refuses_of_compileField [] hkeys hranged rfl (by simp) hflair
    · exact refuses_of_compileField ["link_flair_pattern"] hkeys hranged rfl
        (List.forall_mem_singleton.2 (parses_of_compileField hflair)) hproductType
    · refine refuses_of_compileField ["link_flair_pattern", "product_type_pattern"] hkeys hranged
        rfl (List.forall_mem_cons.2 ⟨parses_of_compileField hflair, ?_⟩) hdescription
      exact List.forall_mem_singleton.2 (parses_of_compileField hproductType)

/-- **How the other definitions are refused.** -/
theorem refuses_of_compile {d : Datum} {e : RuleError} (h : compile d = .error e) :
    Refuses d e := by
  cases d with
  | dict es =>
    rw [compile_dict] at h
    split at h
    · rename_i hkeys
      exact Definition.refuses_of_compile hkeys (map_eq_error.1 h)
    · rename_i hkeys
      obtain rfl := Except.error.inj h
      exact .wrongKind hkeys
  | scalar | list | set | pair =>
    obtain rfl := Except.error.inj h
    exact .notObject rfl

/-- All wrong fields are named in their order, but a bound that is out of range is named alone. -/
example :
    compile (.dict [(.text "price_min", .flag true), (.text "name", .int 5)]) =
      .error (.wrongType ["name", "price_min"]) ∧
    compile (.dict [(.text "price_max", .int (2 ^ 63)), (.text "price_min", .int (2 ^ 63))]) =
      .error (.wrongType ["price_min"]) :=
  ⟨rfl, rfl⟩

/-! ### Rules that are identified and stored -/

section Identified

variable {es : Entries} {r : Rule}

theorem PatternAt.halving_eq_none_iff {key : String} {p : Option SourcedPattern}
    (h : PatternAt es key p) :
    (∀ q ∈ p, q.halving = none) ↔ Entries.halvedAt? es key = none := by
  cases hp : p with
  | none =>
    have htext : textAt es key = none := by rw [← h.source, hp]; rfl
    refine iff_of_true (by simp) ?_
    -- where halves are, there is a text
    rw [textAt] at htext
    rw [Entries.halvedAt?]
    split
    · rename_i t ht
      rw [ht] at htext
      cases htext
    · rfl
  | some q =>
    have hhalving := h.halving q hp
    simp [hhalving]

theorem ReadFrom.fault?_eq_none_iff (h : ReadFrom es r) :
    r.fault? = none ↔ ∀ key ∈ textKeys, Entries.halvedAt? es key = none := by
  rw [Rule.fault?_eq_none_iff, h.nameFault, Option.map_eq_none_iff, textKeys, List.forall_mem_cons,
    forall_patternKeys, ← h.flair.halving_eq_none_iff, ← h.productType.halving_eq_none_iff,
    ← h.description.halving_eq_none_iff]
  simp only [patterns, List.mem_cons, List.not_mem_nil, or_false, Option.mem_def]
  grind

/-- A rule that was read is identified and stored if no text has halves of surrogate pairs. -/
theorem ReadFrom.identified (h : ReadFrom es r) (hfits : r.FitsWords)
    (hwhole : ∀ key ∈ textKeys, Entries.halvedAt? es key = none) :
    r.tryFingerprint = .ok r.fingerprint ∧ ∀ s : Store, s.tryInsertRule r = .ok (s.insertRule r) := by
  have hflaw : r.flaw? = none := flaw?_eq_none_iff.2 ⟨h.fault?_eq_none_iff.2 hwhole, hfits⟩
  exact ⟨tryFingerprint_of_sound hflaw, fun s => Store.tryInsertRule_of_sound s hflaw⟩

/-- It is neither if there is a text that has. -/
theorem ReadFrom.unidentified (h : ReadFrom es r) {key : String} (hkey : key ∈ textKeys)
    {t : HalvedText} (ht : Entries.halvedAt? es key = some t) :
    ∃ fault, r.tryFingerprint = .error (.unencodable fault) ∧
      ∀ s : Store, s.tryInsertRule r = .error (.unencodable fault) := by
  have hfault : r.fault? ≠ none := by
    rw [Ne, h.fault?_eq_none_iff]
    intro hwhole
    rw [hwhole key hkey] at ht
    cases ht
  obtain ⟨fault, hflaw⟩ := exists_flaw?_of_fault? hfault
  exact ⟨fault, tryFingerprint_of_flaw hflaw, fun s => Store.tryInsertRule_of_flaw s hflaw⟩

end Identified

/-- A name that is half of a surrogate pair is read, and the rule can be neither identified nor
stored. -/
theorem compile_unidentified :
    ∃ r fault, compile (.dict [(.text "name", .scalar (.unpaired ⟨[.half 0], rfl⟩))]) = .ok r ∧
      r.tryFingerprint = .error (.unencodable fault) ∧
      ∀ s : Store, s.tryInsertRule r = .error (.unencodable fault) :=
  ⟨⟨some "\ufffd", none, none, none, none, none, some ⟨0, [0]⟩⟩, ⟨0, [0]⟩, rfl, rfl, fun _ => rfl⟩

end Rule

/-! ### Lists of definitions -/

namespace RuleSet

variable {ds : List Datum}

/-- A list is read if its definitions are, as their rules in their order. -/
theorem compileFrom_eq_ok_iff (position : Nat) {rs : List Rule} :
    compileFrom position ds = .ok rs ↔ ds.map Rule.compile = rs.map .ok := by
  induction ds generalizing position rs with
  | nil => cases rs <;> simp [compileFrom]
  | cons d ds ih =>
    rw [compileFrom]
    cases hd : Rule.compile d with
    | error e => cases rs <;> simp [hd]
    | ok r =>
      cases rs with
      | nil => cases compileFrom (position + 1) ds <;> simp [bind, Except.bind, pure, Except.pure]
      | cons r' rs =>
        rw [List.map_cons, List.map_cons, hd, List.cons.injEq, Except.ok.injEq,
          ← ih (position + 1)]
        cases compileFrom (position + 1) ds <;> simp [bind, Except.bind, pure, Except.pure]

/-- The first of some items that stands out is the first item, or the first one behind it. -/
theorem exists_first_cons_iff {α : Type} {p : α → Prop} {q : List α → α → Prop} {x : α}
    {xs : List α} :
    (∃ before y after, x :: xs = before ++ y :: after ∧ (∀ z ∈ before, p z) ∧ q before y) ↔
      q [] x ∨ p x ∧ ∃ before y after, xs = before ++ y :: after ∧ (∀ z ∈ before, p z) ∧
        q (x :: before) y := by
  constructor
  · rintro ⟨before, y, after, hsplit, hbefore, hy⟩
    cases before with
    | nil =>
      obtain ⟨rfl, -⟩ := List.cons.inj hsplit
      exact .inl hy
    | cons z before =>
      obtain ⟨rfl, rfl⟩ := List.cons.inj hsplit
      obtain ⟨hx, hbefore⟩ := List.forall_mem_cons.1 hbefore
      exact .inr ⟨hx, before, y, after, rfl, hbefore, hy⟩
  · rintro (hx | ⟨hx, before, y, after, rfl, hbefore, hy⟩)
    · exact ⟨[], x, xs, rfl, by simp, hx⟩
    · exact ⟨x :: before, y, after, rfl, List.forall_mem_cons.2 ⟨hx, hbefore⟩, hy⟩

/-- A list is refused for its first definition that is refused. -/
theorem compileFrom_eq_error_iff {position : Nat} {e : RuleError} :
    compileFrom position ds = .error e ↔ ∃ before d after, ds = before ++ d :: after ∧
      (∀ x ∈ before, ∃ r, Rule.compile x = .ok r) ∧
      ∃ cause, Rule.compile d = .error cause ∧
        e = .atPosition (position + before.length) cause := by
  induction ds generalizing position with
  | nil => simp [compileFrom]
  | cons d ds ih =>
    rw [compileFrom, exists_first_cons_iff]
    cases hd : Rule.compile d with
    | error cause => simp [eq_comm]
    | ok r =>
      simp only [bind_eq_error, ih, pure, Except.pure, reduceCtorEq, and_false, false_and,
        exists_false, or_false, false_or, Except.ok.injEq, exists_eq', true_and, List.length_cons,
        Nat.add_assoc, Nat.add_comm 1]

theorem compile_eq_ok_iff {s : RuleSet} :
    compile ds = .ok s ↔ ds.map Rule.compile = s.rules.map .ok := by
  rw [← compileFrom_eq_ok_iff 1, compile]
  cases compileFrom 1 ds with
  | error e => simp [bind, Except.bind]
  | ok rs =>
    obtain ⟨rules⟩ := s
    simp [bind, Except.bind, pure, Except.pure]

theorem compile_eq_error_iff {e : RuleError} :
    compile ds = .error e ↔ ∃ before d after, ds = before ++ d :: after ∧
      (∀ x ∈ before, ∃ r, Rule.compile x = .ok r) ∧
      ∃ cause, Rule.compile d = .error cause ∧ e = .atPosition (before.length + 1) cause := by
  simp only [Nat.add_comm _ 1, ← compileFrom_eq_error_iff]
  rw [compile]
  cases compileFrom 1 ds <;> simp [bind, Except.bind, pure, Except.pure]

theorem exists_compile_iff :
    (∃ s, compile ds = .ok s) ↔ ∀ d ∈ ds, ∃ r, Rule.compile d = .ok r := by
  simp only [compile_eq_ok_iff]
  constructor
  · rintro ⟨s, hs⟩ d hd
    obtain ⟨r, -, hr⟩ := List.mem_map.1 (hs ▸ List.mem_map_of_mem hd)
    exact ⟨r, hr.symm⟩
  · intro h
    induction ds with
    | nil => exact ⟨⟨[]⟩, rfl⟩
    | cons d ds ih =>
      obtain ⟨⟨r, hr⟩, hds⟩ := List.forall_mem_cons.1 h
      obtain ⟨⟨rs⟩, hrs⟩ := ih hds
      exact ⟨⟨r :: rs⟩, by rw [List.map_cons, hr, hrs, List.map_cons]⟩

/-- **Definitions.**  A document is read as a rule exactly if it is acceptable, and all others are
refused with the error that says why. The bounds of a rule that was read are read back from the bytes
that are written for them, and the rule can be identified and stored exactly if none of its texts has
half of a surrogate pair. A list of definitions is read exactly if each of them is, as their rules in
their order, and else it is refused with the position of the first definition that is not read. -/
theorem definitions_compile (ds : List Datum) :
    (∀ d, (∃ r, Rule.compile d = .ok r) ↔ ∃ es, d = .dict es ∧ Rule.Acceptable es) ∧
    (∀ d e, Rule.compile d = .error e → Rule.Refuses d e) ∧
    (∀ d r, Rule.compile d = .ok r → ∃ es, d = .dict es ∧ Rule.ReadFrom es r ∧
      (∀ i ∈ r.bounds, signedBytes 8 i = .ok (Rule.wordBytes i) ∧
        ofSignedBytes (Rule.wordBytes i) = i) ∧
      ((∀ key ∈ Rule.textKeys, Entries.halvedAt? es key = none) →
        r.tryFingerprint = .ok r.fingerprint ∧
          ∀ s : Store, s.tryInsertRule r = .ok (s.insertRule r)) ∧
      ∀ key ∈ Rule.textKeys, ∀ t, Entries.halvedAt? es key = some t →
        ∃ fault, r.tryFingerprint = .error (.unencodable fault) ∧
          ∀ s : Store, s.tryInsertRule r = .error (.unencodable fault)) ∧
    ((∃ s, compile ds = .ok s) ↔ ∀ d ∈ ds, ∃ r, Rule.compile d = .ok r) ∧
    (∀ s, compile ds = .ok s →
      ds.map Rule.compile = s.rules.map .ok ∧ s.rules.length = ds.length) ∧
    (∀ e, compile ds = .error e → ∃ before d after cause, ds = before ++ d :: after ∧
      (∀ x ∈ before, ∃ r, Rule.compile x = .ok r) ∧ Rule.compile d = .error cause ∧
      e = .atPosition (before.length + 1) cause ∧
      e.message = "rule #" ++ toString (before.length + 1) ++ ": " ++ cause.message) := by
  refine ⟨fun d => Rule.exists_compile_iff, fun d e => Rule.refuses_of_compile,
    fun d r hr => ?_, exists_compile_iff, fun s hs => ?_, fun e he => ?_⟩
  · have hfits := Rule.fitsWords_of_compile hr
    obtain ⟨es, hd, -, hes⟩ := Rule.compile_eq_ok_iff.1 hr
    refine ⟨es, hd, hes, fun i hi => ?_, hes.identified hfits,
      fun key hkey t => hes.unidentified hkey⟩
    have hwritten : signedBytes 8 i = .ok (Rule.wordBytes i) := by
      rw [Rule.signedBytes_eight, if_pos (hfits i hi)]
    exact ⟨hwritten, (ofSignedBytes_of_signedBytes hwritten).2⟩
  · have hmap := compile_eq_ok_iff.1 hs
    have hlength := congrArg List.length hmap
    rw [List.length_map, List.length_map] at hlength
    exact ⟨hmap, hlength.symm⟩
  · obtain ⟨before, d, after, hsplit, hbefore, cause, hd, rfl⟩ := compile_eq_error_iff.1 he
    exact ⟨before, d, after, cause, hsplit, hbefore, hd, rfl, rfl⟩

end RuleSet

end DealWatch
