import DealWatch.Proofs.Data.Verdict
import DealWatch.Proofs.Pattern.Reformatting
import DealWatch.Proofs.Pipeline.Match
import DealWatch.Proofs.Rule.Fingerprint

/-!
# Definitions that are laid out anew

The layout of its patterns is no part of what a rule is: with other gaps, quotes and parentheses a
definition is read as the same rule, under the same fingerprint. `Rule.Reformatted` compares
documents whose patterns are laid out differently, and `Rule.reformatting_is_harmless` says what
stays.

That the trees stay is shown for one pattern and one change at a time (`Pattern.parse_reformatted`).
All else follows from it, because no more of a pattern than its tree goes into the fingerprint, the
answers and the key in the store (`Rule.Same`), apart from what is known of halves of surrogate
pairs (`Rule.SameHalves`). A pattern with such halves is left as it is, so this stays too: a rule
that cannot be identified still cannot be.
-/

namespace DealWatch

namespace Rule

/-! ### The fields of definitions -/

/-- The keys of the patterns. -/
def patternKeys : List String :=
  ["link_flair_pattern", "product_type_pattern", "description_pattern"]

/-- A pattern that is laid out anew, in a text without tabs, or a value that stays as it is. -/
inductive ReformattedField : Option Datum → Option Datum → Prop
  | same (d : Option Datum) : ReformattedField d d
  | pattern {s s' : String} : '\t' ∉ s.toList →
      Relation.ReflTransGen Pattern.Reformats s s' →
      ReformattedField (some (.text s)) (some (.text s'))

/-- Documents that have the same values, but for the layout of patterns. -/
structure Reformatted (es es' : Entries) : Prop where
  pattern : ∀ key ∈ patternKeys, ReformattedField (Entries.get? es key) (Entries.get? es' key)
  other : ∀ key ∉ patternKeys, Entries.get? es' key = Entries.get? es key

/-- A definition is accepted with the values that its fields are accepted with. -/
theorem Definition.check_eq_accepted {es : Entries} {d : Definition} :
    Definition.check es = .accepted d ↔
      Fields.optional es "name" Check.strictText = .accepted d.name ∧
      Fields.optional es "link_flair_pattern" Check.strictText = .accepted d.flair ∧
      Fields.optional es "product_type_pattern" Check.strictText = .accepted d.productType ∧
      Fields.optional es "description_pattern" Check.strictText = .accepted d.description ∧
      Fields.optional es "price_min" Check.strictInt = .accepted d.priceMin ∧
      Fields.optional es "price_max" Check.strictInt = .accepted d.priceMax := by
  simp only [Definition.check, Verdict.seq_eq_accepted, Verdict.map_eq_accepted]
  constructor
  · rintro ⟨_, max, ⟨_, min, ⟨_, description, ⟨_, productType, ⟨_, flair, ⟨name, hname, rfl⟩,
      hflair, rfl⟩, hproductType, rfl⟩, hdescription, rfl⟩, hmin, rfl⟩, hmax, rfl⟩
    exact ⟨hname, hflair, hproductType, hdescription, hmin, hmax⟩
  · rintro ⟨hname, hflair, hproductType, hdescription, hmin, hmax⟩
    exact ⟨_, _, ⟨_, _, ⟨_, _, ⟨_, _, ⟨_, _, ⟨_, hname, rfl⟩, hflair, rfl⟩, hproductType, rfl⟩,
      hdescription, rfl⟩, hmin, rfl⟩, hmax, rfl⟩

theorem optional_congr {α : Type} {es es' : Entries} {key : String} (check : Check α)
    (h : Entries.get? es' key = Entries.get? es key) :
    Fields.optional es' key check = Fields.optional es key check := by
  rw [Fields.optional, Fields.withDefault, h, Fields.optional, Fields.withDefault]

theorem optional_text {es : Entries} {key s : String} (h : Entries.get? es key = some (.text s)) :
    Fields.optional es key Check.strictText = .accepted (some s) := by
  rw [Fields.optional, Fields.withDefault, h]
  rfl

theorem compileField_some {key s : String} {p : Option SourcedPattern} :
    compileField key (some s) = .ok p ↔ ∃ q, Pattern.parse s = .ok q ∧ p = some ⟨s, q, none⟩ := by
  rw [compileField, SourcedPattern.parse]
  cases Pattern.parse s with
  | error e => simp [bind, Except.bind]
  | ok q => simp [bind, Except.bind, pure, Except.pure, eq_comm]

/-- The pattern of a field that is laid out anew has the same structure. -/
theorem compileField_reformatted {es es' : Entries} {key : String}
    (h : ReformattedField (Entries.get? es key) (Entries.get? es' key)) {source : Option String}
    {p : Option SourcedPattern}
    (hsource : Fields.optional es key Check.strictText = .accepted source)
    (hp : compileField key source = .ok p) :
    ∃ source' p', Fields.optional es' key Check.strictText = .accepted source' ∧
      compileField key source' = .ok p' ∧ p.map (·.pattern) = p'.map (·.pattern) := by
  generalize hf : Entries.get? es key = f at h
  generalize hf' : Entries.get? es' key = f' at h
  cases h with
  | same =>
    refine ⟨source, p, ?_, hp, rfl⟩
    rw [optional_congr Check.strictText (hf'.trans hf.symm), hsource]
  | pattern htab hreformats =>
    rename_i s s'
    rw [optional_text hf] at hsource
    obtain rfl : source = some s := by cases hsource; rfl
    obtain ⟨q, hq, rfl⟩ := compileField_some.1 hp
    have hq' := (Pattern.parse_reformatted hreformats htab hq).1
    exact ⟨some s', some ⟨s', q, none⟩, optional_text hf', compileField_some.2 ⟨q, hq', rfl⟩, rfl⟩

/-! ### The same rules -/

/-- The same is known of the halves of surrogate pairs in the texts of two rules. -/
structure SameHalves (r s : Rule) : Prop where
  name : r.nameFault = s.nameFault
  flair : r.flair.map (·.halving) = s.flair.map (·.halving)
  productType : r.productType.map (·.halving) = s.productType.map (·.halving)
  description : r.description.map (·.halving) = s.description.map (·.halving)

theorem halvedAt?_congr {es es' : Entries} {key : String}
    (h : Entries.get? es' key = Entries.get? es key) :
    Entries.halvedAt? es' key = Entries.halvedAt? es key := by
  rw [Entries.halvedAt?, Entries.halvedAt?, h]

/-- A pattern that is laid out anew has no halves, before and after. -/
theorem ReformattedField.halvedAt?_eq {es es' : Entries} {key : String}
    (h : ReformattedField (Entries.get? es key) (Entries.get? es' key)) :
    Entries.halvedAt? es' key = Entries.halvedAt? es key := by
  rw [Entries.halvedAt?, Entries.halvedAt?]
  generalize Entries.get? es key = f at h
  generalize Entries.get? es' key = f' at h
  cases h <;> rfl

/-- Patterns of the same structure are marked with the same. -/
theorem map_halving_markHalves {es es' : Entries} {key : String} {p p' : Option SourcedPattern}
    (hhalved : Entries.halvedAt? es' key = Entries.halvedAt? es key)
    (hp : p.map (·.pattern) = p'.map (·.pattern)) :
    (p.map (markHalves es key)).map (·.halving) = (p'.map (markHalves es' key)).map (·.halving) := by
  cases p <;> cases p' <;> simp_all [markHalves]

/-- **Definitions that are laid out anew** are read as the same rule. -/
theorem compile_reformatted {es es' : Entries} (h : Reformatted es es') {r : Rule}
    (hr : compile (.dict es) = .ok r) :
    ∃ r', compile (.dict es') = .ok r' ∧ r.Same r' ∧ r.SameHalves r' := by
  have hother {α : Type} (check : Check α) (key : String) (hkey : key ∉ patternKeys) :=
    optional_congr check (h.other key hkey)
  obtain ⟨_, d, r₀, ⟨⟩, hd, hr₀, rfl⟩ := compile_eq_ok hr
  obtain ⟨hname, hflair, hproductType, hdescription, hmin, hmax⟩ :=
    Definition.check_eq_accepted.1 hd
  obtain ⟨hfits, ⟨hflairOk, hproductTypeOk, hdescriptionOk⟩, hnameEq, hminEq, hmaxEq, hfault⟩ :=
    Definition.compile_eq_ok.1 hr₀
  have hflairKey := h.pattern "link_flair_pattern" (by decide)
  have hproductTypeKey := h.pattern "product_type_pattern" (by decide)
  have hdescriptionKey := h.pattern "description_pattern" (by decide)
  obtain ⟨flair, pflair, hflair', hflairOk', hflairEq⟩ :=
    compileField_reformatted hflairKey hflair hflairOk
  obtain ⟨productType, pproductType, hproductType', hproductTypeOk', hproductTypeEq⟩ :=
    compileField_reformatted hproductTypeKey hproductType hproductTypeOk
  obtain ⟨description, pdescription, hdescription', hdescriptionOk', hdescriptionEq⟩ :=
    compileField_reformatted hdescriptionKey hdescription hdescriptionOk
  -- the patterns are read from the new texts, and the other fields are those of the old document
  let d' : Definition := { d with flair, productType, description }
  let r₀' : Rule :=
    { r₀ with flair := pflair, productType := pproductType, description := pdescription }
  have hd' : Definition.check es' = .accepted d' := by
    refine Definition.check_eq_accepted.2
      ⟨?_, hflair', hproductType', hdescription', ?_, ?_⟩
    · rw [hother _ _ (by decide), hname]
    · rw [hother _ _ (by decide), hmin]
    · rw [hother _ _ (by decide), hmax]
  have hr₀' : d'.compile = .ok r₀' := Definition.compile_eq_ok.2
    ⟨hfits, ⟨hflairOk', hproductTypeOk', hdescriptionOk'⟩, hnameEq, hminEq, hmaxEq, hfault⟩
  have hr' : compile (.dict es') = .ok (r₀'.withHalvesOf es') := by
    rw [compile, hd']
    exact congrArg (withHalvesOf es' <$> ·) hr₀'
  have hpattern {p p' : Option SourcedPattern} {key : String}
      (hp : p.map (·.pattern) = p'.map (·.pattern)) :
      (p.map (markHalves es key)).map (·.pattern) =
        (p'.map (markHalves es' key)).map (·.pattern) := by
    rw [Option.map_map, Option.map_map]
    exact hp
  refine ⟨_, hr', ⟨rfl, hpattern hflairEq, hpattern hproductTypeEq, hpattern hdescriptionEq, rfl,
    rfl⟩, ⟨?_, map_halving_markHalves hflairKey.halvedAt?_eq hflairEq,
    map_halving_markHalves hproductTypeKey.halvedAt?_eq hproductTypeEq,
    map_halving_markHalves hdescriptionKey.halvedAt?_eq hdescriptionEq⟩⟩
  simp only [withHalvesOf, halvedAt?_congr (h.other "name" (by decide))]

variable {r r' : Rule}

theorem Same.fingerprintWith_eq (h : r.Same r') (hash : List UInt8 → Digest) :
    r'.fingerprintWith hash = r.fingerprintWith hash := by
  rw [fingerprintWith, fingerprintWith, h.alike.identity_eq]

theorem fault?_eq (r : Rule) :
    r.fault? = r.nameFault.or
      ((r.patterns.map (Option.map (·.halving))).findSome? fun h => h.join.map (·.fault)) := by
  rw [fault?, List.findSome?_map]
  congr 1
  generalize r.patterns = ps
  induction ps with
  | nil => rfl
  | cons p ps ih =>
    cases p with
    | none => exact ih
    | some p =>
      have hsome : (some p :: ps).filterMap id = p :: ps.filterMap id := rfl
      rw [hsome, List.findSome?_cons, List.findSome?_cons, ih]
      rfl

/-- What keeps a rule from being identified depends on its bounds and on halves in its texts. -/
theorem Same.flaw?_eq (h : r.Same r') (hhalves : r.SameHalves r') : r'.flaw? = r.flaw? := by
  have hfault : r'.fault? = r.fault? := by
    simp only [fault?_eq, patterns, List.map_cons, hhalves.name, hhalves.flair, hhalves.productType,
      hhalves.description]
  rw [flaw?, flaw?, hfault, h.alike.bounds]

theorem Same.tryFingerprint_eq (h : r.Same r') (hhalves : r.SameHalves r') :
    r'.tryFingerprint = r.tryFingerprint := by
  rw [Rule.tryFingerprint_eq, Rule.tryFingerprint_eq, h.flaw?_eq hhalves, fingerprint, fingerprint,
    h.fingerprintWith_eq]

/-- Whether a pattern holds depends on its structure and on the halves in it. -/
theorem patternHolds_congr {p p' : Option SourcedPattern}
    (hpattern : p.map (·.pattern) = p'.map (·.pattern))
    (hhalving : p.map (·.halving) = p'.map (·.halving)) (text : String) :
    patternHolds p' text = patternHolds p text := by
  cases p <;> cases p' <;> simp_all [patternHolds, SourcedPattern.holds]

/-- Whether a rule accepts a listing depends on its pattern for the flair only. -/
theorem Same.acceptsListing_eq (h : r.Same r') (hhalves : r.SameHalves r') (l : Listing) :
    r'.acceptsListing l = r.acceptsListing l := by
  have hpattern := h.flair
  have hhalving := hhalves.flair
  rw [acceptsListing, acceptsListing]
  cases hr : r.flair <;> cases hr' : r'.flair <;> simp_all [SourcedPattern.holdsOptional]

/-- Whether a rule accepts a title depends on its other patterns and its bounds only. -/
theorem Same.acceptsTitle_eq (h : r.Same r') (hhalves : r.SameHalves r') (t : ParsedTitle) :
    r'.acceptsTitle t = r.acceptsTitle t := by
  have hprice (price : Binary64) : r'.acceptsPrice price = r.acceptsPrice price := by
    rw [acceptsPrice, acceptsPrice, h.priceMin, h.priceMax]
  simp only [acceptsTitle, patternHolds_congr h.productType hhalves.productType,
    patternHolds_congr h.description hhalves.description, hprice]

/-- A rule is not stored again once the same rule was. -/
theorem Same.insertRule_eq (h : r.Same r') (s : Store) (rs : List Rule) :
    ((s.insertRule r).1.withRules rs).insertRule r' =
      ((s.insertRule r).1.withRules rs, false) := by
  refine Store.insertRule_known ?_
  rw [fingerprint, h.fingerprintWith_eq]
  exact Store.mem_ruleIds_withRules.2 (.inl (Store.mem_ruleIds_insertRule.2 (.inr rfl)))

/-- A rule that was stored is not stored again as the same rule. -/
theorem Same.tryInsertRule_eq (h : r.Same r') (hhalves : r.SameHalves r') {s s' : Store}
    {fresh : Bool} (hs' : s.tryInsertRule r = .ok (s', fresh)) (rs : List Rule) :
    (s'.withRules rs).tryInsertRule r' = .ok (s'.withRules rs, false) := by
  cases hflaw : r.flaw? with
  | some f =>
    rw [Store.tryInsertRule_of_flaw s hflaw] at hs'
    cases hs'
  | none =>
    rw [Store.tryInsertRule_of_sound s hflaw] at hs'
    obtain rfl : (s.insertRule r).1 = s' := congrArg Prod.fst (Except.ok.inj hs')
    rw [Store.tryInsertRule_of_sound _ ((h.flaw?_eq hhalves).trans hflaw), h.insertRule_eq]

/-- **Laying a definition out anew changes nothing.** If its patterns are written without tabs, then
whatever the gaps, the quotes around words and the parentheses that are added, the definition is
read as a rule with the same structure of each pattern, the same fingerprint for any hash function,
and the same answer on all listings and titles; and after the first rule the other one is not stored
again. This holds whether the rule can be identified or not. -/
theorem reformatting_is_harmless {es es' : Entries} (h : Reformatted es es') {r : Rule}
    (hr : compile (.dict es) = .ok r) :
    ∃ r', compile (.dict es') = .ok r' ∧ r.Same r' ∧
      (∀ hash, r'.fingerprintWith hash = r.fingerprintWith hash) ∧
      r'.fingerprint = r.fingerprint ∧
      (∀ l, r'.acceptsListing l = r.acceptsListing l) ∧
      (∀ t, r'.acceptsTitle t = r.acceptsTitle t) ∧
      (∀ (s : Store) (rs : List Rule),
        ((s.insertRule r).1.withRules rs).insertRule r' =
          ((s.insertRule r).1.withRules rs, false)) ∧
      r'.tryFingerprint = r.tryFingerprint ∧
      ∀ (s s' : Store) (fresh : Bool) (rs : List Rule), s.tryInsertRule r = .ok (s', fresh) →
        (s'.withRules rs).tryInsertRule r' = .ok (s'.withRules rs, false) := by
  obtain ⟨r', hr', hsame, hhalves⟩ := compile_reformatted h hr
  exact ⟨r', hr', hsame, hsame.fingerprintWith_eq, hsame.fingerprintWith_eq sha256,
    hsame.acceptsListing_eq hhalves, hsame.acceptsTitle_eq hhalves, hsame.insertRule_eq,
    hsame.tryFingerprint_eq hhalves,
    fun s s' fresh rs hs' => hsame.tryInsertRule_eq hhalves hs' rs⟩

/-- A word gets quotes, and the operands before a negation get parentheses. -/
theorem reformatting_is_harmless_grouped :
    ∃ r r', compile (.dict [(.text "link_flair_pattern", .text "a && b || !c")]) = .ok r ∧
      compile (.dict [(.text "link_flair_pattern", .text "(\"a\"&&b)\n||!c")]) = .ok r' ∧
      r'.fingerprint = r.fingerprint ∧
      ((Store.empty.insertRule r).1.insertRule r').2 = false := by
  let word (c : Char) (hc : isAlphanumeric c = true) : Pattern.Word :=
    ⟨[c], List.cons_ne_nil _ _, fun _ h => List.mem_singleton.1 h ▸ hc⟩
  let a := word 'a' (by decide +kernel)
  let b := word 'b' (by decide +kernel)
  let c := word 'c' (by decide +kernel)
  let rest : List Pattern.Spelling :=
    [.connective .both, .bare b, .connective .either, .negation, .bare c]
  -- first the word gets its quotes
  have hquote : Pattern.Reformats "a && b || !c" "\"a\"&&b||!c" := by
    have hcut : Pattern.Cut (.bare a :: rest) (a.chars ++ ' ' :: ("&&".toList ++ ' ' ::
        (b.chars ++ ' ' :: ("||".toList ++ ' ' :: (['!'] ++ (c.chars ++ [])))))) :=
      .lexeme (.bare a) rfl <| .gap rfl <| .lexeme (.connective .both) trivial <| .gap rfl <|
        .lexeme (.bare b) rfl <| .gap rfl <| .lexeme (.connective .either) trivial <| .gap rfl <|
          .lexeme .negation trivial <| .lexeme (.bare c) trivial .nil
    have hspread : Pattern.Spread (.literal a.quoted :: rest) (('"' :: (a.chars ++ ['"'])) ++
        ("&&".toList ++ (b.chars ++ ("||".toList ++ (['!'] ++ (c.chars ++ [])))))) :=
      .lexeme (.literal a.quoted) <| .lexeme (.connective .both) <| .lexeme (.bare b) <|
        .lexeme (.connective .either) <| .lexeme .negation <| .lexeme (.bare c) .nil
    exact ⟨_, _, hcut, .quote [] rest a, hspread⟩
  -- then the operands that are no negation get parentheses
  have henclose : Pattern.Reformats "\"a\"&&b||!c" "(\"a\"&&b)\n||!c" := by
    have hcut : Pattern.Cut (.literal a.quoted :: rest) (('"' :: (a.chars ++ ['"'])) ++
        ("&&".toList ++ (b.chars ++ ("||".toList ++ (['!'] ++ (c.chars ++ [])))))) :=
      .lexeme (.literal a.quoted) trivial <| .lexeme (.connective .both) trivial <|
        .lexeme (.bare b) rfl <| .lexeme (.connective .either) trivial <|
          .lexeme .negation trivial <| .lexeme (.bare c) trivial .nil
    have hspread : Pattern.Spread (.opening :: .literal a.quoted :: .connective .both :: .bare b ::
        .closing :: [.connective .either, .negation, .bare c]) (['('] ++
        (('"' :: (a.chars ++ ['"'])) ++ ("&&".toList ++ (b.chars ++ ([')'] ++ '\n' ::
          ("||".toList ++ (['!'] ++ (c.chars ++ [])))))))) :=
      .lexeme .opening <| .lexeme (.literal a.quoted) <| .lexeme (.connective .both) <|
        .lexeme (.bare b) <| .lexeme .closing <| .gap rfl <| .lexeme (.connective .either) <|
          .lexeme .negation <| .lexeme (.bare c) .nil
    have hrun : Pattern.Run (Pattern.kinds [.literal a.quoted, .connective .both, .bare b]) :=
      .more .both (.one (.keyword _)) (.keyword _)
    have henclosed := Pattern.Respelled.enclose (u := []) (v := [.connective .either, .negation,
      .bare c]) (.leading _ .start hrun)
    exact ⟨_, _, hcut, henclosed, hspread⟩
  have hreformatted : Reformatted [(.text "link_flair_pattern", .text "a && b || !c")]
      [(.text "link_flair_pattern", .text "(\"a\"&&b)\n||!c")] := by
    refine ⟨fun key hkey => ?_, fun key hkey => ?_⟩
    · obtain rfl | rfl | rfl : key = "link_flair_pattern" ∨ key = "product_type_pattern" ∨
          key = "description_pattern" := by simpa [patternKeys] using hkey
      · exact .pattern (by decide) (.tail (.single hquote) henclose)
      · exact .same none
      · exact .same none
    · have hne : (Scalar.text "link_flair_pattern" == Scalar.text key) = false := by
        rw [beq_eq_false_iff_ne]
        rintro ⟨⟩
        exact hkey List.mem_cons_self
      simp [Entries.get?, hne]
  have hsome : (compile (.dict [(.text "link_flair_pattern",
      .text "a && b || !c")])).toOption.isSome = true := by decide +kernel
  obtain ⟨r, hr⟩ : ∃ r, compile (.dict [(.text "link_flair_pattern", .text "a && b || !c")]) =
      .ok r := by
    generalize compile (.dict [(.text "link_flair_pattern", .text "a && b || !c")]) = result
      at hsome
    cases result with
    | error e => cases hsome
    | ok r => exact ⟨r, rfl⟩
  obtain ⟨r', hr', -, -, hfingerprint, -, -, hinsert, -⟩ := reformatting_is_harmless hreformatted hr
  refine ⟨r, r', hr, hr', hfingerprint, ?_⟩
  exact congrArg Prod.snd (hinsert Store.empty [])

end Rule

end DealWatch
