import DealWatch.Proofs.Failure
import DealWatch.Proofs.Text.Halved
import DealWatch.Proofs.Text.Stretch
import DealWatch.Settings.Expand
import Mathlib.Data.List.Forall2

/-!
# What references become

A text is read from left to right, and at each place a reference is taken if one starts there. What
it is replaced by is put into the result and not read again, so nothing depends on what the values
of variables look like. `ReferenceCut` says how a text is taken apart, and `referenceCut_iff` that
`pieces` does so: the proof is by induction on the length of the text, where the first piece is a
reference exactly if a name in braces is found behind a dollar sign.

`Datum.Expanded` says what a value becomes, part by part, and `Datum.RefersTo` which variables it
names. `Datum.expand_spec` says that `Datum.expand` gives this value and depends on no other
variables. It does not give a value for every value: the lists and dictionaries inside of each other
must not be too many, and the names of the variables must be such that the system can be asked for
them. `Datum.expand_deep` shows a value for which it fails. The proofs are by induction on the value
and follow its parts; for those of a list the results are compared item by item.
-/

namespace DealWatch

/-! ### Texts -/

/-- A name that a reference can have. -/
def IsReferenceName (name : List CodePoint) : Prop := name ≠ [] ∧ .char '}' ∉ name

/-- A text starts with a reference. -/
def StartsReference (cs : List CodePoint) : Prop :=
  ∃ name rest, IsReferenceName name ∧ cs = (Piece.reference name).source ++ rest

/-- How a text is taken apart from left to right. A code point stands for itself only where
no reference starts. -/
inductive ReferenceCut : List CodePoint → List Piece → Prop
  | nil : ReferenceCut [] []
  | reference {name rest : List CodePoint} {ps : List Piece} : IsReferenceName name →
      ReferenceCut rest ps →
      ReferenceCut ((Piece.reference name).source ++ rest) (.reference name :: ps)
  | literal {p : CodePoint} {rest : List CodePoint} {ps : List Piece} :
      ¬ StartsReference (p :: rest) → ReferenceCut rest ps →
      ReferenceCut (p :: rest) (.literal p :: ps)

/-- The pieces of a text, written one after the other, are the text. -/
theorem ReferenceCut.source_eq {cs : List CodePoint} {ps : List Piece} (h : ReferenceCut cs ps) :
    ps.flatMap Piece.source = cs := by
  induction h with
  | nil => rfl
  | reference _ _ ih => rw [List.flatMap_cons, ih]
  | literal _ _ ih =>
    rw [List.flatMap_cons, ih]
    rfl

theorem source_reference_append (name rest : List CodePoint) :
    (Piece.reference name).source ++ rest = .char '$' :: .char '{' :: (name ++ .char '}' :: rest) := by
  simp [Piece.source]

/-- A name in braces is found exactly where one stands. -/
theorem bracedName?_eq_some_iff {cs name : List CodePoint} :
    bracedName? cs = some name ↔
      IsReferenceName name ∧ ∃ rest, cs = .char '{' :: (name ++ .char '}' :: rest) := by
  constructor
  · intro h
    unfold bracedName? at h
    split at h
    · rename_i cs
      obtain ⟨run, rest, rfl, hrun⟩ := Stretch.exists_eq (· != CodePoint.char '}') cs
      simp only [hrun.takeWhile_eq, List.drop_left] at h
      split at h
      · cases h
      · rename_i hfound
        cases h
        rw [Bool.or_eq_true, not_or, List.isEmpty_iff, List.isEmpty_iff] at hfound
        obtain ⟨hnot, hbrace⟩ := stretch_ne_iff.1 hrun
        obtain ⟨c, rest, rfl⟩ := List.exists_cons_of_ne_nil hfound.2
        obtain rfl := hbrace c rfl
        exact ⟨⟨hfound.1, hnot⟩, rest, rfl⟩
    · cases h
  · rintro ⟨⟨hne, hmem⟩, rest, rfl⟩
    have hrun : Stretch (· != .char '}') name (.char '}' :: rest) :=
      stretch_ne_iff.2 ⟨hmem, fun c hc => (Option.some.inj hc).symm⟩
    rw [bracedName?]
    simp only [hrun.takeWhile_eq, List.drop_left]
    rw [if_neg (by simpa using hne)]

theorem startsReference_iff {c : CodePoint} {rest : List CodePoint} :
    StartsReference (c :: rest) ↔ c = .char '$' ∧ ∃ name, bracedName? rest = some name := by
  constructor
  · rintro ⟨name, more, hname, hcs⟩
    rw [source_reference_append] at hcs
    obtain ⟨rfl, rfl⟩ := List.cons.inj hcs
    exact ⟨rfl, name, bracedName?_eq_some_iff.2 ⟨hname, more, rfl⟩⟩
  · rintro ⟨rfl, name, hfound⟩
    obtain ⟨hname, more, rfl⟩ := bracedName?_eq_some_iff.1 hfound
    exact ⟨name, more, hname, (source_reference_append name more).symm⟩

theorem pieces_reference {name : List CodePoint} (h : IsReferenceName name) (rest : List CodePoint) :
    pieces ((Piece.reference name).source ++ rest) = .reference name :: pieces rest := by
  have hname : bracedName? (.char '{' :: (name ++ .char '}' :: rest)) = some name :=
    bracedName?_eq_some_iff.2 ⟨h, rest, rfl⟩
  have hdrop : (CodePoint.char '{' :: (name ++ .char '}' :: rest)).drop (name.length + 2) = rest := by
    rw [List.drop_succ_cons, List.drop_append]
    simp
  rw [source_reference_append, pieces, if_pos rfl, hname]
  simp only [hdrop]

theorem pieces_literal {c : CodePoint} {rest : List CodePoint} (h : ¬ StartsReference (c :: rest)) :
    pieces (c :: rest) = .literal c :: pieces rest := by
  have hnone : (if c = .char '$' then bracedName? rest else none) = none := by
    split
    · rename_i hc
      cases hname : bracedName? rest with
      | none => rfl
      | some name => exact absurd (startsReference_iff.2 ⟨hc, name, hname⟩) h
    · rfl
  rw [pieces, hnone]

/-- Every text is taken apart in one way. -/
theorem referenceCut_iff {cs : List CodePoint} {ps : List Piece} :
    ReferenceCut cs ps ↔ pieces cs = ps := by
  constructor
  · intro h
    induction h with
    | nil => rw [pieces]
    | reference hname _ ih => rw [pieces_reference hname, ih]
    | literal hno _ ih => rw [pieces_literal hno, ih]
  · rintro rfl
    -- The induction is on the length, since a reference takes several characters at once.
    induction hn : cs.length using Nat.strongRecOn generalizing cs with
    | ind n ih =>
      subst hn
      cases cs with
      | nil =>
        rw [pieces]
        exact .nil
      | cons c rest =>
        by_cases h : StartsReference (c :: rest)
        · obtain ⟨name, more, hname, hcs⟩ := h
          have hlt : more.length < (c :: rest).length := by
            rw [hcs, source_reference_append, List.length_cons, List.length_cons,
              List.length_append, List.length_cons]
            omega
          rw [hcs, pieces_reference hname]
          exact .reference hname (ih _ hlt rfl)
        · rw [pieces_literal h]
          exact .literal h (ih _ (Nat.lt_succ_self _) rfl)

namespace Piece

/-- The name of the variable that a piece refers to. -/
def name? : Piece → Option (List CodePoint)
  | .literal _ => none
  | .reference name => some name

theorem expand_eq_ok_iff {env : Environment} {p : Piece} {ps : List CodePoint} :
    p.expand env = .ok ps ↔
      (∀ name, p.name? = some name → systemFault? name = none) ∧ p.replacement env = ps := by
  cases p with
  | literal c => simp [expand, name?, replacement]
  | reference name =>
    rw [expand]
    split
    · rename_i fault hfault
      simp [name?, hfault]
    · rename_i hwhole
      simp [name?, hwhole]

theorem expand_eq_error {env : Environment} {p : Piece} {f : Failure}
    (h : p.expand env = .error f) :
    ∃ name fault, p.name? = some name ∧ systemFault? name = some fault ∧
      f = .unencodable fault := by
  cases p with
  | literal c => cases h
  | reference name =>
    rw [expand] at h
    split at h
    · rename_i fault hfault
      exact ⟨name, fault, rfl, hfault, (Except.error.inj h).symm⟩
    · cases h

end Piece

namespace Text

/-- The names of the variables that a text refers to. -/
def references (t : Text) : List (List CodePoint) := (pieces t.points).filterMap Piece.name?

theorem forall_mem_references {t : Text} {q : List CodePoint → Prop} :
    (∀ name ∈ t.references, q name) ↔
      ∀ p ∈ pieces t.points, ∀ name, p.name? = some name → q name := by
  simp only [references, List.mem_filterMap, forall_exists_index, and_imp]
  exact ⟨fun h p hp name hname => h name p hp hname, fun h name p hp hname => h p hp name hname⟩

/-- The references of a text are replaced if the system can be asked for all of their names. -/
theorem expand_eq_ok_iff {env : Environment} {t t' : Text} :
    t.expand env = .ok t' ↔ (∀ name ∈ t.references, systemFault? name = none) ∧
      t' = .ofPoints ((pieces t.points).flatMap (Piece.replacement env)) := by
  have hmap {pss : List (List CodePoint)} :
      (pieces t.points).mapM (Piece.expand env) = .ok pss ↔
        (∀ name ∈ t.references, systemFault? name = none) ∧
          (pieces t.points).map (Piece.replacement env) = pss := by
    simp only [Outcome.mapM_eq_ok_iff, Piece.expand_eq_ok_iff, List.forall₂_and_left,
      forall_mem_references, ← List.forall₂_map_left_iff, List.forall₂_eq_eq_eq]
  rw [expand, Outcome.bind_eq_ok]
  simp only [hmap, List.flatMap_def]
  constructor
  · rintro ⟨pss, ⟨hnames, rfl⟩, heq⟩
    exact ⟨hnames, (Except.ok.inj heq).symm⟩
  · rintro ⟨hnames, rfl⟩
    exact ⟨_, ⟨hnames, rfl⟩, rfl⟩

/-- The failures of replacing the references of a text. -/
theorem failsOnly_expand (env : Environment) (t : Text) :
    Outcome.FailsOnly (fun f => ∃ name ∈ t.references, ∃ fault, systemFault? name = some fault ∧
      f = .unencodable fault) (t.expand env) := by
  refine Outcome.FailsOnly.bind (.mapM fun p hp f hf => ?_) fun pss => Outcome.failsOnly_pure _
  obtain ⟨name, fault, hname, hfault, rfl⟩ := Piece.expand_eq_error hf
  exact ⟨name, List.mem_filterMap.2 ⟨p, hp, hname⟩, fault, hfault, rfl⟩

/-- A text depends only on the variables that it refers to. -/
theorem expand_congr {env env' : Environment} {t : Text}
    (h : ∀ s, pointsOf s ∈ t.references → env'.lookup s = env.lookup s) :
    t.expand env' = t.expand env := by
  have hpiece : ∀ p ∈ pieces t.points, Piece.expand env' p = Piece.expand env p := by
    intro p hp
    cases p with
    | literal c => rfl
    | reference name =>
      have hvalue : env'.value? name = env.value? name := by
        rw [Environment.value?, Environment.value?]
        split
        · rename_i s hs
          have hname : pointsOf s = name := by
            rw [← points_ofPoints name, hs]
            rfl
          exact h s (List.mem_filterMap.2 ⟨_, hp, congrArg some hname.symm⟩)
        · rfl
      rw [Piece.expand, Piece.expand, Piece.replacement, Piece.replacement, hvalue]
  rw [expand, expand, Outcome.mapM_congr hpiece]

end Text

/-! ### Values -/

namespace Scalar

theorem expand_ofText (env : Environment) (t : Text) :
    (ofText t).expand env = ofText <$> t.expand env := by
  cases t <;> rfl

theorem expand_of_ne {env : Environment} {s : Scalar} (h : ∀ t, s ≠ ofText t) :
    s.expand env = .ok s := by
  cases s with
  | text s => exact absurd rfl (h (.whole s))
  | unpaired t => exact absurd rfl (h (.halved t))
  | _ => rfl

theorem ofText_injective {t t' : Text} (h : ofText t = ofText t') : t = t' := by
  cases t <;> cases t' <;> cases h <;> rfl

end Scalar

namespace Datum

/-- What a value becomes. Each text is taken apart and its references are replaced; lists keep their
length and order, dictionaries their keys, and everything else stays. -/
inductive Expanded (env : Environment) : Datum → Datum → Prop
  | text {s : Scalar} {t : Text} {ps : List Piece} : s = .ofText t → ReferenceCut t.points ps →
      Expanded env (.scalar s) (.scalar (.ofText (.ofPoints (ps.flatMap (Piece.replacement env)))))
  | scalar {s : Scalar} : (∀ t, s ≠ .ofText t) → Expanded env (.scalar s) (.scalar s)
  | list {items items' : List Datum} : List.Forall₂ (Expanded env) items items' →
      Expanded env (.list items) (.list items')
  | dict {es es' : Entries} : es'.map (·.1) = es.map (·.1) →
      List.Forall₂ (Expanded env) (es.map (·.2)) (es'.map (·.2)) →
      Expanded env (.dict es) (.dict es')
  | set {members : List Scalar} : Expanded env (.set members) (.set members)
  | pair {key value : Datum} : Expanded env (.pair key value) (.pair key value)

/-- A value has a text in it that refers to a variable. -/
inductive RefersTo (name : List CodePoint) : Datum → Prop
  | text {s : Scalar} {t : Text} : s = .ofText t → name ∈ t.references →
      RefersTo name (.scalar s)
  | list {items : List Datum} {d : Datum} : d ∈ items → RefersTo name d →
      RefersTo name (.list items)
  | dict {es : Entries} {e : Scalar × Datum} : e ∈ es → RefersTo name e.2 →
      RefersTo name (.dict es)

/-- The system can be asked for all variables that a value refers to. -/
def Askable (d : Datum) : Prop := ∀ name, RefersTo name d → systemFault? name = none

/-- The number of lists and dictionaries inside of each other. -/
def depth : Datum → Nat
  | .list items => depthOfItems items + 1
  | .dict es => depthOfEntries es + 1
  | _ => 0
where
  /-- The depth of the deepest of some values. -/
  depthOfItems : List Datum → Nat
    | [] => 0
    | d :: ds => max d.depth (depthOfItems ds)
  /-- The depth of the deepest value of some entries. -/
  depthOfEntries : List (Scalar × Datum) → Nat
    | [] => 0
    | (_, d) :: es => max d.depth (depthOfEntries es)

theorem depth_list_le_iff {items : List Datum} {levels : Nat} :
    (list items).depth ≤ levels ↔ levels ≠ 0 ∧ ∀ d ∈ items, d.depth ≤ levels - 1 := by
  have hitems (n : Nat) : depth.depthOfItems items ≤ n ↔ ∀ d ∈ items, d.depth ≤ n := by
    induction items with
    | nil => simp [depth.depthOfItems]
    | cons d ds ih => rw [depth.depthOfItems, Nat.max_le, ih, List.forall_mem_cons]
  rw [depth, ← hitems]
  omega

theorem depth_dict_le_iff {es : Entries} {levels : Nat} :
    (dict es).depth ≤ levels ↔ levels ≠ 0 ∧ ∀ e ∈ es, e.2.depth ≤ levels - 1 := by
  have hes (n : Nat) : depth.depthOfEntries es ≤ n ↔ ∀ e ∈ es, e.2.depth ≤ n := by
    induction es with
    | nil => simp [depth.depthOfEntries]
    | cons e es ih => rw [depth.depthOfEntries, Nat.max_le, ih, List.forall_mem_cons]
  rw [depth, ← hes]
  omega

theorem askable_list_iff {items : List Datum} :
    (list items).Askable ↔ ∀ d ∈ items, d.Askable := by
  constructor
  · exact fun h d hd name hname => h name (.list hd hname)
  · rintro h name ⟨⟩
    rename_i d hname hd
    exact h d hd name hname

theorem askable_dict_iff {es : Entries} : (dict es).Askable ↔ ∀ e ∈ es, e.2.Askable := by
  constructor
  · exact fun h e he name hname => h name (.dict he hname)
  · rintro h name ⟨⟩
    rename_i e hname he
    exact h e he name hname

theorem askable_ofText_iff {t : Text} :
    (scalar (.ofText t)).Askable ↔ ∀ name ∈ t.references, systemFault? name = none := by
  constructor
  · exact fun h name hname => h name (.text rfl hname)
  · rintro h name ⟨⟩
    rename_i hname ht
    exact h name (Scalar.ofText_injective ht ▸ hname)

theorem askable_scalar {s : Scalar} (h : ∀ t, s ≠ .ofText t) : (scalar s).Askable := by
  rintro name ⟨⟩
  rename_i t _ ht
  exact absurd ht (h t)

/-- A property of values holds if it passes from the parts of lists and dictionaries to them. -/
theorem parts_induction {motive : Datum → Prop} (scalar : ∀ s, motive (.scalar s))
    (list : ∀ items, (∀ d ∈ items, motive d) → motive (.list items))
    (dict : ∀ es : Entries, (∀ e ∈ es, motive e.2) → motive (.dict es))
    (set : ∀ members, motive (.set members)) (pair : ∀ key value, motive (.pair key value)) :
    ∀ d, motive d :=
  Datum.rec (motive_2 := fun items => ∀ d ∈ items, motive d)
    (motive_3 := fun es => ∀ e ∈ es, motive e.2) (motive_4 := fun e => motive e.2)
    scalar list dict set (fun key value _ _ => pair key value)
    (by simp) (fun _ _ hd hds => List.forall_mem_cons.2 ⟨hd, hds⟩)
    (by simp) (fun _ _ he hes => List.forall_mem_cons.2 ⟨he, hes⟩) (fun _ _ hd => hd)

theorem forall₂_congr_mem {α β : Type} {r r' : α → β → Prop} {as : List α} {bs : List β}
    (h : ∀ a ∈ as, ∀ b, r a b ↔ r' a b) : List.Forall₂ r as bs ↔ List.Forall₂ r' as bs := by
  induction as generalizing bs with
  | nil => rw [List.forall₂_nil_left_iff, List.forall₂_nil_left_iff]
  | cons a as ih =>
    obtain ⟨ha, has⟩ := List.forall_mem_cons.1 h
    simp only [List.forall₂_cons_left_iff, ha, ih has]

theorem expandItems_eq_mapM (env : Environment) (levels : Nat) (items : List Datum) :
    expand.expandItems env levels items = items.mapM (expand env levels) := by
  induction items with
  | nil => rfl
  | cons d ds ih =>
    rw [expand.expandItems, ih, List.mapM_cons]
    cases d.expand env levels with
    | error f => rfl
    | ok d' => cases ds.mapM (expand env levels) <;> rfl

theorem expandEntries_eq_mapM (env : Environment) (levels : Nat) (es : Entries) :
    expand.expandEntries env levels es =
      (List.zip (es.map (·.1)) ·) <$> (es.map (·.2)).mapM (expand env levels) := by
  induction es with
  | nil => rfl
  | cons e es ih =>
    rw [expand.expandEntries, ih, List.map_cons, List.map_cons, List.mapM_cons]
    cases e.2.expand env levels with
    | error f => rfl
    | ok d' => cases (es.map (·.2)).mapM (expand env levels) <;> rfl

theorem expand_list_eq_ok_iff {env : Environment} {levels : Nat} {items : List Datum} {d' : Datum} :
    (list items).expand env levels = .ok d' ↔ levels ≠ 0 ∧ ∃ items',
      List.Forall₂ (fun d d' => d.expand env (levels - 1) = .ok d') items items' ∧
        d' = .list items' := by
  rw [expand, expandItems_eq_mapM]
  split
  · simp_all
  · simp only [← Outcome.mapM_eq_ok_iff]
    cases items.mapM (expand env (levels - 1)) <;> simp_all [eq_comm]

theorem expand_dict_eq_ok_iff {env : Environment} {levels : Nat} {es : Entries} {d' : Datum} :
    (dict es).expand env levels = .ok d' ↔ levels ≠ 0 ∧ ∃ es' : Entries,
      es'.map (·.1) = es.map (·.1) ∧
      List.Forall₂ (fun d d' => d.expand env (levels - 1) = .ok d') (es.map (·.2))
        (es'.map (·.2)) ∧ d' = .dict es' := by
  rw [expand, expandEntries_eq_mapM]
  split
  · simp_all
  · rename_i hlevels
    simp only [← Outcome.mapM_eq_ok_iff]
    constructor
    · intro h
      cases hvalues : (es.map (·.2)).mapM (expand env (levels - 1)) with
      | error f =>
        rw [hvalues] at h
        cases h
      | ok values =>
        rw [hvalues] at h
        cases h
        have hlength := (Outcome.mapM_eq_ok_iff.1 hvalues).length_eq
        rw [List.length_map] at hlength
        have hkeys : (es.map (·.1)).length = values.length := by rw [List.length_map, hlength]
        refine ⟨hlevels, _, List.map_fst_zip (Nat.le_of_eq hkeys), ?_, rfl⟩
        rw [List.map_snd_zip (Nat.le_of_eq hkeys.symm)]
    · rintro ⟨-, es', hkeys, hvalues, rfl⟩
      rw [hvalues, ← hkeys]
      exact congrArg (fun es => Except.ok (Datum.dict es)) (List.zip_of_prod rfl rfl).symm

/-- A value becomes what it is expanded to, if it becomes anything. -/
theorem expand_eq_ok_iff {env : Environment} {levels : Nat} {d d' : Datum} :
    d.expand env levels = .ok d' ↔ d.depth ≤ levels ∧ d.Askable ∧ Expanded env d d' := by
  induction d using parts_induction generalizing levels d' with
  | scalar s =>
    have hdepth : (Datum.scalar s).depth ≤ levels := Nat.zero_le _
    rw [expand]
    by_cases htext : ∃ t, s = .ofText t
    · obtain ⟨t, rfl⟩ := htext
      rw [Scalar.expand_ofText, askable_ofText_iff]
      constructor
      · intro h
        cases ht : t.expand env with
        | error f =>
          rw [ht] at h
          cases h
        | ok t' =>
          rw [ht] at h
          cases h
          obtain ⟨hnames, rfl⟩ := Text.expand_eq_ok_iff.1 ht
          exact ⟨hdepth, hnames, .text rfl (referenceCut_iff.2 rfl)⟩
      · rintro ⟨-, hnames, h⟩
        cases h with
        | text ht hcut =>
          obtain rfl := Scalar.ofText_injective ht
          rw [Text.expand_eq_ok_iff.2 ⟨hnames, rfl⟩, ← referenceCut_iff.1 hcut]
          rfl
        | scalar hno => exact absurd rfl (hno t)
    · have hno : ∀ t, s ≠ .ofText t := fun t ht => htext ⟨t, ht⟩
      rw [Scalar.expand_of_ne hno]
      constructor
      · rintro ⟨⟩
        exact ⟨hdepth, askable_scalar hno, .scalar hno⟩
      · rintro ⟨-, -, h⟩
        cases h with
        | text ht => exact absurd ht (hno _)
        | scalar => rfl
  | list items ih =>
    have hitems (items' : List Datum) :
        List.Forall₂ (fun d d' => d.expand env (levels - 1) = .ok d') items items' ↔
          (∀ d ∈ items, d.depth ≤ levels - 1) ∧ (∀ d ∈ items, d.Askable) ∧
            List.Forall₂ (Expanded env) items items' := by
      rw [forall₂_congr_mem fun d hd d' => ih d hd, List.forall₂_and_left, List.forall₂_and_left]
    rw [expand_list_eq_ok_iff, depth_list_le_iff, askable_list_iff]
    simp only [hitems]
    constructor
    · rintro ⟨hlevels, items', ⟨hdepth, hnames, h⟩, rfl⟩
      exact ⟨⟨hlevels, hdepth⟩, hnames, .list h⟩
    · rintro ⟨⟨hlevels, hdepth⟩, hnames, ⟨⟩⟩
      rename_i items' h
      exact ⟨hlevels, items', ⟨hdepth, hnames, h⟩, rfl⟩
  | dict es ih =>
    have hvalues (values : List Datum) :
        List.Forall₂ (fun d d' => d.expand env (levels - 1) = .ok d') (es.map (·.2)) values ↔
          (∀ e ∈ es, e.2.depth ≤ levels - 1) ∧ (∀ e ∈ es, e.2.Askable) ∧
            List.Forall₂ (Expanded env) (es.map (·.2)) values := by
      have hmem : ∀ d ∈ es.map (·.2), ∀ d', d.expand env (levels - 1) = .ok d' ↔
          d.depth ≤ levels - 1 ∧ d.Askable ∧ Expanded env d d' := by
        simp only [List.forall_mem_map]
        exact fun e he d' => ih e he
      rw [forall₂_congr_mem hmem, List.forall₂_and_left, List.forall₂_and_left,
        List.forall_mem_map, List.forall_mem_map]
    rw [expand_dict_eq_ok_iff, depth_dict_le_iff, askable_dict_iff]
    simp only [hvalues]
    constructor
    · rintro ⟨hlevels, es', hkeys, ⟨hdepth, hnames, h⟩, rfl⟩
      exact ⟨⟨hlevels, hdepth⟩, hnames, .dict hkeys h⟩
    · rintro ⟨⟨hlevels, hdepth⟩, hnames, ⟨⟩⟩
      rename_i es' hkeys h
      exact ⟨hlevels, es', hkeys, ⟨hdepth, hnames, h⟩, rfl⟩
  | set members =>
    constructor
    · rintro ⟨⟩
      exact ⟨Nat.zero_le _, nofun, .set⟩
    · rintro ⟨-, -, ⟨⟩⟩
      rfl
  | pair key value =>
    constructor
    · rintro ⟨⟩
      exact ⟨Nat.zero_le _, nofun, .pair⟩
    · rintro ⟨-, -, ⟨⟩⟩
      rfl

/-- Why a value becomes nothing. -/
inductive Unexpandable (levels : Nat) (d : Datum) : Failure → Prop
  | deep : levels < d.depth → Unexpandable levels d .endless
  | name {name : List CodePoint} {fault : EncodingFault} : RefersTo name d →
      systemFault? name = some fault → Unexpandable levels d (.unencodable fault)

/-- The cause lies in a part of the value. -/
theorem Unexpandable.of_part {levels : Nat} {d whole : Datum} {f : Failure}
    (hdepth : levels - 1 < d.depth → levels < whole.depth)
    (hnames : ∀ name, RefersTo name d → RefersTo name whole)
    (h : Unexpandable (levels - 1) d f) : Unexpandable levels whole f := by
  cases h with
  | deep h => exact .deep (hdepth h)
  | name hname hfault => exact .name (hnames _ hname) hfault

theorem failsOnly_expand (env : Environment) (levels : Nat) (d : Datum) :
    Outcome.FailsOnly (Unexpandable levels d) (d.expand env levels) := by
  induction d using parts_induction generalizing levels with
  | scalar s =>
    rw [expand]
    by_cases htext : ∃ t, s = .ofText t
    · obtain ⟨t, rfl⟩ := htext
      rw [Scalar.expand_ofText]
      refine .map (.map ((t.failsOnly_expand env).mono ?_))
      rintro _ ⟨name, hname, fault, hfault, rfl⟩
      exact .name (.text rfl hname) hfault
    · rw [Scalar.expand_of_ne fun t ht => htext ⟨t, ht⟩]
      exact Outcome.failsOnly_ok _
  | list items ih =>
    rw [expand, expandItems_eq_mapM]
    split
    · rename_i hzero
      exact Outcome.failsOnly_error.2 (.deep (by rw [hzero, depth]; omega))
    · refine .map (.mapM fun d hd => ?_)
      refine (ih d hd _).mono fun f hf => hf.of_part (fun hlt => ?_) fun name => .list hd
      by_contra hle
      exact absurd ((depth_list_le_iff.1 (Nat.not_lt.1 hle)).2 d hd) (Nat.not_le.2 hlt)
  | dict es ih =>
    rw [expand, expandEntries_eq_mapM]
    split
    · rename_i hzero
      exact Outcome.failsOnly_error.2 (.deep (by rw [hzero, depth]; omega))
    · refine .map (.map (.mapM fun d hd => ?_))
      obtain ⟨e, he, rfl⟩ := List.mem_map.1 hd
      refine (ih e he _).mono fun f hf => hf.of_part (fun hlt => ?_) fun name => .dict he
      by_contra hle
      exact absurd ((depth_dict_le_iff.1 (Nat.not_lt.1 hle)).2 e he) (Nat.not_le.2 hlt)
  | set | pair => exact Outcome.failsOnly_ok _

/-- A value depends only on the variables that it refers to. -/
theorem expand_congr {env env' : Environment} {levels : Nat} {d : Datum}
    (h : ∀ s, RefersTo (pointsOf s) d → env'.lookup s = env.lookup s) :
    d.expand env' levels = d.expand env levels := by
  induction d using parts_induction generalizing levels with
  | scalar s =>
    rw [expand, expand]
    by_cases htext : ∃ t, s = .ofText t
    · obtain ⟨t, rfl⟩ := htext
      rw [Scalar.expand_ofText, Scalar.expand_ofText,
        Text.expand_congr fun s hs => h s (.text rfl hs)]
    · have hno : ∀ t, s ≠ .ofText t := fun t ht => htext ⟨t, ht⟩
      rw [Scalar.expand_of_ne hno, Scalar.expand_of_ne hno]
  | list items ih =>
    rw [expand, expand, expandItems_eq_mapM, expandItems_eq_mapM,
      Outcome.mapM_congr fun d hd => ih d hd fun s hs => h s (.list hd hs)]
  | dict es ih =>
    rw [expand, expand, expandEntries_eq_mapM, expandEntries_eq_mapM,
      Outcome.mapM_congr fun d hd => ?_]
    obtain ⟨e, he, rfl⟩ := List.mem_map.1 hd
    exact ih e he fun s hs => h s (.dict he hs)
  | set | pair => rfl

/-- **What becomes of a value with references.** The value keeps its shape, every reference in its
texts is replaced once, and variables that no reference names do not count. It becomes nothing only
if it has too many levels or the system cannot be asked for a variable. -/
theorem expand_spec (env : Environment) (levels : Nat) (d : Datum) :
    (∀ d', d.expand env levels = .ok d' ↔
      d.depth ≤ levels ∧ d.Askable ∧ Expanded env d d') ∧
    (∀ f, d.expand env levels = .error f → Unexpandable levels d f) ∧
    ∀ env' : Environment, (∀ s, RefersTo (pointsOf s) d → env'.lookup s = env.lookup s) →
      d.expand env' levels = d.expand env levels :=
  ⟨fun _ => expand_eq_ok_iff, failsOnly_expand env levels d, fun _ h => expand_congr h⟩

/-- Some lists inside of each other. -/
def nested : Nat → Datum
  | 0 => .null
  | n + 1 => .list [nested n]

theorem depth_nested (n : Nat) : (nested n).depth = n := by
  induction n with
  | zero => rfl
  | succ n ih => rw [nested, depth, depth.depthOfItems, depth.depthOfItems, ih, Nat.max_zero]

theorem expanded_nested (env : Environment) (n : Nat) : Expanded env (nested n) (nested n) := by
  induction n with
  | zero => exact .scalar fun t ht => by cases t <;> cases ht
  | succ n ih => exact .list (.cons ih .nil)

/-- Lists that are too many become nothing, though there is a value that they should become. -/
theorem expand_deep :
    Expanded [] (nested 600) (nested 600) ∧
      ∀ d', (nested 600).expand [] Settings.maxLevels ≠ .ok d' := by
  refine ⟨expanded_nested [] 600, fun d' h => ?_⟩
  have hdepth := (expand_eq_ok_iff.1 h).1
  rw [depth_nested] at hdepth
  exact absurd hdepth (by decide)

end Datum

end DealWatch
