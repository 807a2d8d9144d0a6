import DealWatch.Failure
import Mathlib.Data.List.Forall2

/-!
# Which failures are possible

A computation is made of steps that can fail, and fails only with the failures of its steps.

* `Outcome.bind_eq_ok` takes a successful computation apart, `bind_eq_error` one that fails, and
  `Outcome.mapM_eq_ok_iff` one for each of some items;
* `Outcome.FailsOnly` says that every failure of a computation is one of some,
  `Outcome.StepFailsOnlyFrom` the same of a step that changes a state;
* the lemmas say so of each way of putting computations together.

A step may fail in more ways from some states than from others, so `StepFailsOnlyFrom` also asks
that the step keeps what is assumed of the state.
-/

namespace DealWatch

/-- A computation fails where it first goes wrong. -/
theorem bind_eq_error {ε α β : Type} {x : Except ε α} {f : α → Except ε β} {e : ε} :
    x >>= f = .error e ↔ x = .error e ∨ ∃ a, x = .ok a ∧ f a = .error e := by
  cases x <;> simp [bind, Except.bind]

theorem map_eq_error {ε α β : Type} {x : Except ε α} {f : α → β} {e : ε} :
    f <$> x = .error e ↔ x = .error e := by
  cases x <;> simp [Functor.map, Except.map]

namespace Outcome

variable {α β σ : Type} {P Q : Failure → Prop}

/-- A computation that goes on after another one succeeds if both do. -/
theorem bind_eq_ok {x : Outcome α} {f : α → Outcome β} {b : β} :
    (x >>= f) = .ok b ↔ ∃ a, x = .ok a ∧ f a = .ok b := by
  cases x <;> simp [bind, Except.bind]

/-- The results of a computation for each of some items. -/
theorem mapM_eq_ok_iff {f : α → Outcome β} {as : List α} {bs : List β} :
    as.mapM f = .ok bs ↔ List.Forall₂ (fun a b => f a = .ok b) as bs := by
  induction as generalizing bs with
  | nil =>
    rw [List.mapM_nil, List.forall₂_nil_left_iff, eq_comm]
    exact Except.ok.injEq bs [] ▸ Iff.rfl
  | cons a as ih =>
    rw [List.mapM_cons, bind_eq_ok, List.forall₂_cons_left_iff]
    constructor
    · rintro ⟨b, hb, h⟩
      obtain ⟨rest, hrest, h⟩ := bind_eq_ok.1 h
      exact ⟨b, rest, hb, ih.1 hrest, (Except.ok.inj h).symm⟩
    · rintro ⟨b, rest, hb, hrest, rfl⟩
      exact ⟨b, hb, bind_eq_ok.2 ⟨rest, ih.2 hrest, rfl⟩⟩

theorem mapM_congr {f g : α → Outcome β} {as : List α} (h : ∀ a ∈ as, f a = g a) :
    as.mapM f = as.mapM g := by
  induction as with
  | nil => rfl
  | cons a as ih =>
    obtain ⟨ha, has⟩ := List.forall_mem_cons.1 h
    rw [List.mapM_cons, List.mapM_cons, ha, ih has]

/-- Every failure of a computation is one of some. -/
def FailsOnly (P : Failure → Prop) (x : Outcome α) : Prop := ∀ f, x = .error f → P f

@[simp] theorem failsOnly_ok (a : α) : FailsOnly P (.ok a) := nofun

@[simp] theorem failsOnly_pure (a : α) : FailsOnly P (pure a) := nofun

@[simp] theorem failsOnly_error {f : Failure} : FailsOnly P (.error f : Outcome α) ↔ P f := by
  constructor
  · intro h
    exact h f rfl
  · rintro h _ ⟨⟩
    exact h

@[simp] theorem failsOnly_throw {f : Failure} : FailsOnly P (throw f : Outcome α) ↔ P f :=
  failsOnly_error

theorem FailsOnly.mono {x : Outcome α} (h : FailsOnly P x) (hPQ : ∀ f, P f → Q f) :
    FailsOnly Q x := fun f hf => hPQ f (h f hf)

theorem FailsOnly.bind {x : Outcome α} {next : α → Outcome β} (hx : FailsOnly P x)
    (hnext : ∀ a, FailsOnly P (next a)) : FailsOnly P (x >>= next) := by
  intro f hf
  cases x with
  | error e =>
    cases hf
    exact hx f rfl
  | ok a => exact hnext a f hf

theorem FailsOnly.map {x : Outcome α} {g : α → β} (h : FailsOnly P x) : FailsOnly P (g <$> x) := by
  intro f hf
  cases x with
  | error e =>
    cases hf
    exact h f rfl
  | ok a => cases hf

theorem FailsOnly.ite {c : Prop} [Decidable c] {x y : Outcome α} (hx : FailsOnly P x)
    (hy : FailsOnly P y) : FailsOnly P (if c then x else y) := by
  split
  · exact hx
  · exact hy

theorem FailsOnly.mapM {f : α → Outcome β} {as : List α} (h : ∀ a ∈ as, FailsOnly P (f a)) :
    FailsOnly P (as.mapM f) := by
  induction as with
  | nil => exact failsOnly_pure []
  | cons a as ih =>
    obtain ⟨ha, has⟩ := List.forall_mem_cons.1 h
    rw [List.mapM_cons]
    exact ha.bind fun b => (ih has).bind fun bs => failsOnly_pure _

/-! ### Steps that change a state -/

/-- From states of which something holds, every failure of a step is one of some, and the same holds
of the state after the step. -/
structure StepFailsOnlyFrom (I : σ → Prop) (P : Failure → Prop) (m : StateT σ Outcome α) :
    Prop where
  fails : ∀ s, I s → FailsOnly P (m.run s)
  keeps : ∀ s, I s → ∀ a s', m.run s = .ok (a, s') → I s'

/-- Every failure of a step is one of some, whatever the state. -/
abbrev StepFailsOnly (P : Failure → Prop) (m : StateT σ Outcome α) : Prop :=
  StepFailsOnlyFrom (fun _ => True) P m

section Steps

variable {I : σ → Prop}

/-- A step that never fails. -/
theorem stepFailsOnly_of_run {m : StateT σ Outcome α} {f : σ → α × σ}
    (hrun : ∀ s, m.run s = .ok (f s)) (hkeeps : ∀ s, I s → I (f s).2) :
    StepFailsOnlyFrom I P m := by
  constructor
  · intro s _
    rw [hrun]
    exact failsOnly_ok _
  · intro s hs a s' h
    have hafter := hkeeps s hs
    rw [Except.ok.inj ((hrun s).symm.trans h)] at hafter
    exact hafter

theorem stepFailsOnly_pure (a : α) : StepFailsOnlyFrom I P (pure a : StateT σ Outcome α) :=
  stepFailsOnly_of_run (fun _ => rfl) fun _ hs => hs

theorem stepFailsOnly_get : StepFailsOnlyFrom I P (get : StateT σ Outcome σ) :=
  stepFailsOnly_of_run (fun _ => rfl) fun _ hs => hs

theorem stepFailsOnlyFrom_modify {f : σ → σ} (h : ∀ s, I s → I (f s)) :
    StepFailsOnlyFrom I P (modify f : StateT σ Outcome PUnit) :=
  stepFailsOnly_of_run (fun _ => rfl) h

theorem stepFailsOnly_modify {f : σ → σ} :
    StepFailsOnly P (modify f : StateT σ Outcome PUnit) :=
  stepFailsOnlyFrom_modify fun _ => id

theorem stepFailsOnly_set {s : σ} : StepFailsOnly P (set s : StateT σ Outcome PUnit) :=
  stepFailsOnly_of_run (fun _ => rfl) fun _ => id

theorem stepFailsOnly_throw {f : Failure} (h : P f) :
    StepFailsOnlyFrom I P (throw f : StateT σ Outcome α) :=
  ⟨fun _ _ => failsOnly_error.2 h, fun _ _ _ _ hrun => nomatch hrun⟩

namespace StepFailsOnlyFrom

theorem bind {m : StateT σ Outcome α} {next : α → StateT σ Outcome β}
    (hm : StepFailsOnlyFrom I P m) (hnext : ∀ a, StepFailsOnlyFrom I P (next a)) :
    StepFailsOnlyFrom I P (m >>= next) := by
  constructor
  · intro s hs f hf
    rw [StateT.run_bind] at hf
    cases hrun : m.run s with
    | error e =>
      rw [hrun] at hf
      cases hf
      exact hm.fails s hs f hrun
    | ok r =>
      rw [hrun] at hf
      exact (hnext r.1).fails r.2 (hm.keeps s hs r.1 r.2 hrun) f hf
  · intro s hs b s'' h
    rw [StateT.run_bind] at h
    obtain ⟨⟨a, s'⟩, hrun, hrest⟩ := bind_eq_ok.1 h
    exact (hnext a).keeps s' (hm.keeps s hs a s' hrun) b s'' hrest

theorem ite {c : Prop} [Decidable c] {m n : StateT σ Outcome α} (hm : StepFailsOnlyFrom I P m)
    (hn : StepFailsOnlyFrom I P n) : StepFailsOnlyFrom I P (if c then m else n) := by
  split
  · exact hm
  · exact hn

theorem mapM {f : α → StateT σ Outcome β} {as : List α} (h : ∀ a, StepFailsOnlyFrom I P (f a)) :
    StepFailsOnlyFrom I P (as.mapM f) := by
  induction as with
  | nil => exact stepFailsOnly_pure []
  | cons a as ih =>
    rw [List.mapM_cons]
    exact (h a).bind fun _ => ih.bind fun _ => stepFailsOnly_pure _

theorem forM {f : α → StateT σ Outcome PUnit} {as : List α}
    (h : ∀ a, StepFailsOnlyFrom I P (f a)) : StepFailsOnlyFrom I P (as.forM f) := by
  induction as with
  | nil => exact stepFailsOnly_pure _
  | cons a as ih => exact (h a).bind fun _ => ih

end StepFailsOnlyFrom

/-- A computation that does not see the state. -/
theorem FailsOnly.lift {x : Outcome α} (h : FailsOnly P x) :
    StepFailsOnlyFrom I P (liftM x : StateT σ Outcome α) := by
  constructor
  · exact fun _ _ => h.bind fun _ => failsOnly_ok _
  · intro s hs a s' hrun
    obtain ⟨_, -, heq⟩ := bind_eq_ok.1 hrun
    cases heq
    exact hs

end Steps

end Outcome

end DealWatch
