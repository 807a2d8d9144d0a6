import DealWatch.Data.Check

/-!
# Accepted values

A verdict on several parts accepts them if it accepts each of them, so what a record is accepted
with can be said field by field.

* `Verdict.map_eq_accepted` and `Verdict.seq_eq_accepted` take combined verdicts apart,
  `Verdict.problems_map` and `Verdict.problems_seq` say which problems they list;
* `FieldSays` is what a field says, with its default where it is absent;
* `Fields.required_eq_accepted` and `Fields.withDefault_eq_accepted` say that this is what it is
  accepted with.

A verdict on a record is made of its fields by `<$>` and `<*>`, so a record is taken apart by
rewriting with these lemmas, one field after the other.
-/

namespace DealWatch

namespace Verdict

variable {α β : Type}

theorem map_eq_accepted {f : α → β} {v : Verdict α} {b : β} :
    f <$> v = .accepted b ↔ ∃ a, v = .accepted a ∧ b = f a := by
  change v.map f = _ ↔ _
  cases v <;> simp [map, eq_comm]

theorem seq_eq_accepted {f : Verdict (α → β)} {v : Verdict α} {b : β} :
    f <*> v = .accepted b ↔ ∃ g a, f = .accepted g ∧ v = .accepted a ∧ b = g a := by
  change f.ap v = _ ↔ _
  cases f <;> cases v <;> simp [ap, eq_comm]

theorem under_eq_accepted {key : String} {v : Verdict α} {a : α} :
    v.under key = .accepted a ↔ v = .accepted a := by
  cases v <;> simp [under]

/-- The problems that a verdict lists. -/
def problems : Verdict α → List Problem
  | .accepted _ => []
  | .rejected ps => ps

theorem problems_map (f : α → β) (v : Verdict α) : (f <$> v).problems = v.problems := by
  cases v <;> rfl

/-- A verdict on two parts lists the problems of the first one before those of the second. -/
theorem problems_seq (f : Verdict (α → β)) (v : Verdict α) :
    (f <*> v).problems = f.problems ++ v.problems := by
  cases f with
  | accepted => cases v <;> rfl
  | rejected ps =>
    cases v with
    | accepted => exact (List.append_nil ps).symm
    | rejected => rfl

end Verdict

/-- What a field says: the value that it is accepted with, or its default if it is absent. -/
inductive FieldSays {α : Type} (es : Entries) (key : String) (check : Check α)
    (fallback : Option α) : α → Prop
  | present {d : Datum} {a : α} : Entries.get? es key = some d → check d = .accepted a →
      FieldSays es key check fallback a
  | absent {a : α} : Entries.get? es key = none → fallback = some a →
      FieldSays es key check fallback a

section Fields

variable {α : Type} {es : Entries} {key : String} {check : Check α} {a : α}

theorem fieldSays_of_present {fallback : Option α} {d : Datum}
    (h : Entries.get? es key = some d) :
    FieldSays es key check fallback a ↔ check d = .accepted a := by
  refine ⟨fun hsays => ?_, .present h⟩
  cases hsays with
  | present hd ha =>
    rw [h] at hd
    cases hd
    exact ha
  | absent hnone _ =>
    rw [h] at hnone
    cases hnone

theorem fieldSays_of_absent {fallback : Option α} (h : Entries.get? es key = none) :
    FieldSays es key check fallback a ↔ fallback = some a := by
  refine ⟨fun hsays => ?_, .absent h⟩
  cases hsays with
  | present hd _ =>
    rw [h] at hd
    cases hd
  | absent _ hfallback => exact hfallback

theorem Fields.required_eq_accepted :
    required es key check = .accepted a ↔ FieldSays es key check none a := by
  rw [required]
  cases h : Entries.get? es key with
  | none => simp [fieldSays_of_absent h]
  | some d => rw [fieldSays_of_present h, Verdict.under_eq_accepted]

theorem Fields.withDefault_eq_accepted {fallback : α} :
    withDefault es key fallback check = .accepted a ↔
      FieldSays es key check (some fallback) a := by
  rw [withDefault]
  cases h : Entries.get? es key with
  | none => simp [fieldSays_of_absent h]
  | some d => rw [fieldSays_of_present h, Verdict.under_eq_accepted]

end Fields

end DealWatch
