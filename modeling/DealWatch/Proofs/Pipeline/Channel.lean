import DealWatch.Pipeline.Channel

/-!
# What a channel holds

Items leave a channel in the order in which they came, and a channel with a limit never holds more
than that.

* `Channel.put?_items` and `Channel.take?_items` say what moving one item does;
* `Channel.put?_wakes` and `Channel.take?_wakes` say which task is woken;
* `Channel.Fits` says that a channel has a limit and keeps to it.
-/

namespace DealWatch

namespace Channel

variable {α : Type} {c c' : Channel α} {a : α} {woken : Option TaskId} {limit : Nat}

theorem put?_of_room (h : c.isFull = false) (a : α) : c.put? a = some (c.push a) := by
  rw [put?, h]
  rfl

theorem put?_of_full (h : c.isFull = true) (a : α) : c.put? a = none := by
  rw [put?, h]
  rfl

theorem put?_eq_some (h : c.put? a = some (c', woken)) :
    c.isFull = false ∧ c.push a = (c', woken) := by
  cases hfull : c.isFull with
  | false => exact ⟨rfl, Option.some.inj ((put?_of_room hfull a).symm.trans h)⟩
  | true => cases (put?_of_full hfull a).symm.trans h

theorem put?_items (h : c.put? a = some (c', woken)) : c'.items = c.items ++ [a] := by
  obtain ⟨-, hpush⟩ := put?_eq_some h
  cases hpush
  rfl

theorem put?_eq_none_iff : c.put? a = none ↔ c.isFull = true := by
  cases hfull : c.isFull with
  | false => simp [put?_of_room hfull]
  | true => simp [put?_of_full hfull]

/-- A channel that is full holds something. -/
theorem items_ne_nil_of_isFull (h : c.isFull = true) : c.items ≠ [] := by
  intro hnil
  simp [isFull, hnil] at h
  omega

theorem take?_of_ne_nil (h : c.items ≠ []) : ∃ a c' woken, c.take? = some (a, c', woken) := by
  obtain ⟨a, rest, hitems⟩ := List.exists_cons_of_ne_nil h
  rw [take?, hitems]
  exact ⟨a, _, _, rfl⟩

theorem take?_eq_none (h : c.take? = none) : c.items = [] := by
  cases hitems : c.items with
  | nil => rfl
  | cons a rest => simp [take?, hitems] at h

theorem take?_items (h : c.take? = some (a, c', woken)) : c.items = a :: c'.items := by
  unfold take? at h
  split at h
  · cases h
  · cases h
    assumption

/-! ### Tasks in line -/

/-- The taker that a put wakes is the first in line. -/
theorem put?_wakes (h : c.put? a = some (c', woken)) :
    c'.putters = c.putters ∧ woken.toList ++ c'.takers = c.takers ∧
      (c.takers ≠ [] → woken.toList ≠ []) := by
  obtain ⟨-, hpush⟩ := put?_eq_some h
  cases hpush
  cases c.takers <;> simp

/-- The putter that a take wakes is the first in line. -/
theorem take?_wakes (h : c.take? = some (a, c', woken)) :
    c'.takers = c.takers ∧ woken.toList ++ c'.putters = c.putters ∧
      (c.putters ≠ [] → woken.toList ≠ []) := by
  unfold take? at h
  split at h
  · cases h
  · cases h
    cases c.putters <;> simp

/-! ### The limit -/

/-- A channel has a limit and keeps to it. -/
structure Fits (c : Channel α) (limit : Nat) : Prop where
  capacity : c.capacity = limit
  bounded : c.items.length ≤ limit

theorem fits_ofCapacity (limit : Nat) : (ofCapacity limit : Channel α).Fits limit :=
  ⟨rfl, Nat.zero_le _⟩

/-- An item is put only if there is room for it. -/
theorem Fits.put (hc : c.Fits limit) (hlimit : 1 ≤ limit) (h : c.put? a = some (c', woken)) :
    c'.Fits limit := by
  obtain ⟨hroom, hpush⟩ := put?_eq_some h
  have hitems := put?_items h
  cases hpush
  refine ⟨hc.capacity, ?_⟩
  simp only [isFull, hc.capacity, Bool.and_eq_false_iff, decide_eq_false_iff_not] at hroom
  rw [hitems, List.length_append, List.length_singleton]
  omega

theorem Fits.take (hc : c.Fits limit) (h : c.take? = some (a, c', woken)) : c'.Fits limit := by
  have hbounded := hc.bounded
  rw [take?_items h, List.length_cons] at hbounded
  refine ⟨?_, by omega⟩
  unfold take? at h
  split at h
  · cases h
  · cases h
    exact hc.capacity

end Channel

end DealWatch
