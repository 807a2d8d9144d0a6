/-!
# Stretches of a class

* `Stretch` says that a row of items is the longest one of a class at its place;
* `Stretch.takeWhile_eq` and `Stretch.exists_eq` say that `takeWhile` finds it;
* `stretch_ne_iff` is the case of all items but one.
-/

namespace DealWatch

/-- Items of a class up to the first one outside it. -/
structure Stretch {α : Type} (p : α → Bool) (run rest : List α) : Prop where
  inside : ∀ c ∈ run, p c = true
  ends : ∀ c ∈ rest.head?, p c = false

namespace Stretch

variable {α : Type} {p : α → Bool} {run rest : List α}

theorem takeWhile_eq (h : Stretch p run rest) : (run ++ rest).takeWhile p = run := by
  rw [List.takeWhile_append_of_pos h.inside]
  cases rest with
  | nil => exact List.append_nil _
  | cons c rest => simp [h.ends c rfl]

/-- Every list starts with such a stretch, which may be empty. -/
theorem exists_eq (p : α → Bool) (cs : List α) :
    ∃ run rest, cs = run ++ rest ∧ Stretch p run rest := by
  refine ⟨cs.takeWhile p, cs.dropWhile p, List.takeWhile_append_dropWhile.symm,
    List.all_eq_true.1 List.all_takeWhile, fun c hc => ?_⟩
  have hend := List.head?_dropWhile_not p cs
  rw [Option.mem_def.1 hc] at hend
  exact hend

theorem ne_nil (h : Stretch p run rest) {c : α} {cs : List α} (hcs : c :: cs = run ++ rest)
    (hc : p c = true) : run ≠ [] := by
  rintro rfl
  have hend := h.ends c (by rw [← List.nil_append rest, ← hcs]; rfl)
  rw [hc] at hend
  cases hend

end Stretch

/-- Up to the first place of a sign. -/
theorem stretch_ne_iff {α : Type} [BEq α] [LawfulBEq α] {sign : α} {run rest : List α} :
    Stretch (· != sign) run rest ↔ sign ∉ run ∧ ∀ c ∈ rest.head?, c = sign := by
  constructor
  · intro h
    exact ⟨fun hmem => by simpa using h.inside sign hmem, fun c hc => by simpa using h.ends c hc⟩
  · rintro ⟨hnot, hend⟩
    refine ⟨fun c hc => ?_, fun c hc => by simpa using hend c hc⟩
    rw [bne_iff_ne]
    rintro rfl
    exact hnot hc

end DealWatch
