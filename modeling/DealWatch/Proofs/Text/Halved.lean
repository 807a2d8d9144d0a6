import DealWatch.Text.Halved

/-!
# Code points and texts

A text is its code points: nothing is lost when a text is taken apart and put together again.

* `Text.ofPoints_points` and `Text.points_ofPoints` say so;
* `systemFault?_eq_none_iff` says which code points can be handed to the system.

A text without halves of surrogate pairs is kept as a string and one with them as code points, so
each of the two directions has a case for each.
-/

namespace DealWatch

namespace CodePoint

theorem ofNat_toNat (c : Char) : ofNat c.toNat = .char c := by
  have hvalid : c.toNat < 0xd800 ∨ 0xdfff < c.toNat ∧ c.toNat < 0x110000 := c.valid
  rw [ofNat, dif_neg (by omega), Char.ofNat_toNat]

end CodePoint

/-- A text without halves has no code point that is one. -/
theorem any_isHalf_pointsOf (s : String) : (pointsOf s).any CodePoint.isHalf = false := by
  simp [pointsOf, CodePoint.isHalf]

namespace Text

theorem ofPoints_pointsOf (s : String) : ofPoints (pointsOf s) = .whole s := by
  rw [ofPoints, dif_neg (by simp [any_isHalf_pointsOf])]
  simp [pointsOf, Function.comp_def, CodePoint.filled]

theorem ofPoints_points (t : Text) : ofPoints t.points = t := by
  cases t with
  | whole s => exact ofPoints_pointsOf s
  | halved t => exact dif_pos t.isHalved

theorem points_ofPoints (ps : List CodePoint) : (ofPoints ps).points = ps := by
  rw [ofPoints]
  split
  · rfl
  · rename_i hwhole
    have hchar : ∀ p ∈ ps, CodePoint.char (p.filled '\ufffd') = p := by
      intro p hp
      cases p with
      | char c => rfl
      | half h => exact absurd (List.any_eq_true.2 ⟨_, hp, rfl⟩) hwhole
    rw [points, pointsOf, String.toList_ofList, List.map_map]
    exact (List.map_congr_left hchar).trans (List.map_id ps)

end Text

theorem systemFault?_eq_none_iff {ps : List CodePoint} :
    systemFault? ps = none ↔ ∀ p ∈ ps, p.isHalf = true → p.isByte = true := by
  have hall : (ps.all fun p => !p.isHalf || p.isByte) = true ↔
      ∀ p ∈ ps, p.isHalf = true → p.isByte = true := by
    simp only [List.all_eq_true, Bool.or_eq_true, Bool.not_eq_true']
    refine forall₂_congr fun p _ => ?_
    cases p.isHalf <;> simp
  rw [← hall, systemFault?]
  split <;> simp_all

end DealWatch
