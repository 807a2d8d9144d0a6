import DealWatch.Proofs.Pattern.Traversal
import DealWatch.Proofs.Text.Lower

/-!
# Keywords that stand in a text as they are written

A keyword holds of a text if both have it in small letters. Where it stands in the text as it is
written, it does so unless the text around it changes the form of a `Σ`.

* `lower_around` is the text in small letters, with the keyword in its place;
* `holds_verbatim_iff` says which keywords hold wherever they stand, `not_holds_verbatim` is one
  that does not.

A keyword whose small letters depend on nothing around it is found where it stands. For any other
there is one letter that changes a `Σ` when it stands next to the keyword, and then the text has one
small letter fewer of some kind than the keyword.
-/

namespace DealWatch

namespace Pattern

/-- The small letters of a text around a keyword: those of the keyword are in between. -/
theorem lower_around (u k v : String) :
    (lower (u ++ k ++ v)).toList =
      lowerIn [] (k.toList ++ v.toList) u.toList ++
        lowerIn u.toList.reverse v.toList k.toList ++
        lowerIn (k.toList.reverse ++ u.toList.reverse) [] v.toList := by
  rw [lower, String.toList_ofList, lowerFrom_eq_lowerIn, String.toList_append, String.toList_append,
    lowerIn_append, lowerIn_append]
  simp

theorem toList_lower (k : String) : (lower k).toList = lowerIn [] [] k.toList := by
  rw [lower, String.toList_ofList, lowerFrom_eq_lowerIn]

/-- A keyword holds where it stands in a text, if its small letters there are those that it has on
its own. -/
theorem holds_of_lowerIn_eq {u k v : String}
    (h : lowerIn u.toList.reverse v.toList k.toList = lowerIn [] [] k.toList) :
    (keyword k).holds (u ++ k ++ v) = true := by
  rw [holds_iff_trueOf, TrueOf, lower_around, h, ← toList_lower]
  exact List.infix_append _ _ _

/-- A keyword does not hold of a text that has a small letter less often. -/
theorem count_le_of_holds {k text : String} (h : (keyword k).holds text = true) (c : Char) :
    (lower k).toList.count c ≤ (lower text).toList.count c := by
  rw [holds_iff_trueOf, TrueOf] at h
  exact h.sublist.count_le c

/-- **Keywords as they are written.**  A keyword holds where it stands in a text, if every `Σ` in it
ends a word there exactly if it does so in the keyword on its own. The keywords that hold wherever
they stand are those that settle this themselves, as all do that have no `Σ`. -/
theorem holds_verbatim_iff (k : String) :
    (∀ u v : String, (∀ x y, k.toList = x ++ 'Σ' :: y →
        endsWord (x.reverse ++ u.toList.reverse) (y ++ v.toList) = endsWord x.reverse y) →
      (keyword k).holds (u ++ k ++ v) = true) ∧
    ((∀ u v : String, (keyword k).holds (u ++ k ++ v) = true) ↔ Settled k.toList) ∧
    ('Σ' ∉ k.toList → Settled k.toList) := by
  refine ⟨fun u v h => ?_, ⟨fun h => ?_, fun h u v => ?_⟩, fun h x y hxy => ?_⟩
  · refine holds_of_lowerIn_eq (lowerIn_congr fun x y hxy => ?_)
    simpa using h x y hxy
  · by_contra hopen
    -- beside the letter `A`, some small letter of the keyword is missing
    have hletter : lowerChar 'A' = ['a'] := by decide +kernel
    have hbehind : (lowerIn [] [] k.toList).count 'σ' ≤ (lowerIn ['A'] [] k.toList).count 'σ' := by
      have hcount := count_le_of_holds (h "A" "") 'σ'
      rw [lower_around, toList_lower] at hcount
      simpa [lowerIn, hletter] using hcount
    have hbefore : (lowerIn [] [] k.toList).count 'ς' ≤ (lowerIn [] ['A'] k.toList).count 'ς' := by
      have hcount := count_le_of_holds (h "" "A") 'ς'
      rw [lower_around, toList_lower] at hcount
      simpa [lowerIn, hletter] using hcount
    obtain hlt | hlt := exists_count_lt_of_not_settled hopen
    · omega
    · omega
  · exact holds_of_lowerIn_eq (lowerIn_of_settled h _ _)
  · rw [hxy] at h
    exact absurd (by simp) h

/-- A word that ends in `Σ` holds where a blank follows it. -/
theorem holds_verbatim_word :
    (∀ x y, "ΑΣ".toList = x ++ 'Σ' :: y →
      endsWord (x.reverse ++ "".toList.reverse) (y ++ " Α".toList) = endsWord x.reverse y) ∧
    (keyword "ΑΣ").holds ("" ++ "ΑΣ" ++ " Α") = true := by
  have hforms : ∀ x y, "ΑΣ".toList = x ++ 'Σ' :: y →
      endsWord (x.reverse ++ "".toList.reverse) (y ++ " Α".toList) = endsWord x.reverse y := by
    intro x y hxy
    obtain ⟨rfl, rfl⟩ : x = ['Α'] ∧ y = [] := by
      rcases x with _ | ⟨a, _ | ⟨b, x⟩⟩ <;> simp_all [eq_comm]
    decide +kernel
  exact ⟨hforms, (holds_verbatim_iff "ΑΣ").1 "" " Α" hforms⟩

/-- It does not hold of a longer word that starts with it. -/
theorem not_holds_verbatim : (keyword "ΑΣ").holds ("" ++ "ΑΣ" ++ "Α") = false := by decide +kernel

end Pattern

end DealWatch
