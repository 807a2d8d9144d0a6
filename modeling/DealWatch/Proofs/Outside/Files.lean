import DealWatch.Outside.Files
import DealWatch.Proofs.Text.Utf8

/-!
# Writing and reading files

* `Files.readText_of_writeText` says that a file holds the text that was written to it;
* `Files.writeText_eq` says when a text can be written.

A text with carriage returns is left out: these are read as the ends of lines.
-/

namespace DealWatch

/-- The names of a path have no character NUL if they have none as lists of characters. -/
theorem Path.hasNul_eq_false {p : Path}
    (h : ∀ name ∈ p.names, '\x00' ∉ name.toList) : p.hasNul = false := by
  rw [hasNul, List.any_eq_false]
  intro name hname hnul
  rw [String.contains_char_eq, decide_eq_true_eq] at hnul
  exact h name hname hnul

namespace Files

variable {fs fs' : Files} {p : Path} {s : String}

/-- A node that was put stands at its path. -/
theorem find?_put (node : Node) (h : p.hasNul = false) : (fs.put p node).find? p = some node := by
  have hlocate : (fs.put p node).locate p = fs.locate p := rfl
  rw [find?, h, hlocate]
  simp only [put, List.find?_append]
  rw [List.find?_eq_none.2]
  · simp only [List.find?_singleton, beq_self_eq_true]
    rfl
  · -- the other nodes at the path are gone
    rintro ⟨q, other⟩ hmem heq
    have hne := (List.mem_filter.1 hmem).2
    simp only [bne, heq, Bool.not_true] at hne
    cases hne

/-- **A file is read as it was written**, if the text has no carriage returns. -/
theorem readText_of_writeText (hs : '\r' ∉ s.toList) (h : fs.writeText p s = .ok fs') :
    fs'.contains p = true ∧ fs'.readText p = .ok s := by
  unfold writeText at h
  split at h
  · cases h
  · split at h
    · cases h
    · rename_i hnul
      cases h
      have hfind : (fs.put p (.file (utf8 s))).find? p = some (.file (utf8 s)) :=
        find?_put _ (eq_false_of_ne_true hnul)
      refine ⟨by rw [contains, hfind]; rfl, ?_⟩
      simp only [readText, readBytes, hfind, bind, Except.bind, fileText?_utf8 hs]
      rfl

/-- A text can be written where nothing stands yet. -/
theorem writeText_eq (hnul : p.hasNul = false) (hnone : fs.find? p = none) (s : String) :
    fs.writeText p s = .ok (fs.put p (.file (utf8 s))) := by
  simp only [writeText, hnone, hnul, Bool.false_eq_true, if_false]

end Files

end DealWatch
