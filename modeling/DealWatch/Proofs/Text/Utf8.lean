import DealWatch.Text.Utf8

/-!
# Texts in files

* `fileText?_utf8` says that a text without carriage returns is read back as it was written.
-/

namespace DealWatch

theorem ofUtf8?_utf8 (s : String) : ofUtf8? (utf8 s) = some s := by
  have hbytes : (⟨(utf8 s).toArray⟩ : ByteArray) = s.toByteArray := by
    rw [utf8, Array.toArray_toList, String.toUTF8_eq_toByteArray]
  rw [ofUtf8?, hbytes, String.fromUTF8?, dif_pos s.isValidUTF8]
  rfl

theorem unifyLines_eq_self {cs : List Char} (h : '\r' ∉ cs) : unifyLines cs = cs := by
  fun_induction unifyLines cs with
  | case1 | case2 => exact absurd List.mem_cons_self h
  | case3 c rest _ _ ih => rw [ih fun hmem => h (List.mem_cons_of_mem c hmem)]
  | case4 => rfl

/-- A text is read back as it was written. A carriage return would end a line. -/
theorem fileText?_utf8 {s : String} (h : '\r' ∉ s.toList) : fileText? (utf8 s) = some s := by
  rw [fileText?, ofUtf8?_utf8, Option.map_some, unifyLines_eq_self h, String.ofList_toList]

end DealWatch
