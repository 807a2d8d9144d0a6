import DealWatch.Pattern.Token

/-!
# Escapes in keywords

Resolving the escapes of a keyword never makes a backslash, and each escape uses one up. So the
number of backslashes tells whether there was any.

* `unescape_resolves` is this law.

The proof follows the escapes as they are tried at each place. For the escapes with digits it has to
be seen that none of the characters they can give is a backslash.
-/

namespace DealWatch

namespace Pattern

theorem toNat_sub_lt {c d : Char} {k : Nat} (h : c ≤ d) (hd : d.toNat - k < 16) :
    c.toNat - k < 16 :=
  Nat.lt_of_le_of_lt (Nat.sub_le_sub_right h k) hd

theorem hexValue?_lt {c : Char} {n : Nat} (h : hexValue? c = some n) : n < 16 := by
  unfold hexValue? at h
  split at h
  · rename_i hc
    cases h
    exact toNat_sub_lt (by simpa using (Bool.and_eq_true_iff.1 hc).2) (by decide)
  · split at h
    · rename_i hc
      cases h
      exact toNat_sub_lt (by simpa using (Bool.and_eq_true_iff.1 hc).2) (by decide)
    · split at h
      · rename_i hc
        cases h
        exact toNat_sub_lt (by simpa using (Bool.and_eq_true_iff.1 hc).2) (by decide)
      · cases h

theorem ofNat_ne_backslash {n : Nat} (h : n < 16) :
    Char.ofNat (16 * n + 2) ≠ '\\' ∧ Char.ofNat (16 * n + 4) ≠ '\\' := by
  have hall : ∀ n < 16, Char.ofNat (16 * n + 2) ≠ '\\' ∧ Char.ofNat (16 * n + 4) ≠ '\\' := by
    decide
  exact hall n h

theorem ne_backslash_of_isOctalDigit {c : Char} (h : isOctalDigit c = true) : c ≠ '\\' := by
  rintro rfl
  exact absurd h (by decide)

/-- A text that is the same as another one or has fewer backslashes. -/
def Resolves (out cs : List Char) : Prop := out = cs ∨ out.count '\\' < cs.count '\\'

theorem Resolves.count_le {out cs : List Char} (h : Resolves out cs) :
    out.count '\\' ≤ cs.count '\\' := by
  obtain rfl | h := h
  · exact Nat.le_refl _
  · exact Nat.le_of_lt h

theorem Resolves.keep {out cs : List Char} (h : Resolves out cs) (c : Char) :
    Resolves (c :: out) (c :: cs) := by
  obtain rfl | h := h
  · exact .inl rfl
  · exact .inr (by rw [List.count_cons, List.count_cons]; omega)

/-- An escape `v` that stands for the characters `u`. -/
theorem Resolves.escape {out cs : List Char} (h : Resolves out cs) {u v : List Char}
    (hu : '\\' ∉ u) (hv : '\\' ∈ v) : Resolves (u ++ out) (v ++ cs) := by
  have hle := h.count_le
  have hpos := List.count_pos_iff.2 hv
  refine .inr ?_
  rw [List.count_append, List.count_append, List.count_eq_zero.2 hu]
  omega

/-- **Resolving escapes** leaves a text as it is or uses up backslashes. -/
theorem unescape_resolves (cs : List Char) : Resolves (unescape cs) cs := by
  fun_induction unescape cs with
  | case1 rest ih => exact ih.escape (u := ['\t']) (v := ['\\', 't']) (by decide) (by decide)
  | case2 rest ih => exact ih.escape (u := ['\n']) (v := ['\\', 'n']) (by decide) (by decide)
  | case3 rest ih => exact ih.escape (u := ['\x0c']) (v := ['\\', 'f']) (by decide) (by decide)
  | case4 rest ih => exact ih.escape (u := ['\r']) (v := ['\\', 'r']) (by decide) (by decide)
  | case5 c rest n hn ih =>
    have := (ofNat_ne_backslash (hexValue?_lt hn)).1
    exact ih.escape (u := [Char.ofNat (16 * n + 2)]) (v := ['\\', 'x', c, '2'])
      (by simp [this.symm]) (by simp)
  | case6 c rest hn ih => exact ih.keep '\\'
  | case7 c rest n hn ih =>
    have := (ofNat_ne_backslash (hexValue?_lt hn)).2
    exact ih.escape (u := [Char.ofNat (16 * n + 4)]) (v := ['\\', 'u', c, '4'])
      (by simp [this.symm]) (by simp)
  | case8 c rest hn ih => exact ih.keep '\\'
  | case9 c rest _ _ _ _ _ _ hc ih =>
    have := ne_backslash_of_isOctalDigit hc
    exact ih.escape (u := [c, '3']) (v := ['\\', c, '3']) (by simp [this.symm]) (by simp)
  | case10 c rest _ _ _ _ _ _ hc ih => exact ih.keep '\\'
  | case11 rest _ ih => exact ih.escape (u := ['\x00']) (v := ['\\', '0']) (by decide) (by decide)
  | case12 c rest _ _ _ _ _ _ _ _ ih => exact ih.keep c
  | case13 => exact .inl rfl

/-- A text in which escapes are resolved to as many backslashes as there were has none. -/
theorem unescape_eq_self {cs : List Char} (h : (unescape cs).count '\\' = cs.count '\\') :
    unescape cs = cs := by
  obtain he | hlt := unescape_resolves cs
  · exact he
  · omega

end Pattern

end DealWatch
