import DealWatch.Text.Tabs

/-!
# What expanding tabs keeps

Expanding the tabs of a text puts spaces in their place and touches nothing else.

* `expandTabsFrom_append` expands a text in two parts, the second from `columnAfter` the first;
* `count_expandTabsFrom` says that every character but the space and the tab stays.

The proofs are by induction on the text, for any column at which it starts.
-/

namespace DealWatch

/-- The column after a text that starts at a column; after a tab, one at the same tab stop. -/
def columnAfter : Nat → List Char → Nat
  | column, [] => column
  | column, c :: rest =>
    if c = '\t' ∨ c = '\n' ∨ c = '\r' then columnAfter 0 rest else columnAfter (column + 1) rest

theorem expandTabsFrom_append (column : Nat) (u v : List Char) :
    expandTabsFrom column (u ++ v) =
      expandTabsFrom column u ++ expandTabsFrom (columnAfter column u) v := by
  induction u generalizing column with
  | nil => rfl
  | cons c u ih =>
    rw [List.cons_append, expandTabsFrom, expandTabsFrom, columnAfter]
    by_cases ht : c = '\t'
    · simp [ht, ih]
    · by_cases hl : c = '\n' ∨ c = '\r' <;> simp [ht, hl, ih]

theorem expandTabsFrom_eq_self {cs : List Char} (h : '\t' ∉ cs) (column : Nat) :
    expandTabsFrom column cs = cs := by
  induction cs generalizing column with
  | nil => rfl
  | cons c cs ih =>
    obtain ⟨hc, hcs⟩ : c ≠ '\t' ∧ '\t' ∉ cs := by simpa [eq_comm] using h
    rw [expandTabsFrom, if_neg hc]
    split <;> rw [ih hcs]

theorem tab_notMem_expandTabsFrom (column : Nat) (cs : List Char) :
    '\t' ∉ expandTabsFrom column cs := by
  induction cs generalizing column with
  | nil => simp [expandTabsFrom]
  | cons c cs ih =>
    rw [expandTabsFrom]
    split
    · simp [ih]
    · rename_i hc
      split <;> simp [ih, Ne.symm hc]

/-- Every character but the space and the tab occurs as often as before. -/
theorem count_expandTabsFrom {c : Char} (hs : c ≠ ' ') (ht : c ≠ '\t') (column : Nat)
    (cs : List Char) : (expandTabsFrom column cs).count c = cs.count c := by
  induction cs generalizing column with
  | nil => rfl
  | cons d cs ih =>
    rw [expandTabsFrom]
    split
    · rename_i hd
      subst hd
      rw [List.count_append, List.count_replicate, ih, List.count_cons_of_ne (Ne.symm ht)]
      simp [Ne.symm hs]
    · split <;> rw [List.count_cons, List.count_cons, ih]

end DealWatch
