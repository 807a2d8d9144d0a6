import DealWatch.Proofs.Pattern.Escape
import DealWatch.Proofs.Pattern.Grouping
import DealWatch.Proofs.Pattern.Layout
import DealWatch.Proofs.Text.Tabs
import Mathlib.Logic.Relation

/-!
# Texts that are laid out anew

The gaps of a text, the quotes around its words and parentheses that change nothing are a matter of
layout.

* `Respelled` is one change of the spellings of a text;
* `Reformats` says that a text is another one with such a change and with any gaps,
  `Relation.ReflTransGen Reformats` that it is so after any number of changes;
* `parse_reformatted` says that the pattern stays the same.

For one change the kinds of the tokens are the same, or parentheses are added that change nothing
(`read_enclosed`). The changed text is read as these tokens because no two keywords are neighbours
in it. A tab could make two texts differ inside of quotes, so there must be none, and no change
brings one in.
-/

namespace DealWatch

namespace Pattern

/-- The kinds of some spellings. -/
def kinds (ls : List Spelling) : List TokenKind := ls.map (·.kind)

@[simp] theorem kinds_append (ls ls' : List Spelling) : kinds (ls ++ ls') = kinds ls ++ kinds ls' :=
  List.map_append

@[simp] theorem kinds_cons (l : Spelling) (ls : List Spelling) :
    kinds (l :: ls) = l.kind :: kinds ls := rfl

/-- One change of spellings that keeps the meaning. -/
inductive Respelled : List Spelling → List Spelling → Prop
  /-- Nothing changes but the gaps. -/
  | same (ls : List Spelling) : Respelled ls ls
  /-- A bare word gets quotes. -/
  | quote (u v : List Spelling) (w : Word) :
      Respelled (u ++ .bare w :: v) (u ++ .literal w.quoted :: v)
  /-- Letters and digits lose their quotes. -/
  | unquote (u v : List Spelling) (w : Word) :
      Respelled (u ++ .literal w.quoted :: v) (u ++ .bare w :: v)
  /-- Something gets parentheses. -/
  | enclose {u x v : List Spelling} : Enclosable (kinds u) (kinds x) (kinds v) →
      Respelled (u ++ (x ++ v)) (u ++ .opening :: (x ++ .closing :: v))

/-- A text with one change of its spellings and any gaps. -/
def Reformats (s s' : String) : Prop :=
  ∃ ls ls', Cut ls s.toList ∧ Respelled ls ls' ∧ Spread ls' s'.toList

/-! ### Words and quotes -/

/-- Without a backslash there is no escape. -/
theorem unescape_of_notMem {cs : List Char} (h : '\\' ∉ cs) : unescape cs = cs := by
  obtain hself | hlt := unescape_resolves cs
  · exact hself
  · rw [List.count_eq_zero.2 h] at hlt
    exact absurd hlt (Nat.not_lt_zero _)

/-- A word is the same keyword with quotes and without. -/
theorem kind_quoted (w : Word) : (Spelling.literal w.quoted).kind = (Spelling.bare w).kind := by
  have hnone : '\\' ∉ w.chars := fun h =>
    ne_of_isAlphanumeric (w.alphanumeric _ h) (by decide) rfl
  rw [Spelling.kind, Spelling.kind, Word.quoted, unescape_of_notMem hnone]

/-! ### What a change keeps -/

theorem Respelled.read {ls ls' : List Spelling} (h : Respelled ls ls') {p : Pattern}
    (hread : Descent.read (kinds ls) = some p) : Descent.read (kinds ls') = some p := by
  cases h with
  | same => exact hread
  | quote u v w =>
    rw [kinds_append, kinds_cons] at hread ⊢
    rwa [kind_quoted]
  | unquote u v w =>
    rw [kinds_append, kinds_cons] at hread ⊢
    rwa [← kind_quoted]
  | enclose henclosable =>
    simp only [kinds_append, kinds_cons] at hread ⊢
    exact read_enclosed henclosable hread

/-- A change adds no characters but quotes and parentheses. -/
theorem Respelled.tab_notMem {ls ls' : List Spelling} (h : Respelled ls ls')
    (htab : '\t' ∉ ls.flatMap Spelling.chars) : '\t' ∉ ls'.flatMap Spelling.chars := by
  cases h with
  | same => exact htab
  | quote u v w => simpa [Spelling.chars, Word.quoted] using htab
  | unquote u v w => simpa [Spelling.chars, Word.quoted] using htab
  | enclose => simpa [Spelling.chars] using htab

theorem Reformats.tab_notMem {s s' : String} (h : Reformats s s') (htab : '\t' ∉ s.toList) :
    '\t' ∉ s'.toList := by
  obtain ⟨ls, ls', hcut, hrespelled, hspread⟩ := h
  rw [hcut.spread.mem_iff rfl] at htab
  rw [hspread.mem_iff rfl]
  exact hrespelled.tab_notMem htab

/-! ### Reading the text -/

/-- Without tabs, reading a text is cutting it and reading what it is cut into. -/
theorem parse_of_cut {s : String} {ls : List Spelling} (hcut : Cut ls s.toList)
    (htab : '\t' ∉ s.toList) {p : Pattern} :
    parse s = .ok p ↔ Descent.read (kinds ls) = some p := by
  rw [parse_eq_ok_iff, expandTabs, expandTabsFrom_eq_self htab, hcut.lexemes_eq]
  simp [kinds]

/-- **One change** of the layout keeps what is read. -/
theorem Reformats.parse {s s' : String} (h : Reformats s s') (htab : '\t' ∉ s.toList)
    {p : Pattern} (hparse : Pattern.parse s = .ok p) : Pattern.parse s' = .ok p := by
  have htab' := h.tab_notMem htab
  obtain ⟨ls, ls', hcut, hrespelled, hspread⟩ := h
  have hread := hrespelled.read ((parse_of_cut hcut htab).1 hparse)
  -- what can be read has no neighbouring keywords, so the new gaps do not matter
  have hderives := (Descent.read_isSome_iff _).1 (Option.isSome_of_eq_some hread)
  exact (parse_of_cut (hspread.cut hderives.separated.1) htab').2 hread

/-- **Any changes** of the layout keep what is read. -/
theorem parse_reformatted {s s' : String} (h : Relation.ReflTransGen Reformats s s')
    (htab : '\t' ∉ s.toList) {p : Pattern} (hparse : Pattern.parse s = .ok p) :
    Pattern.parse s' = .ok p ∧ '\t' ∉ s'.toList := by
  induction h with
  | refl => exact ⟨hparse, htab⟩
  | tail _ hstep ih => exact ⟨hstep.parse ih.2 ih.1, hstep.tab_notMem ih.2⟩

end Pattern

end DealWatch
