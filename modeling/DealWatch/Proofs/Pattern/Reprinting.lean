import DealWatch.Proofs.Pattern.Canonical
import DealWatch.Proofs.Pattern.Reformatting

/-!
# Texts that are read and printed

The canonical text of what a text was read as is another text of the same pattern only if nothing of
the pattern is lost in it: neither the end of a negation that is followed by something, nor a
character of a keyword that was written as an escape.

* `exists_keyword_iff` says which keywords there are in patterns that were read;
* `isPlain_of_parse` says that these are plain if there is no escape in the text;
* `parse_canonical_of_parse` says when the canonical text is read as the pattern again, and
  `parse_canonical_of_parse_ne` shows how it may fail.

The keywords of a pattern that was read are contents of quotes with their escapes resolved. Without
a backslash in the text there is nothing to resolve, and then what a keyword must be to come back is
what the scanner asked of it in the first place.
-/

namespace DealWatch

namespace Pattern

/-! ### Keywords of texts -/

/-- The characters of a spelling are characters of the text. -/
theorem Spread.chars_subset {ls : List Spelling} {cs : List Char} (h : Spread ls cs) {l : Spelling}
    (hl : l ∈ ls) : l.chars ⊆ cs := by
  induction h with
  | nil => cases hl
  | gap _ _ ih => exact List.subset_cons_of_subset _ (ih hl)
  | lexeme l' _ ih =>
    obtain rfl | hl := List.mem_cons.1 hl
    · exact List.subset_append_left _ _
    · exact List.subset_append_of_subset_right _ (ih hl)

/-- What some characters between quotes stand for. -/
def Content.keyword (w : Content) : String := String.ofList (unescape w.chars)

/-- A spelling of a keyword has characters that could stand between quotes for it. -/
theorem Spelling.exists_content {l : Spelling} {k : String} (h : l.kind = .keyword k) :
    ∃ w : Content, w.chars ⊆ l.chars ∧ k = w.keyword := by
  cases l with
  | bare w =>
    have hkind := (kind_quoted w).trans h
    exact ⟨w.quoted, List.Subset.refl _, (TokenKind.keyword.inj hkind).symm⟩
  | literal w =>
    refine ⟨w, ?_, (TokenKind.keyword.inj h).symm⟩
    intro c hc
    simp [Spelling.chars, hc]
  | _ => cases h

/-- **A keyword that was read** was spelled by characters of the text. -/
theorem exists_content_of_parse {s : String} {p : Pattern} (h : parse s = .ok p) {k : String}
    (hk : k ∈ p.keywords) :
    ∃ w : Content, w.chars ⊆ expandTabs s.toList ∧ k = w.keyword := by
  obtain ⟨ks, hlexemes, hread⟩ := parse_eq_ok_iff.1 h
  obtain ⟨ls, hcut, rfl⟩ := (lexemes_eq_some_iff (tab_notMem_expandTabsFrom 0 _)).1 hlexemes
  rw [Descent.keywords_of_read hread] at hk
  obtain ⟨kind, hkind, hkeyword⟩ := List.mem_filterMap.1 hk
  obtain ⟨l, hl, rfl⟩ := List.mem_map.1 hkind
  have hspelled : l.kind = .keyword k := by
    cases hkind : l.kind with
    | keyword k' =>
      rw [hkind] at hkeyword
      exact congrArg TokenKind.keyword (Option.some.inj hkeyword)
    | _ =>
      rw [hkind] at hkeyword
      cases hkeyword
  obtain ⟨w, hchars, rfl⟩ := Spelling.exists_content hspelled
  exact ⟨w, List.Subset.trans hchars (hcut.spread.chars_subset hl), rfl⟩

/-- The keyword between two quotes is read. -/
theorem parse_quoted {w : Content} (htab : '\t' ∉ w.chars) :
    parse (String.ofList ('"' :: (w.chars ++ ['"']))) = .ok (.keyword w.keyword) := by
  have hcut : Cut [.literal w] ('"' :: (w.chars ++ ['"'])) := by
    have h := Cut.nil.lexeme (.literal w) trivial
    rwa [List.append_nil] at h
  have hread : Descent.read (kinds [.literal w]) = some (.keyword w.keyword) :=
    read_tokens (.keyword w.keyword)
  exact (parse_of_cut (by rwa [String.toList_ofList]) (by simpa using htab)).2 hread

/-- **The keywords that can be read** are the characters that can stand between quotes, without
tabs, with their escapes resolved. -/
theorem exists_keyword_iff {k : String} :
    (∃ s p, parse s = .ok p ∧ k ∈ p.keywords) ↔ ∃ w : Content, '\t' ∉ w.chars ∧ k = w.keyword := by
  constructor
  · rintro ⟨s, p, h, hk⟩
    obtain ⟨w, hchars, rfl⟩ := exists_content_of_parse h hk
    exact ⟨w, fun htab => tab_notMem_expandTabsFrom 0 _ (hchars htab), rfl⟩
  · rintro ⟨w, htab, rfl⟩
    exact ⟨_, _, parse_quoted htab, List.mem_singleton_self _⟩

/-- Without a backslash, what stands between quotes is plain. -/
theorem Content.isPlain {w : Content} (htab : '\t' ∉ w.chars) (hescape : '\\' ∉ w.chars) :
    IsPlain w.keyword := by
  have hself := unescape_of_notMem hescape
  have hquote : '"' ∉ w.chars := fun h => absurd (w.quotable _ h) (by decide)
  rw [isPlain_iff, FitsQuotes, Content.keyword, String.toList_ofList, hself]
  exact ⟨⟨w.nonempty, List.all_eq_true.2 w.quotable⟩, hquote, htab, hself⟩

/-- **Plain keywords** are all that a text without a backslash has. -/
theorem isPlain_of_parse {s : String} {p : Pattern} (h : parse s = .ok p)
    (hescape : '\\' ∉ s.toList) : ∀ k ∈ p.keywords, IsPlain k := by
  intro k hk
  obtain ⟨w, hchars, rfl⟩ := exists_content_of_parse h hk
  refine w.isPlain (fun htab => tab_notMem_expandTabsFrom 0 _ (hchars htab)) fun hmem => ?_
  -- a backslash is none of the characters that the tabs became
  have hcount := count_expandTabsFrom (c := '\\') (by decide) (by decide) 0 s.toList
  rw [List.count_eq_zero.2 hescape, List.count_eq_zero] at hcount
  exact hcount (hchars hmem)

/-! ### The round trip -/

/-- **A text that is read and printed** is read as the same pattern again if and only if its
keywords are plain and it has no negation on the left of a compound. If it has no backslash, its
keywords are plain, so it is read in any case, with the negations regrouped. -/
theorem parse_canonical_of_parse {s : String} {p : Pattern} (h : parse s = .ok p) :
    (parse (canonical p) = .ok p ↔ (∀ k ∈ p.keywords, IsPlain k) ∧ p.NegationsTrail) ∧
      ('\\' ∉ s.toList →
        parse (canonical p) = .ok p.regrouped ∧ (p.regrouped = p ↔ p.NegationsTrail)) := by
  refine ⟨parse_canonical_iff p, fun hescape => ⟨?_, regrouped_eq_self_iff⟩⟩
  exact parse_canonical (isPlain_of_parse h hescape)

/-- A negation at the end of its group comes back. -/
theorem parse_canonical_of_parse_trailing :
    parse "a && (b || !c)" =
        .ok (.compound .both (.keyword "a")
          (.compound .either (.keyword "b") (.negation (.keyword "c")))) ∧
      parse (canonical (.compound .both (.keyword "a")
        (.compound .either (.keyword "b") (.negation (.keyword "c"))))) =
          .ok (.compound .both (.keyword "a")
            (.compound .either (.keyword "b") (.negation (.keyword "c")))) := by
  have hparse : parse "a && (b || !c)" = .ok (.compound .both (.keyword "a")
      (.compound .either (.keyword "b") (.negation (.keyword "c")))) := by decide +kernel
  exact ⟨hparse, ((parse_canonical_of_parse hparse).2 (by decide)).1⟩

/-- It may fail in three ways: a negation in parentheses takes in what follows it, a tab that was
written as an escape comes back as spaces, and a line break that was written as an escape is not
read at all. -/
theorem parse_canonical_of_parse_ne :
    (parse "(!a) && b" = .ok (.compound .both (.negation (.keyword "a")) (.keyword "b")) ∧
      parse (canonical (.compound .both (.negation (.keyword "a")) (.keyword "b"))) =
        .ok (.negation (.compound .both (.keyword "a") (.keyword "b")))) ∧
    (parse "\"a\\tb\"" = .ok (.keyword "a\tb") ∧
      parse (canonical (.keyword "a\tb")) = .ok (.keyword "a      b")) ∧
    parse "\"a\\nb\"" = .ok (.keyword "a\nb") ∧
      (parse (canonical (.keyword "a\nb"))).toOption = none := by
  decide +kernel

end Pattern

end DealWatch
