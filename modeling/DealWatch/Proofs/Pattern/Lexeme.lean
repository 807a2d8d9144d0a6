import DealWatch.Pattern.Parser
import DealWatch.Proofs.Pattern.Assembly

/-!
# Lexemes

Neither the locations of tokens nor the columns of errors decide what a text means. What is left of
the tokens without them is the list of their kinds.

* `lexemes` cuts characters into lexemes, `scanFrom_kinds` ties it to `scanFrom`;
* `parse_eq_ok_iff` says that reading a text is cutting it into lexemes and reading these by
  recursive descent;
* `lexemes_quoted` says when a keyword in quotes is a lexeme.

The quotes of a text are counted here as well: a lexeme uses up two of them if it is a keyword, and
none otherwise (`count_quote_le`).
-/

namespace DealWatch

namespace Pattern

/-- The kinds of the tokens of some characters, if they can be cut into tokens. -/
def lexemes : List Char → Option (List TokenKind)
  | [] => some []
  | c :: rest =>
    if isSkipped c then lexemes rest
    else
      match lexeme c rest with
      | .error _ => none
      | .ok (kind, n) => (lexemes (rest.drop n)).map (kind :: ·)
termination_by cs => cs.length
decreasing_by all_goals simp only [List.length_cons, List.length_drop]; omega

@[simp] theorem TokenKind.at_kind (k : TokenKind) (previous offset : Nat) :
    (k.at previous offset).kind = k := by
  cases k <;> rfl

theorem scanFrom_kinds (previous offset : Nat) (cs : List Char) :
    (scanFrom previous offset cs).toOption.map (·.map (·.kind)) = lexemes cs := by
  fun_induction scanFrom previous offset cs with
  | case1 => rw [lexemes]; rfl
  | case2 previous offset c rest hs ih => rw [lexemes, if_pos hs, ih]
  | case3 previous offset c rest hs i fault he => rw [lexemes, if_neg hs, he]; rfl
  | case4 previous offset c rest hs kind n hk ih =>
    rw [lexemes, if_neg hs, hk]
    simp only [← ih]
    cases scanFrom (offset + 1 + n) (offset + 1 + n) (rest.drop n) with
    | error e => rfl
    | ok ts => simp [bind, Except.bind, Except.toOption]

/-- **Reading a text** is cutting it into lexemes and reading these by recursive descent. -/
theorem parse_eq_ok_iff {source : String} {p : Pattern} :
    parse source = .ok p ↔
      ∃ ks, lexemes (expandTabs source.toList) = some ks ∧ Descent.read ks = some p := by
  have hk := scanFrom_kinds 0 0 (expandTabs source.toList)
  cases hs : scanFrom 0 0 (expandTabs source.toList) with
  | error e =>
    rw [hs] at hk
    simp [parse, scan, hs, ← hk, Except.toOption, bind, Except.bind]
  | ok ts =>
    rw [hs] at hk
    have ha := @assemble_eq_ok_iff source.length ts p
    simp only [← hk, Except.toOption, Option.map_some, Option.some.injEq, exists_eq_left', ← ha]
    simp only [parse, scan, hs, bind, Except.bind]
    cases assemble source.length ts <;> simp

/-! ### Symbols -/

theorem lexemes_space (rest : List Char) : lexemes (' ' :: rest) = lexemes rest := by
  rw [lexemes, if_pos (by decide)]

theorem lexemes_symbol {c : Char} {rest : List Char} {kind : TokenKind} (hs : isSkipped c = false)
    (hl : lexeme c rest = .ok (kind, 0)) :
    lexemes (c :: rest) = (lexemes rest).map (kind :: ·) := by
  rw [lexemes, if_neg (by simp [hs]), hl]
  rfl

theorem lexemes_opening (rest : List Char) :
    lexemes ('(' :: rest) = (lexemes rest).map (.opening :: ·) :=
  lexemes_symbol (by decide) (by simp [lexeme])

theorem lexemes_closing (rest : List Char) :
    lexemes (')' :: rest) = (lexemes rest).map (.closing :: ·) :=
  lexemes_symbol (by decide) (by simp [lexeme])

theorem lexemes_negation (rest : List Char) :
    lexemes ('!' :: rest) = (lexemes rest).map (.negation :: ·) :=
  lexemes_symbol (by decide) (by simp [lexeme])

theorem lexemes_connective (c : Connective) (rest : List Char) :
    lexemes (c.symbol.toList ++ rest) = (lexemes rest).map (.connective c :: ·) := by
  cases c with
  | both =>
    change lexemes ('&' :: '&' :: rest) = _
    rw [lexemes, if_neg (by decide), show lexeme '&' ('&' :: rest) = .ok (.connective .both, 1) by
      simp [lexeme]]
    rfl
  | either =>
    change lexemes ('|' :: '|' :: rest) = _
    rw [lexemes, if_neg (by decide), show lexeme '|' ('|' :: rest) = .ok (.connective .either, 1) by
      simp [lexeme]]
    rfl

/-! ### Keywords in quotes -/

theorem isAlphanumeric_quote : isAlphanumeric '"' = false := by decide +kernel

theorem not_isQuotable_quote : isQuotable '"' = false := by decide

/-- Some characters without a quote: either all of them may stand in quotes, or there is a first
one that may not, and it is no quote. -/
theorem takeWhile_isQuotable {k : List Char} (hq : '"' ∉ k) (rest : List Char) :
    (k.all isQuotable = true ∧ (k ++ '"' :: rest).takeWhile isQuotable = k) ∨
      (k.all isQuotable = false ∧
        ((k ++ '"' :: rest).drop ((k ++ '"' :: rest).takeWhile isQuotable).length).head? ≠
          some '"') := by
  induction k with
  | nil => exact .inl ⟨rfl, by simp [not_isQuotable_quote]⟩
  | cons c k ih =>
    obtain ⟨hc, hk⟩ : c ≠ '"' ∧ '"' ∉ k := by
      simpa [eq_comm] using hq
    rw [List.all_cons, List.cons_append]
    cases hcq : isQuotable c with
    | false => exact .inr ⟨rfl, by simp [hcq, hc]⟩
    | true =>
      rw [List.takeWhile_cons_of_pos hcq]
      simpa using ih hk

theorem bareKeyword_quote (word : List Char) :
    bareKeyword ('"' :: word) = .error (0, .badCharacter '"') := by
  simp [bareKeyword, isAlphanumeric_quote]

theorem lexeme_quote_of_head {rest : List Char}
    (h : (rest.drop (rest.takeWhile isQuotable).length).head? ≠ some '"') :
    lexeme '"' rest = .error (0, .badCharacter '"') := by
  have hi : interruptsKeyword '"' = false := by decide
  have hb : isBlank '"' = false := by decide
  rw [lexeme, if_neg (by simpa using h)]
  simp [hb, hi, bareKeyword_quote]

/-- What can stand between quotes is one lexeme with them. -/
theorem lexeme_quoted {k : List Char} (hne : k ≠ []) (hall : k.all isQuotable = true)
    (rest : List Char) :
    lexeme '"' (k ++ '"' :: rest) =
      .ok (.keyword (String.ofList (unescape k)), k.length + 1) := by
  have htake : (k ++ '"' :: rest).takeWhile isQuotable = k := by
    rw [List.takeWhile_append_of_pos (List.all_eq_true.1 hall),
      List.takeWhile_cons_of_neg (by simp [not_isQuotable_quote]), List.append_nil]
  rw [lexeme, htake]
  simp [hne]

/-- A keyword in quotes is one lexeme, unless it is empty or goes over the end of a line. -/
theorem lexemes_quoted {k : List Char} (hq : '"' ∉ k) (rest : List Char) :
    lexemes ('"' :: (k ++ '"' :: rest)) =
      if k ≠ [] ∧ k.all isQuotable then
        (lexemes rest).map (.keyword (String.ofList (unescape k)) :: ·)
      else none := by
  rw [lexemes, if_neg (by decide)]
  obtain ⟨hall, htake⟩ | ⟨hall, hhead⟩ := takeWhile_isQuotable hq rest
  · cases k with
    | nil => simp [lexeme, not_isQuotable_quote]
    | cons c k =>
      rw [lexeme_quoted (List.cons_ne_nil c k) hall, if_pos ⟨by simp, hall⟩]
      simp
  · rw [lexeme_quote_of_head hhead, if_neg (by simp [hall])]

/-! ### Counting quotes -/

theorem count_quote_takeWhile (cs : List Char) : (cs.takeWhile isQuotable).count '"' = 0 := by
  rw [List.count_eq_zero]
  intro h
  have hall := List.all_eq_true.1 (List.all_takeWhile (p := isQuotable) (l := cs)) _ h
  exact absurd hall (by decide)

theorem count_quote_bareKeyword {word : List Char} {r : TokenKind × Nat}
    (h : bareKeyword word = .ok r) : word.count '"' = 0 ∧ r.1.keyword?.isSome ∧
      r.2 = word.length - 1 := by
  unfold bareKeyword at h
  split at h
  · cases h
  · rename_i hfind
    cases h
    refine ⟨?_, rfl, rfl⟩
    rw [List.count_eq_zero]
    intro hmem
    obtain ⟨i, hi, he⟩ := List.mem_iff_getElem.1 hmem
    have := List.find?_eq_none.1 hfind ('"', i) (by
      rw [List.mem_iff_getElem]
      exact ⟨i, by simpa using hi, by simp [he]⟩)
    simp [isAlphanumeric_quote] at this

/-- Up to the quote that closes it, a keyword in quotes has no other one. -/
theorem count_quote_content {rest : List Char}
    (h : (rest.drop (rest.takeWhile isQuotable).length).head? = some '"') :
    (rest.take ((rest.takeWhile isQuotable).length + 1)).count '"' = 1 := by
  have htake : rest.take (rest.takeWhile isQuotable).length = rest.takeWhile isQuotable :=
    (List.prefix_iff_eq_take.1 (List.takeWhile_prefix isQuotable)).symm
  rw [List.head?_drop] at h
  rw [List.take_add_one, htake, h, List.count_append, count_quote_takeWhile]
  rfl

/-- The characters of a keyword without quotes. If there are none, the first character is taken
alone, and may be a quote. -/
theorem count_quote_word {c : Char} {rest : List Char} {kind : TokenKind} {n : Nat}
    (h : bareKeyword ((c :: rest).takeWhile (!interruptsKeyword ·)) = .ok (kind, n)) :
    (c :: rest.take n).count '"' ≤ 2 * kind.keyword?.toList.length := by
  obtain ⟨hcount, hk, hn⟩ := count_quote_bareKeyword h
  obtain ⟨k, hk⟩ := Option.isSome_iff_exists.1 hk
  have hprefix := List.prefix_iff_eq_take.1
    (List.takeWhile_prefix (l := c :: rest) (!interruptsKeyword ·))
  simp only at hk hn
  generalize (c :: rest).takeWhile (!interruptsKeyword ·) = word at hcount hn hprefix
  rw [hk, hn]
  cases word with
  | nil =>
    have hone := List.count_le_length (a := '"') (l := [c])
    simp only [List.length_nil, Nat.zero_sub, List.take_zero, Option.toList_some,
      List.length_cons] at hone ⊢
    omega
  | cons d word =>
    rw [List.length_cons, List.take_succ_cons] at hprefix
    rw [List.length_cons, Nat.add_sub_cancel, ← hprefix, hcount]
    exact Nat.zero_le _

/-- A lexeme has at most two quotes, and none if it is no keyword. -/
theorem count_quote_lexeme {c : Char} {rest : List Char} {kind : TokenKind} {n : Nat}
    (h : lexeme c rest = .ok (kind, n)) :
    (c :: rest.take n).count '"' ≤ 2 * kind.keyword?.toList.length := by
  unfold lexeme at h
  simp only at h
  split at h
  · rename_i hc
    simp only [Bool.and_eq_true, decide_eq_true_eq, beq_iff_eq] at hc
    obtain ⟨rfl, hhead⟩ := hc
    split at h
    · cases h
    · cases h
      rw [List.count_cons_self, count_quote_content hhead]
      exact Nat.le_refl _
  -- the symbols of one character, then those of two
  iterate 3 (split at h; · rename_i hc; cases h; subst hc; simp [TokenKind.keyword?])
  iterate 2
    split at h
    · rename_i hc
      subst hc
      split at h
      · rename_i hhead
        cases h
        cases rest with
        | nil => simp at hhead
        | cons d rest =>
          obtain rfl : d = _ := by simpa using hhead
          simp [TokenKind.keyword?]
      · cases h
  · split at h
    · cases h
    · exact count_quote_word h

/-- **Quotes are used up in pairs.**  Every two quotes of a text that can be cut into lexemes
belong to a keyword of its own. -/
theorem count_quote_le {cs : List Char} {ks : List TokenKind} (h : lexemes cs = some ks) :
    cs.count '"' ≤ 2 * (keywordsOf ks).length := by
  fun_induction lexemes cs generalizing ks with
  | case1 => simp
  | case2 c rest hs ih =>
    have hc : c ≠ '"' := by rintro rfl; exact absurd hs (by decide)
    rw [List.count_cons_of_ne hc]
    exact ih h
  | case3 => cases h
  | case4 c rest hs kind n hk ih =>
    obtain ⟨ks', hks', rfl⟩ := Option.map_eq_some_iff.1 h
    have hfirst := count_quote_lexeme hk
    have hrest := ih hks'
    have hsplit : (c :: rest).count '"' =
        (c :: rest.take n).count '"' + (rest.drop n).count '"' := by
      rw [← List.count_append, List.cons_append, List.take_append_drop]
    rw [hsplit, keywordsOf_cons, List.length_append]
    omega

end Pattern

end DealWatch
