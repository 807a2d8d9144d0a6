import DealWatch.Pattern.Printer
import DealWatch.Proofs.Pattern.Escape
import DealWatch.Proofs.Pattern.Lexeme
import DealWatch.Proofs.Text.Tabs

/-!
# Reading canonical texts

In a canonical text every keyword is in quotes and every compound in parentheses, but a negation
that is the left operand of a compound is not: read back, it takes the right operand in.

* `written` is the canonical text and `Pattern.tokens` are its tokens;
* `regrouped` is what reading makes of the structure, `NegationsTrail` says when it is the same;
* `IsPlain` says which keywords are read back from quotes as they were written;
* `parse_canonical_iff` says when the canonical text of a pattern is read as that pattern.

That the text of plain keywords is read as the regrouped pattern goes by structural induction, in
two layers: `lexemes_written` takes the text apart into tokens, `read_tokens` reads these.

For the other direction nothing is known of the keywords at first, and a quote in one of them would
shift all that follows. But reading keeps the number of keywords, and a text with more quotes than
two for each of its keywords cannot be cut into that many (`quote_notMem_of_lexemes`). So there are
no quotes in them, and the layers can be followed again: tabs and escapes must have left the
keywords as they were.
-/

namespace DealWatch

namespace Pattern

open Descent

/-! ### The text and its tokens -/

/-- The characters of the canonical text. -/
def written : Pattern → List Char
  | .keyword k => '"' :: (k.toList ++ ['"'])
  | .negation p => '!' :: '(' :: (p.written ++ [')'])
  | .compound c l r =>
    '(' :: (l.written ++ ' ' :: (c.symbol.toList ++ ' ' :: (r.written ++ [')'])))

/-- The kinds of the tokens of the canonical text. -/
def tokens : Pattern → List TokenKind
  | .keyword k => [.keyword k]
  | .negation p => .negation :: .opening :: (p.tokens ++ [.closing])
  | .compound c l r => .opening :: (l.tokens ++ .connective c :: (r.tokens ++ [.closing]))

theorem canonical_toList (p : Pattern) : (canonical p).toList = p.written := by
  rw [canonical, Reading.value?_eq, Option.getD_some]
  induction p with
  | keyword k => simp [Reading.eval, asText, written]
  | negation p ih => simp [Reading.eval, asText, written, ← ih]
  | compound c l r ihl ihr => simp [Reading.eval, asText, written, ← ihl, ← ihr]

/-- A pattern with its keywords changed. -/
def mapKeywords (f : String → String) : Pattern → Pattern
  | .keyword k => .keyword (f k)
  | .negation p => .negation (p.mapKeywords f)
  | .compound c l r => .compound c (l.mapKeywords f) (r.mapKeywords f)

theorem keywords_mapKeywords (f : String → String) (p : Pattern) :
    (p.mapKeywords f).keywords = p.keywords.map f := by
  induction p with
  | keyword k => rfl
  | negation p ih => exact ih
  | compound c l r ihl ihr => simp [mapKeywords, keywords, ihl, ihr]

theorem mapKeywords_eq_self {f : String → String} {p : Pattern}
    (h : ∀ k ∈ p.keywords, f k = k) : p.mapKeywords f = p := by
  induction p with
  | keyword k => simpa [mapKeywords, keywords] using h
  | negation p ih => rw [mapKeywords, ih h]
  | compound c l r ihl ihr =>
    simp only [keywords, List.mem_append] at h
    rw [mapKeywords, ihl fun k hk => h k (.inl hk), ihr fun k hk => h k (.inr hk)]

/-! ### The tokens read back -/

/-- What reading makes of the structure of a canonical text: a negation on the left of a compound
takes the right operand in. -/
def regrouped : Pattern → Pattern
  | .keyword k => .keyword k
  | .negation p => .negation p.regrouped
  | .compound c (.negation p) r => .negation (.compound c p.regrouped r.regrouped)
  | .compound c l r => .compound c l.regrouped r.regrouped

/-- No negation is the left operand of a compound. -/
def NegationsTrail : Pattern → Prop
  | .keyword _ => True
  | .negation p => p.NegationsTrail
  | .compound _ l r => l.isNegation = false ∧ l.NegationsTrail ∧ r.NegationsTrail

theorem regrouped_compound {c : Connective} {l r : Pattern} (h : l.isNegation = false) :
    regrouped (.compound c l r) = .compound c l.regrouped r.regrouped := by
  cases l with
  | negation p => cases h
  | keyword k => rfl
  | compound c' l' r' => rfl

theorem keywords_regrouped (p : Pattern) : p.regrouped.keywords = p.keywords := by
  fun_induction regrouped p <;> simp_all [keywords]

/-- Reading keeps the structure exactly where no negation is on the left of a compound. -/
theorem regrouped_eq_self_iff {p : Pattern} : p.regrouped = p ↔ p.NegationsTrail := by
  induction p with
  | keyword k => simp [regrouped, NegationsTrail]
  | negation p ih => simp [regrouped, NegationsTrail, ih]
  | compound c l r ihl ihr =>
    cases hl : l.isNegation with
    | true =>
      cases l with
      | negation p => simp [regrouped, NegationsTrail, isNegation]
      | keyword k => cases hl
      | compound c' l' r' => cases hl
    | false => simp [regrouped_compound hl, NegationsTrail, hl, ihl, ihr]

/-- Some tokens are a factor wherever a group may end after them. -/
def ReadsAs (u : List TokenKind) (p : Pattern) : Prop :=
  ∀ ts, Ends ts → factor (u ++ ts) = some (p, ts)

theorem ReadsAs.group {u : List TokenKind} {p : Pattern} (h : ReadsAs u p)
    (ts : List TokenKind) : factor (.opening :: (u ++ .closing :: ts)) = some (p, ts) := by
  have hc := ends_closing ts
  rw [factor_opening, pattern_of_factor (h _ hc) hc]

/-- Two factors with a connective between them, before the end of their group. -/
theorem ReadsAs.pattern_pair {us u ts : List TokenKind} {p q : Pattern} {c : Connective}
    (h : ReadsAs u q) (hp : factor us = some (p, .connective c :: (u ++ .closing :: ts))) :
    pattern us = some (.compound c p q, .closing :: ts) := by
  have hc := ends_closing ts
  simp only [pattern_eq, hp, tail_connective, h _ hc, Option.bind_some, tail_of_ends hc,
    Option.map_some, joined_cons, joined_nil]

/-- The tokens of a canonical text are read as a factor; those of a negation only where its group
ends, because a negation takes in all that follows. -/
theorem factor_tokens (p : Pattern) :
    ∀ ts, (p.isNegation = true → Ends ts) → factor (p.tokens ++ ts) = some (p.regrouped, ts) := by
  fun_induction regrouped p with
  | case1 k => exact fun ts _ => factor_keyword k ts
  | case2 p ih =>
    intro ts he
    have hp : ReadsAs p.tokens p.regrouped := fun ts he => ih ts fun _ => he
    simp only [tokens, List.cons_append, List.append_assoc, List.nil_append]
    rw [factor_negation, pattern_of_factor (hp.group ts) (he rfl)]
    rfl
  | case3 c q r ihq ihr =>
    intro ts _
    have hq : ReadsAs q.tokens q.regrouped := fun ts he => ihq ts fun _ => he
    have hr : ReadsAs r.tokens r.regrouped := fun ts he => ihr ts fun _ => he
    have hc := ends_closing ts
    simp only [tokens, List.cons_append, List.append_assoc, List.nil_append]
    have hneg : factor (.negation :: .opening :: (q.tokens ++ .closing :: .connective c ::
        (r.tokens ++ .closing :: ts))) =
          some (.negation (.compound c q.regrouped r.regrouped), .closing :: ts) := by
      rw [factor_negation, hr.pattern_pair (hq.group _)]
      rfl
    rw [factor_opening, pattern_of_factor hneg hc]
  | case4 c l r hl ihl ihr =>
    intro ts _
    have hr : ReadsAs r.tokens r.regrouped := fun ts he => ihr ts fun _ => he
    have hneg : l.isNegation = false := by
      cases l with
      | negation q => exact absurd rfl (hl q)
      | keyword k => rfl
      | compound c' l' r' => rfl
    simp only [tokens, List.cons_append, List.append_assoc, List.nil_append]
    rw [factor_opening, hr.pattern_pair (ihl _ (by simp [hneg]))]

theorem read_tokens (p : Pattern) : Descent.read p.tokens = some p.regrouped := by
  have h := factor_tokens p [] fun _ => ends_nil
  rw [List.append_nil] at h
  exact read_eq_some_iff.2 (pattern_of_factor h ends_nil)

/-! ### The lexemes of the text -/

/-- A keyword with its escapes resolved. -/
def unescaped (k : String) : String := String.ofList (unescape k.toList)

theorem unescaped_eq_self {k : String} (h : unescape k.toList = k.toList) : unescaped k = k := by
  rw [unescaped, h, String.ofList_toList]

/-- Some characters can stand in quotes as one keyword. -/
def FitsQuotes (k : String) : Prop := k.toList ≠ [] ∧ k.toList.all isQuotable = true

instance (k : String) : Decidable (FitsQuotes k) := inferInstanceAs (Decidable (_ ∧ _))

/-- A canonical text whose keywords have no quotes can be cut into lexemes if and only if every
keyword fits its quotes; then these are the tokens with the escapes resolved. -/
theorem lexemes_written {p : Pattern} (hq : ∀ k ∈ p.keywords, '"' ∉ k.toList)
    (rest : List Char) :
    lexemes (p.written ++ rest) =
      if ∀ k ∈ p.keywords, FitsQuotes k then
        (lexemes rest).map ((p.mapKeywords unescaped).tokens ++ ·)
      else none := by
  induction p generalizing rest with
  | keyword k =>
    have hk := hq k (by simp [keywords])
    simp only [written, List.cons_append, List.append_assoc, List.nil_append, keywords,
      List.mem_singleton, forall_eq]
    exact lexemes_quoted hk rest
  | negation p ih =>
    have hkeys : (negation p).keywords = p.keywords := rfl
    simp only [written, List.cons_append, List.append_assoc, List.nil_append]
    rw [lexemes_negation, lexemes_opening, ih hq, lexemes_closing, hkeys]
    by_cases hp : ∀ k ∈ p.keywords, FitsQuotes k
    · rw [if_pos hp, if_pos hp]
      cases lexemes rest <;> simp [mapKeywords, tokens]
    · rw [if_neg hp, if_neg hp]
      rfl
  | compound c l r ihl ihr =>
    simp only [keywords, List.mem_append] at hq
    simp only [written, List.cons_append, List.append_assoc, List.nil_append, keywords,
      List.mem_append, or_imp, forall_and]
    rw [lexemes_opening, ihl fun k hk => hq k (.inl hk), lexemes_space, lexemes_connective,
      lexemes_space, ihr fun k hk => hq k (.inr hk), lexemes_closing]
    by_cases hl : ∀ k ∈ l.keywords, FitsQuotes k
    · by_cases hr : ∀ k ∈ r.keywords, FitsQuotes k
      · rw [if_pos hl, if_pos hr, if_pos ⟨hl, hr⟩]
        cases lexemes rest <;> simp [mapKeywords, tokens]
      · rw [if_pos hl, if_neg hr, if_neg fun h => hr h.2]
        rfl
    · rw [if_neg hl, if_neg fun h => hl h.1]
      rfl

theorem lexemes_written_eq_some {p : Pattern} (hq : ∀ k ∈ p.keywords, '"' ∉ k.toList)
    {ks : List TokenKind} :
    lexemes p.written = some ks ↔
      (∀ k ∈ p.keywords, FitsQuotes k) ∧ ks = (p.mapKeywords unescaped).tokens := by
  have h := lexemes_written hq []
  rw [List.append_nil] at h
  rw [h, lexemes, Option.map_some, List.append_nil]
  by_cases hfits : ∀ k ∈ p.keywords, FitsQuotes k
  · rw [if_pos hfits, Option.some.injEq]
    exact ⟨fun he => ⟨hfits, he.symm⟩, fun he => he.2.symm⟩
  · rw [if_neg hfits]
    exact ⟨fun he => absurd he (by simp), fun he => absurd he.1 hfits⟩

/-! ### Tabs in the keywords -/

/-- A pattern with the tabs in its keywords expanded as they are in its canonical text, which starts
at a column. -/
def spread (column : Nat) : Pattern → Pattern
  | .keyword k => .keyword (String.ofList (expandTabsFrom (column + 1) k.toList))
  | .negation p => .negation (p.spread (column + 2))
  | .compound c l r =>
    .compound c (l.spread (column + 1)) (r.spread (columnAfter (column + 1) l.written + 4))

theorem expandTabsFrom_written (p : Pattern) (column : Nat) :
    expandTabsFrom column p.written = (p.spread column).written := by
  induction p generalizing column with
  | keyword k => simp [written, spread, expandTabsFrom, expandTabsFrom_append]
  | negation p ih => simp [written, spread, expandTabsFrom, expandTabsFrom_append, ih]
  | compound c l r ihl ihr =>
    cases c <;>
      simp [written, spread, expandTabsFrom, expandTabsFrom_append, ihl, ihr, Connective.symbol]

theorem length_keywords_spread (p : Pattern) (column : Nat) :
    (p.spread column).keywords.length = p.keywords.length := by
  induction p generalizing column with
  | keyword k => rfl
  | negation p ih => exact ih _
  | compound c l r ihl ihr => simp [spread, keywords, ihl, ihr]

theorem spread_eq_self {p : Pattern} (h : ∀ k ∈ p.keywords, '\t' ∉ k.toList) (column : Nat) :
    p.spread column = p := by
  induction p generalizing column with
  | keyword k =>
    have hk := h k (by simp [keywords])
    rw [spread, expandTabsFrom_eq_self hk, String.ofList_toList]
  | negation p ih => rw [spread, ih h]
  | compound c l r ihl ihr =>
    simp only [keywords, List.mem_append] at h
    rw [spread, ihl fun k hk => h k (.inl hk), ihr fun k hk => h k (.inr hk)]

/-- A keyword that comes back from expanding its tabs and resolving its escapes has neither: the
escapes used up no backslash. -/
theorem unescape_expandTabsFrom {k : List Char} {column : Nat}
    (h : unescape (expandTabsFrom column k) = k) : '\t' ∉ k ∧ unescape k = k := by
  have hcount := count_expandTabsFrom (c := '\\') (by decide) (by decide) column k
  have hself : unescape (expandTabsFrom column k) = expandTabsFrom column k :=
    unescape_eq_self (by rw [h, hcount])
  have hk : expandTabsFrom column k = k := hself.symm.trans h
  constructor
  · rw [← hk]
    exact tab_notMem_expandTabsFrom column k
  · rw [hk] at h
    exact h

theorem keywords_spread_unescaped {p : Pattern} {column : Nat}
    (h : (p.spread column).keywords.map unescaped = p.keywords) :
    ∀ k ∈ p.keywords, '\t' ∉ k.toList ∧ unescape k.toList = k.toList := by
  induction p generalizing column with
  | keyword k =>
    have hk : unescape (expandTabsFrom (column + 1) k.toList) = k.toList := by
      simpa [spread, keywords, unescaped, ← String.toList_inj] using h
    intro k' hk'
    obtain rfl := List.mem_singleton.1 hk'
    exact unescape_expandTabsFrom hk
  | negation p ih => exact ih h
  | compound c l r ihl ihr =>
    simp only [spread, keywords, List.map_append] at h
    obtain ⟨hl, hr⟩ := List.append_inj h (by simp [length_keywords_spread])
    intro k hk
    obtain hk | hk := List.mem_append.1 hk
    · exact ihl hl k hk
    · exact ihr hr k hk

/-! ### The round trip -/

theorem count_quote_written (p : Pattern) :
    p.written.count '"' =
      2 * p.keywords.length + (p.keywords.flatMap String.toList).count '"' := by
  induction p with
  | keyword k => simp [written, keywords]; omega
  | negation p ih => simp [written, keywords, ih]
  | compound c l r ihl ihr =>
    have hc : c.symbol.toList.count '"' = 0 := by cases c <;> decide
    simp [written, keywords, ihl, ihr, hc]
    omega

/-- A keyword that is read back from quotes as it was written. -/
def IsPlain (k : String) : Prop :=
  k ≠ "" ∧ (∀ c ∈ k.toList, c ≠ '"' ∧ c ≠ '\t' ∧ c ≠ '\n' ∧ c ≠ '\r') ∧
    unescape k.toList = k.toList

theorem isPlain_iff {k : String} :
    IsPlain k ↔
      FitsQuotes k ∧ '"' ∉ k.toList ∧ '\t' ∉ k.toList ∧ unescape k.toList = k.toList := by
  have hempty : k ≠ "" ↔ k.toList ≠ [] := by simp
  have hmem (c : Char) : c ∉ k.toList ↔ ∀ d ∈ k.toList, d ≠ c :=
    ⟨fun h d hd he => h (he ▸ hd), fun h hc => h c hc rfl⟩
  simp only [IsPlain, FitsQuotes, hempty, hmem, List.all_eq_true, isQuotable, Bool.and_eq_true,
    bne_iff_ne]
  constructor
  · rintro ⟨hne, hall, hself⟩
    exact ⟨⟨hne, fun c hc => ⟨⟨(hall c hc).1, (hall c hc).2.2.1⟩, (hall c hc).2.2.2⟩⟩,
      fun c hc => (hall c hc).1, fun c hc => (hall c hc).2.1, hself⟩
  · rintro ⟨⟨hne, hall⟩, -, htab, hself⟩
    exact ⟨hne, fun c hc => ⟨(hall c hc).1.1, htab c hc, (hall c hc).1.2, (hall c hc).2⟩, hself⟩

instance (k : String) : Decidable (IsPlain k) := decidable_of_decidable_of_iff isPlain_iff.symm

/-- **Quotes cannot hide in keywords.**  Where the canonical text has as many tokens that are
keywords as the pattern has, the quotes around the keywords are all the quotes there are. -/
theorem quote_notMem_of_lexemes {p : Pattern} {ks : List TokenKind}
    (h : lexemes p.written = some ks) (hlen : (keywordsOf ks).length = p.keywords.length) :
    ∀ k ∈ p.keywords, '"' ∉ k.toList := by
  have hle := count_quote_le h
  rw [count_quote_written, hlen] at hle
  have hzero : (p.keywords.flatMap String.toList).count '"' = 0 := by omega
  intro k hk hmem
  exact List.count_eq_zero.1 hzero (List.mem_flatMap.2 ⟨k, hk, hmem⟩)

/-- The canonical text of a pattern with plain keywords is read, but regrouped. -/
theorem parse_canonical {p : Pattern} (h : ∀ k ∈ p.keywords, IsPlain k) :
    parse (canonical p) = .ok p.regrouped := by
  simp only [isPlain_iff] at h
  have hself : p.spread 0 = p := spread_eq_self (fun k hk => (h k hk).2.2.1) 0
  have hmap : p.mapKeywords unescaped = p :=
    mapKeywords_eq_self fun k hk => unescaped_eq_self (h k hk).2.2.2
  have hlex : lexemes p.written = some (p.mapKeywords unescaped).tokens :=
    (lexemes_written_eq_some fun k hk => (h k hk).2.1).2 ⟨fun k hk => (h k hk).1, rfl⟩
  rw [parse_eq_ok_iff, canonical_toList, expandTabs, expandTabsFrom_written, hself]
  exact ⟨p.tokens, by rw [hlex, hmap], read_tokens p⟩

/-- **Reading a canonical text** gives the pattern that was written if and only if its keywords are
plain and it has no negation on the left of a compound. -/
theorem parse_canonical_iff (p : Pattern) :
    parse (canonical p) = .ok p ↔ (∀ k ∈ p.keywords, IsPlain k) ∧ p.NegationsTrail := by
  constructor
  · intro h
    obtain ⟨ks, hks, hread⟩ := parse_eq_ok_iff.1 h
    rw [canonical_toList, expandTabs, expandTabsFrom_written] at hks
    -- reading keeps the keywords, so there are as many tokens as quoted keywords
    have hlen : (keywordsOf ks).length = (p.spread 0).keywords.length := by
      rw [← Descent.keywords_of_read hread, length_keywords_spread]
    have hquotes := quote_notMem_of_lexemes hks hlen
    obtain ⟨hfits, rfl⟩ := (lexemes_written_eq_some hquotes).1 hks
    rw [read_tokens, Option.some.injEq] at hread
    -- the keywords came back, so neither tabs nor escapes have changed them
    have hkeys : (p.spread 0).keywords.map unescaped = p.keywords := by
      rw [← keywords_mapKeywords, ← keywords_regrouped, hread]
    have hkept := keywords_spread_unescaped hkeys
    have hself : p.spread 0 = p := spread_eq_self (fun k hk => (hkept k hk).1) 0
    have hmap : p.mapKeywords unescaped = p :=
      mapKeywords_eq_self fun k hk => unescaped_eq_self (hkept k hk).2
    rw [hself] at hquotes hfits hread
    rw [hmap, regrouped_eq_self_iff] at hread
    exact ⟨fun k hk => isPlain_iff.2 ⟨hfits k hk, hquotes k hk, hkept k hk⟩, hread⟩
  · rintro ⟨hplain, htrail⟩
    rw [parse_canonical hplain, regrouped_eq_self_iff.2 htrail]

/-- Plain keywords are not enough: the negation in `(!("a") && "b")` takes `"b"` in. -/
theorem parse_canonical_negation_left :
    (∀ k ∈ keywords (.compound .both (.negation (.keyword "a")) (.keyword "b")), IsPlain k) ∧
      parse (canonical (.compound .both (.negation (.keyword "a")) (.keyword "b"))) =
        .ok (.negation (.compound .both (.keyword "a") (.keyword "b"))) := by
  have hplain : ∀ k ∈ keywords (.compound .both (.negation (.keyword "a")) (.keyword "b")),
      IsPlain k := by decide
  exact ⟨hplain, parse_canonical hplain⟩

end Pattern

end DealWatch
