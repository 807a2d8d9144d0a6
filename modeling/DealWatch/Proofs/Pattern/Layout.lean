import DealWatch.Proofs.Pattern.Lexeme
import Mathlib.Data.List.Chain

/-!
# How tokens are laid out

A text is its tokens one after the other, each spelled in some way, with gaps between them.

* `Spelling` is one way to write a token;
* `Spread` says that a text writes some spellings with any gaps, `Cut` that the spellings are also
  told apart: a bare word goes up to a character that ends it;
* `lexemes_eq_some_iff` says that the lexemes of a text are what it can be cut into;
* `Spread.cut` says that any gaps will do where no two keywords are neighbours, and
  `Derives.separated` that this is so in all texts that can be read.

A cut is read off the scanner by induction on the text; at each place the spelling is the one that
the scanner takes, and the converse is that it takes every spelling as it was written.
-/

namespace DealWatch

namespace Pattern

/-! ### Characters of words -/

/-- Intervals without common members have no code point in common. -/
theorem contains_eq_false {rs ss : Ranges}
    (h : rs.all (fun r => ss.all fun s => r.2 < s.1 || s.2 < r.1) = true) {n : Nat}
    (hn : rs.contains n = true) : ss.contains n = false := by
  obtain ⟨r, hr, hin⟩ := List.any_eq_true.1 hn
  rw [Ranges.contains, List.any_eq_false]
  intro s hs hin'
  have hapart := List.all_eq_true.1 (List.all_eq_true.1 h r hr) s hs
  simp only [Bool.and_eq_true, Bool.or_eq_true, decide_eq_true_eq] at hin hin' hapart
  omega

/-- What is no letter or digit: blanks, quotes, the backslash and the characters of symbols. -/
def separators : Ranges :=
  (0x1c, 0x1f) :: (0x21, 0x22) :: (0x26, 0x26) :: (0x28, 0x29) :: (0x5c, 0x5c) :: (0x7c, 0x7c) ::
    spaceRanges

theorem isAlphanumeric_separators {c : Char} (h : isAlphanumeric c = true) :
    separators.contains c.toNat = false :=
  contains_eq_false (by decide +kernel : alphanumericRanges.all _ = true) h

theorem separators_of_isBlank {c : Char} (h : isBlank c = true) :
    separators.contains c.toNat = true := by
  simp only [isBlank, isSpace, Bool.or_eq_true] at h
  simp only [separators, Ranges.contains, List.any_cons, Bool.or_eq_true]
  obtain h | h := h
  · exact .inr (.inr (.inr (.inr (.inr (.inr h)))))
  · exact .inl h

/-- A letter or digit goes on with a bare word. -/
theorem not_interruptsKeyword {c : Char} (h : isAlphanumeric c = true) :
    interruptsKeyword c = false := by
  rw [← Bool.not_eq_true]
  intro hc
  have hsep := isAlphanumeric_separators h
  simp only [interruptsKeyword, Bool.or_eq_true, beq_iff_eq] at hc
  obtain ((((hc | rfl) | rfl) | rfl) | rfl) | rfl := hc
  · rw [separators_of_isBlank hc] at hsep
    cases hsep
  all_goals exact absurd hsep (by decide)

theorem ne_of_isAlphanumeric {c d : Char} (h : isAlphanumeric c = true)
    (hd : separators.contains d.toNat = true) : c ≠ d := by
  rintro rfl
  rw [isAlphanumeric_separators h] at hd
  cases hd

theorem isQuotable_of_isAlphanumeric {c : Char} (h : isAlphanumeric c = true) :
    isQuotable c = true := by
  have hquote := ne_of_isAlphanumeric (d := '"') h (by decide)
  have hfeed := ne_of_isAlphanumeric (d := '\n') h (by decide)
  have hreturn := ne_of_isAlphanumeric (d := '\r') h (by decide)
  simp [isQuotable, hquote, hfeed, hreturn]

/-! ### Spellings -/

/-- Letters and digits that are a keyword without quotes. -/
structure Word where
  chars : List Char
  nonempty : chars ≠ []
  alphanumeric : ∀ c ∈ chars, isAlphanumeric c = true

/-- Characters that are a keyword between quotes. -/
structure Content where
  chars : List Char
  nonempty : chars ≠ []
  quotable : ∀ c ∈ chars, isQuotable c = true

/-- A word can stand between quotes too. -/
def Word.quoted (w : Word) : Content :=
  ⟨w.chars, w.nonempty, fun c hc => isQuotable_of_isAlphanumeric (w.alphanumeric c hc)⟩

/-- A way to write a token. -/
inductive Spelling where
  | opening
  | closing
  | negation
  | connective (c : Connective)
  | bare (w : Word)
  | literal (k : Content)

namespace Spelling

/-- The characters of a spelling. -/
def chars : Spelling → List Char
  | .opening => ['(']
  | .closing => [')']
  | .negation => ['!']
  | .connective c => c.symbol.toList
  | .bare w => w.chars
  | .literal k => '"' :: (k.chars ++ ['"'])

/-- What a spelling writes. -/
def kind : Spelling → TokenKind
  | .opening => .opening
  | .closing => .closing
  | .negation => .negation
  | .connective c => .connective c
  | .bare w => .keyword (String.ofList w.chars)
  | .literal k => .keyword (String.ofList (unescape k.chars))

/-- Whether a spelling is over where some characters begin: a bare word goes on up to a character
that ends it. -/
def IsOver : Spelling → List Char → Prop
  | .bare _, c :: _ => interruptsKeyword c = true
  | _, _ => True

end Spelling

/-- Whether a character may stand between two tokens. -/
def isGap (c : Char) : Bool := c == ' ' || c == '\n' || c == '\r'

theorem isSkipped_of_isGap {c : Char} (h : isGap c = true) : isSkipped c = true := by
  simp only [isGap, Bool.or_eq_true, beq_iff_eq] at h
  obtain (rfl | rfl) | rfl := h <;> rfl

/-- The texts that write some spellings in their order, with any gaps. -/
inductive Spread : List Spelling → List Char → Prop
  | nil : Spread [] []
  | gap {ls : List Spelling} {c : Char} {cs : List Char} : isGap c = true → Spread ls cs →
      Spread ls (c :: cs)
  | lexeme {ls : List Spelling} {cs : List Char} (l : Spelling) : Spread ls cs →
      Spread (l :: ls) (l.chars ++ cs)

/-- The texts whose tokens are spelled in this way. -/
inductive Cut : List Spelling → List Char → Prop
  | nil : Cut [] []
  | gap {ls : List Spelling} {c : Char} {cs : List Char} : isGap c = true → Cut ls cs →
      Cut ls (c :: cs)
  | lexeme {ls : List Spelling} {cs : List Char} (l : Spelling) : l.IsOver cs → Cut ls cs →
      Cut (l :: ls) (l.chars ++ cs)

/-! ### The lexemes of a text that is cut -/

/-- A word up to its end is one lexeme. -/
theorem bareKeyword_of_alphanumeric {word : List Char} (h : ∀ c ∈ word, isAlphanumeric c = true) :
    bareKeyword word = .ok (.keyword (String.ofList word), word.length - 1) := by
  unfold bareKeyword
  split
  · rename_i d i hfind
    have hmem := List.fst_mem_of_mem_zipIdx (List.mem_of_find?_eq_some hfind)
    have hbad : (!isAlphanumeric d) = true := List.find?_some (a := (d, i)) hfind
    rw [h d hmem] at hbad
    cases hbad
  · rfl

/-- A word is one lexeme where it is over. -/
theorem lexeme_bare (w : Word) {c : Char} {word rest : List Char} (hword : w.chars = c :: word)
    (hover : (Spelling.bare w).IsOver rest) :
    isSkipped c = false ∧
      lexeme c (word ++ rest) = .ok (.keyword (String.ofList w.chars), word.length) := by
  have halpha : ∀ d ∈ c :: word, isAlphanumeric d = true := hword ▸ w.alphanumeric
  have hc := halpha c List.mem_cons_self
  have hsep := isAlphanumeric_separators hc
  have hdiff (d : Char) (hd : separators.contains d.toNat = true) : c ≠ d :=
    ne_of_isAlphanumeric hc hd
  have hblank : isBlank c = false := by
    rw [← Bool.not_eq_true]
    intro hblank
    rw [separators_of_isBlank hblank] at hsep
    cases hsep
  have htake : (c :: (word ++ rest)).takeWhile (!interruptsKeyword ·) = c :: word := by
    rw [← List.cons_append, List.takeWhile_append_of_pos fun d hd => by
      simp [not_interruptsKeyword (halpha d hd)]]
    cases rest with
    | nil => simp
    | cons d rest => simp [show interruptsKeyword d = true from hover]
  have hbare : bareKeyword (c :: word) =
      .ok (.keyword (String.ofList (c :: word)), word.length) :=
    bareKeyword_of_alphanumeric halpha
  constructor
  · simp [isSkipped, hdiff ' ' (by decide), hdiff '\t' (by decide), hdiff '\n' (by decide),
      hdiff '\r' (by decide)]
  · rw [lexeme, htake, hbare, hword]
    simp [hdiff '"' (by decide), hdiff '(' (by decide), hdiff ')' (by decide),
      hdiff '!' (by decide), hdiff '&' (by decide), hdiff '|' (by decide), hblank]

/-- **A spelling is one lexeme** where it is over. -/
theorem lexeme_spelling (l : Spelling) {rest : List Char} (hover : l.IsOver rest) :
    ∃ c cs, l.chars = c :: cs ∧ isSkipped c = false ∧
      lexeme c (cs ++ rest) = .ok (l.kind, cs.length) := by
  cases l with
  | opening => exact ⟨'(', [], rfl, by decide, by simp [lexeme, Spelling.kind]⟩
  | closing => exact ⟨')', [], rfl, by decide, by simp [lexeme, Spelling.kind]⟩
  | negation => exact ⟨'!', [], rfl, by decide, by simp [lexeme, Spelling.kind]⟩
  | connective c =>
    cases c with
    | both => exact ⟨'&', ['&'], rfl, by decide, by simp [lexeme, Spelling.kind]⟩
    | either => exact ⟨'|', ['|'], rfl, by decide, by simp [lexeme, Spelling.kind]⟩
  | bare w =>
    obtain ⟨c, word, hword⟩ := List.exists_cons_of_ne_nil w.nonempty
    exact ⟨c, word, hword, lexeme_bare w hword hover⟩
  | literal k =>
    refine ⟨'"', k.chars ++ ['"'], rfl, by decide, ?_⟩
    rw [List.append_assoc, List.singleton_append,
      lexeme_quoted k.nonempty (List.all_eq_true.2 k.quotable), List.length_append]
    rfl

theorem lexemes_spelling (l : Spelling) {rest : List Char} (hover : l.IsOver rest) :
    lexemes (l.chars ++ rest) = (lexemes rest).map (l.kind :: ·) := by
  obtain ⟨c, cs, hchars, hskip, hlexeme⟩ := lexeme_spelling l hover
  rw [hchars, List.cons_append, lexemes, if_neg (by simp [hskip]), hlexeme]
  simp

/-- The lexemes of a text are what it is cut into. -/
theorem Cut.lexemes_eq {ls : List Spelling} {cs : List Char} (h : Cut ls cs) :
    lexemes cs = some (ls.map (·.kind)) := by
  induction h with
  | nil => rw [lexemes]; rfl
  | gap hc _ ih => rw [lexemes, if_pos (isSkipped_of_isGap hc), ih]
  | lexeme l hover _ ih => rw [lexemes_spelling l hover, ih]; rfl

/-! ### The lexemes of any text -/

/-- The lexeme at the start of a text is spelled by the characters that it takes. -/
def SpelledAt (kind : TokenKind) (n : Nat) (c : Char) (rest : List Char) : Prop :=
  ∃ l : Spelling, l.chars ++ rest.drop n = c :: rest ∧ l.kind = kind ∧ l.IsOver (rest.drop n)

/-- A quote that is closed is so after what can stand between quotes. -/
theorem eq_append_quote {rest : List Char}
    (h : (rest.drop (rest.takeWhile isQuotable).length).head? = some '"') :
    ∃ after, rest = rest.takeWhile isQuotable ++ '"' :: after := by
  have hcut := List.take_append_drop (rest.takeWhile isQuotable).length rest
  rw [← List.prefix_iff_eq_take.1 (List.takeWhile_prefix isQuotable)] at hcut
  cases hdrop : rest.drop (rest.takeWhile isQuotable).length with
  | nil =>
    rw [hdrop] at h
    cases h
  | cons d after =>
    rw [hdrop] at h hcut
    obtain rfl : d = '"' := Option.some.inj h
    exact ⟨after, hcut.symm⟩

theorem spelledAt_literal (k : Content) (after : List Char) :
    SpelledAt (.keyword (String.ofList (unescape k.chars))) (k.chars.length + 1) '"'
      (k.chars ++ '"' :: after) := by
  have hdrop : (k.chars ++ '"' :: after).drop (k.chars.length + 1) = after := by simp
  refine ⟨.literal k, ?_, rfl, trivial⟩
  rw [hdrop, Spelling.chars, List.cons_append, List.append_assoc, List.singleton_append]

theorem alphanumeric_of_bareKeyword {word : List Char} {r : TokenKind × Nat}
    (h : bareKeyword word = .ok r) :
    (∀ c ∈ word, isAlphanumeric c = true) ∧
      r = (.keyword (String.ofList word), word.length - 1) := by
  unfold bareKeyword at h
  split at h
  · cases h
  · rename_i hfind
    refine ⟨fun c hc => ?_, (Except.ok.inj h).symm⟩
    obtain ⟨i, hi, rfl⟩ := List.mem_iff_getElem.1 hc
    have hmem : (word[i], i) ∈ word.zipIdx := by
      rw [List.mem_iff_getElem]
      exact ⟨i, by simpa using hi, by simp⟩
    simpa using List.find?_eq_none.1 hfind _ hmem

theorem spelledAt_bare {c : Char} {rest : List Char} {kind : TokenKind} {n : Nat}
    (hc : interruptsKeyword c = false)
    (h : bareKeyword ((c :: rest).takeWhile (!interruptsKeyword ·)) = .ok (kind, n)) :
    SpelledAt kind n c rest := by
  have hcut := List.takeWhile_append_dropWhile (p := (!interruptsKeyword ·)) (l := c :: rest)
  have hover := List.head?_dropWhile_not (!interruptsKeyword ·) (c :: rest)
  rw [List.takeWhile_cons_of_pos (by simp [hc])] at h hcut
  generalize rest.takeWhile (!interruptsKeyword ·) = word at h hcut
  generalize (c :: rest).dropWhile (!interruptsKeyword ·) = after at hcut hover
  obtain ⟨halpha, hr⟩ := alphanumeric_of_bareKeyword h
  obtain ⟨rfl, rfl⟩ := Prod.mk.inj hr
  have hdrop : rest.drop ((c :: word).length - 1) = after := by
    have hrest : word ++ after = rest := (List.cons.inj hcut).2
    rw [List.length_cons, Nat.add_sub_cancel, ← hrest, List.drop_left]
  refine ⟨.bare ⟨c :: word, List.cons_ne_nil _ _, halpha⟩, ?_, rfl, ?_⟩
  · rw [hdrop, Spelling.chars, hcut]
  · rw [hdrop]
    cases after with
    | nil => trivial
    | cons d after => simpa [Spelling.IsOver] using hover

/-- A symbol of one character. -/
theorem spelledAt_symbol (l : Spelling) {c : Char} (hchars : l.chars = [c]) (hl : ∀ cs, l.IsOver cs)
    (rest : List Char) : SpelledAt l.kind 0 c rest :=
  ⟨l, by rw [hchars]; rfl, rfl, hl _⟩

/-- A connective, which has two characters. -/
theorem spelledAt_connective {k : Connective} {c d : Char} (hchars : k.symbol.toList = [c, d])
    {rest : List Char} (hd : rest.head? = some d) : SpelledAt (.connective k) 1 c rest := by
  cases rest with
  | nil => cases hd
  | cons e rest =>
    obtain rfl : e = d := Option.some.inj hd
    exact ⟨.connective k, by rw [Spelling.chars, hchars]; rfl, rfl, trivial⟩

theorem spelledAt_of_lexeme {c : Char} {rest : List Char} {kind : TokenKind} {n : Nat}
    (h : lexeme c rest = .ok (kind, n)) : SpelledAt kind n c rest := by
  unfold lexeme at h
  simp only at h
  split at h
  · rename_i hc
    simp only [Bool.and_eq_true, decide_eq_true_eq, beq_iff_eq] at hc
    obtain ⟨rfl, hclosed⟩ := hc
    split at h
    · cases h
    · rename_i hne
      obtain ⟨rfl, rfl⟩ := Prod.mk.inj (Except.ok.inj h)
      obtain ⟨after, hafter⟩ := eq_append_quote hclosed
      have hk := spelledAt_literal ⟨rest.takeWhile isQuotable, by simpa using hne,
        List.all_eq_true.1 List.all_takeWhile⟩ after
      rwa [← hafter] at hk
  by_cases hopening : c = '('
  · subst hopening
    obtain ⟨rfl, rfl⟩ := Prod.mk.inj (Except.ok.inj h)
    exact spelledAt_symbol .opening rfl (fun _ => trivial) rest
  by_cases hclosing : c = ')'
  · subst hclosing
    obtain ⟨rfl, rfl⟩ := Prod.mk.inj (Except.ok.inj h)
    exact spelledAt_symbol .closing rfl (fun _ => trivial) rest
  by_cases hnegation : c = '!'
  · subst hnegation
    obtain ⟨rfl, rfl⟩ := Prod.mk.inj (Except.ok.inj h)
    exact spelledAt_symbol .negation rfl (fun _ => trivial) rest
  rw [if_neg hopening, if_neg hclosing, if_neg hnegation] at h
  by_cases hboth : c = '&'
  · subst hboth
    rw [if_pos rfl] at h
    split at h
    · rename_i hhead
      obtain ⟨rfl, rfl⟩ := Prod.mk.inj (Except.ok.inj h)
      exact spelledAt_connective (k := .both) (d := '&') rfl (by simpa using hhead)
    · cases h
  by_cases heither : c = '|'
  · subst heither
    rw [if_neg hboth, if_pos rfl] at h
    split at h
    · rename_i hhead
      obtain ⟨rfl, rfl⟩ := Prod.mk.inj (Except.ok.inj h)
      exact spelledAt_connective (k := .either) (d := '|') rfl (by simpa using hhead)
    · cases h
  rw [if_neg hboth, if_neg heither] at h
  split at h
  · cases h
  · rename_i hblank
    refine spelledAt_bare ?_ h
    simp [interruptsKeyword, hblank, hopening, hclosing, hnegation, hboth, heither]

/-- Without tabs, what is skipped is a gap. -/
theorem isGap_of_isSkipped {c : Char} (h : isSkipped c = true) (htab : c ≠ '\t') :
    isGap c = true := by
  simp only [isSkipped, Bool.or_eq_true, beq_iff_eq] at h
  obtain ((rfl | rfl) | rfl) | rfl := h
  · rfl
  · exact absurd rfl htab
  · rfl
  · rfl

/-- **Cutting a text into lexemes.** Without tabs, a text has some lexemes exactly if it can be cut
into spellings of them. -/
theorem lexemes_eq_some_iff {cs : List Char} (htab : '\t' ∉ cs) {ks : List TokenKind} :
    lexemes cs = some ks ↔ ∃ ls, Cut ls cs ∧ ls.map (·.kind) = ks := by
  constructor
  · intro h
    fun_induction lexemes cs generalizing ks with
    | case1 => exact ⟨[], .nil, Option.some.inj h⟩
    | case2 c rest hs ih =>
      obtain ⟨hc, hrest⟩ : c ≠ '\t' ∧ '\t' ∉ rest := by simpa [eq_comm] using htab
      obtain ⟨ls, hcut, hkinds⟩ := ih hrest h
      exact ⟨ls, .gap (isGap_of_isSkipped hs hc) hcut, hkinds⟩
    | case3 => cases h
    | case4 c rest hs kind n hk ih =>
      obtain ⟨ks', hks', rfl⟩ := Option.map_eq_some_iff.1 h
      obtain ⟨l, hchars, rfl, hover⟩ := spelledAt_of_lexeme hk
      have hrest : '\t' ∉ rest.drop n := fun hmem =>
        htab (List.mem_cons_of_mem _ (List.mem_of_mem_drop hmem))
      obtain ⟨ls, hcut, rfl⟩ := ih hrest hks'
      exact ⟨l :: ls, hchars ▸ hcut.lexeme l hover, rfl⟩
  · rintro ⟨ls, hcut, rfl⟩
    exact hcut.lexemes_eq

/-! ### Neighbours -/

/-- No two keywords are neighbours. -/
def Separated (ks : List TokenKind) : Prop :=
  List.IsChain (fun a b => a.keyword? = none ∨ b.keyword? = none) ks

/-- The first token is no keyword. -/
def StartsWithSymbol (ks : List TokenKind) : Prop := ∀ k ∈ ks.head?, k.keyword? = none

theorem Separated.append {ks ks' : List TokenKind} (h : Separated ks) (h' : Separated ks')
    (hstart : StartsWithSymbol ks') : Separated (ks ++ ks') :=
  List.isChain_append.2 ⟨h, h', fun _ _ b hb => .inr (hstart b hb)⟩

theorem Separated.cons_symbol {k : TokenKind} {ks : List TokenKind} (hk : k.keyword? = none)
    (h : Separated ks) : Separated (k :: ks) :=
  List.isChain_cons.2 ⟨fun _ _ => .inl hk, h⟩

/-- **Keywords are no neighbours** in what the grammar derives, and the operands after the first one
start with a connective. -/
theorem Derives.separated {n : Nonterminal} {u : List TokenKind} (h : Derives n u) :
    Separated u ∧ (n = .tail → StartsWithSymbol u) := by
  have hsymbol (k : TokenKind) (hk : k.keyword? = none) (ks : List TokenKind) :
      StartsWithSymbol (k :: ks) := by
    rintro _ ⟨⟩
    exact hk
  induction h with
  | pattern _ _ ihu ihv => exact ⟨ihu.1.append ihv.1 (ihv.2 rfl), nofun⟩
  | tailEnd => exact ⟨.nil, fun _ => nofun⟩
  | tail c _ _ ihu ihv =>
    exact ⟨(ihu.1.append ihv.1 (ihv.2 rfl)).cons_symbol rfl, fun _ => hsymbol _ rfl _⟩
  | group _ ih =>
    exact ⟨(ih.1.append (.singleton _) (hsymbol _ rfl _)).cons_symbol rfl, nofun⟩
  | negation _ ih => exact ⟨ih.1.cons_symbol rfl, nofun⟩
  | keyword k => exact ⟨.singleton _, nofun⟩

/-- A symbol ends a bare word. -/
theorem isOver_symbol {l : Spelling} (hl : l.kind.keyword? = none) (w : Word) (rest : List Char) :
    (Spelling.bare w).IsOver (l.chars ++ rest) := by
  cases l with
  | bare w => cases hl
  | literal k => cases hl
  | connective c => cases c <;> exact Eq.refl true
  | _ => exact Eq.refl true

/-- A bare word is over where another token that is no keyword follows, with any gap before it. -/
theorem Spread.isOver {ls : List Spelling} {cs : List Char} (h : Spread ls cs)
    (hstart : StartsWithSymbol (ls.map (·.kind))) (w : Word) : (Spelling.bare w).IsOver cs := by
  cases h with
  | nil => trivial
  | gap hc _ =>
    simp only [isGap, Bool.or_eq_true, beq_iff_eq] at hc
    obtain (rfl | rfl) | rfl := hc <;> exact Eq.refl true
  | lexeme l _ => exact isOver_symbol (hstart _ rfl) w _

/-- **Any gaps will do** where no two keywords are neighbours. -/
theorem Spread.cut {ls : List Spelling} {cs : List Char} (h : Spread ls cs)
    (hsep : Separated (ls.map (·.kind))) : Cut ls cs := by
  induction h with
  | nil => exact .nil
  | gap hc _ ih => exact .gap hc (ih hsep)
  | lexeme l hspread ih =>
    obtain ⟨hnext, hrest⟩ := List.isChain_cons.1 hsep
    refine .lexeme l ?_ (ih hrest)
    cases l with
    | bare w => exact hspread.isOver (fun k hk => (hnext k hk).resolve_left nofun) w
    | _ => trivial

/-! ### Characters that are no gaps -/

theorem Cut.spread {ls : List Spelling} {cs : List Char} (h : Cut ls cs) : Spread ls cs := by
  induction h with
  | nil => exact .nil
  | gap hc _ ih => exact .gap hc ih
  | lexeme l _ _ ih => exact .lexeme l ih

/-- A character that is no gap belongs to a spelling. -/
theorem Spread.mem_iff {ls : List Spelling} {cs : List Char} (h : Spread ls cs) {c : Char}
    (hc : isGap c = false) : c ∈ cs ↔ c ∈ ls.flatMap Spelling.chars := by
  induction h with
  | nil => rfl
  | gap hgap _ ih =>
    have hne : c ≠ _ := fun he => Bool.false_ne_true (hc.symm.trans (he ▸ hgap))
    rw [List.mem_cons, or_iff_right hne, ih]
  | lexeme l _ ih => rw [List.flatMap_cons, List.mem_append, List.mem_append, ih]

end Pattern

end DealWatch
