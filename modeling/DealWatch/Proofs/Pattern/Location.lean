import DealWatch.Proofs.Pattern.Layout
import DealWatch.Proofs.Text.Tabs
import Mathlib.Logic.ExistsUnique

/-!
# Where tokens stand

A text is cut into its tokens in at most one way. The location of a keyword is the offset of its
first character, but that of a symbol is the offset at which the token before it ends, whatever gap
lies between them.

* `Divides` says how a text is cut into pieces, a token and the gap before it each;
* `tokensFrom` are the tokens of some pieces with their locations, `offsetsFrom` the offsets at
  which they are written;
* `scan_eq_ok_iff` says that the tokens of a text are those of its pieces;
* `scan_symbol_after_gap` shows a symbol that is not located where it is written.

The scanner is followed along the pieces, by induction on them. That there is only one cut needs no
scanner: a gap ends at the first character that is none, and of two spellings at one place neither
can be longer (`Spelling.eq_of_append`).
-/

namespace DealWatch

namespace Pattern

/-- A token as it is spelled, with the gap before it. -/
structure Piece where
  gap : List Char
  spelling : Spelling

namespace Piece

/-- The offset of a token whose piece starts at an offset. -/
def offset (x : Piece) (start : Nat) : Nat := start + x.gap.length

/-- The offset at which a piece ends. -/
def stop (x : Piece) (start : Nat) : Nat := x.offset start + x.spelling.chars.length

/-- The token of a piece that starts at an offset. A keyword is located where it is written, a
symbol where its piece starts. -/
def token (x : Piece) (start : Nat) : Token where
  kind := x.spelling.kind
  location := if x.spelling.kind.keyword?.isSome then x.offset start else start

end Piece

/-- The texts that are cut into some pieces and a gap behind them. A bare word goes up to a
character that ends it. -/
inductive Divides : List Piece → List Char → Prop
  | gap {cs : List Char} : (∀ c ∈ cs, isGap c = true) → Divides [] cs
  | piece {x : Piece} {xs : List Piece} {cs : List Char} : (∀ c ∈ x.gap, isGap c = true) →
      x.spelling.IsOver cs → Divides xs cs → Divides (x :: xs) (x.gap ++ (x.spelling.chars ++ cs))

/-- The tokens of pieces that start at an offset. -/
def tokensFrom : Nat → List Piece → List Token
  | _, [] => []
  | start, x :: xs => x.token start :: tokensFrom (x.stop start) xs

/-- The offsets at which the tokens of pieces are written. -/
def offsetsFrom : Nat → List Piece → List Nat
  | _, [] => []
  | start, x :: xs => x.offset start :: offsetsFrom (x.stop start) xs

/-! ### The tokens of a text that is cut -/

theorem TokenKind.at_eq (k : TokenKind) (previous offset : Nat) :
    k.at previous offset = ⟨k, if k.keyword?.isSome then offset else previous⟩ := by
  cases k <;> rfl

/-- A gap moves the offset but not the end of the token before it. -/
theorem scanFrom_gap {gap : List Char} (h : ∀ c ∈ gap, isGap c = true) (previous offset : Nat)
    (cs : List Char) :
    scanFrom previous offset (gap ++ cs) = scanFrom previous (offset + gap.length) cs := by
  induction gap generalizing offset with
  | nil => rfl
  | cons c gap ih =>
    obtain ⟨hc, hgap⟩ := List.forall_mem_cons.1 h
    rw [List.cons_append, scanFrom, if_pos (isSkipped_of_isGap hc), ih hgap, List.length_cons]
    congr 1
    omega

/-- A spelling that is over is one token, and the next one counts from its end. -/
theorem scanFrom_spelling (l : Spelling) {rest : List Char} (hover : l.IsOver rest)
    (previous offset : Nat) :
    scanFrom previous offset (l.chars ++ rest) =
      (scanFrom (offset + l.chars.length) (offset + l.chars.length) rest).map
        (l.kind.at previous offset :: ·) := by
  obtain ⟨c, cs, hchars, hskip, hlexeme⟩ := lexeme_spelling l hover
  have hstop : offset + 1 + cs.length = offset + (c :: cs).length := by
    rw [List.length_cons]
    omega
  rw [hchars, List.cons_append, scanFrom, if_neg (by simp [hskip]), hlexeme]
  simp only [List.drop_left, hstop]
  cases scanFrom (offset + (c :: cs).length) (offset + (c :: cs).length) rest <;> rfl

theorem Divides.scanFrom_eq {xs : List Piece} {cs : List Char} (h : Divides xs cs) (start : Nat) :
    scanFrom start start cs = .ok (tokensFrom start xs) := by
  induction h generalizing start with
  | gap hgap =>
    rename_i cs
    have hskip := scanFrom_gap hgap start start []
    rw [List.append_nil] at hskip
    rw [hskip, scanFrom]
    rfl
  | piece hgap hover _ ih =>
    rw [scanFrom_gap hgap, scanFrom_spelling _ hover, ih, TokenKind.at_eq]
    rfl

/-! ### The pieces of a text -/

/-- The gaps between tokens go with the tokens behind them. -/
theorem Cut.exists_divides {ls : List Spelling} {cs : List Char} (h : Cut ls cs) :
    ∃ xs, Divides xs cs := by
  induction h with
  | nil => exact ⟨[], .gap (by simp)⟩
  | gap hc _ ih =>
    obtain ⟨xs, hxs⟩ := ih
    cases hxs with
    | gap hgap => exact ⟨[], .gap (List.forall_mem_cons.2 ⟨hc, hgap⟩)⟩
    | @piece x xs _ hgap hover hrest =>
      exact ⟨⟨_ :: x.gap, x.spelling⟩ :: xs,
        .piece (x := ⟨_ :: x.gap, x.spelling⟩) (List.forall_mem_cons.2 ⟨hc, hgap⟩) hover hrest⟩
  | lexeme l hover _ ih =>
    obtain ⟨xs, hxs⟩ := ih
    exact ⟨⟨[], l⟩ :: xs, .piece (x := ⟨[], l⟩) (by simp) hover hxs⟩

/-- A text that can be scanned can be cut. -/
theorem exists_divides_of_scan {source : String} {tokens : List Token}
    (h : scan source = .ok tokens) : ∃ xs, Divides xs (expandTabs source.toList) := by
  have hscan : scanFrom 0 0 (expandTabs source.toList) = .ok tokens := by
    simp only [scan] at h
    split at h
    · rwa [← Except.ok.inj h]
    · cases h
  have hlexemes : lexemes (expandTabs source.toList) = some (tokens.map (·.kind)) := by
    rw [← scanFrom_kinds 0 0, hscan]
    rfl
  obtain ⟨ls, hcut, -⟩ :=
    (lexemes_eq_some_iff (tab_notMem_expandTabsFrom 0 source.toList)).1 hlexemes
  exact hcut.exists_divides

/-! ### One way to cut a text -/

/-- No two spellings of a token have the same characters. -/
theorem Spelling.eq_of_chars {l l' : Spelling} (hkind : l.kind = l'.kind)
    (hchars : l.chars = l'.chars) : l = l' := by
  -- letters and digits do not start with a quote
  have hapart (w : Word) (k : Content) : (bare w).chars ≠ (literal k).chars := by
    intro heq
    have hquote := w.alphanumeric '"' (by rw [show w.chars = _ from heq]; exact List.mem_cons_self)
    rw [isAlphanumeric_quote] at hquote
    cases hquote
  cases l with
  | bare w =>
    cases l' with
    | bare w' => exact congrArg bare (by cases w; cases w'; cases hchars; rfl)
    | literal k => exact absurd hchars (hapart w k)
    | _ => cases hkind
  | literal k =>
    cases l' with
    | bare w => exact absurd hchars.symm (hapart w k)
    | literal k' =>
      have hinner : k.chars = k'.chars := List.append_cancel_right (List.cons.inj hchars).2
      exact congrArg literal (by cases k; cases k'; cases hinner; rfl)
    | _ => cases hkind
  | connective c =>
    cases l' <;> cases hkind
    rfl
  | _ => cases l' <;> first | rfl | cases hkind

/-- A piece goes up to the first character behind its gap that is no gap. -/
theorem takeWhile_isGap {gap : List Char} (hgap : ∀ c ∈ gap, isGap c = true) {l : Spelling}
    {cs : List Char} (hover : l.IsOver cs) : (gap ++ (l.chars ++ cs)).takeWhile isGap = gap := by
  obtain ⟨c, u, hchars, hskip, -⟩ := lexeme_spelling l hover
  have hc : isGap c = false := by
    rw [← Bool.not_eq_true]
    intro hc
    rw [isSkipped_of_isGap hc] at hskip
    cases hskip
  rw [List.takeWhile_append_of_pos hgap, hchars, List.cons_append,
    List.takeWhile_cons_of_neg (by simp [hc]), List.append_nil]

/-- Spellings that are over are the same where the same text starts with them. -/
theorem Spelling.eq_of_append {l l' : Spelling} {cs cs' : List Char} (hover : l.IsOver cs)
    (hover' : l'.IsOver cs') (h : l.chars ++ cs = l'.chars ++ cs') : l = l' ∧ cs = cs' := by
  obtain ⟨c, u, hchars, -, hlexeme⟩ := lexeme_spelling l hover
  obtain ⟨c', u', hchars', -, hlexeme'⟩ := lexeme_spelling l' hover'
  rw [hchars, hchars'] at h
  obtain ⟨rfl, hrest⟩ := List.cons.inj h
  rw [show u ++ cs = u' ++ cs' from hrest, hlexeme'] at hlexeme
  obtain ⟨hkind, hlength⟩ := Prod.mk.inj (Except.ok.inj hlexeme)
  obtain ⟨rfl, rfl⟩ := List.append_inj hrest hlength.symm
  exact ⟨Spelling.eq_of_chars hkind.symm (hchars.trans hchars'.symm), rfl⟩

/-- A gap at the end of a text is no piece. -/
theorem gap_ne_piece {gap : List Char} {x : Piece} {rest : List Char}
    (hgap : ∀ c ∈ gap, isGap c = true) (hxgap : ∀ c ∈ x.gap, isGap c = true)
    (hover : x.spelling.IsOver rest) : gap ≠ x.gap ++ (x.spelling.chars ++ rest) := by
  intro heq
  have happend : (gap ++ []).takeWhile isGap = gap ++ [].takeWhile isGap :=
    List.takeWhile_append_of_pos hgap
  have hall : gap.takeWhile isGap = gap := by simpa using happend
  -- the gap of the piece would be the whole text, but its spelling is not empty
  obtain ⟨c, u, hchars, -⟩ := lexeme_spelling x.spelling hover
  rw [heq, takeWhile_isGap hxgap hover, List.self_eq_append_right, hchars] at hall
  cases hall

/-- **A text is cut in one way only.** -/
theorem Divides.unique {xs ys : List Piece} {cs cs' : List Char} (hx : Divides xs cs)
    (hy : Divides ys cs') (h : cs = cs') : xs = ys := by
  induction hx generalizing ys cs' with
  | gap hgap =>
    cases hy with
    | gap => rfl
    | piece hgap' hover' => exact absurd h (gap_ne_piece hgap hgap' hover')
  | @piece x xs cs hgap hover _ ih =>
    cases hy with
    | gap hgap' => exact absurd h.symm (gap_ne_piece hgap' hgap hover)
    | @piece y ys cs' hgap' hover' hrest' =>
      have hsame : x.gap = y.gap := by
        rw [← takeWhile_isGap hgap hover, h, takeWhile_isGap hgap' hover']
      rw [hsame] at h
      obtain ⟨hspelling, hcs⟩ := Spelling.eq_of_append hover hover' (List.append_cancel_left h)
      have hxy : x = y := by
        cases x
        cases y
        rw [Piece.mk.injEq]
        exact ⟨hsame, hspelling⟩
      rw [hxy, ih hrest' hcs]

/-! ### Scanning -/

/-- **The tokens of a text** are those of the pieces that it is cut into, with their locations. It is
cut in one way if there are such pieces, and a syntax error if there are none. -/
theorem scan_eq_ok_iff (source : String) :
    (∀ tokens, scan source = .ok tokens ↔
      ∃ xs, Divides xs (expandTabs source.toList) ∧ tokens = tokensFrom 0 xs) ∧
    ((∃ tokens, scan source = .ok tokens) ↔ ∃! xs, Divides xs (expandTabs source.toList)) ∧
    ((∃ e, scan source = .error e) ↔ ¬ ∃ xs, Divides xs (expandTabs source.toList)) := by
  have hscan {xs : List Piece} (h : Divides xs (expandTabs source.toList)) :
      scan source = .ok (tokensFrom 0 xs) := by
    simp only [scan, h.scanFrom_eq 0]
  refine ⟨fun tokens => ⟨fun h => ?_, ?_⟩, ⟨?_, ?_⟩, ⟨?_, fun hnone => ?_⟩⟩
  · obtain ⟨xs, hxs⟩ := exists_divides_of_scan h
    exact ⟨xs, hxs, Except.ok.inj (h.symm.trans (hscan hxs))⟩
  · rintro ⟨xs, hxs, rfl⟩
    exact hscan hxs
  · rintro ⟨tokens, h⟩
    obtain ⟨xs, hxs⟩ := exists_divides_of_scan h
    exact ⟨xs, hxs, fun ys hys => hys.unique hxs rfl⟩
  · rintro ⟨xs, hxs, -⟩
    exact ⟨_, hscan hxs⟩
  · rintro ⟨e, he⟩ ⟨xs, hxs⟩
    rw [hscan hxs] at he
    cases he
  · cases h : scan source with
    | ok tokens => exact absurd (exists_divides_of_scan h) hnone
    | error e => exact ⟨e, rfl⟩

/-- **A symbol behind a gap** is not located where it is written: the connective of this text is at
offset two, and its location is one. -/
theorem scan_symbol_after_gap :
    ∃ xs, Divides xs (expandTabs "a && b".toList) ∧ offsetsFrom 0 xs = [0, 2, 5] ∧
      scan "a && b" = .ok [⟨.keyword "a", 0⟩, ⟨.connective .both, 1⟩, ⟨.keyword "b", 5⟩] := by
  let a : Word := ⟨['a'], by simp, List.forall_mem_singleton.2 (by decide +kernel)⟩
  let b : Word := ⟨['b'], by simp, List.forall_mem_singleton.2 (by decide +kernel)⟩
  let xs : List Piece := [⟨[], .bare a⟩, ⟨[' '], .connective .both⟩, ⟨[' '], .bare b⟩]
  have htext : expandTabs "a && b".toList = ['a', ' ', '&', '&', ' ', 'b'] := by decide +kernel
  have hgap : ∀ c ∈ [' '], isGap c = true := List.forall_mem_singleton.2 rfl
  have hb : Divides [⟨[' '], .bare b⟩] [' ', 'b'] :=
    .piece (x := ⟨[' '], .bare b⟩) hgap trivial (.gap nofun)
  have hboth : Divides [⟨[' '], .connective .both⟩, ⟨[' '], .bare b⟩] [' ', '&', '&', ' ', 'b'] :=
    .piece (x := ⟨[' '], .connective .both⟩) hgap trivial hb
  have hover : (Spelling.bare a).IsOver [' ', '&', '&', ' ', 'b'] := Eq.refl true
  refine ⟨xs, ?_, rfl, by decide +kernel⟩
  rw [htext]
  exact .piece (x := ⟨[], .bare a⟩) (by simp) hover hboth

end Pattern

end DealWatch
