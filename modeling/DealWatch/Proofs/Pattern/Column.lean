import DealWatch.Proofs.Pattern.Fault
import DealWatch.Proofs.Pattern.Location

/-!
# Columns of errors

The column of an error should be the place of the fault in the text. It is counted in the text with
its tabs expanded, and there it may lag behind: for a character that no token has it counts from the
last line feed, for a symbol it is that of the gap before it, and at the end of the text the tabs
count once each.

* `StartsWith` says that a text begins with some pieces, `Invalid` what is wrong with the characters
  behind them if they are no token;
* `Offends` says which token is at fault if all characters belong to tokens;
* `Faulty` says where the fault stands and by how much the column lags behind;
* `parse_column` says that this is so for every error, `parse_column_beyond` shows a column behind
  the end of the text.

An error has one of two origins. If a character belongs to no token, it comes from the scanner, and
the proof follows the scanner along the pieces before that character. Otherwise it comes from the
reader of tokens: `parse_blames` says which token it blames, and the cut of the text says where that
token is written.
-/

namespace DealWatch

namespace Pattern

/-! ### Characters that no token has -/

/-- Some characters are cut into pieces and a gap behind them, where others follow. -/
inductive StartsWith : List Piece → List Char → List Char → Prop
  | gap {cs rest : List Char} : (∀ c ∈ cs, isGap c = true) → StartsWith [] cs rest
  | piece {x : Piece} {xs : List Piece} {cs rest : List Char} : (∀ c ∈ x.gap, isGap c = true) →
      x.spelling.IsOver (cs ++ rest) → StartsWith xs cs rest →
      StartsWith (x :: xs) (x.gap ++ (x.spelling.chars ++ cs)) rest

/-- A quote before some characters is closed among them. -/
def Closes (rest : List Char) : Prop :=
  ∃ content after, rest = content ++ '"' :: after ∧ ∀ c ∈ content, isQuotable c = true

/-- What is wrong with characters that start with no token: letters and digits come first, and then
a character that cannot be part of it. -/
inductive Invalid : List Char → List Char → Fault → Prop
  | empty {rest : List Char} : Invalid [] ('"' :: '"' :: rest) .emptyKeyword
  /-- The first character is no quote, or one that is not closed. -/
  | character {word : List Char} {c : Char} {rest : List Char} :
      (∀ d ∈ word, isAlphanumeric d = true) → isAlphanumeric c = false →
      interruptsKeyword c = false → (word = [] → c = '"' → ¬ Closes rest) →
      Invalid word (c :: rest) (.badCharacter c)
  | stray {c : Char} {rest : List Char} : c = '&' ∨ c = '|' → rest.head? ≠ some c →
      Invalid [] (c :: rest) (.strayCharacter c)
  | blank {c : Char} {rest : List Char} : isBlank c = true → isSkipped c = false →
      Invalid [] (c :: rest) .expectedEnd

theorem StartsWith.cons_gap {xs : List Piece} {c : Char} {cs rest : List Char} (hc : isGap c = true)
    (h : StartsWith xs cs rest) : ∃ ys, StartsWith ys (c :: cs) rest := by
  cases h with
  | gap hgap => exact ⟨[], .gap (List.forall_mem_cons.2 ⟨hc, hgap⟩)⟩
  | @piece x xs cs _ hgap hover hrest =>
    exact ⟨⟨c :: x.gap, x.spelling⟩ :: xs,
      .piece (x := ⟨c :: x.gap, x.spelling⟩) (List.forall_mem_cons.2 ⟨hc, hgap⟩) hover hrest⟩

/-- The first character of a word that is no letter or digit. -/
theorem exists_of_bareKeyword {word : List Char} {i : Nat} {fault : Fault}
    (h : bareKeyword word = .error (i, fault)) :
    ∃ u c v, word = u ++ c :: v ∧ (∀ d ∈ u, isAlphanumeric d = true) ∧ isAlphanumeric c = false ∧
      i = u.length ∧ fault = .badCharacter c := by
  unfold bareKeyword at h
  split at h
  · rename_i c j hfind
    obtain ⟨rfl, rfl⟩ := Prod.mk.inj (Except.error.inj h)
    obtain ⟨hc, as, bs, hword, has⟩ := List.find?_eq_some_iff_append.1 hfind
    have hmap := congrArg (List.map Prod.fst) hword
    rw [List.map_append, List.map_cons, List.zipIdx_map_fst] at hmap
    refine ⟨as.map Prod.fst, c, bs.map Prod.fst, hmap, fun d hd => ?_, by simpa using hc, ?_, rfl⟩
    · obtain ⟨a, ha, rfl⟩ := List.mem_map.1 hd
      simpa using has a ha
    · -- the index of a character is the number of those before it
      have hget : word.zipIdx[as.length]? = some (c, j) := by rw [hword]; simp
      rw [List.getElem?_zipIdx] at hget
      obtain ⟨d, -, hd⟩ := Option.map_eq_some_iff.1 hget
      rw [List.length_map]
      have := (Prod.mk.inj hd).2
      omega
  · cases h

/-- A quote that is closed is the start of a keyword, or of two quotes with nothing in between. -/
theorem head?_of_closes {rest : List Char} (h : Closes rest) :
    (rest.drop (rest.takeWhile isQuotable).length).head? = some '"' := by
  obtain ⟨content, after, rfl, hcontent⟩ := h
  rw [List.takeWhile_append_of_pos hcontent,
    List.takeWhile_cons_of_neg (by simp [not_isQuotable_quote]), List.append_nil, List.drop_left]
  rfl

theorem invalid_of_bareKeyword {c : Char} {rest : List Char} {i : Nat} {fault : Fault}
    (hopen : c = '"' → ¬ Closes rest)
    (h : bareKeyword ((c :: rest).takeWhile (!interruptsKeyword ·)) = .error (i, fault)) :
    ∃ word cs, c :: rest = word ++ cs ∧ Invalid word cs fault ∧ i = word.length := by
  obtain ⟨word, d, v, hword, hall, hd, hi, rfl⟩ := exists_of_bareKeyword h
  have hcut := List.takeWhile_append_dropWhile (p := (!interruptsKeyword ·)) (l := c :: rest)
  have hinterrupts : interruptsKeyword d = false := by
    have hmem : d ∈ (c :: rest).takeWhile (!interruptsKeyword ·) := by
      rw [hword]
      exact List.mem_append_right _ List.mem_cons_self
    simpa using List.all_eq_true.1 List.all_takeWhile d hmem
  rw [hword, List.append_assoc, List.cons_append] at hcut
  refine ⟨word, _, hcut.symm, .character hall hd hinterrupts ?_, hi⟩
  rintro rfl rfl
  obtain ⟨rfl, hrest⟩ := List.cons.inj hcut
  rw [hrest]
  exact hopen rfl

/-- **A fault in a lexeme** is that of the characters with which it starts. -/
theorem invalid_of_lexeme {c : Char} {rest : List Char} {i : Nat} {fault : Fault}
    (hskip : isSkipped c = false) (h : lexeme c rest = .error (i, fault)) :
    ∃ word cs, c :: rest = word ++ cs ∧ Invalid word cs fault ∧ i = word.length := by
  unfold lexeme at h
  simp only at h
  split at h
  · rename_i hc
    simp only [Bool.and_eq_true, decide_eq_true_eq, beq_iff_eq] at hc
    obtain ⟨rfl, hclosed⟩ := hc
    split at h
    · rename_i hempty
      obtain ⟨rfl, rfl⟩ := Prod.mk.inj (Except.error.inj h)
      obtain ⟨after, hafter⟩ := eq_append_quote hclosed
      rw [List.isEmpty_iff.1 hempty] at hafter
      exact ⟨[], _, rfl, hafter ▸ .empty, rfl⟩
    · cases h
  rename_i hquote
  have hopen : c = '"' → ¬ Closes rest := by
    rintro rfl hcloses
    exact hquote (by simp [head?_of_closes hcloses])
  by_cases hopening : c = '('
  · rw [if_pos hopening] at h
    cases h
  by_cases hclosing : c = ')'
  · rw [if_neg hopening, if_pos hclosing] at h
    cases h
  by_cases hnegation : c = '!'
  · rw [if_neg hopening, if_neg hclosing, if_pos hnegation] at h
    cases h
  rw [if_neg hopening, if_neg hclosing, if_neg hnegation] at h
  by_cases hboth : c = '&'
  · rw [if_pos hboth] at h
    split at h
    · cases h
    · rename_i hhead
      obtain ⟨rfl, rfl⟩ := Prod.mk.inj (Except.error.inj h)
      exact ⟨[], _, rfl, .stray (.inl hboth) (by simpa [hboth] using hhead), rfl⟩
  by_cases heither : c = '|'
  · rw [if_neg hboth, if_pos heither] at h
    split at h
    · cases h
    · rename_i hhead
      obtain ⟨rfl, rfl⟩ := Prod.mk.inj (Except.error.inj h)
      exact ⟨[], _, rfl, .stray (.inr heither) (by simpa [heither] using hhead), rfl⟩
  rw [if_neg hboth, if_neg heither] at h
  split at h
  · rename_i hblank
    obtain ⟨rfl, rfl⟩ := Prod.mk.inj (Except.error.inj h)
    exact ⟨[], _, rfl, .blank hblank hskip, rfl⟩
  · exact invalid_of_bareKeyword hopen h

/-- The number of characters that a lexeme takes is that of its spelling. -/
theorem length_of_lexeme {c : Char} {rest : List Char} {kind : TokenKind} {n : Nat}
    (h : lexeme c rest = .ok (kind, n)) :
    ∃ l : Spelling, l.chars ++ rest.drop n = c :: rest ∧ l.IsOver (rest.drop n) ∧
      l.chars.length = n + 1 := by
  obtain ⟨l, hchars, -, hover⟩ := spelledAt_of_lexeme h
  obtain ⟨d, cs, hl, -, hlexeme⟩ := lexeme_spelling l hover
  refine ⟨l, hchars, hover, ?_⟩
  rw [hl, List.cons_append] at hchars
  obtain ⟨rfl, hrest⟩ := List.cons.inj hchars
  rw [hrest, h] at hlexeme
  rw [hl, List.length_cons, (Prod.mk.inj (Except.ok.inj hlexeme)).2]

/-- **Where cutting fails.**  A text without tabs that cannot be cut into tokens begins with some,
and what follows them starts with none. -/
theorem startsWith_of_scanFrom_error {previous offset j : Nat} {cs : List Char} {fault : Fault}
    (htab : '\t' ∉ cs) (h : scanFrom previous offset cs = .error (j, fault)) :
    ∃ xs before word rest, cs = before ++ (word ++ rest) ∧ StartsWith xs before (word ++ rest) ∧
      Invalid word rest fault ∧ j = offset + (before ++ word).length := by
  fun_induction scanFrom previous offset cs with
  | case1 => cases h
  | case2 previous offset c cs hs ih =>
    obtain ⟨hc, hcs⟩ : c ≠ '\t' ∧ '\t' ∉ cs := by simpa [eq_comm] using htab
    obtain ⟨xs, before, word, rest, rfl, hstarts, hinvalid, rfl⟩ := ih hcs h
    obtain ⟨ys, hys⟩ := hstarts.cons_gap (isGap_of_isSkipped hs hc)
    refine ⟨ys, c :: before, word, rest, rfl, hys, hinvalid, ?_⟩
    rw [List.cons_append, List.length_cons]
    omega
  | case3 previous offset c cs hs i fault' he =>
    obtain ⟨rfl, rfl⟩ := Prod.mk.inj (Except.error.inj h)
    obtain ⟨word, rest, hcs, hinvalid, rfl⟩ := invalid_of_lexeme (by simpa using hs) he
    exact ⟨[], [], word, rest, hcs, .gap (by simp), hinvalid, rfl⟩
  | case4 previous offset c cs hs kind n hk ih =>
    obtain ⟨l, hchars, hover, hlength⟩ := length_of_lexeme hk
    have hcs : '\t' ∉ cs.drop n := fun hmem =>
      htab (List.mem_cons_of_mem _ (List.mem_of_mem_drop hmem))
    have hrest : scanFrom (offset + 1 + n) (offset + 1 + n) (cs.drop n) = .error (j, fault) := by
      cases hscan : scanFrom (offset + 1 + n) (offset + 1 + n) (cs.drop n) with
      | error e =>
        rw [hscan] at h
        exact congrArg Except.error (Except.error.inj h)
      | ok tokens =>
        rw [hscan] at h
        cases h
    obtain ⟨xs, before, word, rest, hdrop, hstarts, hinvalid, rfl⟩ := ih hcs hrest
    rw [hdrop] at hchars hover
    refine ⟨⟨[], l⟩ :: xs, l.chars ++ before, word, rest, ?_, ?_, hinvalid, ?_⟩
    · rw [← hchars, List.append_assoc]
    · exact .piece (x := ⟨[], l⟩) (by simp) hover hstarts
    · simp only [List.length_append, hlength]
      omega

/-! ### Tokens at fault -/

/-- The token that is at fault among some tokens: the first one behind which nothing helps, or the
parenthesis that is opened last among those that are not closed. -/
inductive Offends (before : List Token) (t : Token) (after : List Token) : Fault → Prop
  | misplaced {fault : Fault} : Completable before → ¬ Completable (before ++ [t]) →
      Misplaced before t.kind fault → Offends before t after fault
  | unclosed : Completable (before ++ t :: after) → ¬ AwaitsOperand (before ++ t :: after) →
      t.kind = .opening → ¬ ClosedIn (after.map (·.kind)) →
      (∀ u x v, after = u ++ x :: v → x.kind = .opening → ClosedIn (v.map (·.kind))) →
      Offends before t after .unclosedOpening

/-- A fault of the grammar is located at the token at fault, or at the end. -/
theorem offends_of_assemble {length location : Nat} {tokens : List Token} {fault : Fault}
    (h : assemble length tokens = .error (location, fault)) :
    (∃ before t after, tokens = before ++ t :: after ∧ Offends before t after fault ∧
      location = t.location) ∨
    (Completable tokens ∧ AwaitsOperand tokens ∧ location = length ∧ fault = .expectedOperand) := by
  rw [assemble] at h
  cases hfold : tokens.foldlM Assembly.feed Assembly.start with
  | error e =>
    rw [hfold] at h
    obtain rfl := Except.error.inj h
    obtain ⟨before, t, after, a, htokens, hbefore, hfeed⟩ := Assembly.exists_of_foldlM_error hfold
    obtain ⟨hmisplaced, hlocation⟩ := (Assembly.tracks_start.foldlM hbefore).misplaced hfeed
    exact .inl ⟨before, t, after, htokens, .misplaced (completable_of_fed hbefore)
      (not_completable_of_fed hbefore hfeed) hmisplaced, hlocation⟩
  | ok a =>
    rw [hfold] at h
    have htracks : a.Tracks tokens := Assembly.tracks_start.foldlM hfold
    have hcompletable := completable_of_fed hfold
    obtain ⟨hw, he⟩ | ⟨hw, t, ts, hopen, he⟩ := htracks.finish_error h
    · obtain ⟨rfl, rfl⟩ := Prod.mk.inj he
      exact .inr ⟨hcompletable, htracks.wanted.1 hw, rfl, rfl⟩
    · obtain ⟨rfl, rfl⟩ := Prod.mk.inj he
      have hheld := htracks.not_awaits hw
      obtain ⟨before, after, rfl, ht, hunclosed, hclosed⟩ := hopen.innermost
      exact .inl ⟨before, t, after, rfl, .unclosed hcompletable hheld ht hunclosed hclosed, rfl⟩

/-- The characters of some pieces. -/
def textOfPieces (xs : List Piece) : List Char := xs.flatMap fun x => x.gap ++ x.spelling.chars

theorem textOfPieces_cons (x : Piece) (xs : List Piece) :
    textOfPieces (x :: xs) = x.gap ++ (x.spelling.chars ++ textOfPieces xs) := by
  rw [textOfPieces, List.flatMap_cons, List.append_assoc, textOfPieces]

/-- Tokens belong to pieces, one each. -/
theorem tokensFrom_eq_append {start : Nat} {xs : List Piece} {before after : List Token} {t : Token}
    (h : tokensFrom start xs = before ++ t :: after) :
    ∃ ys x zs, xs = ys ++ x :: zs ∧ tokensFrom start ys = before ∧
      x.token (start + (textOfPieces ys).length) = t ∧
      tokensFrom (x.stop (start + (textOfPieces ys).length)) zs = after := by
  induction xs generalizing start before with
  | nil => simp [tokensFrom] at h
  | cons y xs ih =>
    rw [tokensFrom] at h
    cases before with
    | nil =>
      obtain ⟨rfl, hafter⟩ := List.cons.inj h
      exact ⟨[], y, xs, rfl, rfl, rfl, hafter⟩
    | cons s before =>
      obtain ⟨rfl, hrest⟩ := List.cons.inj h
      obtain ⟨ys, x, zs, rfl, rfl, rfl, rfl⟩ := ih hrest
      have hstart : y.stop start + (textOfPieces ys).length =
          start + (textOfPieces (y :: ys)).length := by
        rw [textOfPieces_cons, Piece.stop, Piece.offset]
        simp only [List.length_append]
        omega
      exact ⟨y :: ys, x, zs, rfl, rfl, by rw [hstart], by rw [hstart]⟩

/-- A text that is cut into pieces starts with the first ones. -/
theorem Divides.exists_rest {ys zs : List Piece} {x : Piece} {cs : List Char}
    (h : Divides (ys ++ x :: zs) cs) :
    ∃ rest, cs = textOfPieces ys ++ (x.gap ++ (x.spelling.chars ++ rest)) := by
  induction ys generalizing cs with
  | nil =>
    cases h with
    | piece _ _ _ => exact ⟨_, rfl⟩
  | cons y ys ih =>
    cases h with
    | piece _ _ hrest =>
      obtain ⟨rest, rfl⟩ := ih hrest
      exact ⟨rest, by simp [textOfPieces_cons]⟩

/-! ### Columns -/

/-- The number of characters up to the last line feed among some. -/
def lineStart (cs : List Char) : Nat := (cs.reverse.dropWhile (· != '\n')).length

/-- Where the fault of a source stands when its tabs are expanded, and by how much the column of the
error lags behind: `Faulty source before rest lag fault` is a fault behind `before` at the start of
`rest`. -/
inductive Faulty (source : String) : List Char → List Char → Nat → Fault → Prop
  /-- A character that no token has. -/
  | character {xs : List Piece} {before word rest : List Char} {fault : Fault} :
      StartsWith xs before (word ++ rest) → Invalid word rest fault →
      Faulty source (before ++ word) rest (lineStart (before ++ word)) fault
  /-- A token at the wrong place, or a parenthesis that is not closed. -/
  | token {ys zs : List Piece} {x : Piece} {rest : List Char} {fault : Fault} :
      Divides (ys ++ x :: zs) (textOfPieces ys ++ (x.gap ++ (x.spelling.chars ++ rest))) →
      Offends (tokensFrom 0 ys) (x.token (textOfPieces ys).length)
        (tokensFrom (x.stop (textOfPieces ys).length) zs) fault →
      Faulty source (textOfPieces ys ++ x.gap) (x.spelling.chars ++ rest)
        (if x.spelling.kind.keyword?.isSome then 0 else x.gap.length) fault
  /-- The text ends too early. -/
  | finish {xs : List Piece} {before : List Char} : Divides xs before →
      Completable (tokensFrom 0 xs) → AwaitsOperand (tokensFrom 0 xs) →
      Faulty source before [] (before.length - source.length) .expectedOperand

theorem columnOf_append (before rest : List Char) :
    columnOf (before ++ rest) before.length + lineStart before = before.length + 1 := by
  have hsplit := congrArg List.length
    (List.takeWhile_append_dropWhile (p := (· != '\n')) (l := before.reverse))
  rw [List.length_append, List.length_reverse] at hsplit
  rw [columnOf, List.take_left, lineStart]
  omega

theorem lineStart_le (cs : List Char) : lineStart cs ≤ cs.length := by
  have h := (List.dropWhile_suffix (l := cs.reverse) (· != '\n')).length_le
  rwa [List.length_reverse] at h

/-- A tab takes the place of one space at least. -/
theorem length_le_expandTabsFrom (column : Nat) (cs : List Char) :
    cs.length ≤ (expandTabsFrom column cs).length := by
  induction cs generalizing column with
  | nil => exact Nat.le_refl _
  | cons c cs ih =>
    rw [expandTabsFrom]
    split
    · have hrest := ih 0
      rw [List.length_append, List.length_replicate, List.length_cons]
      omega
    · split
      · exact Nat.succ_le_succ (ih 0)
      · exact Nat.succ_le_succ (ih (column + 1))

theorem Faulty.lag_le {source : String} {before rest : List Char} {lag : Nat} {fault : Fault}
    (h : Faulty source before rest lag fault) : lag ≤ before.length := by
  cases h with
  | character => exact lineStart_le _
  | token =>
    rw [List.length_append]
    split
    · exact Nat.zero_le _
    · exact Nat.le_add_left _ _
  | finish => exact Nat.sub_le _ _

/-- A fault with nothing behind it is that of a text that ends too early. -/
theorem Faulty.of_nil {source : String} {before : List Char} {lag : Nat} {fault : Fault}
    (h : Faulty source before [] lag fault) :
    ∃ xs, Divides xs before ∧ Completable (tokensFrom 0 xs) ∧ AwaitsOperand (tokensFrom 0 xs) := by
  generalize hrest : [] = rest at h
  cases h with
  | character _ hinvalid => cases hinvalid <;> cases hrest
  | @token ys zs x rest =>
    have hover : x.spelling.IsOver [] := by cases x.spelling <;> trivial
    obtain ⟨c, cs, hchars, -⟩ := lexeme_spelling x.spelling hover
    rw [hchars] at hrest
    cases hrest
  | finish hxs hcompletable hawaits => exact ⟨_, hxs, hcompletable, hawaits⟩

/-- Cutting a text fails at a character that no token has. -/
theorem faulty_of_scan {source : String} {e : SyntaxError} (h : scan source = .error e) :
    ∃ before rest lag, expandTabs source.toList = before ++ rest ∧
      Faulty source before rest lag e.fault ∧ e.column + lag = before.length + 1 := by
  unfold scan at h
  simp only at h
  split at h
  · cases h
  · rename_i offset fault hscan
    obtain rfl := Except.error.inj h
    obtain ⟨xs, before, word, rest, htext, hstarts, hinvalid, rfl⟩ :=
      startsWith_of_scanFrom_error (tab_notMem_expandTabsFrom 0 source.toList) hscan
    rw [← List.append_assoc] at htext
    refine ⟨before ++ word, rest, _, htext, .character hstarts hinvalid, ?_⟩
    have hexpanded : expandTabs source.toList = before ++ word ++ rest := htext
    simp only [hexpanded, Nat.zero_add]
    exact columnOf_append _ _

/-- Reading the tokens fails at one of them, or at the end of the text. -/
theorem faulty_of_assemble {source : String} {tokens : List Token} {location : Nat} {fault : Fault}
    (hscan : scan source = .ok tokens)
    (h : assemble source.length tokens = .error (location, fault)) :
    ∃ before rest lag, expandTabs source.toList = before ++ rest ∧
      Faulty source before rest lag fault ∧ location + 1 + lag = before.length + 1 := by
  obtain ⟨xs, hxs⟩ := exists_divides_of_scan hscan
  obtain rfl : tokens = tokensFrom 0 xs := by
    rw [scan, hxs.scanFrom_eq 0] at hscan
    exact (Except.ok.inj hscan).symm
  obtain ⟨before, t, after, htokens, hoffends, rfl⟩ | ⟨hcompletable, hawaits, rfl, rfl⟩ :=
    offends_of_assemble h
  · obtain ⟨ys, x, zs, rfl, rfl, rfl, rfl⟩ := tokensFrom_eq_append htokens
    rw [Nat.zero_add] at hoffends ⊢
    obtain ⟨rest, htext⟩ := hxs.exists_rest
    rw [htext] at hxs
    refine ⟨textOfPieces ys ++ x.gap, x.spelling.chars ++ rest, _, ?_, .token hxs hoffends, ?_⟩
    · rw [htext, List.append_assoc]
    · simp only [Piece.token, Piece.offset, List.length_append]
      split <;> omega
  · refine ⟨_, [], _, (List.append_nil _).symm, .finish hxs hcompletable hawaits, ?_⟩
    have hlength := length_le_expandTabsFrom 0 source.toList
    rw [String.length_toList] at hlength
    unfold expandTabs
    omega

/-- Every error is about a fault, and the column of the error and its lag give the place. -/
theorem faulty_of_parse {source : String} {e : SyntaxError} (h : parse source = .error e) :
    e.source = source ∧ ∃ before rest lag, expandTabs source.toList = before ++ rest ∧
      Faulty source before rest lag e.fault ∧ e.column + lag = before.length + 1 := by
  simp only [parse, bind, Except.bind] at h
  split at h
  · rename_i e' hscan
    obtain rfl := Except.error.inj h
    refine ⟨?_, faulty_of_scan hscan⟩
    unfold scan at hscan
    simp only at hscan
    split at hscan
    · cases hscan
    · rw [← Except.error.inj hscan]
  · rename_i tokens hscan
    split at h
    · cases h
    · rename_i location fault hassemble
      obtain rfl := Except.error.inj h
      exact ⟨rfl, faulty_of_assemble hscan hassemble⟩

/-- **Columns.**  The column of an error lags behind the place of the fault, in the text with its
tabs expanded: by the lines before it for a character that no token has, by the gap before it for a
symbol, and by what the tabs add at the end of the text. In a text without tabs the column is at
most one behind the end, and that only if the text ends too early; where it does not lag behind, it
is the place of the fault in the source. -/
theorem parse_column {source : String} {e : SyntaxError} (h : parse source = .error e) :
    e.source = source ∧ 1 ≤ e.column ∧
    ∃ before rest lag, expandTabs source.toList = before ++ rest ∧
      Faulty source before rest lag e.fault ∧ e.column + lag = before.length + 1 ∧
      (rest = [] → ∃ xs, Divides xs before ∧ Completable (tokensFrom 0 xs) ∧
        AwaitsOperand (tokensFrom 0 xs)) ∧
      ('\t' ∉ source.toList → e.column ≤ source.length + 1 ∧
        (e.column = source.length + 1 → rest = []) ∧
        (lag = 0 → source.toList.drop (e.column - 1) = rest)) := by
  obtain ⟨hsource, before, rest, lag, htext, hfaulty, hcolumn⟩ := faulty_of_parse h
  have hlag := hfaulty.lag_le
  refine ⟨hsource, by omega, before, rest, lag, htext, hfaulty, hcolumn, ?_, fun htab => ?_⟩
  · rintro rfl
    exact hfaulty.of_nil
  · -- without tabs the text is the source
    rw [expandTabs, expandTabsFrom_eq_self htab] at htext
    have hlength : source.length = before.length + rest.length := by
      rw [← String.length_toList, htext, List.length_append]
    refine ⟨by omega, fun hend => List.length_eq_zero_iff.1 (by omega), ?_⟩
    rintro rfl
    rw [htext, show e.column - 1 = before.length by omega, List.drop_left]

/-- The closing parenthesis stands at column 6. -/
theorem parse_column_gap : parse "a && )" = .error ⟨"a && )", 5, .expectedOperand⟩ ∧
    ("a && )" : String) = "a && )" ∧ 1 ≤ 5 ∧
    ∃ before rest lag, expandTabs ("a && )" : String).toList = before ++ rest ∧
      Faulty "a && )" before rest lag .expectedOperand ∧ 5 + lag = before.length + 1 ∧
      (rest = [] → ∃ xs, Divides xs before ∧ Completable (tokensFrom 0 xs) ∧
        AwaitsOperand (tokensFrom 0 xs)) ∧
      ('\t' ∉ ("a && )" : String).toList → 5 ≤ ("a && )" : String).length + 1 ∧
        (5 = ("a && )" : String).length + 1 → rest = []) ∧
        (lag = 0 → ("a && )" : String).toList.drop 4 = rest)) :=
  ⟨by decide +kernel, parse_column (e := ⟨"a && )", 5, .expectedOperand⟩) (by decide +kernel)⟩

/-- The text has two characters, and the column of its second one is given as the ninth. -/
theorem parse_column_beyond : parse "\t-" = .error ⟨"\t-", 9, .badCharacter '-'⟩ ∧
    ("\t-" : String).length + 1 < 9 := by
  decide +kernel

end Pattern

end DealWatch
