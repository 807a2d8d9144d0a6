import DealWatch.Json.Printer
import DealWatch.Json.Reader
import DealWatch.Proofs.Number.Digits
import DealWatch.Proofs.Text.Halved

/-!
# Reading back what was written

* `Json.textBody_write` reads a text back, whatever its characters are;
* `Json.numeral?_intChars` finds the digits of an integer, however large it is;
* `Json.readAll_write` concludes the same of a dictionary with texts and integers in it.

A character is written in one of three ways (`writeChar_cases`), and each is read back as that
character with the rest of the text behind it. A number ends only where something else begins, so it
is read back before a comma and before a closing brace. The dictionary is by induction on its
entries.

Only texts of characters, integers that are short enough to be read, and no lists are written here.
-/

namespace DealWatch

namespace Json

/-! ### Texts -/

/-- The escape of a control character is two zeros and two more digits, which give it back. -/
theorem hexUnit?_padded : ∀ n < 0x20, ∃ c d, hexPadded 4 n = ['0', '0', c, d] ∧
    hexUnit? '0' '0' c d = some n := by
  have hdigits : ∀ n < 0x20, hexPadded 4 n =
      ['0', '0', Nat.digitChar (n / 16), Nat.digitChar (n % 16)] ∧
      hexUnit? '0' '0' (Nat.digitChar (n / 16)) (Nat.digitChar (n % 16)) = some n := by decide
  exact fun n hn => ⟨_, _, hdigits n hn⟩

/-- An escape of a control character, with something after it, is read as that character. -/
theorem unicodeEscape_padded {n : Nat} (hn : n < 0x20) (position : Nat) {cs : List Char}
    (hcs : cs ≠ []) : unicodeEscape position (hexPadded 4 n ++ cs) = .ok (n, 4) := by
  obtain ⟨c, d, hpadded, hunit⟩ := hexUnit?_padded n hn
  obtain ⟨e, more, rfl⟩ := List.exists_cons_of_ne_nil hcs
  have hhalf : isHighHalf n = false := by
    simp only [isHighHalf, Bool.and_eq_false_iff, decide_eq_false_iff_not]
    omega
  rw [hpadded]
  simp only [List.cons_append, List.nil_append, unicodeEscape, hunit, hhalf]

/-- A text body that goes on after a character. -/
def prepend (c : Char) (x : Except Error (List Nat × Cursor)) : Except Error (List Nat × Cursor) :=
  x.map fun (ns, cursor) => (c.toNat :: ns, cursor)

/-- An escape with one letter is read as the character that it is for. -/
theorem textBody_short {c d : Char} (h : shortEscape? d = some c) (start position : Nat)
    (cs : List Char) : textBody start position ('\\' :: d :: cs) =
      prepend c (textBody start (position + 2) cs) := by
  have hne : d ≠ 'u' := by
    rintro rfl
    cases h
  rw [textBody, if_neg (by decide), if_pos rfl]
  simp only [hne, if_false, h]
  rfl

/-- A character is written by an escape with one letter, as a control character, or as it is. -/
theorem writeChar_cases (c : Char) :
    (∃ d, shortEscape? d = some c ∧ writeChar compact c = ['\\', d]) ∨
    (c.toNat < 0x20 ∧ writeChar compact c = unitEscape c.toNat) ∨
    (c ≠ '"' ∧ c ≠ '\\' ∧ ¬ c.toNat < 0x20 ∧ writeChar compact c = [c]) := by
  by_cases hshort : c ∈ ['"', '\\', '\n', '\r', '\t', '\x08', '\x0c']
  · refine .inl ?_
    simp only [List.mem_cons, List.not_mem_nil, or_false] at hshort
    rcases hshort with rfl | rfl | rfl | rfl | rfl | rfl | rfl <;> exact ⟨_, rfl, rfl⟩
  · simp only [List.mem_cons, List.not_mem_nil, or_false, not_or] at hshort
    simp only [writeChar, hshort, if_false, compact, Bool.false_and, Bool.false_eq_true]
    split
    · exact .inr (.inl ⟨‹_›, rfl⟩)
    · exact .inr (.inr ⟨hshort.1, hshort.2.1, ‹_›, rfl⟩)

/-- A character is read as it was written. -/
theorem textBody_writeChar (start position : Nat) (c : Char) {cs : List Char} (hcs : cs ≠ []) :
    ∃ position', textBody start position (writeChar compact c ++ cs) =
      prepend c (textBody start position' cs) := by
  obtain ⟨d, hshort, hwrite⟩ | ⟨hctl, hwrite⟩ | ⟨hquote, hslash, hctl, hwrite⟩ := writeChar_cases c
  · rw [hwrite]
    exact ⟨_, textBody_short hshort start position cs⟩
  · -- the letter of the escape is followed by four digits, and by a character at least
    refine ⟨position + 2 + 4, ?_⟩
    have hescape := unicodeEscape_padded hctl (position + 1) hcs
    have hdrop : (hexPadded 4 c.toNat ++ cs).drop 4 = cs := by
      obtain ⟨d, e, hpadded, -⟩ := hexUnit?_padded c.toNat hctl
      rw [hpadded]
      rfl
    rw [hwrite, unitEscape, List.cons_append, List.cons_append, textBody, if_neg (by decide),
      if_pos rfl]
    simp only [if_true, hescape, hdrop]
    rfl
  · obtain ⟨d, ds, rfl⟩ := List.exists_cons_of_ne_nil hcs
    refine ⟨position + 1, ?_⟩
    rw [hwrite, List.singleton_append, textBody, if_neg hquote, if_neg hslash, if_neg (by omega)]
    rfl

/-- The characters of a text are read up to its closing quote. -/
theorem textBody_write (start : Nat) (cs rest : List Char) (position : Nat) :
    ∃ position', textBody start position (cs.flatMap (writeChar compact) ++ '"' :: rest) =
      .ok (cs.map Char.toNat, ⟨position', rest⟩) := by
  induction cs generalizing position with
  | nil =>
    -- the first quote that is not part of an escape is the closing one
    refine ⟨position + 1, ?_⟩
    rw [List.flatMap_nil, List.nil_append, textBody.eq_def]
    exact if_pos rfl
  | cons c cs ih =>
    have hnext : cs.flatMap (writeChar compact) ++ '"' :: rest ≠ [] := by simp
    obtain ⟨position₁, hchar⟩ := textBody_writeChar start position c hnext
    obtain ⟨position₂, hbody⟩ := ih position₁
    refine ⟨position₂, ?_⟩
    rw [List.flatMap_cons, List.append_assoc, hchar, hbody]
    rfl

/-- No character is half of a surrogate pair. -/
theorem textOf_toNat (cs : List Char) : textOf (cs.map Char.toNat) = .text (String.ofList cs) := by
  have hpoints : (cs.map Char.toNat).map CodePoint.ofNat = pointsOf (String.ofList cs) := by
    rw [List.map_map, pointsOf, String.toList_ofList]
    exact List.map_congr_left fun c _ => CodePoint.ofNat_toNat c
  rw [textOf, hpoints, Text.ofPoints_pointsOf]
  rfl

/-- **A text** is read back as it was written. -/
theorem readText_write (s : String) (position : Nat) (rest : List Char) :
    ∃ position', readText ⟨position, s.toList.flatMap (writeChar compact) ++ '"' :: rest⟩ =
      .ok (.text s, ⟨position', rest⟩) := by
  obtain ⟨position', hbody⟩ := textBody_write (position - 1) s.toList rest position
  refine ⟨position', ?_⟩
  simp only [readText, hbody, bind, Except.bind, textOf_toNat, String.ofList_toList]
  rfl

/-! ### Integers -/

/-- The character that a text is followed by is no part of a number. -/
def EndsNumber (c : Char) : Prop := c = ',' ∨ c = '}'

theorem takeWhile_isDigit {n : Nat} {c : Char} (hc : EndsNumber c) (rest : List Char) :
    (Nat.toDigits 10 n ++ c :: rest).takeWhile isDigit = Nat.toDigits 10 n := by
  have hdigits : ∀ d ∈ Nat.toDigits 10 n, isDigit d = true := by
    intro d hd
    obtain ⟨hlow, hhigh⟩ := isDigit_of_mem_toDigits hd
    simp only [isDigit, hlow, hhigh, decide_true, Bool.and_self]
  have hend : isDigit c = false := by
    obtain rfl | rfl := hc <;> rfl
  rw [List.takeWhile_append_of_pos hdigits, List.takeWhile_cons, hend]
  simp

/-- The characters of an integer. -/
def intChars (i : Int) : List Char :=
  (if i < 0 then ['-'] else []) ++ Nat.toDigits 10 i.natAbs

theorem toList_toString (i : Int) : (toString i).toList = intChars i := by
  cases i with
  | ofNat n =>
    have hrepr : toString (Int.ofNat n) = n.repr := rfl
    rw [hrepr, Nat.repr_eq_ofList_toDigits, String.toList_ofList, intChars, if_neg (by simp)]
    rfl
  | negSucc n =>
    have hrepr : toString (Int.negSucc n) = "-" ++ (n + 1).repr := rfl
    have hdigits : (String.ofList (Nat.toDigits 10 (n + 1))).toList = Nat.toDigits 10 (n + 1) :=
      String.toList_ofList
    rw [hrepr, Nat.repr_eq_ofList_toDigits, String.toList_append, hdigits, intChars,
      if_pos (Int.negSucc_lt_zero n)]
    rfl

/-- An integer starts with a sign or a digit. -/
theorem intChars_cons (i : Int) :
    ∃ x xs, intChars i = x :: xs ∧ (x = '-' ∨ '0' ≤ x ∧ x ≤ '9') := by
  obtain ⟨d, ds, hds⟩ := exists_toDigits i.natAbs
  by_cases hneg : i < 0
  · exact ⟨'-', d :: ds, by rw [intChars, if_pos hneg, hds]; rfl, .inl rfl⟩
  · refine ⟨d, ds, by rw [intChars, if_neg hneg, hds]; rfl, .inr ?_⟩
    exact isDigit_of_mem_toDigits (hds ▸ List.mem_cons_self)

/-- The digits of a number are taken up to its end; a number that starts with a zero is zero. -/
theorem whole_digits (n : Nat) {c : Char} (hc : EndsNumber c) (rest : List Char) :
    (if (Nat.toDigits 10 n ++ c :: rest).head? == some '0' then ['0']
      else (Nat.toDigits 10 n ++ c :: rest).takeWhile isDigit) = Nat.toDigits 10 n := by
  rw [takeWhile_isDigit hc]
  obtain ⟨d, ds, hds⟩ := exists_toDigits n
  split
  · rename_i hzero
    by_cases hn : n = 0
    · rw [hn]
      rfl
    · refine absurd ?_ (toDigits_head hn)
      rw [hds] at hzero ⊢
      exact eq_of_beq hzero
  · rfl

/-- An integer is a number without a point and without an exponent. -/
theorem numeral?_intChars (i : Int) {c : Char} (hc : EndsNumber c) (rest : List Char) :
    numeral? (intChars i ++ c :: rest) =
      some (⟨decide (i < 0), Nat.toDigits 10 i.natAbs, none, none⟩, (intChars i).length) := by
  have hwhole := whole_digits i.natAbs hc rest
  have hfraction : fraction? (c :: rest) = none := by
    obtain rfl | rfl := hc <;> rfl
  have hexponent : exponent? (c :: rest) = none := by
    obtain rfl | rfl := hc <;> rfl
  have hne : Nat.toDigits 10 i.natAbs ≠ [] := Nat.toDigits_ne_nil
  generalize hds : Nat.toDigits 10 i.natAbs = ds at *
  by_cases hneg : i < 0
  · have hchars : intChars i = '-' :: ds := by rw [intChars, if_pos hneg, hds]; rfl
    simp only [numeral?, hchars, List.cons_append, List.head?_cons, beq_self_eq_true, if_true,
      List.drop_succ_cons, List.drop_zero, hwhole, List.isEmpty_eq_false_iff.2 hne,
      Bool.false_eq_true, if_false, List.drop_left, hfraction, hexponent, hneg, decide_true,
      List.length_cons]
    rw [Nat.add_zero, Nat.add_comm]
  · have hchars : intChars i = ds := by rw [intChars, if_neg hneg, hds]; rfl
    -- a digit is no sign
    have hsign : ((ds ++ c :: rest).head? == some '-') = false := by
      obtain ⟨d, ds', rfl⟩ := List.exists_cons_of_ne_nil hne
      have hdigit := isDigit_of_mem_toDigits (hds ▸ List.mem_cons_self)
      refine beq_eq_false_iff_ne.2 fun h => ?_
      obtain rfl : d = '-' := Option.some.inj h
      exact absurd hdigit (by decide)
    simp only [numeral?, hchars, hsign, Bool.false_eq_true, if_false, List.drop_zero, hwhole,
      List.isEmpty_eq_false_iff.2 hne, List.drop_left, hfraction, hexponent, hneg, decide_false,
      Nat.zero_add, Nat.add_zero]

/-- The integers that are not too long to be read. -/
def Readable (i : Int) : Prop := i.natAbs < Nat.pow 10 maxDigits

instance (i : Int) : Decidable (Readable i) := inferInstanceAs (Decidable (_ < _))

/-- The value of the digits of an integer. -/
theorem value?_digits {i : Int} (hi : Readable i) :
    Numeral.value? ⟨decide (i < 0), Nat.toDigits 10 i.natAbs, none, none⟩ = some (.int i) := by
  have hlength : ¬ maxDigits < (Nat.toDigits 10 i.natAbs).length :=
    Nat.not_lt.2 (length_toDigits_le (by decide) hi)
  simp only [Numeral.value?, if_neg hlength, digitsValue_toDigits]
  by_cases hneg : i < 0
  · simp only [hneg, decide_true, if_true]
    congr 2
    omega
  · simp only [hneg, decide_false, Bool.false_eq_true, if_false]
    congr 2
    omega

/-- A number is no name of a value, since one of its first two characters is a digit. -/
theorem names_find?_intChars (i : Int) (rest : List Char) :
    (names.find? fun (name, _) => name.toList.isPrefixOf (intChars i ++ rest)) = none := by
  have hnames : ∀ p ∈ names, 2 ≤ p.1.toList.length ∧ (p.1.toList.take 2).any isDigit = false := by
    decide
  have hdigit : ((intChars i ++ rest).take 2).any isDigit = true := by
    obtain ⟨d, ds, hds⟩ := exists_toDigits i.natAbs
    obtain ⟨hlow, hhigh⟩ := isDigit_of_mem_toDigits (hds ▸ List.mem_cons_self)
    have hd : isDigit d = true := by simp only [isDigit, hlow, hhigh, decide_true, Bool.and_self]
    rw [intChars, hds]
    split <;> simp [hd]
  rw [List.find?_eq_none]
  intro p hp hprefix
  obtain ⟨hlength, hnone⟩ := hnames p hp
  obtain ⟨more, hmore⟩ := List.isPrefixOf_iff_prefix.1 hprefix
  rw [← hmore, List.take_append_of_le_length hlength, hnone] at hdigit
  cases hdigit

/-- **An integer** is read back as it was written. -/
theorem readPlain_write {i : Int} (hi : Readable i) (position : Nat) {c : Char} (hc : EndsNumber c)
    (rest : List Char) : ∃ position', readPlain ⟨position, intChars i ++ c :: rest⟩ =
      .ok (.int i, ⟨position', c :: rest⟩) := by
  refine ⟨position + (intChars i).length, ?_⟩
  simp only [readPlain, names_find?_intChars, numeral?_intChars i hc, value?_digits hi,
    Cursor.advance, List.drop_left]

/-! ### Dictionaries -/

/-- The scalars that are read back: texts, and integers that are not too long. -/
inductive Plain : Scalar → Prop
  | text (s : String) : Plain (.text s)
  | int {i : Int} : Readable i → Plain (.int i)

theorem readValue_plain {x : Char} (hquote : x ≠ '"') (hlist : x ≠ '[') (hdict : x ≠ '{')
    (levels fuel position : Nat) (xs : List Char) :
    readValue levels (fuel + 1) ⟨position, x :: xs⟩ = readPlain ⟨position, x :: xs⟩ := by
  rw [readValue]
  split
  · exact absurd (List.cons.inj ‹_›).1 hquote
  · exact absurd (List.cons.inj ‹_›).1 hlist
  · exact absurd (List.cons.inj ‹_›).1 hdict
  · rfl

/-- A scalar is read back as it was written. -/
theorem readValue_write {s : Scalar} (hs : Plain s) (levels fuel position : Nat) {c : Char}
    (hc : EndsNumber c) (rest : List Char) :
    ∃ position', readValue levels (fuel + 1)
      ⟨position, (writeScalar compact s).toList ++ c :: rest⟩ =
        .ok (.scalar s, ⟨position', c :: rest⟩) := by
  cases hs with
  | text s =>
    obtain ⟨position', hread⟩ := readText_write s (position + 1) (c :: rest)
    refine ⟨position', ?_⟩
    have hchars : (writeScalar compact (.text s)).toList ++ c :: rest =
        '"' :: (s.toList.flatMap (writeChar compact) ++ '"' :: c :: rest) := by
      simp [writeScalar, writeText]
    rw [hchars, readValue]
    simp only [Cursor.advance, List.drop_succ_cons, List.drop_zero, hread, bind, Except.bind]
    rfl
  | @int i hi =>
    obtain ⟨position', hread⟩ := readPlain_write hi position hc rest
    refine ⟨position', ?_⟩
    obtain ⟨x, xs, hx, hfirst⟩ := intChars_cons i
    rw [hx] at hread
    rw [writeScalar, toList_toString, hx, List.cons_append, readValue_plain, ← List.cons_append,
      hread]
    all_goals
      rintro rfl
      revert hfirst
      decide

theorem skip_cons {c : Char} (h : Cursor.isBlank c = false) (position : Nat) (rest : List Char) :
    Cursor.skip ⟨position, c :: rest⟩ = ⟨position, c :: rest⟩ := by
  rw [Cursor.skip, List.takeWhile_cons, h]
  rfl

/-- What is written starts without a blank. -/
theorem writeScalar_cons {s : Scalar} (hs : Plain s) :
    ∃ x xs, (writeScalar compact s).toList = x :: xs ∧ Cursor.isBlank x = false := by
  cases hs with
  | text s => exact ⟨'"', _, by rw [writeScalar, writeText, String.toList_ofList]; rfl, by decide⟩
  | @int i =>
    obtain ⟨x, xs, hx, hfirst⟩ := intChars_cons i
    refine ⟨x, xs, by rw [writeScalar, toList_toString, hx], ?_⟩
    simp only [Cursor.isBlank, Bool.or_eq_false_iff, beq_eq_false_iff_ne]
    refine ⟨⟨⟨?_, ?_⟩, ?_⟩, ?_⟩
    all_goals
      rintro rfl
      revert hfirst
      decide

/-- The entries of a dictionary with texts as its keys. -/
def textEntries (es : List (String × Scalar)) : Entries :=
  es.map fun (key, s) => (.text key, .scalar s)

theorem textEntries_cons (e : String × Scalar) (es : List (String × Scalar)) :
    textEntries (e :: es) = (.text e.1, .scalar e.2) :: textEntries es := rfl

/-- An entry as it is written, without the comma after it. -/
def entryChars (key : String) (s : Scalar) : List Char :=
  '"' :: (key.toList.flatMap (writeChar compact) ++
    '"' :: ':' :: (writeScalar compact s).toList)

theorem writeEntries_single (key : String) (s : Scalar) :
    (write.writeEntries compact [(.text key, .scalar s)]).toList = entryChars key s := by
  simp [write.writeEntries, keyText, writeText, write, entryChars, compact]

theorem writeEntries_cons (key : String) (s : Scalar) (e : Scalar × Datum) (es : Entries) :
    (write.writeEntries compact ((.text key, .scalar s) :: e :: es)).toList =
      entryChars key s ++ ',' :: (write.writeEntries compact (e :: es)).toList := by
  simp [write.writeEntries, keyText, writeText, write, entryChars, compact]

/-- What is written for some entries starts with the quote of a key. -/
theorem writeEntries_head (e : String × Scalar) (es : List (String × Scalar)) :
    ∃ xs, (write.writeEntries compact (textEntries (e :: es))).toList = '"' :: xs := by
  cases es with
  | nil => exact ⟨_, writeEntries_single e.1 e.2⟩
  | cons e' es => exact ⟨_, writeEntries_cons e.1 e.2 (.text e'.1, .scalar e'.2) (textEntries es)⟩

/-- What is done after an entry was read. -/
def afterEntry (levels fuel : Nat) (key : String) (s : Scalar) (c : Cursor) :
    Except Error (Entries × Cursor) :=
  match c.rest with
  | '}' :: _ => .ok ([(.text key, .scalar s)], c.advance 1)
  | ',' :: _ =>
    (readEntries levels fuel (c.advance 1).skip).map fun (es, c) =>
      ((.text key, .scalar s) :: es, c)
  | _ => c.fail .expectedComma

/-- An entry is read back as it was written. -/
theorem readEntries_entry (key : String) {s : Scalar} (hs : Plain s) (levels fuel position : Nat)
    {c : Char} (hc : EndsNumber c) (rest : List Char) :
    ∃ position', readEntries levels (fuel + 2) ⟨position, entryChars key s ++ c :: rest⟩ =
      afterEntry levels (fuel + 1) key s ⟨position', c :: rest⟩ := by
  obtain ⟨x, xs, hx, hblank⟩ := writeScalar_cons hs
  obtain ⟨position₁, hkey⟩ := readText_write key (position + 1)
    (':' :: ((writeScalar compact s).toList ++ c :: rest))
  obtain ⟨position₂, hvalue⟩ := readValue_write hs levels fuel (position₁ + 1) hc rest
  refine ⟨position₂, ?_⟩
  have hskip : Cursor.skip ⟨position₁ + 1, (writeScalar compact s).toList ++ c :: rest⟩ =
      ⟨position₁ + 1, (writeScalar compact s).toList ++ c :: rest⟩ := by
    rw [hx]
    exact skip_cons hblank _ _
  have hend : Cursor.isBlank c = false := by
    obtain rfl | rfl := hc <;> rfl
  rw [entryChars, List.cons_append, List.append_assoc, List.cons_append, List.cons_append]
  rw [readEntries]
  simp only [Cursor.advance, List.drop_succ_cons, List.drop_zero, hkey, bind, Except.bind,
    skip_cons (by decide : Cursor.isBlank ':' = false), List.head?_cons, bne_self_eq_false,
    Bool.false_eq_true, if_false, hskip, hvalue, skip_cons hend]
  obtain rfl | rfl := hc
  · rfl
  · rfl

/-- Some entries are read back as they were written, up to the closing brace. -/
theorem readEntries_write (levels : Nat) (rest : List Char) {es : List (String × Scalar)}
    (hes : es ≠ []) (hplain : ∀ e ∈ es, Plain e.2) (fuel position : Nat)
    (hfuel : es.length < fuel) : ∃ position', readEntries levels fuel
      ⟨position, (write.writeEntries compact (textEntries es)).toList ++ '}' :: rest⟩ =
        .ok (textEntries es, ⟨position', rest⟩) := by
  induction es generalizing fuel position with
  | nil => exact absurd rfl hes
  | cons e es ih =>
    obtain ⟨key, s⟩ := e
    have hs : Plain s := hplain _ List.mem_cons_self
    obtain ⟨fuel, rfl⟩ : ∃ n, fuel = n + 2 := ⟨fuel - 2, by rw [List.length_cons] at hfuel; omega⟩
    cases es with
    | nil =>
      obtain ⟨position', hentry⟩ := readEntries_entry key hs levels fuel position (.inr rfl) rest
      refine ⟨position' + 1, ?_⟩
      rw [textEntries, List.map_singleton, writeEntries_single, hentry]
      rfl
    | cons e es =>
      -- what follows the comma is the next entry
      obtain ⟨xs, hxs⟩ := writeEntries_head e es
      let more := (write.writeEntries compact (textEntries (e :: es))).toList ++ '}' :: rest
      obtain ⟨position₁, hentry⟩ := readEntries_entry key hs levels fuel position (.inl rfl) more
      obtain ⟨position₂, hmore⟩ := ih (List.cons_ne_nil e es)
        (fun e' he' => hplain e' (List.mem_cons_of_mem _ he')) (fuel + 1) (position₁ + 1)
        (by simp only [List.length_cons] at hfuel ⊢; omega)
      refine ⟨position₂, ?_⟩
      have hchars : (write.writeEntries compact (textEntries ((key, s) :: e :: es))).toList ++
          '}' :: rest = entryChars key s ++ ',' :: more := by
        rw [textEntries_cons, textEntries_cons, writeEntries_cons, List.append_assoc]
        rfl
      have hskip : Cursor.skip ⟨position₁ + 1, more⟩ = ⟨position₁ + 1, more⟩ := by
        simp only [more, hxs]
        exact skip_cons (by decide) _ _
      rw [hchars, hentry]
      simp only [afterEntry, Cursor.advance, List.drop_succ_cons, List.drop_zero, hskip]
      rw [hmore]
      rfl

theorem put_of_new {key : Scalar} {es : Entries} (h : ∀ e ∈ es, e.1.sameKey key = false)
    (d : Datum) : Entries.put key d es = es ++ [(key, d)] := by
  induction es with
  | nil => rfl
  | cons e es ih =>
    rw [Entries.put, if_neg (by rw [h e List.mem_cons_self]; decide),
      ih fun e' he' => h e' (List.mem_cons_of_mem e he')]
    rfl

/-- Entries with different keys are kept as they are. -/
theorem foldl_put (before : List (String × Scalar)) {es : List (String × Scalar)}
    (h : ((before ++ es).map (·.1)).Nodup) :
    (textEntries es).foldl (fun es e => Entries.put e.1 e.2 es) (textEntries before) =
      textEntries (before ++ es) := by
  induction es generalizing before with
  | nil => rw [List.append_nil]; rfl
  | cons e es ih =>
    have hnew : ∀ e' ∈ textEntries before, e'.1.sameKey (.text e.1) = false := by
      intro e' he'
      obtain ⟨e', hmem, rfl⟩ := List.mem_map.1 he'
      rw [List.map_append, List.nodup_append] at h
      have hne := h.2.2 e'.1 (List.mem_map_of_mem hmem) e.1 List.mem_cons_self
      simpa [Scalar.sameKey] using hne
    have hput : Entries.put (.text e.1) (.scalar e.2) (textEntries before) =
        textEntries (before ++ [e]) := by
      rw [put_of_new hnew, textEntries, textEntries, List.map_append]
      rfl
    have hmove : before ++ e :: es = before ++ [e] ++ es := List.append_cons before e es
    rw [hmove] at h ⊢
    rw [← ih _ h, ← hput, textEntries_cons, List.foldl_cons]

/-- An entry takes at least one character. -/
theorem length_le_writeEntries (es : List (String × Scalar)) :
    es.length ≤ (write.writeEntries compact (textEntries es)).toList.length := by
  induction es with
  | nil => exact Nat.zero_le _
  | cons e es ih =>
    cases es with
    | nil =>
      obtain ⟨xs, hxs⟩ := writeEntries_head e []
      rw [hxs]
      exact Nat.succ_le_succ (Nat.zero_le _)
    | cons e' es =>
      rw [textEntries_cons, textEntries_cons, writeEntries_cons, List.length_append,
        List.length_cons, ← textEntries_cons]
      simp only [List.length_cons] at ih ⊢
      omega

theorem eachEntry_textEntries (es : List (String × Scalar)) :
    withoutRepeats.eachEntry (textEntries es) = textEntries es := by
  induction es with
  | nil => rfl
  | cons e es ih =>
    have hscalar : withoutRepeats (.scalar e.2) = .scalar e.2 := rfl
    rw [textEntries_cons, withoutRepeats.eachEntry, ih, hscalar]

/-- A dictionary with different texts as keys repeats none. -/
theorem withoutRepeats_textEntries {es : List (String × Scalar)} (h : (es.map (·.1)).Nodup) :
    withoutRepeats (.dict (textEntries es)) = .dict (textEntries es) := by
  rw [withoutRepeats, eachEntry_textEntries]
  exact congrArg Datum.dict (foldl_put [] h)

/-- **A dictionary** with texts as keys is read back as it was written, if it holds nothing but
texts and integers that are not too long. -/
theorem readAll_write {es : List (String × Scalar)} (hes : es ≠ [])
    (hplain : ∀ e ∈ es, Plain e.2) :
    readAll (write compact (.dict (textEntries es))).toList = .ok (.dict (textEntries es)) := by
  obtain ⟨e, es', rfl⟩ := List.exists_cons_of_ne_nil hes
  obtain ⟨xs, hxs⟩ := writeEntries_head e es'
  obtain ⟨body, hbody⟩ :
      ∃ b, b = (write.writeEntries compact (textEntries (e :: es'))).toList ++ ['}'] := ⟨_, rfl⟩
  have hchars : (write compact (.dict (textEntries (e :: es')))).toList = '{' :: body := by
    rw [hbody]
    simp only [write, String.toList_append]
    rfl
  -- a step for every entry and one for its value are fewer than the characters allow
  have hfuel : (e :: es').length < 2 * ('{' :: body).length + 1 := by
    have hlength := length_le_writeEntries (e :: es')
    simp only [hbody, List.length_cons, List.length_append] at hlength ⊢
    omega
  obtain ⟨position', hentries⟩ := readEntries_write (maxLevels - 1) [] hes hplain
    (2 * ('{' :: body).length + 1) 1 hfuel
  rw [← hbody] at hentries
  have hskip : Cursor.skip ⟨1, body⟩ = ⟨1, body⟩ := by
    rw [hbody, hxs]
    exact skip_cons (by decide) _ _
  have hopen : (body.head? == some '}') = false := by
    rw [hbody, hxs]
    rfl
  rw [hchars, readAll, if_neg (by rw [List.head?_cons]; decide), skip_cons (by decide), readValue]
  simp only [Cursor.advance, List.drop_succ_cons, List.drop_zero, hskip, hopen]
  rw [if_neg (by decide), if_neg Bool.false_ne_true, hentries]
  rfl

/-! ### Lines -/

/-- A carriage return is written by an escape. -/
theorem not_mem_writeChar (c : Char) : '\r' ∉ writeChar compact c := by
  obtain ⟨d, hshort, hwrite⟩ | ⟨hctl, hwrite⟩ | ⟨-, -, hctl, hwrite⟩ := writeChar_cases c
  · rw [hwrite, List.mem_cons, List.mem_singleton]
    rintro (h | rfl)
    · exact absurd h (by decide)
    · cases hshort
  · have hescapes : ∀ n < 0x20, '\r' ∉ unitEscape n := by decide
    rw [hwrite]
    exact hescapes c.toNat hctl
  · rw [hwrite, List.mem_singleton]
    rintro rfl
    exact hctl (by decide)

theorem not_mem_writeScalar {s : Scalar} (hs : Plain s) :
    '\r' ∉ (writeScalar compact s).toList := by
  cases hs with
  | text s => simp [writeScalar, writeText, not_mem_writeChar]
  | @int i =>
    rw [writeScalar, toList_toString, intChars, List.mem_append]
    rintro (hsign | hdigit)
    · split at hsign
      · exact absurd hsign (by decide)
      · cases hsign
    · exact absurd (isDigit_of_mem_toDigits hdigit) (by decide)

theorem not_mem_writeEntries {es : List (String × Scalar)} (hplain : ∀ e ∈ es, Plain e.2) :
    '\r' ∉ (write.writeEntries compact (textEntries es)).toList := by
  induction es with
  | nil => exact List.not_mem_nil
  | cons e es ih =>
    have hentry : '\r' ∉ entryChars e.1 e.2 := by
      simp [entryChars, not_mem_writeChar, not_mem_writeScalar (hplain e List.mem_cons_self)]
    have hmore := ih fun e' he' => hplain e' (List.mem_cons_of_mem e he')
    cases es with
    | nil =>
      rw [textEntries_cons]
      exact (writeEntries_single e.1 e.2).symm ▸ hentry
    | cons e' es =>
      rw [textEntries_cons, textEntries_cons, writeEntries_cons, ← textEntries_cons]
      simp [hentry, hmore]

/-- What is written for a dictionary stands on one line. -/
theorem not_mem_write {es : List (String × Scalar)} (hplain : ∀ e ∈ es, Plain e.2) :
    '\r' ∉ (write compact (.dict (textEntries es))).toList := by
  simp [write, not_mem_writeEntries hplain]

end Json

end DealWatch
