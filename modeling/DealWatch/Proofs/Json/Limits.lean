import DealWatch.Json.Reader

/-!
# The limits of the reader

Two faults of a text are none of its form: an integer has too many digits, or too many lists and
dictionaries are inside of each other. A text without long rows of digits and with few opening
brackets has neither (`read_limits`).

`Within` says of what a reader gives that it goes on in the text, or fails for a reason that the
text has. The readers of values, items and entries call each other, so it is proved of the three at
once, by induction on the fuel (`readersWithin`). A bracket that opens a list or a dictionary is
paid for by the level that is used up inside (`Within.inner`).

That a text with many brackets has too many levels is not said, as they may stand side by side.
-/

namespace DealWatch

namespace Json

/-- The number of brackets and braces that open. -/
def openings (cs : List Char) : Nat := cs.countP fun c => c == '[' || c == '{'

/-- Whether a text has a row of more digits than are converted. -/
def HasLongRow (cs : List Char) : Prop :=
  ∃ ds, ds <:+: cs ∧ ds.all isDigit = true ∧ maxDigits < ds.length

/-- A reader that starts at some characters goes on in them, or it fails. It fails at a limit only if
the characters can reach it. -/
def Within (levels : Nat) (cs : List Char) {α : Type} : Except Error (α × Cursor) → Prop
  | .ok (_, c) => c.rest <:+ cs
  | .error e =>
    (e.fault = .tooDeep → levels < openings cs) ∧ (e.fault = .longInteger → HasLongRow cs)

section Readers

variable {α β : Type} {levels : Nat} {cs cs' : List Char}

theorem openings_le (h : cs' <:+ cs) : openings cs' ≤ openings cs := h.sublist.countP_le

theorem HasLongRow.of_suffix (hrow : HasLongRow cs') (h : cs' <:+ cs) : HasLongRow cs := by
  obtain ⟨ds, hds, hdigits, hlength⟩ := hrow
  exact ⟨ds, hds.trans h.isInfix, hdigits, hlength⟩

theorem within_error {fault : Fault} (hdeep : fault ≠ .tooDeep) (hlong : fault ≠ .longInteger)
    (position : Nat) : Within levels cs (.error ⟨fault, position⟩ : Except Error (α × Cursor)) :=
  ⟨fun h => absurd h hdeep, fun h => absurd h hlong⟩

theorem Within.of_suffix {x : Except Error (α × Cursor)} (hx : Within levels cs' x)
    (h : cs' <:+ cs) : Within levels cs x := by
  rcases x with e | ⟨a, c⟩
  · exact ⟨fun he => Nat.lt_of_lt_of_le (hx.1 he) (openings_le h), fun he => (hx.2 he).of_suffix h⟩
  · exact hx.trans h

/-- A reader that goes on after another one. -/
theorem Within.bind {x : Except Error (α × Cursor)} {f : α × Cursor → Except Error (β × Cursor)}
    (hx : Within levels cs x) (hf : ∀ a c, c.rest <:+ cs → Within levels cs (f (a, c))) :
    Within levels cs (x >>= f) := by
  rcases x with e | ⟨a, c⟩
  · exact hx
  · exact hf a c hx

/-- Behind an opening bracket one level is used up. -/
theorem Within.inner {b : Char} (hb : (b == '[' || b == '{') = true) {x : Except Error (α × Cursor)}
    (hx : Within (levels - 1) cs x) : Within levels (b :: cs) x := by
  rcases x with e | ⟨a, c⟩
  · refine ⟨fun he => ?_, fun he => (hx.2 he).of_suffix (List.suffix_cons b cs)⟩
    have hlt := hx.1 he
    rw [openings, List.countP_cons, if_pos hb, ← openings]
    omega
  · exact hx.trans (List.suffix_cons b cs)

end Readers

theorem Cursor.advance_suffix (c : Cursor) (n : Nat) : (c.advance n).rest <:+ c.rest :=
  List.drop_suffix n c.rest

theorem Cursor.skip_suffix (c : Cursor) : c.skip.rest <:+ c.rest := c.advance_suffix _

/-! ### Texts -/

theorem fault_of_unicodeEscape {position : Nat} {cs : List Char} {e : Error}
    (h : unicodeEscape position cs = .error e) : e.fault = .badUnicodeEscape := by
  unfold unicodeEscape at h
  repeat' split at h
  all_goals cases h
  all_goals rfl

theorem textBody_within (levels start position : Nat) (cs : List Char) :
    Within levels cs (textBody start position cs) := by
  fun_induction textBody start position cs with
  | case1 | case3 | case6 | case8 => exact within_error (by decide) (by decide) _
  | case2 => exact List.suffix_cons _ _
  | case4 position rest e he =>
    have hfault := fault_of_unicodeEscape he
    exact ⟨fun h => absurd (hfault.symm.trans h) (by decide),
      fun h => absurd (hfault.symm.trans h) (by decide)⟩
  | case5 position rest n width hescape hquote ih =>
    have hsuffix : rest.drop width <:+ '\\' :: 'u' :: rest :=
      (List.drop_suffix width rest).trans ((List.suffix_cons _ _).trans (List.suffix_cons _ _))
    exact (ih.of_suffix hsuffix).bind fun _ _ hc => hc
  | case7 position c rest _ d _ _ ih =>
    have hsuffix : rest <:+ '\\' :: c :: rest := (List.suffix_cons _ _).trans (List.suffix_cons _ _)
    exact (ih.of_suffix hsuffix).bind fun _ _ hc => hc
  | case9 position c rest _ _ _ ih =>
    exact (ih.of_suffix (List.suffix_cons c rest)).bind fun _ _ hc => hc

theorem readText_within (levels : Nat) (c : Cursor) : Within levels c.rest (readText c) :=
  (textBody_within levels _ _ c.rest).bind fun _ _ hc => hc

/-! ### Numbers -/

/-- The digits of a number before its point stand in the text. -/
theorem whole_of_numeral? {cs : List Char} {n : Numeral} {width : Nat}
    (h : numeral? cs = some (n, width)) :
    n.whole = ['0'] ∨ ∃ k, n.whole = (cs.drop k).takeWhile isDigit := by
  unfold numeral? at h
  dsimp only at h
  generalize (if (cs.head? == some '-') = true then 1 else 0) = k at h
  generalize hwhole : (if ((cs.drop k).head? == some '0') = true then ['0']
    else (cs.drop k).takeWhile isDigit) = whole at h
  have hfound : n.whole = whole := by
    split at h
    · cases h
    · split at h
      all_goals
        cases h
        rfl
  rw [hfound, ← hwhole]
  split
  · exact .inl rfl
  · exact .inr ⟨k, rfl⟩

/-- Only an integer with too many digits has no value. -/
theorem length_of_value? {n : Numeral} (h : n.value? = none) : maxDigits < n.whole.length := by
  unfold Numeral.value? at h
  split at h
  · split at h
    · assumption
    · cases h
  · cases h

theorem hasLongRow_of_numeral? {cs : List Char} {n : Numeral} {width : Nat}
    (h : numeral? cs = some (n, width)) (hvalue : n.value? = none) : HasLongRow cs := by
  have hlength := length_of_value? hvalue
  obtain hzero | ⟨k, hk⟩ := whole_of_numeral? h
  · rw [hzero] at hlength
    exact absurd hlength (by decide)
  · refine ⟨n.whole, ?_, ?_, hlength⟩
    · rw [hk]
      exact (List.takeWhile_prefix isDigit).isInfix.trans (List.drop_suffix k cs).isInfix
    · rw [hk]
      exact List.all_takeWhile

theorem readPlain_within (levels : Nat) (c : Cursor) : Within levels c.rest (readPlain c) := by
  unfold readPlain
  split
  · exact c.advance_suffix _
  · split
    · rename_i n width hnumeral
      split
      · exact c.advance_suffix _
      · rename_i hvalue
        exact ⟨nofun, fun _ => hasLongRow_of_numeral? hnumeral hvalue⟩
    · exact within_error (by decide) (by decide) _

/-! ### Values -/

/-- What is left behind the first character of a text, and behind blanks after it. -/
theorem Cursor.next_suffix {c : Cursor} {b : Char} {tail : List Char} (h : c.rest = b :: tail) :
    (c.advance 1).skip.rest <:+ tail := by
  have hnext : (c.advance 1).rest = tail := by rw [Cursor.advance, h]; rfl
  exact hnext ▸ (c.advance 1).skip_suffix

/-- Behind an opening bracket either the closing one follows, or there is content inside of one
level less. -/
theorem within_opening {c : Cursor} {b : Char} {tail : List Char} (hc : c.rest = b :: tail)
    (hb : (b == '[' || b == '{') = true) {levels : Nat} (isEmpty : Bool) (empty : Datum)
    {content : Except Error (Datum × Cursor)}
    (hcontent : Within (levels - 1) (c.advance 1).skip.rest content) :
    Within levels c.rest
      (if levels = 0 then c.fail .tooDeep
      else if isEmpty then .ok (empty, (c.advance 1).skip.advance 1) else content) := by
  have hnext := Cursor.next_suffix hc
  rw [hc]
  split
  · rename_i hlevels
    refine ⟨fun _ => ?_, fun h => by cases h⟩
    rw [openings, List.countP_cons, if_pos hb]
    omega
  · split
    · exact (Cursor.advance_suffix _ 1).trans (hnext.trans (List.suffix_cons b tail))
    · exact (hcontent.of_suffix hnext).inner hb

/-- What the readers of values, items and entries do with some fuel. -/
structure ReadersWithin (fuel : Nat) : Prop where
  value : ∀ levels c, Within levels c.rest (readValue levels fuel c)
  items : ∀ levels c, Within levels c.rest (readItems levels fuel c)
  entries : ∀ levels c, Within levels c.rest (readEntries levels fuel c)

namespace ReadersWithin

variable {fuel : Nat}

theorem value_succ (ih : ReadersWithin fuel) (levels : Nat) (c : Cursor) :
    Within levels c.rest (readValue levels (fuel + 1) c) := by
  rw [readValue]
  split
  · exact ((readText_within levels _).of_suffix (c.advance_suffix 1)).bind fun _ _ hc => hc
  · rename_i hc
    exact within_opening hc rfl _ _ ((ih.items (levels - 1) _).bind fun _ _ hc => hc)
  · rename_i hc
    exact within_opening hc rfl _ _ ((ih.entries (levels - 1) _).bind fun _ _ hc => hc)
  · exact readPlain_within levels c

theorem items_succ (ih : ReadersWithin fuel) (levels : Nat) (c : Cursor) :
    Within levels c.rest (readItems levels (fuel + 1) c) := by
  rw [readItems]
  refine (ih.value levels c).bind fun item c' hc' => ?_
  have hskip : c'.skip.rest <:+ c.rest := c'.skip_suffix.trans hc'
  dsimp only
  split
  · exact (c'.skip.advance_suffix 1).trans hskip
  · have hnext : (c'.skip.advance 1).skip.rest <:+ c.rest :=
      (Cursor.skip_suffix _).trans ((c'.skip.advance_suffix 1).trans hskip)
    exact ((ih.items levels _).of_suffix hnext).bind fun _ _ hc => hc
  · exact within_error (by decide) (by decide) _

theorem entries_succ (ih : ReadersWithin fuel) (levels : Nat) (c : Cursor) :
    Within levels c.rest (readEntries levels (fuel + 1) c) := by
  rw [readEntries]
  split
  · refine ((readText_within levels _).of_suffix (c.advance_suffix 1)).bind fun key c' hc' => ?_
    have hskip : c'.skip.rest <:+ c.rest := c'.skip_suffix.trans hc'
    dsimp only
    split
    · exact within_error (by decide) (by decide) _
    · have hnext : (c'.skip.advance 1).skip.rest <:+ c.rest :=
        (Cursor.skip_suffix _).trans ((c'.skip.advance_suffix 1).trans hskip)
      refine ((ih.value levels _).of_suffix hnext).bind fun value d hd => ?_
      have hdskip : d.skip.rest <:+ c.rest := d.skip_suffix.trans hd
      dsimp only
      split
      · exact (d.skip.advance_suffix 1).trans hdskip
      · have hdnext : (d.skip.advance 1).skip.rest <:+ c.rest :=
          (Cursor.skip_suffix _).trans ((d.skip.advance_suffix 1).trans hdskip)
        exact ((ih.entries levels _).of_suffix hdnext).bind fun _ _ hc => hc
      · exact within_error (by decide) (by decide) _
  · exact within_error (by decide) (by decide) _

end ReadersWithin

theorem readersWithin (fuel : Nat) : ReadersWithin fuel := by
  induction fuel with
  | zero =>
    refine ⟨fun levels c => ?_, fun levels c => ?_, fun levels c => ?_⟩
    · rw [readValue]; exact within_error (by decide) (by decide) _
    · rw [readItems]; exact within_error (by decide) (by decide) _
    · rw [readEntries]; exact within_error (by decide) (by decide) _
  | succ fuel ih => exact ⟨ih.value_succ, ih.items_succ, ih.entries_succ⟩

/-- **The limits of the reader** are reached only by texts with many opening brackets or with a long
row of digits. -/
theorem read_limits {text : List Char} {e : Error} (h : read text = .error e) :
    (e.fault = .tooDeep → maxLevels < openings text) ∧
      (e.fault = .longInteger → HasLongRow text) := by
  have hstart : (Cursor.mk 0 text).skip.rest <:+ text := Cursor.skip_suffix _
  have hread := ((readersWithin (2 * text.length + 2)).value maxLevels
    (Cursor.mk 0 text).skip).of_suffix hstart
  have hall : readAll text = .error e := by
    cases hvalue : readAll text with
    | error e' =>
      rw [read, hvalue] at h
      exact h
    | ok d =>
      rw [read, hvalue] at h
      cases h
  unfold readAll at hall
  split at hall
  · cases hall
    exact ⟨nofun, nofun⟩
  · cases hvalue : readValue maxLevels (2 * text.length + 2) (Cursor.mk 0 text).skip with
    | error e' =>
      rw [hvalue] at hall hread
      cases hall
      exact hread
    | ok found =>
      obtain ⟨value, c⟩ := found
      rw [hvalue] at hall
      simp only [bind, Except.bind] at hall
      split at hall
      · cases hall
      · cases hall
        exact ⟨nofun, nofun⟩

end Json

end DealWatch
