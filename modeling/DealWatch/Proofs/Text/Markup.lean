import DealWatch.Text.Markup
import Mathlib.Data.List.TakeWhile

/-!
# Escaped texts have no tags

None of the parts of an escaped text is taken for a tag, and no tag arises where it meets what
stands behind it.

* `tagInduction` is the induction over the tags and the other characters of a text;
* `partsFrom_cons`, `partsFrom_withTag` take a text apart along it, `escapeTags_cons` and
  `escapeTags_withTag` escape it;
* `exists_pieces` takes an escaped text apart into pieces of the text.

Escaping doubles the backslashes before a tag and adds one, so the tag is read as text. What stands
behind the escaped text could still close a bracket that is open at its end, or make a tag that a
backslash at its end escapes: `Pieces` leaves both out.
-/

namespace DealWatch

namespace Markup

/-! ### Tags -/

/-- The first bracket of a text. -/
def firstBracket? (cs : List Char) : Option Char := cs.find? fun c => c == ']' || c == '['

/-- What can stand in the brackets of a tag. -/
structure IsInside (inside : List Char) : Prop where
  starts : inside.head?.any startsTag = true
  plain : firstBracket? inside = none

/-- A tag with backslashes before it and a text behind it. -/
def withTag (count : Nat) (inside rest : List Char) : List Char :=
  List.replicate count '\\' ++ '[' :: (inside ++ ']' :: rest)

theorem withTag_append (count : Nat) (inside t u : List Char) :
    withTag count inside t ++ u = withTag count inside (t ++ u) := by
  simp [withTag]

theorem firstBracket?_append (u v : List Char) :
    firstBracket? (u ++ v) = (firstBracket? u).or (firstBracket? v) := List.find?_append

theorem firstBracket?_backslashes (count : Nat) (cs : List Char) :
    firstBracket? (List.replicate count '\\' ++ cs) = firstBracket? cs := by
  rw [firstBracket?_append, Option.or_eq_right_of_none]
  exact List.find?_eq_none.2 fun c hc => by rw [List.eq_of_mem_replicate hc]; decide

theorem firstBracket?_withTag (count : Nat) (inside rest : List Char) :
    firstBracket? (withTag count inside rest) = some '[' :=
  firstBracket?_backslashes count _

theorem IsInside.takeWhile {inside : List Char} (h : IsInside inside) (rest : List Char) :
    (inside ++ ']' :: rest).takeWhile (fun c => c != ']' && c != '[') = inside := by
  rw [List.takeWhile_append_of_pos, List.takeWhile_cons_of_neg (by decide), List.append_nil]
  intro c hc
  have hplain := List.find?_eq_none.1 h.plain c hc
  simpa using hplain

theorem tagInside?_append {inside : List Char} (h : IsInside inside) (rest : List Char) :
    tagInside? (inside ++ ']' :: rest) = some inside := by
  unfold tagInside?
  simp only [h.takeWhile, List.drop_left]
  cases inside with
  | nil => exact absurd h.starts (by decide)
  | cons c tail => exact if_pos h.starts

theorem plain_of_startsTag {c : Char} (h : startsTag c = true) :
    (c != ']' && c != '[') = true := by
  rw [Bool.and_eq_true, bne_iff_ne, bne_iff_ne]
  constructor
  all_goals
    rintro rfl
    exact absurd h (by decide)

theorem of_tagInside? {cs inside : List Char} (h : tagInside? cs = some inside) :
    IsInside inside ∧ ∃ rest, cs = inside ++ ']' :: rest := by
  have hcut := List.prefix_iff_eq_append.1
    (List.takeWhile_prefix (l := cs) fun c => c != ']' && c != '[')
  simp only [tagInside?] at h
  split at h
  · rename_i c tail more hdrop
    rw [hdrop] at hcut
    split at h
    · rename_i hc
      obtain rfl := Option.some.inj h
      refine ⟨⟨?_, List.find?_eq_none.2 fun d hd => ?_⟩, more, hcut.symm⟩
      · rw [List.takeWhile_cons, if_pos (plain_of_startsTag hc)]
        exact hc
      · have hd := List.mem_takeWhile_imp hd
        simpa using hd
    · cases h
  · cases h

/-- There is a tag behind a bracket if its name can start there and a closing bracket comes
first. -/
theorem tagInside?_ne_none_iff {cs : List Char} :
    tagInside? cs ≠ none ↔ cs.head?.any startsTag = true ∧ firstBracket? cs = some ']' := by
  constructor
  · intro h
    obtain ⟨inside, hinside⟩ := Option.ne_none_iff_exists'.1 h
    obtain ⟨hi, rest, rfl⟩ := of_tagInside? hinside
    refine ⟨?_, by rw [firstBracket?_append, hi.plain]; rfl⟩
    cases inside with
    | nil => exact absurd hi.starts (by decide)
    | cons c tail => exact hi.starts
  · rintro ⟨hstarts, hbracket⟩
    obtain ⟨-, inside, rest, rfl, hplain⟩ := List.find?_eq_some_iff_append.1 hbracket
    rw [tagInside?_append ⟨?_, List.find?_eq_none.2 fun c hc => by simpa using hplain c hc⟩]
    · exact Option.some_ne_none inside
    · cases inside with
      | nil => exact absurd (show startsTag ']' = true from hstarts) (by decide)
      | cons c tail => exact hstarts

theorem tagAt?_bracket (cs : List Char) :
    tagAt? ('[' :: cs) = (tagInside? cs).map fun inside => (0, inside) := rfl

/-- A backslash in front counts with those before a tag. -/
theorem tagAt?_backslash (cs : List Char) :
    tagAt? ('\\' :: cs) = (tagAt? cs).map fun found => (found.1 + 1, found.2) := by
  have hrun : ('\\' :: cs).takeWhile (· == '\\') = '\\' :: cs.takeWhile (· == '\\') :=
    List.takeWhile_cons_of_pos rfl
  simp only [tagAt?, hrun, List.length_cons, List.drop_succ_cons]
  split
  · rw [Option.map_map]
    rfl
  · rfl

theorem tagAt?_other {c : Char} (hb : c ≠ '\\') (ht : c ≠ '[') (cs : List Char) :
    tagAt? (c :: cs) = none := by
  rw [tagAt?, List.takeWhile_cons_of_neg (by simpa using hb)]
  split
  · rename_i h
    exact absurd (List.cons.inj h).1 ht
  · rfl

theorem tagAt?_withTag {inside : List Char} (h : IsInside inside) (count : Nat)
    (rest : List Char) : tagAt? (withTag count inside rest) = some (count, inside) := by
  induction count with
  | zero => exact congrArg (Option.map _) (tagInside?_append h rest)
  | succ count ih =>
    rw [withTag, List.replicate_succ, List.cons_append, tagAt?_backslash, ← withTag, ih]
    rfl

theorem of_tagAt? {cs inside : List Char} {count : Nat} (h : tagAt? cs = some (count, inside)) :
    IsInside inside ∧ ∃ rest, cs = withTag count inside rest := by
  induction cs generalizing count with
  | nil => cases h
  | cons c cs ih =>
    by_cases hb : c = '\\'
    · subst hb
      rw [tagAt?_backslash] at h
      obtain ⟨⟨k, _⟩, hfound, heq⟩ := Option.map_eq_some_iff.1 h
      cases heq
      obtain ⟨hinside, rest, rfl⟩ := ih hfound
      exact ⟨hinside, rest, rfl⟩
    · by_cases ht : c = '['
      · subst ht
        rw [tagAt?_bracket] at h
        obtain ⟨_, hfound, heq⟩ := Option.map_eq_some_iff.1 h
        cases heq
        obtain ⟨hinside, rest, rfl⟩ := of_tagInside? hfound
        exact ⟨hinside, rest, rfl⟩
      · rw [tagAt?_other hb ht] at h
        cases h

theorem length_lt_withTag (count : Nat) (inside rest : List Char) :
    rest.length < (withTag count inside rest).length := by
  simp only [withTag, List.length_append, List.length_cons]
  omega

/-- A text is empty, begins with a tag behind backslashes, or begins with a character that belongs
to no tag. -/
theorem tagInduction {motive : List Char → Prop} (nil : motive [])
    (tag : ∀ count inside rest, IsInside inside → motive rest → motive (withTag count inside rest))
    (char : ∀ c rest, tagAt? (c :: rest) = none → motive rest → motive (c :: rest))
    (cs : List Char) : motive cs := by
  induction hlength : cs.length using Nat.strongRecOn generalizing cs with
  | _ n ih =>
    cases cs with
    | nil => exact nil
    | cons c cs =>
      cases htag : tagAt? (c :: cs) with
      | none => exact char c cs htag (ih cs.length (by simp [← hlength]) cs rfl)
      | some found =>
        obtain ⟨hinside, rest, heq⟩ := of_tagAt? htag
        rw [heq]
        refine tag _ _ rest hinside (ih rest.length ?_ rest rfl)
        rw [← hlength, heq]
        exact length_lt_withTag _ _ rest

/-! ### Texts tag by tag -/

theorem drop_withTag (count : Nat) (inside rest : List Char) :
    (withTag count inside rest).drop (count + inside.length + 2) = rest := by
  have hlength : count + inside.length + 2 =
      (List.replicate count '\\' ++ '[' :: (inside ++ [']'])).length := by
    simp only [List.length_append, List.length_replicate, List.length_cons, List.length_nil]
    omega
  rw [hlength, show withTag count inside rest =
    (List.replicate count '\\' ++ '[' :: (inside ++ [']'])) ++ rest by simp [withTag]]
  exact List.drop_left

theorem exists_withTag_eq_cons (count : Nat) (inside rest : List Char) :
    ∃ c cs, withTag count inside rest = c :: cs :=
  List.exists_cons_of_ne_nil (by simp [withTag])

theorem partsFrom_withTag {inside : List Char} (h : IsInside inside) (count : Nat)
    (plain rest : List Char) :
    partsFrom plain (withTag count inside rest) =
      .text plain.reverse :: tagParts count inside ++ partsFrom [] rest := by
  have htag := tagAt?_withTag h count rest
  have hdrop := drop_withTag count inside rest
  obtain ⟨c, cs, heq⟩ := exists_withTag_eq_cons count inside rest
  rw [heq] at htag hdrop ⊢
  rw [partsFrom]
  simp only [htag]
  rw [← hdrop, List.drop_succ_cons]

theorem takeWhile_backslash (cs : List Char) :
    '\\' :: cs.takeWhile (· == '\\') = cs.takeWhile (· == '\\') ++ ['\\'] := by
  rw [List.eq_replicate_of_mem (l := cs.takeWhile (· == '\\')) fun c hc => by
    simpa using List.mem_takeWhile_imp hc]
  rw [← List.replicate_succ, List.replicate_succ']

theorem partsFrom_cons {c : Char} {cs : List Char} (h : tagAt? (c :: cs) = none)
    (plain : List Char) : partsFrom plain (c :: cs) = partsFrom (c :: plain) cs := by
  rw [partsFrom]
  simp only [h]
  split
  · rename_i hc
    subst hc
    cases cs with
    | nil => rfl
    | cons d cs =>
      by_cases hd : d = '\\'
      · subst hd
        rw [tagAt?_backslash, Option.map_eq_none_iff] at h
        rw [partsFrom]
        simp only [h, if_true, List.takeWhile_cons, beq_self_eq_true, List.length_cons,
          List.drop_succ_cons]
        rw [takeWhile_backslash, List.append_assoc]
        rfl
      · rw [List.takeWhile_cons_of_neg (by simpa using hd)]
        rfl
  · rfl

theorem escapeTags_withTag {inside : List Char} (h : IsInside inside) (count : Nat)
    (rest : List Char) :
    escapeTags (withTag count inside rest) = withTag (2 * count + 1) inside (escapeTags rest) := by
  have htag := tagAt?_withTag h count rest
  have hdrop := drop_withTag count inside rest
  obtain ⟨c, cs, heq⟩ := exists_withTag_eq_cons count inside rest
  rw [heq] at htag hdrop ⊢
  rw [escapeTags]
  simp only [htag]
  rw [← hdrop, List.drop_succ_cons, withTag, List.append_assoc]
  rfl

theorem escapeTags_cons {c : Char} {cs : List Char} (h : tagAt? (c :: cs) = none) :
    escapeTags (c :: cs) = c :: escapeTags cs := by
  rw [escapeTags]
  simp only [h]
  split
  · rename_i hc
    subst hc
    cases cs with
    | nil => rfl
    | cons d cs =>
      by_cases hd : d = '\\'
      · subst hd
        rw [tagAt?_backslash, Option.map_eq_none_iff] at h
        rw [escapeTags]
        simp only [h, if_true, List.takeWhile_cons, beq_self_eq_true, List.length_cons,
          List.drop_succ_cons]
        rfl
      · rw [List.takeWhile_cons_of_neg (by simpa using hd)]
        rfl
  · rfl

/-! ### Where texts meet -/

/-- What stands behind a text closes no bracket of it. -/
theorem tagInside?_append_eq_none {cs t : List Char} (h : tagInside? cs = none)
    (ht : firstBracket? t ≠ some ']') : tagInside? (cs ++ t) = none := by
  by_contra hne
  obtain ⟨hstarts, hbracket⟩ := tagInside?_ne_none_iff.1 hne
  rw [firstBracket?_append, Option.or_eq_some_iff] at hbracket
  obtain hcs | ⟨-, hbracket⟩ := hbracket
  · cases cs with
    | nil => cases hcs
    | cons c cs =>
      have hne : tagInside? (c :: cs) ≠ none := tagInside?_ne_none_iff.2 ⟨hstarts, hcs⟩
      exact hne h
  · exact ht hbracket

/-- A text that begins with no tag begins with none if another one stands behind it. Only
backslashes at its end could be those before a tag. -/
theorem tagAt?_append_eq_none {cs t : List Char} (h : tagAt? cs = none) (hne : cs ≠ [])
    (ht : firstBracket? t ≠ some ']') (hlast : cs.getLast? = some '\\' → tagAt? t = none) :
    tagAt? (cs ++ t) = none := by
  induction cs with
  | nil => exact absurd rfl hne
  | cons c cs ih =>
    rw [List.cons_append]
    by_cases hb : c = '\\'
    · subst hb
      rw [tagAt?_backslash, Option.map_eq_none_iff] at h ⊢
      cases cs with
      | nil => exact hlast rfl
      | cons d cs => exact ih h (List.cons_ne_nil d cs) hlast
    · by_cases ho : c = '['
      · subst ho
        rw [tagAt?_bracket, Option.map_eq_none_iff] at h ⊢
        exact tagInside?_append_eq_none h ht
      · exact tagAt?_other hb ho _

/-- A text in which a closing bracket comes first begins with no tag. -/
theorem tagAt?_eq_none_of_closing {cs : List Char} (h : firstBracket? cs = some ']') :
    tagAt? cs = none := by
  by_contra hne
  obtain ⟨found, hfound⟩ := Option.ne_none_iff_exists'.1 hne
  obtain ⟨-, rest, rfl⟩ := of_tagAt? hfound
  rw [firstBracket?_withTag] at h
  cases h

/-! ### Escaping -/

theorem firstBracket?_escapeTags (cs : List Char) :
    firstBracket? (escapeTags cs) = firstBracket? cs := by
  induction cs using tagInduction with
  | nil => rw [escapeTags]
  | tag count inside rest h => rw [escapeTags_withTag h, firstBracket?_withTag, firstBracket?_withTag]
  | char c rest h ih =>
    rw [escapeTags_cons h, firstBracket?, List.find?_cons, firstBracket?, List.find?_cons]
    split
    · rfl
    · exact ih

theorem getLast?_withTag (count : Nat) (inside rest : List Char) :
    (withTag count inside rest).getLast? = some (rest.getLast?.getD ']') := by
  simp [withTag, List.getLast?_append, List.getLast?_cons]

theorem getLast?_escapeTags (cs : List Char) : (escapeTags cs).getLast? = cs.getLast? := by
  induction cs using tagInduction with
  | nil => rw [escapeTags]
  | tag count inside rest h ih => rw [escapeTags_withTag h, getLast?_withTag, getLast?_withTag, ih]
  | char c rest h ih => rw [escapeTags_cons h, List.getLast?_cons, List.getLast?_cons, ih]

theorem escapeTags_ne_nil {cs : List Char} (h : cs ≠ []) : escapeTags cs ≠ [] := by
  intro hnil
  have hlast := getLast?_escapeTags cs
  rw [hnil, List.getLast?_nil] at hlast
  exact h (List.getLast?_eq_none_iff.1 hlast.symm)

/-- A text that begins with no tag begins with none when it is escaped. -/
theorem tagAt?_escapeTags {cs : List Char} (h : tagAt? cs = none) :
    tagAt? (escapeTags cs) = none := by
  induction cs with
  | nil => rw [escapeTags]; rfl
  | cons c cs ih =>
    rw [escapeTags_cons h]
    by_cases hb : c = '\\'
    · subst hb
      rw [tagAt?_backslash, Option.map_eq_none_iff] at h ⊢
      exact ih h
    · by_cases ho : c = '['
      · subst ho
        rw [tagAt?_bracket, Option.map_eq_none_iff] at h ⊢
        by_contra hne
        obtain ⟨hstarts, hbracket⟩ := tagInside?_ne_none_iff.1 hne
        rw [firstBracket?_escapeTags] at hbracket
        -- no tag begins the rest, so that its first character is still the first
        have hhead : (escapeTags cs).head? = cs.head? := by
          have hnone := tagAt?_eq_none_of_closing hbracket
          cases cs with
          | nil => rw [escapeTags]
          | cons d cs => rw [escapeTags_cons hnone]; rfl
        rw [hhead] at hstarts
        exact tagInside?_ne_none_iff.2 ⟨hstarts, hbracket⟩ h
      · exact tagAt?_other hb ho _

theorem escapeTags_concat (cs : List Char) :
    escapeTags (cs ++ ['\\']) = escapeTags cs ++ ['\\'] := by
  induction cs using tagInduction with
  | nil => rw [List.nil_append, escapeTags_cons rfl, escapeTags, List.nil_append]
  | tag count inside rest h ih =>
    rw [withTag_append, escapeTags_withTag h, ih, escapeTags_withTag h, withTag_append]
  | char c rest h ih =>
    have hnone := tagAt?_append_eq_none (t := ['\\']) h (List.cons_ne_nil c rest) (by decide)
      fun _ => rfl
    rw [List.cons_append] at hnone ⊢
    rw [escapeTags_cons hnone, ih, escapeTags_cons h, List.cons_append]

theorem getLast?_of_endsInBackslash {cs : List Char} (h : endsInBackslash cs = true) :
    cs.getLast? = some '\\' := by
  rw [← List.head?_reverse]
  unfold endsInBackslash at h
  split at h
  · cases h
  · rename_i hcs
    rw [hcs]
    rfl
  · cases h

/-- Escaping a text means putting backslashes before its tags, after one more backslash behind a text
that ends in one. -/
theorem exists_escape_eq (s : String) :
    ∃ cs, (escape s).toList = escapeTags cs ∧ cs.getLast? = s.toList.getLast? ∧
      (s.toList.getLast? ≠ some '\\' → cs = s.toList) := by
  by_cases hends : endsInBackslash (escapeTags s.toList) = true
  · have hlast := getLast?_of_endsInBackslash hends
    rw [getLast?_escapeTags] at hlast
    refine ⟨s.toList ++ ['\\'], ?_, by simp [hlast], fun hno => absurd hlast hno⟩
    simp [escape, hends, escapeTags_concat]
  · exact ⟨s.toList, by simp [escape, hends], rfl, fun _ => rfl⟩

/-! ### Pieces -/

/-- The parts of a text in pieces, with a text before and a text behind it: the first belongs to
the first piece, and the second to the last one. -/
def joinParts (plain : List Char) : List (List Char) → List Char → List Part
  | [], t => partsFrom plain t
  | [p], t => partsFrom (p.reverse ++ plain) t
  | p :: q :: ps, t => .text (plain.reverse ++ p) :: joinParts [] (q :: ps) t

theorem joinParts_cons {ps : List (List Char)} (h : ps ≠ []) (plain p t : List Char) :
    joinParts plain (p :: ps) t = .text (plain.reverse ++ p) :: joinParts [] ps t := by
  cases ps with
  | nil => exact absurd rfl h
  | cons q ps => rfl

/-- The texts that stand for backslashes and a tag which are escaped. -/
def tagTexts (count : Nat) (inside : List Char) : List (List Char) :=
  (if count = 0 then [] else [List.replicate count '\\']) ++ ['[' :: inside ++ [']']]

theorem tagParts_escaped (count : Nat) (inside : List Char) :
    tagParts (2 * count + 1) inside = (tagTexts count inside).map .text := by
  have hhalf : (2 * count + 1) / 2 = count := by omega
  have hodd : (2 * count + 1) % 2 = 1 := by omega
  rw [tagParts, tagTexts, hhalf, if_pos hodd]
  by_cases hcount : count = 0
  · subst hcount
    rfl
  · rw [if_neg (by omega), if_neg hcount]
    rfl

theorem joinParts_texts (texts : List (List Char)) {ps : List (List Char)} (h : ps ≠ [])
    (t : List Char) :
    joinParts [] (texts ++ ps) t = texts.map .text ++ joinParts [] ps t := by
  induction texts with
  | nil => rfl
  | cons p texts ih =>
    rw [List.cons_append, joinParts_cons (by simp [h]), ih]
    rfl

/-- The pieces of a text that are the parts of it when it is escaped. No part is a tag, and no tag
arises where another text stands behind it. -/
structure Pieces (cs : List Char) (ps : List (List Char)) : Prop where
  ne_nil : ps ≠ []
  flatten : ps.flatten = cs
  parts : ∀ plain t, firstBracket? t ≠ some ']' → (cs.getLast? = some '\\' → tagAt? t = none) →
    partsFrom plain (escapeTags cs ++ t) = joinParts plain ps t

theorem Pieces.withTag {count : Nat} {inside rest : List Char} {ps : List (List Char)}
    (h : IsInside inside) (hps : Pieces rest ps) :
    Pieces (withTag count inside rest) ([] :: (tagTexts count inside ++ ps)) := by
  have hne := hps.ne_nil
  refine ⟨by simp, ?_, fun plain t ht hlast => ?_⟩
  · simp only [List.flatten_cons, List.flatten_append, hps.flatten, tagTexts]
    by_cases hcount : count = 0 <;> simp [hcount, Markup.withTag]
  · have hrest : rest.getLast? = some '\\' → tagAt? t = none := by
      intro hrest
      exact hlast (by rw [getLast?_withTag, hrest]; rfl)
    rw [escapeTags_withTag h, withTag_append, partsFrom_withTag h, tagParts_escaped,
      joinParts_cons (by simp [hne]), joinParts_texts _ hne, hps.parts [] t ht hrest,
      List.append_nil]
    rfl

theorem Pieces.cons {c : Char} {rest p : List Char} {ps : List (List Char)}
    (h : tagAt? (c :: rest) = none) (hps : Pieces rest (p :: ps)) :
    Pieces (c :: rest) ((c :: p) :: ps) := by
  refine ⟨by simp, by simp [← hps.flatten], fun plain t ht hlast => ?_⟩
  have hrest : rest.getLast? = some '\\' → tagAt? t = none := by
    intro hrest
    exact hlast (by rw [List.getLast?_cons, hrest]; rfl)
  have hnone : tagAt? (escapeTags (c :: rest) ++ t) = none :=
    tagAt?_append_eq_none (tagAt?_escapeTags h) (escapeTags_ne_nil (List.cons_ne_nil c rest)) ht
      (by rwa [getLast?_escapeTags])
  rw [escapeTags_cons h, List.cons_append] at hnone ⊢
  rw [partsFrom_cons hnone, hps.parts (c :: plain) t ht hrest]
  cases ps with
  | nil => simp [joinParts]
  | cons q ps => simp [joinParts]

/-- **An escaped text has no tags**: its parts are pieces of the text. -/
theorem exists_pieces (cs : List Char) : ∃ ps, Pieces cs ps := by
  induction cs using tagInduction with
  | nil =>
    refine ⟨[[]], by simp, rfl, fun plain t _ _ => ?_⟩
    rw [escapeTags]
    rfl
  | tag count inside rest h ih =>
    obtain ⟨ps, hps⟩ := ih
    exact ⟨_, hps.withTag h⟩
  | char c rest h ih =>
    obtain ⟨ps, hps⟩ := ih
    obtain ⟨p, ps, rfl⟩ := List.exists_cons_of_ne_nil hps.ne_nil
    exact ⟨_, hps.cons h⟩

end Markup

end DealWatch
