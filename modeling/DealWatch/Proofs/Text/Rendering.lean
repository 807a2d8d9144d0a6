import DealWatch.Proofs.Text.Markup
import Mathlib.Data.List.Induction

/-!
# How escaped texts appear

An escaped text appears between other texts as it does alone, if what is shown of them does not
reach into it.

* `shown_append_blank` says that nothing reaches across a blank;
* `renderFrom_escape` says how an escaped text appears between others, `render_escape` how it
  appears alone, and `onScreen_eq_self` when that is the text itself;
* `renderFrom_append` and `renderFrom_inStyle` render the other texts.

Names of emoji between colons are replaced, and they may begin in one text and end in the next one.
So `renderFrom` has the text before it as an argument: a text is rendered from left to right by
rewriting, and what is still open is carried along.
-/

namespace DealWatch

namespace Markup

/-! ### Texts as they are shown -/

theorem takeWhile_append_blank {p : Char → Bool} (h : p ' ' = false) (u v : List Char) :
    (u ++ ' ' :: v).takeWhile p = u.takeWhile p := by
  rw [List.takeWhile_append, List.takeWhile_cons_of_neg (by simp [h]), List.append_nil]
  split
  · rename_i hlength
    exact (List.IsPrefix.eq_of_length (List.takeWhile_prefix p) hlength).symm
  · rfl

theorem withEmoji_cons_of_ne {c : Char} (h : c ≠ ':') (cs : List Char) :
    withEmoji (c :: cs) = c :: withEmoji cs := by
  rw [withEmoji]
  simp [h]

/-- No name of an emoji goes across a blank. -/
theorem withEmoji_append_blank (u v : List Char) :
    withEmoji (u ++ ' ' :: v) = withEmoji u ++ ' ' :: withEmoji v := by
  fun_induction withEmoji u with
  | case1 => exact withEmoji_cons_of_ne (by decide) v
  | case2 c rest inside h ih =>
    have hinside : (rest ++ ' ' :: v).takeWhile (fun d => d != ':' && !isBlank d) = inside :=
      takeWhile_append_blank (by decide) rest v
    rw [Bool.and_eq_true, beq_iff_eq] at h
    have hle : inside.length + 1 ≤ rest.length := by
      by_contra hlt
      rw [List.drop_eq_nil_of_le (by omega)] at h
      cases h.2
    rw [List.cons_append, withEmoji]
    simp only [hinside]
    rw [List.drop_append_of_le_length (by omega), List.drop_append_of_le_length hle, ih,
      if_pos (by rw [List.head?_append, h.2]; simpa using h.1), List.append_assoc]
  | case3 c rest inside h ih =>
    have hinside : (rest ++ ' ' :: v).takeWhile (fun d => d != ':' && !isBlank d) = inside :=
      takeWhile_append_blank (by decide) rest v
    rw [List.cons_append, withEmoji]
    simp only [hinside]
    have hle : inside.length ≤ rest.length := (List.takeWhile_sublist _).length_le
    rw [List.drop_append_of_le_length hle, if_neg, ih]
    · rfl
    · rw [List.head?_append]
      cases hd : (rest.drop inside.length).head? with
      | none => simp
      | some d => rwa [hd] at h

theorem withBrackets_append_blank (u v : List Char) :
    withBrackets (u ++ ' ' :: v) = withBrackets u ++ ' ' :: withBrackets v := by
  fun_induction withBrackets u with
  | case1 rest ih => simp [withBrackets, ih]
  | case2 c rest h ih =>
    rw [List.cons_append, withBrackets, ih]
    · rfl
    · intro more hc hmore
      cases rest with
      | nil => exact absurd (List.cons.inj hmore).1 (by decide)
      | cons d rest => exact h rest hc (by rw [(List.cons.inj hmore).1])
  | case3 => simp [withBrackets]

/-- What is shown before a blank and behind it does not depend on each other. -/
theorem shown_append_blank (u v : List Char) :
    shown (u ++ ' ' :: v) = shown u ++ ' ' :: shown v := by
  simp only [shown, withBrackets_append_blank, withEmoji_append_blank, List.filter_append]
  rfl

/-- Whether a character is shown and takes part in no name of an emoji and no escape. -/
def standsForItself (c : Char) : Bool := c != ':' && c != '\\' && !isControl c

/-- A single colon begins no name of an emoji. -/
theorem withEmoji_eq_self {cs : List Char} (h : cs.count ':' ≤ 1) : withEmoji cs = cs := by
  fun_induction withEmoji cs with
  | case1 => rfl
  | case2 c rest inside hcolons _ =>
    rw [Bool.and_eq_true, decide_eq_true_eq, beq_iff_eq] at hcolons
    obtain ⟨rfl, hhead⟩ := hcolons
    have hmem : ':' ∈ rest := List.mem_of_mem_drop (List.mem_of_mem_head? hhead)
    have hpos := List.count_pos_iff.2 hmem
    rw [List.count_cons_self] at h
    omega
  | case3 c rest _ _ ih => rw [ih (le_trans List.count_le_count_cons h)]

theorem withBrackets_eq_self {cs : List Char} (h : '\\' ∉ cs) : withBrackets cs = cs := by
  fun_induction withBrackets cs with
  | case1 => exact absurd List.mem_cons_self h
  | case2 c rest _ ih => rw [ih fun hmem => h (List.mem_cons_of_mem c hmem)]
  | case3 => rfl

theorem shown_of_colon {cs : List Char} (hcolon : cs.count ':' ≤ 1) (hbackslash : '\\' ∉ cs)
    (hcontrol : cs.all (!isControl ·) = true) : shown cs = cs := by
  rw [shown, withBrackets_eq_self hbackslash, withEmoji_eq_self hcolon]
  exact List.filter_eq_self.2 (List.all_eq_true.1 hcontrol)

theorem shown_eq_self {cs : List Char} (h : cs.all standsForItself = true) : shown cs = cs := by
  have hplain : ∀ c ∈ cs, standsForItself c = true := List.all_eq_true.1 h
  have hcolon : cs.count ':' = 0 := List.count_eq_zero.2 fun hc => absurd (hplain _ hc) (by decide)
  refine shown_of_colon (by omega) (fun hc => absurd (hplain _ hc) (by decide))
    (List.all_eq_true.2 fun c hc => ?_)
  have hc := hplain c hc
  simp only [standsForItself, Bool.and_eq_true] at hc
  exact hc.2

/-- The backslash before a bracket is not shown. -/
theorem shown_bracket (cs : List Char) : shown ('\\' :: '[' :: cs) = shown ('[' :: cs) := by
  have hbracket : withBrackets ('[' :: cs) = '[' :: withBrackets cs := by simp [withBrackets]
  rw [shown, shown, withBrackets, hbracket]

/-! ### Rendering what is left -/

/-- The text of what is left, where some styles are open and `plain` is the text since the last
tag, the latest first. -/
def renderFrom (openStyles : List OpenStyle) (plain cs : List Char) : Except Fault (List Char) :=
  renderParts openStyles (partsFrom plain cs)

/-- What is shown behind a text does not depend on it; the latest character is the first. -/
def EndsApart (plain : List Char) : Prop :=
  ∀ t, shown (plain.reverse ++ t) = shown plain.reverse ++ shown t

/-- What is shown before a text does not depend on it. -/
def StartsApart (t : List Char) : Prop :=
  ∀ openStyles plain, renderFrom openStyles plain t =
    (shown plain.reverse ++ ·) <$> renderFrom openStyles [] t

theorem shown_nil : shown [] = [] := by
  rw [shown, withBrackets, withEmoji]
  rfl

theorem endsApart_nil : EndsApart [] := fun t => by rw [List.reverse_nil, shown_nil]; rfl

theorem endsApart_blank (plain : List Char) : EndsApart (' ' :: plain) := by
  intro t
  rw [List.reverse_cons, List.append_assoc, List.singleton_append, shown_append_blank,
    shown_append_blank, shown_nil, List.append_assoc]
  rfl

theorem renderParts_text (openStyles : List OpenStyle) (cs : List Char) (ps : List Part) :
    renderParts openStyles (.text cs :: ps) = (shown cs ++ ·) <$> renderParts openStyles ps := by
  rw [renderParts]
  cases renderParts openStyles ps <;> rfl

theorem renderFrom_cons {c : Char} {cs : List Char} (h : tagAt? (c :: cs) = none)
    (openStyles : List OpenStyle) (plain : List Char) :
    renderFrom openStyles plain (c :: cs) = renderFrom openStyles (c :: plain) cs := by
  rw [renderFrom, partsFrom_cons h, renderFrom]

theorem renderFrom_blank (openStyles : List OpenStyle) (plain cs : List Char) :
    renderFrom openStyles plain (' ' :: cs) = renderFrom openStyles (' ' :: plain) cs :=
  renderFrom_cons (tagAt?_other (by decide) (by decide) cs) openStyles plain

theorem renderFrom_nil (openStyles : List OpenStyle) (plain : List Char) :
    renderFrom openStyles plain [] = .ok (shown plain.reverse) := by
  rw [renderFrom, partsFrom, renderParts_text, renderParts]
  simp

theorem startsApart_nil : StartsApart [] := by
  intro openStyles plain
  rw [renderFrom_nil, renderFrom_nil, List.reverse_nil, shown_nil]
  simp

theorem startsApart_withTag {inside : List Char} (h : IsInside inside) (count : Nat)
    (rest : List Char) : StartsApart (withTag count inside rest) := by
  intro openStyles plain
  rw [renderFrom, partsFrom_withTag h, List.cons_append, renderParts_text, renderFrom,
    partsFrom_withTag h, List.cons_append, renderParts_text, List.reverse_nil, shown_nil]
  simp

/-- The first part of a text takes up what stands before it. The others do not depend on that. -/
theorem exists_partsFrom_eq (cs : List Char) :
    ∃ first ps, ∀ plain, partsFrom plain cs = .text (plain.reverse ++ first) :: ps := by
  induction cs using tagInduction with
  | nil => exact ⟨[], [], fun plain => by rw [partsFrom, List.append_nil]⟩
  | tag count inside rest h =>
    exact ⟨[], _, fun plain => by rw [partsFrom_withTag h, List.append_nil]; rfl⟩
  | char c rest h ih =>
    obtain ⟨first, ps, hparts⟩ := ih
    exact ⟨c :: first, ps, fun plain => by rw [partsFrom_cons h, hparts]; simp⟩

theorem startsApart_blank (t : List Char) : StartsApart (' ' :: t) := by
  intro openStyles plain
  obtain ⟨first, ps, hparts⟩ := exists_partsFrom_eq t
  rw [renderFrom_blank, renderFrom_blank, renderFrom, hparts, renderFrom, hparts,
    renderParts_text, renderParts_text, List.reverse_cons, List.append_assoc,
    List.singleton_append, List.reverse_singleton, List.singleton_append, shown_append_blank,
    ← List.nil_append (' ' :: first), shown_append_blank, shown_nil]
  simp

theorem renderFrom_append {cs : List Char} (hopening : '[' ∉ cs) (hbackslash : '\\' ∉ cs)
    (openStyles : List OpenStyle) (plain t : List Char) :
    renderFrom openStyles plain (cs ++ t) = renderFrom openStyles (cs.reverse ++ plain) t := by
  induction cs generalizing plain with
  | nil => rfl
  | cons c cs ih =>
    rw [List.mem_cons, not_or] at hopening hbackslash
    rw [List.cons_append,
      renderFrom_cons (tagAt?_other (Ne.symm hbackslash.1) (Ne.symm hopening.1) _),
      ih hopening.2 hbackslash.2, List.reverse_cons, List.append_assoc, List.singleton_append]

/-- A tag goes on with the styles that are open after it. -/
theorem renderFrom_tag {inside name arguments : List Char} (h : IsInside inside)
    (htag : tagOf inside = .tag name arguments) {openStyles after : List OpenStyle}
    (hafter : afterTag openStyles name arguments = .ok after) (plain t : List Char) :
    renderFrom openStyles plain (withTag 0 inside t) =
      (shown plain.reverse ++ ·) <$> renderFrom after [] t := by
  have hparts : tagParts 0 inside = [.tag name arguments] := by rw [← htag]; rfl
  rw [renderFrom, partsFrom_withTag h, hparts, List.cons_append, renderParts_text,
    List.singleton_append, renderParts, hafter]
  rfl

/-- A style that can be begun and ended again where no other one is open. -/
structure IsStyle (name : List Char) : Prop where
  opening : IsInside name
  closing : IsInside ('/' :: name)
  opens : tagOf name = .tag name []
  closes : tagOf ('/' :: name) = .tag ('/' :: name) []
  ends : (do afterTag (← afterTag [] name []) ('/' :: name) []) = .ok []

instance (inside : List Char) : Decidable (IsInside inside) :=
  decidable_of_iff (inside.head?.any startsTag = true ∧ firstBracket? inside = none)
    ⟨fun ⟨h₁, h₂⟩ => ⟨h₁, h₂⟩, fun ⟨h₁, h₂⟩ => ⟨h₁, h₂⟩⟩

instance (name : List Char) : Decidable (IsStyle name) :=
  decidable_of_iff (IsInside name ∧ IsInside ('/' :: name) ∧ tagOf name = .tag name [] ∧
      tagOf ('/' :: name) = .tag ('/' :: name) [] ∧
      (do afterTag (← afterTag [] name []) ('/' :: name) []) = .ok [])
    ⟨fun ⟨h₁, h₂, h₃, h₄, h₅⟩ => ⟨h₁, h₂, h₃, h₄, h₅⟩,
      fun ⟨h₁, h₂, h₃, h₄, h₅⟩ => ⟨h₁, h₂, h₃, h₄, h₅⟩⟩

/-- A style that is begun is open until it is ended. -/
theorem IsStyle.exists_open {name : List Char} (h : IsStyle name) :
    ∃ openStyles, afterTag [] name [] = .ok openStyles ∧
      afterTag openStyles ('/' :: name) [] = .ok [] := by
  have hends := h.ends
  cases hopen : afterTag [] name [] with
  | error e =>
    rw [hopen] at hends
    cases hends
  | ok openStyles =>
    rw [hopen] at hends
    exact ⟨openStyles, rfl, hends⟩

/-- The styles in which commands show their lines. -/
theorem isStyle_of_mem :
    ∀ name ∈ ["red", "green", "yellow", "bold", "dim"], IsStyle name.toList := by
  decide +kernel

/-- A text in a style. -/
def inStyle (name cs t : List Char) : List Char := withTag 0 name (cs ++ withTag 0 ('/' :: name) t)

theorem inStyle_append (name cs t u : List Char) :
    inStyle name cs t ++ u = inStyle name cs (t ++ u) := by
  rw [inStyle, withTag_append, List.append_assoc, withTag_append, inStyle]

theorem renderFrom_inStyle {name cs : List Char} (h : IsStyle name) (hopening : '[' ∉ cs)
    (hbackslash : '\\' ∉ cs) (plain t : List Char) :
    renderFrom [] plain (inStyle name cs t) =
      (shown plain.reverse ++ shown cs ++ ·) <$> renderFrom [] [] t := by
  obtain ⟨after, hafter, hends⟩ := h.exists_open
  rw [inStyle, renderFrom_tag h.opening h.opens hafter, renderFrom_append hopening hbackslash,
    renderFrom_tag h.closing h.closes hends, List.append_nil, List.reverse_reverse]
  simp

theorem renderParts_joinParts {ps : List (List Char)} (hne : ps ≠ []) {plain t : List Char}
    (hplain : EndsApart plain) (ht : StartsApart t) (openStyles : List OpenStyle) :
    renderParts openStyles (joinParts plain ps t) =
      (shown plain.reverse ++ (ps.map shown).flatten ++ ·) <$> renderFrom openStyles [] t := by
  induction ps generalizing plain with
  | nil => exact absurd rfl hne
  | cons p ps ih =>
    cases ps with
    | nil =>
      rw [joinParts, ← renderFrom, ht, List.reverse_append, List.reverse_reverse, hplain]
      simp
    | cons q ps =>
      rw [joinParts_cons (List.cons_ne_nil q ps), renderParts_text, hplain,
        ih (List.cons_ne_nil q ps) endsApart_nil, List.reverse_nil, shown_nil]
      simp

/-! ### Escaped texts between others -/

/-- A text as it appears when it is escaped. -/
def onScreen (s : String) : String :=
  match render (escape s) with
  | .ok t => t
  | .error _ => ""

theorem render_eq_renderFrom (s : String) :
    render s = (renderFrom [] [] s.toList).map String.ofList := rfl

theorem onScreen_of_pieces {s : String} {cs : List Char} {ps : List (List Char)}
    (hcs : (escape s).toList = escapeTags cs) (hps : Pieces cs ps) :
    (onScreen s).toList = (ps.map shown).flatten := by
  have halone : renderFrom [] [] (escape s).toList = .ok (ps.map shown).flatten := by
    rw [renderFrom, hcs, ← List.append_nil (escapeTags cs),
      hps.parts [] [] (by decide) fun _ => rfl,
      renderParts_joinParts hps.ne_nil endsApart_nil startsApart_nil, renderFrom_nil,
      List.reverse_nil, shown_nil, List.nil_append]
    simp
  rw [onScreen, render_eq_renderFrom, halone]
  exact String.toList_ofList

/-- **An escaped text** between others appears as it does alone. -/
theorem renderFrom_escape (s : String) {plain t : List Char} (hplain : EndsApart plain)
    (ht : StartsApart t) (hopening : firstBracket? t ≠ some ']')
    (hlast : s.toList.getLast? = some '\\' → tagAt? t = none) (openStyles : List OpenStyle) :
    renderFrom openStyles plain ((escape s).toList ++ t) =
      (shown plain.reverse ++ (onScreen s).toList ++ ·) <$> renderFrom openStyles [] t := by
  obtain ⟨cs, hcs, hend, -⟩ := exists_escape_eq s
  obtain ⟨ps, hps⟩ := exists_pieces cs
  rw [onScreen_of_pieces hcs hps, renderFrom, hcs, hps.parts plain t hopening (by rwa [hend]),
    renderParts_joinParts hps.ne_nil hplain ht]

/-- A text whose characters stand for themselves appears as it is when it is escaped, whatever
brackets it has. -/
theorem onScreen_eq_self {s : String} (h : s.toList.all standsForItself = true) :
    onScreen s = s := by
  have hall := List.all_eq_true.1 h
  obtain ⟨cs, hcs, -, heq⟩ := exists_escape_eq s
  have heq : cs = s.toList := heq fun hlast =>
    absurd (hall _ (List.mem_of_getLast? hlast)) (by decide)
  obtain ⟨ps, hps⟩ := exists_pieces cs
  have hshown : ps.map shown = ps := by
    refine (List.map_congr_left fun p hp => ?_).trans (List.map_id ps)
    refine shown_eq_self (List.all_eq_true.2 fun c hc => hall c ?_)
    rw [← heq, ← hps.flatten]
    exact List.mem_flatten_of_mem hp hc
  refine String.toList_inj.1 ?_
  rw [onScreen_of_pieces hcs hps, hshown, hps.flatten, heq]

theorem render_escape (s : String) : render (escape s) = .ok (onScreen s) := by
  have h := renderFrom_escape s endsApart_nil startsApart_nil (by decide) (fun _ => rfl) []
  rw [List.append_nil, renderFrom_nil, List.reverse_nil, shown_nil, List.nil_append] at h
  rw [render_eq_renderFrom, h]
  simp [Except.map]

/-! ### Escaped texts before a tag -/

theorem exists_backslashes (cs : List Char) :
    ∃ u count, cs = u ++ List.replicate count '\\' ∧ u.getLast? ≠ some '\\' := by
  induction cs using List.reverseRecOn with
  | nil => exact ⟨[], 0, rfl, by simp⟩
  | append_singleton cs c ih =>
    by_cases hc : c = '\\'
    · obtain ⟨u, count, rfl, hu⟩ := ih
      exact ⟨u, count + 1, by rw [hc, List.append_assoc, ← List.replicate_succ'], hu⟩
    · exact ⟨cs ++ [c], 0, by simp, by simpa using hc⟩

theorem escapeTags_backslashes (cs : List Char) (count : Nat) :
    escapeTags (cs ++ List.replicate count '\\') =
      escapeTags cs ++ List.replicate count '\\' := by
  induction count with
  | zero => rw [List.replicate_zero, List.append_nil, List.append_nil]
  | succ count ih =>
    rw [List.replicate_succ', ← List.append_assoc, escapeTags_concat, ih, List.append_assoc]

/-- A tag behind backslashes is a tag or a text. -/
theorem exists_renderFrom_backslashes {inside name arguments : List Char} (h : IsInside inside)
    (htag : tagOf inside = .tag name arguments) {openStyles after : List OpenStyle}
    (hafter : afterTag openStyles name arguments = .ok after) (count : Nat) :
    ∃ u, renderFrom openStyles [] (withTag count inside []) = .ok u := by
  have hend (styles : List OpenStyle) : renderParts styles (partsFrom [] []) = .ok (shown []) :=
    renderFrom_nil styles []
  rw [renderFrom, partsFrom_withTag h, List.cons_append, renderParts_text, tagParts, htag]
  by_cases hodd : count % 2 = 1
  · by_cases htwo : count < 2
    · simp [hodd, htwo, renderParts_text, hend]
    · simp [hodd, htwo, renderParts_text, hend]
  · by_cases htwo : count < 2
    · simp only [hodd, htwo, if_true, if_false, List.nil_append, List.cons_append, renderParts,
        hafter, bind, Except.bind, hend]
      exact ⟨_, rfl⟩
    · simp only [hodd, htwo, if_false, List.nil_append, List.cons_append, renderParts_text,
        renderParts, hafter, bind, Except.bind, hend]
      exact ⟨_, rfl⟩

/-- **An escaped text before a tag** appears as it does alone, unless it ends in a backslash, which
can be one before the tag. -/
theorem exists_renderFrom_escape (s : String) {plain : List Char} (hplain : EndsApart plain)
    {inside name arguments : List Char} (h : IsInside inside)
    (htag : tagOf inside = .tag name arguments) {openStyles after : List OpenStyle}
    (hafter : afterTag openStyles name arguments = .ok after) :
    ∃ t, renderFrom openStyles plain ((escape s).toList ++ withTag 0 inside []) =
        .ok (shown plain.reverse ++ t) ∧
      (s.toList.getLast? ≠ some '\\' → t = (onScreen s).toList) := by
  by_cases hlast : s.toList.getLast? = some '\\'
  · obtain ⟨cs, hcs, -, -⟩ := exists_escape_eq s
    obtain ⟨u, count, rfl, hu⟩ := exists_backslashes cs
    obtain ⟨ps, hps⟩ := exists_pieces u
    obtain ⟨t, ht⟩ := exists_renderFrom_backslashes h htag hafter count
    have hbehind : List.replicate count '\\' ++ withTag 0 inside [] = withTag count inside [] := rfl
    refine ⟨(ps.map shown).flatten ++ t, ?_, fun hno => absurd hlast hno⟩
    rw [hcs, escapeTags_backslashes, List.append_assoc, hbehind, renderFrom,
      hps.parts plain _ (by rw [firstBracket?_withTag]; decide) fun hu' => absurd hu' hu,
      renderParts_joinParts hps.ne_nil hplain (startsApart_withTag h count []), ht]
    simp
  · refine ⟨(onScreen s).toList, ?_, fun _ => rfl⟩
    rw [renderFrom_escape s hplain (startsApart_withTag h 0 [])
      (by rw [firstBracket?_withTag]; decide) fun hs => absurd hs hlast,
      renderFrom_tag h htag hafter, renderFrom_nil, List.reverse_nil, shown_nil]
    simp

/-! ### Texts without tags -/

/-- Whether a character stands for itself and begins no tag. -/
def isPlain (c : Char) : Bool := standsForItself c && c != '['

theorem notMem_of_isPlain {cs : List Char} (h : cs.all isPlain = true) {c : Char}
    (hc : isPlain c = false) : c ∉ cs := by
  intro hmem
  rw [List.all_eq_true.1 h c hmem] at hc
  cases hc

theorem shown_of_isPlain {cs : List Char} (h : cs.all isPlain = true) : shown cs = cs := by
  refine shown_eq_self (List.all_eq_true.2 fun c hc => ?_)
  have hplain := List.all_eq_true.1 h c hc
  rw [isPlain, Bool.and_eq_true] at hplain
  exact hplain.1

/-- A text of plain characters appears as it is. -/
theorem render_of_plain {s : String} (h : s.toList.all isPlain = true) : render s = .ok s := by
  have hrun := renderFrom_append (notMem_of_isPlain h rfl) (notMem_of_isPlain h rfl) [] [] []
  rw [List.append_nil, renderFrom_nil, List.append_nil, List.reverse_reverse,
    shown_of_isPlain h] at hrun
  rw [render_eq_renderFrom, hrun, Except.map, String.ofList_toList]

/-- A text of plain characters in a style appears without the tags. -/
theorem render_inStyle {markup text : String} (name : String) (h : IsStyle name.toList)
    (htext : text.toList.all isPlain = true)
    (hmarkup : markup.toList = inStyle name.toList text.toList []) : render markup = .ok text := by
  rw [render_eq_renderFrom, hmarkup,
    renderFrom_inStyle h (notMem_of_isPlain htext rfl) (notMem_of_isPlain htext rfl),
    renderFrom_nil, shown_of_isPlain htext, List.reverse_nil, shown_nil]
  simp [Except.map]

end Markup

end DealWatch
