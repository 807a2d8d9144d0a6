import DealWatch.Proofs.Pattern.Grouping
import Mathlib.Data.List.Basic

/-!
# Where reading tokens fails

Reading fails at the first token that nothing behind it could make good. If there is no such token,
all of them can be completed, and the fault lies at the end: an operand is still awaited, or a
parenthesis is still open.

* `Balanced` and `ClosedIn` say which parentheses match, `Open` which ones are open;
* `Assembly.Tracks` ties the state between two tokens to the tokens before it;
* `Assembly.exists_completion` completes any state;
* `Blames` says what an error tells of the tokens, `parse_blames` that every error of the grammar
  tells it.

`Assembly.Tracks` is kept by every token that is accepted (`Assembly.Tracks.feed`), so it holds of
the state in which reading fails. That the tokens before the fault can be completed is
`Assembly.exists_completion`: close what is open, after one more keyword if an operand is awaited.
That they cannot together with the token at fault follows from the simulation by recursive descent,
which fails there whatever comes.
-/

namespace DealWatch

namespace Pattern

open Descent

/-! ### Parentheses -/

/-- Tokens whose parentheses match. -/
inductive Balanced : List TokenKind → Prop
  | nil : Balanced []
  | other {k : TokenKind} {ks : List TokenKind} : k ≠ .opening → k ≠ .closing → Balanced ks →
      Balanced (k :: ks)
  | group {u v : List TokenKind} : Balanced u → Balanced v →
      Balanced (.opening :: (u ++ .closing :: v))

/-- A parenthesis that opens before some tokens is closed among them: what stands between is
balanced. -/
def ClosedIn (ks : List TokenKind) : Prop :=
  ∃ inside rest, ks = inside ++ .closing :: rest ∧ Balanced inside

theorem ClosedIn.append {ks : List TokenKind} (h : ClosedIn ks) (ks' : List TokenKind) :
    ClosedIn (ks ++ ks') := by
  obtain ⟨inside, rest, rfl, hin⟩ := h
  exact ⟨inside, rest ++ ks', by simp, hin⟩

namespace Balanced

variable {u v : List TokenKind}

theorem append (hu : Balanced u) (hv : Balanced v) : Balanced (u ++ v) := by
  induction hu with
  | nil => exact hv
  | other ho hc _ ih => exact .other ho hc ih
  | group hin _ _ ih =>
    rw [List.cons_append, List.append_assoc, List.cons_append]
    exact .group hin ih

/-- Every parenthesis that opens among balanced tokens is closed behind it. -/
theorem closedIn (h : Balanced (u ++ .opening :: v)) : ClosedIn v := by
  generalize hks : u ++ .opening :: v = ks at h
  induction h generalizing u v with
  | nil => simp at hks
  | other ho _ _ ih =>
    cases u with
    | nil => exact absurd (List.cons.inj hks).1.symm ho
    | cons k u => exact ih (List.cons.inj hks).2
  | @group a b ha _ iha ihb =>
    cases u with
    | nil => exact ⟨a, b, (List.cons.inj hks).2, ha⟩
    | cons k u =>
      -- the parenthesis stands before the one that closes the group, or behind it
      obtain ⟨w, ha', hw⟩ | ⟨w, -, hw⟩ := List.append_eq_append_iff.1 (List.cons.inj hks).2
      · cases w with
        | nil => cases hw
        | cons k w =>
          obtain ⟨rfl, rfl⟩ := List.cons.inj hw
          exact (iha ha'.symm).append _
      · cases w with
        | nil => cases hw
        | cons k w => exact ihb (List.cons.inj hw).2.symm

end Balanced

/-- The number of open parentheses after some tokens, none if one is closed that is not open. -/
def depthAfter : Nat → List TokenKind → Option Nat
  | n, [] => some n
  | n, .opening :: ks => depthAfter (n + 1) ks
  | 0, .closing :: _ => none
  | n + 1, .closing :: ks => depthAfter n ks
  | n, _ :: ks => depthAfter n ks

theorem Balanced.depthAfter_append {u : List TokenKind} (h : Balanced u) (n : Nat)
    (ks : List TokenKind) : depthAfter n (u ++ ks) = depthAfter n ks := by
  induction h generalizing n ks with
  | nil => rfl
  | @other k us ho hc _ ih =>
    have hskip : depthAfter n (k :: (us ++ ks)) = depthAfter n (us ++ ks) := by
      cases k with
      | opening => exact absurd rfl ho
      | closing => exact absurd rfl hc
      | _ => cases n <;> rfl
    rw [List.cons_append, hskip, ih]
  | group _ _ ihu ihv =>
    rw [List.cons_append, List.append_assoc, List.cons_append, depthAfter, ihu, depthAfter, ihv]

/-- No token among balanced ones closes a parenthesis before them. -/
theorem Balanced.not_closedIn {ks : List TokenKind} (h : Balanced ks) : ¬ ClosedIn ks := by
  rintro ⟨inside, rest, rfl, hin⟩
  have hdepth := h.depthAfter_append 0 []
  rw [List.append_nil, hin.depthAfter_append] at hdepth
  cases hdepth

/-- Some parentheses are open after some tokens, the innermost first: behind each of them stand the
next ones and otherwise balanced tokens. -/
def Open : List Token → List Token → Prop
  | [], _ => True
  | t :: ts, tokens =>
    ∃ before after, tokens = before ++ t :: after ∧ t.kind = .opening ∧
      Balanced (after.map (·.kind)) ∧ Open ts before

theorem Open.append {ts tokens : List Token} (h : Open ts tokens) {after : List Token}
    (hafter : Balanced (after.map (·.kind))) : Open ts (tokens ++ after) := by
  cases ts with
  | nil => trivial
  | cons t ts =>
    obtain ⟨before, inner, rfl, ht, hinner, hopen⟩ := h
    refine ⟨before, inner ++ after, by simp, ht, ?_, hopen⟩
    rw [List.map_append]
    exact hinner.append hafter

/-- The innermost parenthesis that is open is closed by a token that closes one. -/
theorem Open.close {t x : Token} {ts tokens : List Token} (h : Open (t :: ts) tokens)
    (hx : x.kind = .closing) : Open ts (tokens ++ [x]) := by
  obtain ⟨before, inner, rfl, ht, hinner, hopen⟩ := h
  rw [List.append_assoc]
  refine hopen.append ?_
  rw [List.cons_append, List.map_cons, List.map_append, ht, List.map_singleton, hx]
  exact .group hinner .nil

/-! ### The state after some tokens -/

/-- An operand is awaited after some tokens: there is none, or the last one opens a group, negates or
connects. -/
def AwaitsOperand (tokens : List Token) : Prop :=
  ∀ t ∈ tokens.getLast?, t.kind = .opening ∨ t.kind = .negation ∨ ∃ c, t.kind = .connective c

theorem awaitsOperand_concat {tokens : List Token} {t : Token} :
    AwaitsOperand (tokens ++ [t]) ↔
      t.kind = .opening ∨ t.kind = .negation ∨ ∃ c, t.kind = .connective c := by
  simp [AwaitsOperand]

namespace Assembly

variable {a b : Assembly}

/-- What feeding a token can do. -/
inductive Fed (a : Assembly) (t : Token) : Assembly → Prop
  | opened : a.wanted = true → t.kind = .opening →
      Fed a t ⟨{ opener := .group, location := t.location }, a.top :: a.below, true⟩
  | negated : a.wanted = true → t.kind = .negation →
      Fed a t ⟨{ opener := .negation, location := t.location }, a.top :: a.below, true⟩
  | keyword {k : String} : a.wanted = true → t.kind = .keyword k →
      Fed a t ⟨a.top.add (.keyword k), a.below, false⟩
  | connected {c : Connective} : a.wanted = false → t.kind = .connective c →
      Fed a t ⟨{ a.top with pending := some c }, a.below, true⟩
  | closed {f g : Frame} {gs : List Frame} {p : Pattern} : a.wanted = false → t.kind = .closing →
      closeNegations a.top a.below = (f, g :: gs) → f.opener = .group →
      Fed a t ⟨g.add p, gs, false⟩

theorem fed_of_feed {t : Token} (h : a.feed t = .ok b) : Fed a t b := by
  obtain ⟨kind, location⟩ := t
  cases hw : a.wanted with
  | true =>
    cases kind <;> simp only [feed, hw, if_true, Except.ok.injEq, reduceCtorEq] at h
    · subst h
      exact .opened hw rfl
    · subst h
      exact .negated hw rfl
    · subst h
      exact .keyword hw rfl
  | false =>
    cases kind <;>
      simp only [feed, hw, Bool.false_eq_true, if_false, Except.ok.injEq, reduceCtorEq] at h
    · split at h
      · rename_i b' hclose
        obtain rfl := Except.ok.inj h
        unfold closeGroup at hclose
        split at hclose
        · rename_i heq
          obtain rfl := Option.some.inj hclose
          exact .closed hw rfl heq rfl
        · cases hclose
      · cases h
    · subst h
      exact .connected hw rfl

/-- The locations of the groups that are open, the innermost first. -/
def groups (top : Frame) (below : List Frame) : List Nat :=
  ((top :: below).filter (·.opener = .group)).map (·.location)

theorem groups_congr {f g : Frame} (ho : f.opener = g.opener) (hl : f.location = g.location)
    (fs : List Frame) : groups f fs = groups g fs := by
  simp only [groups, List.filter_cons, ho]
  split <;> simp [hl]

theorem groups_of_not_group {f : Frame} (h : f.opener ≠ .group) (g : Frame) (gs : List Frame) :
    groups f (g :: gs) = groups g gs := by
  simp [groups, h]

theorem groups_of_group {f : Frame} (h : f.opener = .group) (g : Frame) (gs : List Frame) :
    groups f (g :: gs) = f.location :: groups g gs := by
  simp [groups, h]

theorem groups_add (f : Frame) (p : Pattern) (fs : List Frame) :
    groups (f.add p) fs = groups f fs :=
  groups_congr (Frame.add_opener f p) (by unfold Frame.add; split <;> rfl) fs

/-- Closing negations closes no group. -/
theorem groups_closeNegations (top : Frame) (fs : List Frame) :
    groups (closeNegations top fs).1 (closeNegations top fs).2 = groups top fs := by
  induction fs generalizing top with
  | nil => rfl
  | cons g gs ih =>
    rw [closeNegations]
    split
    · rename_i ho _
      rw [ih, groups_add, groups_of_not_group (by simp [ho])]
    · rename_i ho _
      rw [ih, groups_of_not_group (by simp [ho])]
    · rfl

/-- The state belongs to the tokens that were fed. -/
structure Tracks (a : Assembly) (tokens : List Token) : Prop where
  wellFormed : a.WellFormed
  wanted : a.wanted = true ↔ AwaitsOperand tokens
  opened : ∃ ts, Open ts tokens ∧ groups a.top a.below = ts.map (·.location)

theorem Tracks.not_awaits {tokens : List Token} (h : a.Tracks tokens) (hw : a.wanted = false) :
    ¬ AwaitsOperand tokens := by
  rw [← h.wanted, hw]
  exact Bool.false_ne_true

theorem tracks_start : start.Tracks [] :=
  ⟨start_wellFormed, by simp [start, AwaitsOperand], [], trivial, rfl⟩

/-- A token that is no parenthesis leaves the open ones as they are. -/
theorem opened_concat {tokens : List Token} {t : Token} {top : Frame} {below : List Frame}
    (h : ∃ ts, Open ts tokens ∧ groups top below = ts.map (·.location))
    (ho : t.kind ≠ .opening) (hc : t.kind ≠ .closing) :
    ∃ ts, Open ts (tokens ++ [t]) ∧ groups top below = ts.map (·.location) := by
  obtain ⟨ts, hopen, hgroups⟩ := h
  exact ⟨ts, hopen.append (.other ho hc .nil), hgroups⟩

/-- **One token** that is fed. -/
theorem Tracks.feed {tokens : List Token} {t : Token} (h : a.Tracks tokens)
    (hfeed : a.feed t = .ok b) : b.Tracks (tokens ++ [t]) := by
  have hwf : b.WellFormed := by
    have hfollows := feed_follows h.wellFormed t []
    rw [hfeed] at hfollows
    exact hfollows.1
  refine ⟨hwf, ?_, ?_⟩
  · rw [awaitsOperand_concat]
    cases fed_of_feed hfeed with
    | opened _ hk => simp [hk]
    | negated _ hk => simp [hk]
    | keyword _ hk => simp [hk]
    | connected _ hk => simp [hk]
    | closed _ hk => simp [hk]
  · cases fed_of_feed hfeed with
    | opened _ hk =>
      obtain ⟨ts, hopen, hgroups⟩ := h.opened
      refine ⟨t :: ts, ⟨tokens, [], rfl, hk, .nil, hopen⟩, ?_⟩
      rw [groups_of_group rfl, hgroups, List.map_cons]
    | negated _ hk =>
      rw [groups_of_not_group (by simp)]
      exact opened_concat h.opened (by simp [hk]) (by simp [hk])
    | keyword _ hk =>
      rw [groups_add]
      exact opened_concat h.opened (by simp [hk]) (by simp [hk])
    | @connected c _ hk =>
      have hsame : groups { a.top with pending := some c } a.below = groups a.top a.below := by
        refine groups_congr ?_ ?_ a.below <;> rfl
      rw [hsame]
      exact opened_concat h.opened (by simp [hk]) (by simp [hk])
    | @closed f g gs p _ hk hclose ho =>
      -- the group that is closed lies under negations, which close with it
      obtain ⟨ts, hopen, hgroups⟩ := h.opened
      have hsame := groups_closeNegations a.top a.below
      rw [hclose, groups_of_group ho, hgroups] at hsame
      cases ts with
      | nil => cases hsame
      | cons y ys =>
        refine ⟨ys, hopen.close hk, ?_⟩
        rw [groups_add]
        exact (List.cons.inj hsame).2

/-- **All tokens** that are fed. -/
theorem Tracks.foldlM {tokens ts : List Token} (h : a.Tracks tokens)
    (hfeed : ts.foldlM Assembly.feed a = .ok b) : b.Tracks (tokens ++ ts) := by
  induction ts generalizing a tokens with
  | nil =>
    obtain rfl := Except.ok.inj hfeed
    rwa [List.append_nil]
  | cons t ts ih =>
    rw [List.foldlM_cons] at hfeed
    cases hc : a.feed t with
    | error e =>
      rw [hc] at hfeed
      cases hfeed
    | ok c =>
      rw [hc] at hfeed
      have hrest := ih (h.feed hc) hfeed
      rwa [List.append_assoc] at hrest

/-- If feeding fails, it fails at some token, and the ones before it can be fed. -/
theorem exists_of_foldlM_error {ts : List Token} {e : Located}
    (h : ts.foldlM feed a = .error e) :
    ∃ before t after b, ts = before ++ t :: after ∧ before.foldlM feed a = .ok b ∧
      b.feed t = .error e := by
  induction ts generalizing a with
  | nil => cases h
  | cons t ts ih =>
    rw [List.foldlM_cons] at h
    cases hc : a.feed t with
    | error e' =>
      rw [hc] at h
      cases h
      exact ⟨[], t, ts, a, rfl, rfl, hc⟩
    | ok c =>
      rw [hc] at h
      obtain ⟨before, t', after, b, rfl, hbefore, hfail⟩ := ih h
      refine ⟨t :: before, t', after, b, rfl, ?_, hfail⟩
      rw [List.foldlM_cons, hc]
      exact hbefore

/-! ### Completing tokens -/

theorem ends_replicate_closing (n : Nat) : Ends (List.replicate n .closing) := by
  cases n with
  | zero => exact ends_nil
  | succ n => exact ends_closing _

/-- Open frames can be left by closing the groups among them. -/
theorem exists_leave {top : Frame} {fs : List Frame} (hr : Rooted top fs)
    (hb : ∀ f ∈ fs, f.Awaits) (p : Pattern) :
    ∃ n, (leave top.opener fs (p, List.replicate n .closing)).isSome := by
  induction fs generalizing top p with
  | nil => exact ⟨0, by rw [show top.opener = .root from hr]; simp⟩
  | cons g gs ih =>
    have hreturn (q : Pattern) : ∃ n, (((g.add q).proceed (List.replicate n .closing)).bind
        (leave g.opener gs)).isSome := by
      obtain ⟨q', hq'⟩ := (hb g List.mem_cons_self).add_holds q
      obtain ⟨n, hn⟩ := ih hr.2 (fun f hf => hb f (List.mem_cons_of_mem _ hf)) q'
      exact ⟨n, by rwa [hq'.proceed_of_ends (ends_replicate_closing n), Option.bind_some]⟩
    cases ho : top.opener with
    | root => exact absurd ho hr.1
    | negation => exact hreturn (.negation p)
    | group =>
      obtain ⟨n, hn⟩ := hreturn p
      exact ⟨n + 1, hn⟩

/-- **Every state can be completed**, with a keyword if an operand is awaited. -/
theorem exists_completion (h : a.WellFormed) : ∃ ks, (a.resume ks).isSome := by
  -- an operand at the end of the tokens leaves only groups to be closed
  have htop := h.top
  cases hw : a.wanted with
  | true =>
    rw [if_pos hw] at htop
    obtain ⟨q, hq⟩ := htop.add_holds (.keyword "a")
    obtain ⟨n, hn⟩ := exists_leave h.rooted h.below q
    refine ⟨.keyword "a" :: List.replicate n .closing, ?_⟩
    simp only [resume, if_pos hw, factor_keyword, Option.bind_some,
      hq.proceed_of_ends (ends_replicate_closing n)]
    exact hn
  | false =>
    rw [if_neg (by simp [hw])] at htop
    obtain ⟨p, hp⟩ := htop
    obtain ⟨n, hn⟩ := exists_leave h.rooted h.below p
    refine ⟨List.replicate n .closing, ?_⟩
    rwa [resume, if_neg (by simp [hw]), hp.proceed_of_ends (ends_replicate_closing n),
      Option.bind_some]

/-! ### The end -/

/-- What is wrong with all tokens, where none of them is: an operand is awaited, or the group that
was opened last among those that are open is not closed. -/
theorem Tracks.finish_error {tokens : List Token} {length : Nat} {e : Located}
    (h : a.Tracks tokens) (hfinish : a.finish length = .error e) :
    (a.wanted = true ∧ e = (length, .expectedOperand)) ∨
      (a.wanted = false ∧ ∃ t ts, Open (t :: ts) tokens ∧ e = (t.location, .unclosedOpening)) := by
  cases hw : a.wanted with
  | true =>
    rw [finish, if_pos hw] at hfinish
    exact .inl ⟨rfl, (Except.error.inj hfinish).symm⟩
  | false =>
    obtain ⟨f, gs, q, hclose, hf, hr, -, hnot, -⟩ := resume_closed h.wellFormed hw ends_nil
    rw [finish, if_neg (by simp [hw]), hclose] at hfinish
    cases gs with
    | nil =>
      simp only [hf.1, reduceCtorEq] at hfinish
    | cons g gs =>
      obtain rfl := Except.error.inj hfinish
      have hgroup : f.opener = .group := by
        cases ho : f.opener with
        | root => exact absurd ho hr.1
        | negation => exact absurd ho hnot
        | group => rfl
      -- the groups that are open are those before the negations were closed
      have hsame := groups_closeNegations a.top a.below
      obtain ⟨ts, hopen, hgroups⟩ := h.opened
      rw [hclose, groups_of_group hgroup, hgroups] at hsame
      cases ts with
      | nil => cases hsame
      | cons t ts =>
        refine .inr ⟨rfl, t, ts, hopen, ?_⟩
        rw [(List.cons.inj hsame).1]

end Assembly

/-! ### Blame -/

/-- Tokens that write a pattern. -/
def Accepted (tokens : List Token) : Prop := ∃ length p, assemble length tokens = .ok p

theorem accepted_iff {tokens : List Token} :
    Accepted tokens ↔ (Descent.read (tokens.map (·.kind))).isSome := by
  simp only [Accepted, assemble_eq_ok_iff, exists_const, Option.isSome_iff_exists]

/-- Tokens that can be completed. -/
def Completable (tokens : List Token) : Prop := ∃ rest, Accepted (tokens ++ rest)

/-- Tokens that can be fed can be completed. -/
theorem completable_of_fed {tokens : List Token} {a : Assembly}
    (h : tokens.foldlM Assembly.feed Assembly.start = .ok a) : Completable tokens := by
  have hfollows := Assembly.foldlM_follows tokens Assembly.start_wellFormed
  simp only [h, Assembly.resume_start] at hfollows
  obtain ⟨ks, hks⟩ := Assembly.exists_completion (hfollows []).1
  refine ⟨located ks, accepted_iff.2 ?_⟩
  rwa [List.map_append, map_kind_located, ← (hfollows ks).2]

/-- Tokens that cannot be fed cannot be completed. -/
theorem not_completable_of_fed {before : List Token} {t : Token} {a : Assembly} {e : Located}
    (h : before.foldlM Assembly.feed Assembly.start = .ok a) (hfeed : a.feed t = .error e) :
    ¬ Completable (before ++ [t]) := by
  rintro ⟨rest, length, p, hp⟩
  rw [List.append_assoc, List.singleton_append, assemble, List.foldlM_append, h] at hp
  simp only [bind, Except.bind, List.foldlM_cons, hfeed] at hp
  cases hp

/-- What is wrong with a token where it stands. -/
inductive Misplaced (before : List Token) : TokenKind → Fault → Prop
  | operand {k : TokenKind} : AwaitsOperand before → Misplaced before k .expectedOperand
  | connective {k : TokenKind} : ¬ AwaitsOperand before → k ≠ .closing →
      Misplaced before k .expectedConnective
  | unmatched : ¬ AwaitsOperand before → Misplaced before .closing .unmatchedClosing

theorem Assembly.Tracks.misplaced {a : Assembly} {before : List Token} (h : a.Tracks before)
    {t : Token} {e : Located} (hfeed : a.feed t = .error e) :
    Misplaced before t.kind e.2 ∧ e.1 = t.location := by
  obtain ⟨kind, location⟩ := t
  cases hw : a.wanted with
  | true =>
    have hawaits := h.wanted.1 hw
    cases kind <;> simp only [Assembly.feed, hw, if_true, reduceCtorEq, Except.error.injEq] at hfeed
    all_goals
      subst hfeed
      exact ⟨.operand hawaits, rfl⟩
  | false =>
    have hheld := h.not_awaits hw
    cases kind <;>
      simp only [Assembly.feed, hw, Bool.false_eq_true, if_false, reduceCtorEq,
        Except.error.injEq] at hfeed
    case closing =>
      split at hfeed
      · cases hfeed
      · cases hfeed
        exact ⟨.unmatched hheld, rfl⟩
    all_goals
      subst hfeed
      exact ⟨.connective hheld (by simp), rfl⟩

/-- What an error tells of the tokens of a text: either some token is the first behind which they
cannot be completed, or all of them can be completed and an operand or the end of a group is
missing. -/
inductive Blames (source : String) (tokens : List Token) : SyntaxError → Prop
  | token {before after : List Token} {t : Token} {fault : Fault} :
      tokens = before ++ t :: after → Completable before → ¬ Completable (before ++ [t]) →
      Misplaced before t.kind fault → Blames source tokens ⟨source, t.location + 1, fault⟩
  | operand : Completable tokens → AwaitsOperand tokens →
      Blames source tokens ⟨source, source.length + 1, .expectedOperand⟩
  | unclosed {before after : List Token} {t : Token} :
      Completable tokens → ¬ AwaitsOperand tokens →
      tokens = before ++ t :: after → t.kind = .opening → ¬ ClosedIn (after.map (·.kind)) →
      (∀ u x v, after = u ++ x :: v → x.kind = .opening → ClosedIn (v.map (·.kind))) →
      Blames source tokens ⟨source, t.location + 1, .unclosedOpening⟩

/-- The parenthesis that is opened last among those that are open is not closed, and all that are
opened behind it are. -/
theorem Open.innermost {t : Token} {ts tokens : List Token} (h : Open (t :: ts) tokens) :
    ∃ before after, tokens = before ++ t :: after ∧ t.kind = .opening ∧
      ¬ ClosedIn (after.map (·.kind)) ∧
      ∀ u x v, after = u ++ x :: v → x.kind = .opening → ClosedIn (v.map (·.kind)) := by
  obtain ⟨before, after, rfl, ht, hbalanced, -⟩ := h
  refine ⟨before, after, rfl, ht, hbalanced.not_closedIn, ?_⟩
  rintro u x v rfl hx
  rw [List.map_append, List.map_cons, hx] at hbalanced
  exact hbalanced.closedIn

/-- **Where reading fails.** A text that is cut into tokens but is no pattern is blamed on the first
token behind which nothing helps, or on its end if something does. -/
theorem parse_blames {source : String} {tokens : List Token} {e : SyntaxError}
    (hscan : scan source = .ok tokens) (hparse : parse source = .error e) :
    Blames source tokens e := by
  obtain ⟨location, fault, hassemble, rfl⟩ : ∃ location fault,
      assemble source.length tokens = .error (location, fault) ∧
        e = ⟨source, location + 1, fault⟩ := by
    simp only [parse, hscan, bind, Except.bind] at hparse
    split at hparse
    · cases hparse
    · rename_i location fault hassemble
      exact ⟨location, fault, hassemble, (Except.error.inj hparse).symm⟩
  rw [assemble] at hassemble
  cases hfold : tokens.foldlM Assembly.feed Assembly.start with
  | error e =>
    rw [hfold] at hassemble
    obtain rfl := Except.error.inj hassemble
    obtain ⟨before, t, after, a, htokens, hbefore, hfeed⟩ := Assembly.exists_of_foldlM_error hfold
    obtain ⟨hmisplaced, hlocation⟩ := (Assembly.tracks_start.foldlM hbefore).misplaced hfeed
    obtain rfl : location = t.location := hlocation
    exact .token htokens (completable_of_fed hbefore) (not_completable_of_fed hbefore hfeed)
      hmisplaced
  | ok a =>
    rw [hfold] at hassemble
    have htracks : a.Tracks tokens := Assembly.tracks_start.foldlM hfold
    obtain ⟨hw, he⟩ | ⟨hw, t, ts, hopen, he⟩ := htracks.finish_error hassemble
    · obtain ⟨rfl, rfl⟩ := Prod.mk.inj he
      exact .operand (completable_of_fed hfold) (htracks.wanted.1 hw)
    · obtain ⟨rfl, rfl⟩ := Prod.mk.inj he
      obtain ⟨before, after, htokens, ht, hunclosed, hclosed⟩ := hopen.innermost
      exact .unclosed (completable_of_fed hfold) (htracks.not_awaits hw) htokens ht hunclosed
        hclosed

/-- The group that is opened last is closed here, so the one before it is blamed. -/
theorem parse_blames_outer_group :
    scan "(a || (b)" = .ok [⟨.opening, 0⟩, ⟨.keyword "a", 1⟩, ⟨.connective .either, 2⟩,
        ⟨.opening, 5⟩, ⟨.keyword "b", 7⟩, ⟨.closing, 8⟩] ∧
      parse "(a || (b)" = .error ⟨"(a || (b)", 1, .unclosedOpening⟩ ∧
      Blames "(a || (b)" [⟨.opening, 0⟩, ⟨.keyword "a", 1⟩, ⟨.connective .either, 2⟩,
        ⟨.opening, 5⟩, ⟨.keyword "b", 7⟩, ⟨.closing, 8⟩] ⟨"(a || (b)", 1, .unclosedOpening⟩ :=
  ⟨by decide +kernel, by decide +kernel, parse_blames (by decide +kernel) (by decide +kernel)⟩

end Pattern

end DealWatch
