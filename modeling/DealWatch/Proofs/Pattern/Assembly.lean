import DealWatch.Pattern.Parser
import DealWatch.Proofs.Pattern.Grammar

/-!
# Open frames and recursive descent

The open frames of an `Assembly` are the calls of the recursive-descent readers that have not
returned yet. `Assembly.resume` lets these calls go on with the tokens to come; feeding a token does
not change what comes of them.

* `Assembly.WellFormed` is the invariant of the states between two tokens;
* `Assembly.feed_follows` and `Assembly.finish_follows` are the simulation;
* `assemble_refines_descent` concludes that `assemble` accepts exactly the lists of the grammar and
  reads them as recursive descent does.

The simulation has two cases, by whether an operand is awaited (`feed_wanted`, `feed_held`). The
second is the one with work in it: before a closing parenthesis, a connective and the end, all
negations on top of the stack are closed at once, while the readers return from them one by one.
`leave_closeNegations` says that both come to the same, by induction on the stack.

From the start nothing is open, so `Assembly.resume` is recursive descent itself there; an induction
on the tokens does the rest.
-/

namespace DealWatch

namespace Pattern

open Descent

/-! ### Frames -/

namespace Frame

/-- A frame that awaits an operand: there is a connective if and only if there is something
before it. -/
def Awaits (f : Frame) : Prop := f.operand.isSome = f.pending.isSome

/-- A frame that holds an operand and awaits a connective or its end. -/
def Holds (f : Frame) (p : Pattern) : Prop := f.operand = some p ∧ f.pending = none

variable {f : Frame} {p q : Pattern}

@[simp] theorem add_opener (f : Frame) (p : Pattern) : (f.add p).opener = f.opener := by
  unfold add; split <;> rfl

theorem add_of_none (ho : f.operand = none) : (f.add p).Holds p := by
  simp [add, ho, Holds]

theorem add_of_some {c : Connective} (ho : f.operand = some q) (hp : f.pending = some c) :
    (f.add p).Holds (.compound c q p) := by
  cases c <;> simp [add, ho, hp, Holds]

theorem Awaits.add_holds (h : f.Awaits) (p : Pattern) : ∃ q, (f.add p).Holds q := by
  cases ho : f.operand with
  | none => exact ⟨p, add_of_none ho⟩
  | some l =>
    obtain ⟨c, hc⟩ := Option.isSome_iff_exists.1 (show f.pending.isSome by rw [← h, ho]; rfl)
    exact ⟨_, add_of_some ho hc⟩

theorem Holds.await (h : f.Holds p) (c : Connective) : Awaits { f with pending := some c } := by
  simp [Awaits, h.1]

/-- What a reader makes of the tokens after the operand in a frame: the rest of the group is read
and joined to it. -/
def proceed (f : Frame) (ts : List TokenKind) : Option (Pattern × List TokenKind) :=
  f.operand.bind fun p => (tail ts).map fun (qs, rest) => (joined p qs, rest)

theorem Holds.proceed_eq (h : f.Holds p) (ts : List TokenKind) :
    f.proceed ts = (tail ts).map fun (qs, rest) => (joined p qs, rest) := by
  rw [proceed, h.1, Option.bind_some]

theorem Holds.proceed_of_ends (h : f.Holds p) {ts : List TokenKind} (he : Ends ts) :
    f.proceed ts = some (p, ts) := by
  rw [h.proceed_eq, tail_of_ends he]
  rfl

theorem Holds.proceed_connective (h : f.Holds p) (c : Connective) (ts : List TokenKind) :
    f.proceed (.connective c :: ts) =
      (factor ts).bind fun (q, rest) => (add { f with pending := some c } q).proceed rest := by
  rw [h.proceed_eq, tail_connective]
  rcases factor ts with _ | ⟨q, rest⟩
  · rfl
  · have hq : (add { f with pending := some c } q).Holds (.compound c p q) :=
      add_of_some (f := { f with pending := some c }) h.1 rfl
    simp only [Option.bind_some, hq.proceed_eq]
    rcases tail rest with _ | ⟨qs, r⟩ <;> rfl

end Frame

namespace Assembly

/-! ### The invariant -/

/-- The innermost frame is the root if and only if no other is open. -/
def Rooted : Frame → List Frame → Prop
  | f, [] => f.opener = .root
  | f, g :: gs => f.opener ≠ .root ∧ Rooted g gs

theorem rooted_congr {f g : Frame} (h : f.opener = g.opener) :
    ∀ fs, Rooted f fs ↔ Rooted g fs
  | [] => by simp only [Rooted, h]
  | _ :: _ => by simp only [Rooted, h]

/-- The invariant of the states between two tokens. -/
structure WellFormed (a : Assembly) : Prop where
  rooted : Rooted a.top a.below
  below : ∀ f ∈ a.below, f.Awaits
  top : if a.wanted then a.top.Awaits else ∃ p, a.top.Holds p

theorem start_wellFormed : start.WellFormed :=
  ⟨rfl, by simp [start], rfl⟩

/-! ### Returning from open frames -/

/-- What comes of a pattern that fills a frame and of the tokens after it: the reader of the frame
returns to that of the next frame. -/
def leave : Opener → List Frame → Pattern × List TokenKind → Option Pattern
  | .root, _, (p, []) => some p
  | .negation, g :: gs, (p, rest) =>
    ((g.add (.negation p)).proceed rest).bind (leave g.opener gs)
  | .group, g :: gs, (p, .closing :: rest) => ((g.add p).proceed rest).bind (leave g.opener gs)
  | _, _, _ => none

@[simp] theorem leave_root_nil (gs : List Frame) (p : Pattern) :
    leave .root gs (p, []) = some p := by rw [leave]

@[simp] theorem leave_root_cons (gs : List Frame) (p : Pattern) (k : TokenKind)
    (ts : List TokenKind) : leave .root gs (p, k :: ts) = none := by rw [leave] <;> simp

/-- What recursive descent makes of the tokens to come, if its open calls are those of a state. -/
def resume (a : Assembly) (ts : List TokenKind) : Option Pattern :=
  (if a.wanted then (factor ts).bind fun (q, rest) => (a.top.add q).proceed rest
    else a.top.proceed ts).bind (leave a.top.opener a.below)

theorem resume_start (ts : List TokenKind) : start.resume ts = Descent.read ts := by
  rw [resume, Descent.read, pattern_eq]
  simp only [start, if_true]
  rcases factor ts with _ | ⟨q, rest⟩
  · rfl
  · have hq : (Frame.add { opener := .root, location := 0 } q).Holds q := Frame.add_of_none rfl
    simp only [Option.bind_some, hq.proceed_eq]
    rcases tail rest with _ | ⟨qs, _ | ⟨t, r⟩⟩ <;> rfl

/-- A state that holds an operand before tokens at which a group may end: closing the negations on
top of the open frames does not change what comes of it. -/
theorem leave_closeNegations {top : Frame} {fs : List Frame} {p : Pattern}
    {ts : List TokenKind} (he : Ends ts) (hr : Rooted top fs) (hb : ∀ f ∈ fs, f.Awaits)
    (ht : top.Holds p) :
    ∃ f gs q, closeNegations top fs = (f, gs) ∧ f.Holds q ∧ Rooted f gs ∧
      (∀ g ∈ gs, g.Awaits) ∧ f.opener ≠ .negation ∧
      leave top.opener fs (p, ts) = leave f.opener gs (q, ts) := by
  induction fs generalizing top p with
  | nil =>
    have ho : top.opener = .root := hr
    exact ⟨top, [], p, rfl, ht, hr, hb, by simp [ho], rfl⟩
  | cons g gs ih =>
    by_cases ho : top.opener = .negation
    · obtain ⟨q, hq⟩ := (hb g (by simp)).add_holds (.negation p)
      have hg : (g.add (.negation p)).opener = g.opener := Frame.add_opener g _
      obtain ⟨f, fs', q', hclose, hf, hr', hb', hn, hl⟩ :=
        ih ((rooted_congr hg gs).2 hr.2) (fun f hf => hb f (by simp [hf])) hq
      refine ⟨f, fs', q', ?_, hf, hr', hb', hn, ?_⟩
      · rw [closeNegations, ho, ht.1]
        exact hclose
      · rw [ho, leave, hq.proceed_of_ends he, Option.bind_some, ← hl, hg]
    · refine ⟨top, g :: gs, p, ?_, ht, hr, hb, ho, rfl⟩
      rw [closeNegations]
      split
      · exact absurd (by assumption) ho
      · exact absurd (by assumption) ho
      · rfl

/-! ### One token -/

/-- What feeding a token must do: it keeps the invariant and lets the open calls go on with the
tokens after it, or it fails where recursive descent fails. -/
def Follows (a : Assembly) (k : TokenKind) (ts : List TokenKind) :
    Except Located Assembly → Prop
  | .ok b => b.WellFormed ∧ b.resume ts = a.resume (k :: ts)
  | .error _ => a.resume (k :: ts) = none

variable {a : Assembly}

/-- Opening a group or a negation calls the reader of patterns, which comes back to the frame that
awaited it. -/
theorem wellFormed_push (h : a.WellFormed) (hw : a.wanted = true) {o : Opener} (ho : o ≠ .root)
    (location : Nat) :
    WellFormed ⟨{ opener := o, location }, a.top :: a.below, true⟩ := by
  have ht : a.top.Awaits := by simpa [hw] using h.top
  refine ⟨⟨ho, h.rooted⟩, ?_, rfl⟩
  rintro f (_ | ⟨_, hf⟩)
  · exact ht
  · exact h.below f hf

theorem resume_push (a : Assembly) (o : Opener) (location : Nat) (ts : List TokenKind) :
    resume ⟨{ opener := o, location }, a.top :: a.below, true⟩ ts =
      (pattern ts).bind (leave o (a.top :: a.below)) := by
  rw [resume, pattern_eq, if_pos rfl]
  rcases factor ts with _ | ⟨q, rest⟩
  · rfl
  · have hq : (Frame.add { opener := o, location } q).Holds q := Frame.add_of_none rfl
    simp only [Option.bind_some, hq.proceed_eq]

theorem feed_wanted (h : a.WellFormed) (hw : a.wanted = true) (t : Token) (ts : List TokenKind) :
    a.Follows t.kind ts (a.feed t) := by
  have ht : a.top.Awaits := by simpa [hw] using h.top
  obtain ⟨kind, location⟩ := t
  cases kind with
  | opening =>
    simp only [feed, hw, if_true, Follows]
    refine ⟨wellFormed_push h hw (by simp) location, ?_⟩
    rw [resume_push, resume, if_pos hw, factor_opening]
    rcases pattern ts with _ | ⟨p, _ | ⟨k, rest⟩⟩
    · rfl
    · rfl
    · cases k <;> rfl
  | negation =>
    simp only [feed, hw, if_true, Follows]
    refine ⟨wellFormed_push h hw (by simp) location, ?_⟩
    rw [resume_push, resume, if_pos hw, factor_negation]
    rcases pattern ts with _ | ⟨p, rest⟩ <;> rfl
  | keyword k =>
    simp only [feed, hw, if_true, Follows]
    obtain ⟨q, hq⟩ := ht.add_holds (.keyword k)
    refine ⟨⟨?_, h.below, q, hq⟩, ?_⟩
    · exact (rooted_congr (Frame.add_opener _ _) _).2 h.rooted
    · rw [resume, resume, if_pos hw, factor_keyword, Frame.add_opener]
      rfl
  | closing => simp [feed, hw, Follows, resume]
  | connective c => simp [feed, hw, Follows, resume]

/-- A state that holds an operand, with the negations on top closed: what is on top then is the
root or a group, and recursive descent returns to it. -/
theorem resume_closed (h : a.WellFormed) (hw : a.wanted = false) {ts : List TokenKind}
    (he : Ends ts) :
    ∃ f gs q, closeNegations a.top a.below = (f, gs) ∧ f.Holds q ∧ Rooted f gs ∧
      (∀ g ∈ gs, g.Awaits) ∧ f.opener ≠ .negation ∧
      a.resume ts = leave f.opener gs (q, ts) := by
  obtain ⟨p, hp⟩ : ∃ p, a.top.Holds p := by simpa [hw] using h.top
  obtain ⟨f, gs, q, hc, hf, hr, hb, hn, hl⟩ := leave_closeNegations he h.rooted h.below hp
  refine ⟨f, gs, q, hc, hf, hr, hb, hn, ?_⟩
  rw [resume, if_neg (by simp [hw]), hp.proceed_of_ends he, Option.bind_some, hl]

/-- After an operand nothing can be made of a token that starts another one. -/
theorem resume_eq_none (h : a.WellFormed) (hw : a.wanted = false) {k : TokenKind}
    (hk : k ≠ .closing) (hc : ∀ c, k ≠ .connective c) (ts : List TokenKind) :
    a.resume (k :: ts) = none := by
  have he : Ends (k :: ts) := fun c rest h => hc c (List.cons.inj h).1
  obtain ⟨f, gs, q, -, -, -, -, hn, hres⟩ := resume_closed h hw he
  rw [hres]
  cases ho : f.opener with
  | root => simp
  | negation => exact absurd ho hn
  | group =>
    cases gs with
    | nil => simp [leave]
    | cons g gs => cases k <;> simp_all [leave]

theorem feed_held (h : a.WellFormed) (hw : a.wanted = false) (t : Token) (ts : List TokenKind) :
    a.Follows t.kind ts (a.feed t) := by
  obtain ⟨p, hp⟩ : ∃ p, a.top.Holds p := by simpa [hw] using h.top
  obtain ⟨kind, location⟩ := t
  cases kind with
  | opening => simpa [feed, hw, Follows] using resume_eq_none h hw (by simp) (by simp) ts
  | negation => simpa [feed, hw, Follows] using resume_eq_none h hw (by simp) (by simp) ts
  | keyword k => simpa [feed, hw, Follows] using resume_eq_none h hw (by simp) (by simp) ts
  | connective c =>
    simp only [feed, hw, Follows]
    refine ⟨⟨?_, h.below, hp.await c⟩, ?_⟩
    · exact (rooted_congr (f := { a.top with pending := some c }) (g := a.top) rfl a.below).2
        h.rooted
    · rw [resume, resume, if_pos rfl, if_neg (by simp [hw]), hp.proceed_connective c ts]
  | closing =>
    obtain ⟨f, gs, q, hc, hf, hr, hb, hn, hres⟩ := resume_closed h hw (ends_closing ts)
    obtain ⟨o, loc, operand, pending⟩ := f
    obtain ⟨rfl, rfl⟩ := hf
    cases o with
    | negation => exact absurd rfl hn
    | root =>
      simp only [feed, hw, Bool.false_eq_true, if_false, closeGroup, hc, Follows]
      rw [hres, leave_root_cons]
    | group =>
      cases gs with
      | nil => exact absurd hr (by simp [Rooted])
      | cons g gs =>
        simp only [feed, hw, closeGroup, hc, Follows]
        obtain ⟨q', hq'⟩ := (hb g (by simp)).add_holds q
        refine ⟨⟨(rooted_congr (Frame.add_opener g q) gs).2 hr.2,
          fun f hf => hb f (by simp [hf]), q', hq'⟩, ?_⟩
        rw [hres, leave, resume, if_neg (by simp), Frame.add_opener]

/-- **One token.** Feeding a token to a well-formed state follows recursive descent. -/
theorem feed_follows (h : a.WellFormed) (t : Token) (ts : List TokenKind) :
    a.Follows t.kind ts (a.feed t) := by
  cases hw : a.wanted with
  | true => exact feed_wanted h hw t ts
  | false => exact feed_held h hw t ts

/-! ### All tokens -/

theorem finish_follows (h : a.WellFormed) (length : Nat) :
    (a.finish length).toOption = a.resume [] := by
  cases hw : a.wanted with
  | true => simp [finish, hw, resume, Except.toOption]
  | false =>
    obtain ⟨f, gs, q, hc, hf, hr, hb, hn, hres⟩ := resume_closed h hw ends_nil
    simp only [finish, hw, hc, hres]
    cases ho : f.opener with
    | negation => exact absurd ho hn
    | root =>
      cases gs with
      | nil => simp [leave, hf.1, Except.toOption]
      | cons g gs => exact absurd ho hr.1
    | group =>
      cases gs with
      | nil => exact absurd (ho.symm.trans hr) (by simp)
      | cons g gs => rfl

/-- **All tokens.** Feeding the tokens one by one and closing what is open at the end gives what
recursive descent makes of them. -/
theorem foldlM_feed_finish (length : Nat) (tokens : List Token) (h : a.WellFormed) :
    (tokens.foldlM feed a >>= (finish · length)).toOption = a.resume (tokens.map (·.kind)) := by
  induction tokens generalizing a with
  | nil => exact finish_follows h length
  | cons t tokens ih =>
    have hf := feed_follows h t (tokens.map (·.kind))
    rw [List.foldlM_cons, List.map_cons]
    cases hb : a.feed t with
    | error e =>
      rw [hb] at hf
      rw [hf]
      rfl
    | ok b =>
      rw [hb] at hf
      rw [← hf.2, ← ih hf.1]
      rfl

/-! ### Faults -/

/-- The faults of the grammar, as opposed to those of the tokens. -/
def grammarFaults : List Fault :=
  [.expectedOperand, .expectedConnective, .unmatchedClosing, .unclosedOpening]

theorem feed_fault {t : Token} {e : Located} (h : a.feed t = .error e) : e.2 ∈ grammarFaults := by
  unfold feed at h
  repeat' split at h
  all_goals cases h
  all_goals simp [grammarFaults]

theorem finish_fault {length : Nat} {e : Located} (h : a.finish length = .error e) :
    e.2 ∈ grammarFaults := by
  unfold finish at h
  repeat' split at h
  all_goals cases h
  all_goals simp [grammarFaults]

theorem foldlM_feed_finish_fault (length : Nat) (tokens : List Token) {e : Located}
    (h : (tokens.foldlM feed a >>= (finish · length)) = .error e) : e.2 ∈ grammarFaults := by
  induction tokens generalizing a with
  | nil => exact finish_fault h
  | cons t tokens ih =>
    rw [List.foldlM_cons] at h
    cases hb : a.feed t with
    | error e' =>
      rw [hb] at h
      cases h
      exact feed_fault hb
    | ok b =>
      rw [hb] at h
      exact ih h

end Assembly

/-! ### Whole lists -/

theorem assemble_toOption (length : Nat) (tokens : List Token) :
    (assemble length tokens).toOption = Descent.read (tokens.map (·.kind)) := by
  rw [← Assembly.resume_start]
  exact Assembly.foldlM_feed_finish length tokens Assembly.start_wellFormed

theorem assemble_eq_ok_iff {length : Nat} {tokens : List Token} {p : Pattern} :
    assemble length tokens = .ok p ↔ Descent.read (tokens.map (·.kind)) = some p := by
  rw [← assemble_toOption length]
  cases assemble length tokens <;> simp [Except.toOption]

/-- **The open frames read what recursive descent reads.**  `assemble` succeeds exactly on the
lists of the grammar, its pattern is that of recursive descent, and on every other list it ends
with a fault of the grammar. -/
theorem assemble_refines_descent (length : Nat) (tokens : List Token) :
    ((∃ p, assemble length tokens = .ok p) ↔ Derives .pattern (tokens.map (·.kind))) ∧
      (∀ p, assemble length tokens = .ok p ↔ Descent.read (tokens.map (·.kind)) = some p) ∧
      ((∃ location fault, assemble length tokens = .error (location, fault) ∧
        fault ∈ Assembly.grammarFaults) ↔ ¬ Derives .pattern (tokens.map (·.kind))) := by
  have hok : (∃ p, assemble length tokens = .ok p) ↔
      Derives .pattern (tokens.map (·.kind)) := by
    simp only [assemble_eq_ok_iff, ← Option.isSome_iff_exists, Descent.read_isSome_iff]
  refine ⟨hok, fun p => assemble_eq_ok_iff, ?_⟩
  rw [← hok]
  cases h : assemble length tokens with
  | ok p => simp
  | error e =>
    have hfault : e.2 ∈ Assembly.grammarFaults :=
      Assembly.foldlM_feed_finish_fault length tokens h
    simpa using ⟨e.1, e.2, rfl, hfault⟩

end Pattern

end DealWatch
