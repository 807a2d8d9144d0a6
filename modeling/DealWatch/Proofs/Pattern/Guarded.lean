import DealWatch.Proofs.Pattern.Assembly
import Mathlib.Logic.Relation

/-!
# Guarded reading

The parts of a frame may be absent, and patterns are built of what frames hold. Guarded reading is
reading with a check before each such step: it breaks off where the root would be closed like a
negation or a group, where a pattern would be built of one that is missing, and where two patterns
would be joined without a connective between them.

* `Breach` lists what the checks are for, and `Guarded.assemble` is guarded reading;
* `Assembly.Closes` is the step that closes one negation;
* `Assembly.feed_wellFormed` and `Assembly.closes_wellFormed` say that each step keeps the invariant
  of the open frames, `assemble_guarded` that no check ever fails.

The invariant is `Assembly.WellFormed`, between any two tokens. Within a token several negations may
be closed one after the other, and there it holds again after each of them. With it every check is
passed by looking at the frames it names, and a run is by induction on the tokens.
-/

namespace DealWatch

namespace Pattern

/-- What reading must never do. -/
inductive Breach where
  /-- The root is closed like a negation or a group. -/
  | closedRoot
  /-- A negation or a group is closed that holds no pattern. -/
  | missingOperand
  /-- A pattern comes after another one without a connective between them. -/
  | missingConnective
  /-- A pattern comes after a connective with nothing before it. -/
  | strayConnective
  /-- The text is over, but there is no pattern. -/
  | missingPattern
  deriving DecidableEq, Repr, Inhabited

/-! ### Reading with checks -/

namespace Guarded

/-- A frame after one more operand, which is joined to what the frame holds by the connective that
was read, and by no other. -/
def add (f : Frame) (p : Pattern) : Except Breach Frame :=
  match f.operand, f.pending with
  | none, none => .ok { f with operand := some p }
  | some l, some c => .ok { f with operand := some (.compound c l p), pending := none }
  | some _, none => .error .missingConnective
  | none, some _ => .error .strayConnective

/-- Closes the frame on top, which must hold a pattern and stand on another frame. -/
def close (build : Pattern → Pattern) (top : Frame) : List Frame → Except Breach (Frame × List Frame)
  | [] => .error .closedRoot
  | f :: fs =>
    match top.operand with
    | none => .error .missingOperand
    | some p => do return (← add f (build p), fs)

/-- Closes the negations on top of the open frames. -/
def closeNegations (top : Frame) : List Frame → Except Breach (Frame × List Frame)
  | [] => if top.opener = .negation then .error .closedRoot else .ok (top, [])
  | f :: fs =>
    if top.opener = .negation then do
      let (g, _) ← close .negation top (f :: fs)
      closeNegations g fs
    else .ok (top, f :: fs)

/-- The state after a token, or what is wrong with the token. -/
def feed (a : Assembly) (t : Token) : Except Breach (Except Located Assembly) :=
  let push (o : Opener) : Assembly :=
    ⟨{ opener := o, location := t.location }, a.top :: a.below, true⟩
  if a.wanted then
    match t.kind with
    | .opening => .ok (.ok (push .group))
    | .negation => .ok (.ok (push .negation))
    | .keyword k => do return .ok ⟨← add a.top (.keyword k), a.below, false⟩
    | _ => .ok (.error (t.location, .expectedOperand))
  else
    match t.kind with
    | .connective c => .ok (.ok ⟨{ a.top with pending := some c }, a.below, true⟩)
    | .closing => do
      let (f, fs) ← closeNegations a.top a.below
      if f.opener = .group then
        let (g, gs) ← close id f fs
        return .ok ⟨g, gs, false⟩
      else return .error (t.location, .unmatchedClosing)
    | _ => .ok (.error (t.location, .expectedConnective))

/-- The pattern at the end of a text with the given number of characters. -/
def finish (a : Assembly) (length : Nat) : Except Breach (Except Located Pattern) :=
  if a.wanted then .ok (.error (length, .expectedOperand))
  else do
    match ← closeNegations a.top a.below with
    | (f, _ :: _) => return .error (f.location, .unclosedOpening)
    | (f, []) =>
      match f.operand with
      | some p => return .ok p
      | none => .error .missingPattern

/-- The pattern that the tokens to come write after those of a state. -/
def run (length : Nat) (a : Assembly) : List Token → Except Breach (Except Located Pattern)
  | [] => finish a length
  | t :: ts => do
    match ← feed a t with
    | .ok b => run length b ts
    | .error e => return .error e

/-- The pattern that a list of tokens writes; `length` is the location of the end. -/
def assemble (length : Nat) (tokens : List Token) : Except Breach (Except Located Pattern) :=
  run length .start tokens

end Guarded

/-! ### Closing frames -/

namespace Frame

variable {f : Frame} {p : Pattern}

theorem Awaits.guarded_add (h : f.Awaits) (p : Pattern) : Guarded.add f p = .ok (f.add p) := by
  obtain ⟨opener, location, operand, pending⟩ := f
  cases operand with
  | none =>
    cases pending with
    | none => rfl
    | some c => cases h
  | some l =>
    cases pending with
    | none => cases h
    | some c => cases c <;> rfl

theorem Holds.guarded_close (h : f.Holds p) {g : Frame} (hg : g.Awaits) (gs : List Frame)
    (build : Pattern → Pattern) :
    Guarded.close build f (g :: gs) = .ok (g.add (build p), gs) := by
  simp only [Guarded.close, h.1, hg.guarded_add]
  rfl

end Frame

namespace Assembly

/-- One negation on top is closed: what it holds is negated and added to the frame below. -/
inductive Closes (a : Assembly) : Assembly → Prop
  | intro {f : Frame} {fs : List Frame} {p : Pattern} : a.top.opener = .negation →
      a.top.operand = some p → a.below = f :: fs → Closes a ⟨f.add (.negation p), fs, false⟩

/-- The states that a state goes through while the negations on top are closed. -/
def Passes : Assembly → Assembly → Prop := Relation.ReflTransGen Closes

variable {a b : Assembly}

/-- What holds while an operand stands on top: the invariant, and that no operand is awaited. -/
def Settled (a : Assembly) : Prop := a.WellFormed ∧ a.wanted = false

theorem Settled.holds (h : a.Settled) : ∃ p, a.top.Holds p := by
  simpa [h.2] using h.1.top

/-- A frame on top that is not the root stands on another one. -/
theorem WellFormed.exists_below (h : a.WellFormed) (ho : a.top.opener ≠ .root) :
    ∃ f fs, a.below = f :: fs := by
  obtain ⟨top, below, wanted⟩ := a
  cases below with
  | nil => exact absurd h.rooted ho
  | cons f fs => exact ⟨f, fs, rfl⟩

/-- Closing a negation keeps the invariant. -/
theorem closes_wellFormed (h : a.Settled) (hab : a.Closes b) : b.Settled := by
  obtain ⟨top, below, wanted⟩ := a
  cases hab with
  | @intro f fs p ho hp hbelow =>
    obtain rfl : below = f :: fs := hbelow
    obtain ⟨q, hq⟩ := (h.1.below f List.mem_cons_self).add_holds (.negation p)
    refine ⟨⟨?_, ?_, q, hq⟩, rfl⟩
    · exact (rooted_congr (Frame.add_opener f _) fs).2 h.1.rooted.2
    · intro g hg
      exact h.1.below g (List.mem_cons_of_mem f hg)

/-- However many negations are closed, the invariant is kept. -/
theorem passes_wellFormed (h : a.Settled) (hab : a.Passes b) : b.Settled := by
  induction hab with
  | refl => exact h
  | tail _ hstep ih => exact closes_wellFormed ih hstep

/-- A negation on top holds a pattern and stands on another frame, so it can be closed: it is not
the root. -/
theorem exists_closes (h : a.Settled) (ho : a.top.opener = .negation) :
    ∃ p f fs, a.top.operand = some p ∧ a.below = f :: fs ∧
      a.Closes ⟨f.add (.negation p), fs, false⟩ := by
  obtain ⟨p, hp⟩ := h.holds
  obtain ⟨f, fs, hbelow⟩ := h.1.exists_below (by rw [ho]; nofun)
  exact ⟨p, f, fs, hp.1, hbelow, .intro ho hp.1 hbelow⟩

theorem closeNegations_of_not_negation {top : Frame} (h : top.opener ≠ .negation)
    (fs : List Frame) : closeNegations top fs = (top, fs) := by
  cases fs with
  | nil => rfl
  | cons f fs =>
    rw [closeNegations]
    split
    · exact absurd ‹_› h
    · exact absurd ‹_› h
    · rfl

/-- Closing the negations on top fails no check, and ends at a frame that is no negation. -/
theorem closeNegations_guarded {top : Frame} {fs : List Frame} (h : Settled ⟨top, fs, false⟩) :
    ∃ f gs, closeNegations top fs = (f, gs) ∧ Guarded.closeNegations top fs = .ok (f, gs) ∧
      f.opener ≠ .negation ∧ Settled ⟨f, gs, false⟩ := by
  induction fs generalizing top with
  | nil =>
    have ho : top.opener ≠ .negation := by
      have hroot : top.opener = .root := h.1.rooted
      rw [hroot]
      nofun
    exact ⟨top, [], rfl, if_neg ho, ho, h⟩
  | cons g gs ih =>
    by_cases ho : top.opener = .negation
    · obtain ⟨p, hp⟩ := h.holds
      obtain ⟨f, fs, hclose, hguarded, hend, hsettled⟩ :=
        ih (closes_wellFormed h (.intro ho hp.1 rfl))
      refine ⟨f, fs, ?_, ?_, hend, hsettled⟩
      · rw [closeNegations, ho, hp.1]
        exact hclose
      · rw [Guarded.closeNegations, if_pos ho,
          hp.guarded_close (h.1.below g List.mem_cons_self) gs .negation]
        exact hguarded
    · exact ⟨top, g :: gs, closeNegations_of_not_negation ho _, if_neg ho, ho, h⟩

/-! ### Tokens -/

/-- Feeding a token keeps the invariant. -/
theorem feed_wellFormed {t : Token} (h : a.WellFormed) (hb : a.feed t = .ok b) : b.WellFormed := by
  have hfollows := feed_follows h t []
  rw [hb] at hfollows
  exact hfollows.1

theorem foldlM_feed_wellFormed {ts : List Token} (h : a.WellFormed)
    (hb : ts.foldlM feed a = .ok b) : b.WellFormed := by
  induction ts generalizing a with
  | nil =>
    cases hb
    exact h
  | cons t ts ih =>
    rw [List.foldlM_cons] at hb
    cases hc : a.feed t with
    | error e =>
      rw [hc] at hb
      cases hb
    | ok c =>
      rw [hc] at hb
      exact ih (feed_wellFormed h hc) hb

/-- **One token**: no check fails. -/
theorem feed_guarded (h : a.WellFormed) (t : Token) : Guarded.feed a t = .ok (a.feed t) := by
  obtain ⟨top, below, wanted⟩ := a
  obtain ⟨kind, location⟩ := t
  cases wanted with
  | true =>
    have ht : top.Awaits := h.top
    cases kind with
    | keyword k =>
      simp only [Guarded.feed, feed, if_true, ht.guarded_add]
      rfl
    | opening | closing | negation | connective c => rfl
  | false =>
    cases kind with
    | closing =>
      obtain ⟨f, fs, hclose, hguarded, -, hsettled⟩ := closeNegations_guarded ⟨h, rfl⟩
      obtain ⟨p, hp⟩ := hsettled.holds
      simp only [Guarded.feed, feed, closeGroup, Bool.false_eq_true, if_false, hclose, hguarded]
      by_cases ho : f.opener = .group
      · obtain ⟨g, gs, rfl⟩ : ∃ g gs, fs = g :: gs :=
          hsettled.1.exists_below (show f.opener ≠ .root by simp [ho])
        obtain ⟨opener, loc, operand, pending⟩ := f
        obtain rfl : opener = .group := ho
        obtain rfl : operand = some p := hp.1
        simp only [bind, Except.bind, if_pos,
          hp.guarded_close (hsettled.1.below g List.mem_cons_self) gs id]
        rfl
      · simp only [bind, Except.bind, if_neg ho]
        obtain ⟨opener, loc, operand, pending⟩ := f
        cases opener with
        | group => exact absurd rfl ho
        | root | negation => rfl
    | opening | negation | keyword k | connective c => rfl

/-- **The end of the text**: no check fails. -/
theorem finish_guarded (h : a.WellFormed) (length : Nat) :
    Guarded.finish a length = .ok (a.finish length) := by
  obtain ⟨top, below, wanted⟩ := a
  cases wanted with
  | true => rfl
  | false =>
    obtain ⟨f, fs, hclose, hguarded, -, hsettled⟩ := closeNegations_guarded ⟨h, rfl⟩
    obtain ⟨p, hp⟩ := hsettled.holds
    simp only [Guarded.finish, finish, Bool.false_eq_true, if_false, hclose, hguarded, bind,
      Except.bind]
    cases fs with
    | nil =>
      have hoperand : f.operand = some p := hp.1
      simp only [hoperand]
      rfl
    | cons g gs => rfl

theorem run_guarded (h : a.WellFormed) (length : Nat) (ts : List Token) :
    Guarded.run length a ts = .ok (ts.foldlM feed a >>= (finish · length)) := by
  induction ts generalizing a with
  | nil => exact finish_guarded h length
  | cons t ts ih =>
    rw [Guarded.run, feed_guarded h t, List.foldlM_cons]
    cases hb : a.feed t with
    | error e => rfl
    | ok b => exact ih (feed_wellFormed h hb)

end Assembly

/-- **Reading never goes wrong.** Between any two tokens of any list, and after each negation that
is closed, the root is at the bottom of the open frames and only there, each frame below the top,
and the top while an operand is awaited, holds a pattern exactly if it holds a connective, and a top
that awaits no operand holds a pattern and no connective; so a negation on top is never the root and
never without a pattern. Guarded reading comes to the same end, so none of its checks fails. -/
theorem assemble_guarded (length : Nat) (tokens : List Token) :
    (∀ before a, before <+: tokens → before.foldlM Assembly.feed .start = .ok a →
      a.WellFormed ∧
      (a.wanted = false → ∀ b, a.Passes b → b.WellFormed ∧ b.wanted = false ∧
        (b.top.opener = .negation → ∃ p f fs, b.top.operand = some p ∧ b.below = f :: fs ∧
          b.Closes ⟨f.add (.negation p), fs, false⟩))) ∧
    Guarded.assemble length tokens = .ok (assemble length tokens) := by
  refine ⟨fun before a _ ha => ?_, Assembly.run_guarded Assembly.start_wellFormed length tokens⟩
  have hwell : a.WellFormed := Assembly.foldlM_feed_wellFormed Assembly.start_wellFormed ha
  refine ⟨hwell, fun hwanted b hab => ?_⟩
  have hb : b.Settled := Assembly.passes_wellFormed ⟨hwell, hwanted⟩ hab
  exact ⟨hb.1, hb.2, Assembly.exists_closes hb⟩

end Pattern

end DealWatch
