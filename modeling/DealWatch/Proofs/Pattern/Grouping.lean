import DealWatch.Proofs.Pattern.Assembly

/-!
# Parentheses that change nothing

Operands are joined from left to right and a negation goes on to the end of its group. So
parentheses may be put around anything that is read as one operand where it stands.

* `Operand` is a keyword or a group, `Run` some operands with connectives between them;
* `Enclosable` says what may be put in parentheses: everything, an operand, or a run at the start of
  a group;
* `Run.reads` says that a run is read in the same way whatever follows it;
* `read_enclosed` concludes that the parentheses do not change what is read.

The tokens before the parentheses are an open state of the assembly, and what comes of it depends on
those behind only through the next reader that is called (`read_through_factor`,
`read_through_pattern`). So it is enough to compare what this one reader gives with the parentheses
and without.

That other parentheses do change something is not shown.
-/

namespace DealWatch

namespace Pattern

open Descent

/-! ### What may be put in parentheses -/

/-- The tokens of a keyword or of a group. -/
inductive Operand : List TokenKind → Prop
  | keyword (k : String) : Operand [.keyword k]
  | group {u : List TokenKind} : Derives .pattern u → Operand (.opening :: (u ++ [.closing]))

/-- The tokens of some operands with connectives between them; none of the operands starts with a
negation. -/
inductive Run : List TokenKind → Prop
  | one {x : List TokenKind} : Operand x → Run x
  | more {x y : List TokenKind} (c : Connective) : Run x → Operand y →
      Run (x ++ .connective c :: y)

/-- The tokens before the operands of a group: there are none, or the last one opens a group or
negates it. -/
inductive Begins : List TokenKind → Prop
  | start : Begins []
  | opening (u : List TokenKind) : Begins (u ++ [.opening])
  | negation (u : List TokenKind) : Begins (u ++ [.negation])

/-- Tokens that may be put in parentheses, between those before and those after them. -/
inductive Enclosable : List TokenKind → List TokenKind → List TokenKind → Prop
  | whole (x : List TokenKind) : Enclosable [] x []
  | operand {x : List TokenKind} (u v : List TokenKind) : Operand x → Enclosable u x v
  | leading {u x : List TokenKind} (v : List TokenKind) : Begins u → Run x → Enclosable u x v

/-! ### Reading with more tokens behind -/

namespace Descent

theorem Ends.append {ts r : List TokenKind} (h : Ends ts) (hr : Ends r) : Ends (ts ++ r) := by
  cases ts with
  | nil => exact hr
  | cons t ts =>
    rintro c rest he
    exact h c ts (by rw [(List.cons.inj he).1])

variable {r : List TokenKind}

mutual

theorem factor_append (hr : Ends r) {ts rest : List TokenKind} {p : Pattern}
    (h : factor ts = some (p, rest)) : factor (ts ++ r) = some (p, rest ++ r) := by
  match ts with
  | [] => simp at h
  | .closing :: ts => simp at h
  | .connective c :: ts => simp at h
  | .keyword k :: ts =>
    simp only [factor_keyword, Option.some.injEq, Prod.mk.injEq] at h
    obtain ⟨rfl, rfl⟩ := h
    exact factor_keyword k _
  | .negation :: ts =>
    rw [factor_negation] at h
    obtain ⟨⟨q, rest'⟩, hp, he⟩ := Option.map_eq_some_iff.1 h
    obtain ⟨rfl, rfl⟩ := Prod.mk.inj he
    rw [List.cons_append, factor_negation, pattern_append hr hp]
    rfl
  | .opening :: ts =>
    rw [factor_opening] at h
    split at h
    · rename_i q rest' hp
      obtain ⟨rfl, rfl⟩ := Prod.mk.inj (Option.some.inj h)
      rw [List.cons_append, factor_opening, pattern_append hr hp]
      rfl
    · cases h
termination_by (ts.length, 0)

theorem tail_append (hr : Ends r) {ts rest : List TokenKind} {qs : List (Connective × Pattern)}
    (h : tail ts = some (qs, rest)) : tail (ts ++ r) = some (qs, rest ++ r) := by
  obtain hends | ⟨c, ts', hts⟩ := ends_or_connective ts
  · rw [tail_of_ends hends] at h
    obtain ⟨rfl, rfl⟩ := Prod.mk.inj (Option.some.inj h)
    exact tail_of_ends (hends.append hr)
  · have hfirst : ts'.length < ts.length := by rw [hts]; exact Nat.lt_succ_self _
    rw [hts, tail_connective] at h
    obtain ⟨⟨q, rest'⟩, hf, h⟩ := Option.bind_eq_some_iff.1 h
    obtain ⟨⟨qs', rest''⟩, ht, he⟩ := Option.map_eq_some_iff.1 h
    obtain ⟨rfl, rfl⟩ := Prod.mk.inj he
    have hrest := Nat.lt_trans (factor_length hf) hfirst
    simp only [hts, List.cons_append, tail_connective, factor_append hr hf, Option.bind_some,
      tail_append hr ht, Option.map_some]
termination_by (ts.length, 0)

/-- Reading a pattern is not changed by what stands behind the place at which its group may end. -/
theorem pattern_append (hr : Ends r) {ts rest : List TokenKind} {p : Pattern}
    (h : pattern ts = some (p, rest)) : pattern (ts ++ r) = some (p, rest ++ r) := by
  rw [pattern_eq] at h
  obtain ⟨⟨q, rest'⟩, hf, h⟩ := Option.bind_eq_some_iff.1 h
  obtain ⟨⟨qs', rest''⟩, ht, he⟩ := Option.map_eq_some_iff.1 h
  obtain ⟨rfl, rfl⟩ := Prod.mk.inj he
  have hlen := factor_length hf
  simp only [pattern_eq, factor_append hr hf, Option.bind_some, tail_append hr ht, Option.map_some]
termination_by (ts.length, 1)

end

end Descent

/-! ### Operands and runs -/

/-- An operand is read as one factor, whatever follows it. -/
theorem Operand.reads {x : List TokenKind} (h : Operand x) :
    ∃ q, ∀ v, factor (x ++ v) = some (q, v) := by
  cases h with
  | keyword k => exact ⟨.keyword k, factor_keyword k⟩
  | group hu =>
    rename_i u
    obtain ⟨q, hq⟩ := Option.isSome_iff_exists.1 ((read_isSome_iff u).2 hu)
    refine ⟨q, fun v => ?_⟩
    have hinner := pattern_append (ends_closing v) (read_eq_some_iff.1 hq)
    rw [List.cons_append, List.append_assoc, List.singleton_append, factor_opening, hinner]
    rfl

/-- A run is read as its operands joined, and then what follows it is read. -/
theorem Run.reads {x : List TokenKind} (h : Run x) :
    ∃ q, ∀ v, pattern (x ++ v) = (tail v).map fun (qs, rest) => (joined q qs, rest) := by
  induction h with
  | one hx =>
    obtain ⟨q, hq⟩ := hx.reads
    exact ⟨q, fun v => by rw [pattern_eq, hq, Option.bind_some]⟩
  | more c _ hy ih =>
    obtain ⟨q, hq⟩ := ih
    obtain ⟨q', hq'⟩ := hy.reads
    refine ⟨.compound c q q', fun v => ?_⟩
    simp only [List.append_assoc, List.cons_append, hq, tail_connective, hq', Option.bind_some]
    rcases tail v with _ | ⟨qs, rest⟩ <;> rfl

/-- Tokens in parentheses that are read up to the closing one are one factor. -/
theorem factor_enclosed {x : List TokenKind} {q : Pattern} {v : List TokenKind}
    (h : pattern (x ++ .closing :: v) = some (q, .closing :: v)) :
    factor (.opening :: (x ++ .closing :: v)) = some (q, v) := by
  rw [factor_opening, h]

theorem Operand.factor_enclosed {x : List TokenKind} (h : Operand x) (v : List TokenKind) :
    factor (.opening :: (x ++ .closing :: v)) = factor (x ++ v) := by
  obtain ⟨q, hq⟩ := h.reads
  rw [hq]
  exact Pattern.factor_enclosed (pattern_of_factor (hq _) (ends_closing v))

theorem Run.pattern_enclosed {x : List TokenKind} (h : Run x) (v : List TokenKind) :
    pattern (.opening :: (x ++ .closing :: v)) = pattern (x ++ v) := by
  obtain ⟨q, hq⟩ := h.reads
  have hfactor : factor (.opening :: (x ++ .closing :: v)) = some (q, v) := by
    refine factor_enclosed ?_
    rw [hq, tail_of_ends (ends_closing v)]
    rfl
  rw [pattern_eq, hfactor, Option.bind_some, hq]

/-! ### What stands before -/

/-- The tokens of some kinds, for which locations do not matter. -/
def located (ks : List TokenKind) : List Token := ks.map (⟨·, 0⟩)

theorem map_kind_located (ks : List TokenKind) : (located ks).map (·.kind) = ks := by
  rw [located, List.map_map]
  exact List.map_id ks

namespace Assembly

/-- Feeding some tokens lets recursive descent go on behind them, or fails where it fails. -/
theorem foldlM_follows (us : List Token) {a : Assembly} (h : a.WellFormed) (ts : List TokenKind) :
    match us.foldlM feed a with
    | .ok b => b.WellFormed ∧ b.resume ts = a.resume (us.map (·.kind) ++ ts)
    | .error _ => a.resume (us.map (·.kind) ++ ts) = none := by
  induction us generalizing a with
  | nil => exact ⟨h, rfl⟩
  | cons t us ih =>
    have hstep := feed_follows h t (us.map (·.kind) ++ ts)
    rw [List.foldlM_cons, List.map_cons, List.cons_append]
    cases hfeed : a.feed t with
    | error e =>
      rw [hfeed] at hstep
      exact hstep
    | ok b =>
      rw [hfeed] at hstep
      have hrest := ih hstep.1
      rw [hstep.2] at hrest
      exact hrest

/-- What is read after some tokens, by the state that they lead to. -/
theorem read_append {u : List TokenKind} {a : Assembly}
    (h : (located u).foldlM feed start = .ok a) (ts : List TokenKind) :
    a.WellFormed ∧ Descent.read (u ++ ts) = a.resume ts := by
  have hfollows := foldlM_follows (located u) start_wellFormed ts
  rw [h, map_kind_located, resume_start] at hfollows
  exact ⟨hfollows.1, hfollows.2.symm⟩

theorem read_append_of_error {u : List TokenKind} {e : Located}
    (h : (located u).foldlM feed start = .error e) (ts : List TokenKind) :
    Descent.read (u ++ ts) = none := by
  have hfollows := foldlM_follows (located u) start_wellFormed ts
  rwa [h, map_kind_located, resume_start] at hfollows

/-- After a token that opens a group or negates it, a pattern is read. -/
theorem resume_feed {a b : Assembly} {k : TokenKind} (hk : k = .opening ∨ k = .negation)
    (h : a.feed ⟨k, 0⟩ = .ok b) : ∃ f, ∀ ts, b.resume ts = (pattern ts).bind f := by
  cases hw : a.wanted with
  | false => obtain rfl | rfl := hk <;> simp [feed, hw] at h
  | true =>
    obtain rfl | rfl := hk
    all_goals
      simp only [feed, hw, if_true, Except.ok.injEq] at h
      subst h
      exact ⟨_, resume_push a _ 0⟩

end Assembly

/-- Where operands may stand, what is read depends on the tokens to come through the factor at their
start. -/
theorem read_through_factor (u : List TokenKind) :
    ∃ f, ∀ k ts, k ≠ .closing → (∀ c, k ≠ .connective c) →
      Descent.read (u ++ k :: ts) = (factor (k :: ts)).bind f := by
  cases h : (located u).foldlM Assembly.feed Assembly.start with
  | error e =>
    refine ⟨fun _ => none, fun k ts _ _ => ?_⟩
    rw [Assembly.read_append_of_error h, Option.bind_fun_none]
  | ok a =>
    cases hw : a.wanted with
    | false =>
      refine ⟨fun _ => none, fun k ts hclosing hconnective => ?_⟩
      obtain ⟨hwf, hread⟩ := Assembly.read_append h (k :: ts)
      rw [hread, Assembly.resume_eq_none hwf hw hclosing hconnective, Option.bind_fun_none]
    | true =>
      refine ⟨fun qr => ((a.top.add qr.1).proceed qr.2).bind (Assembly.leave a.top.opener a.below),
        fun k ts _ _ => ?_⟩
      rw [(Assembly.read_append h (k :: ts)).2, Assembly.resume, if_pos hw, Option.bind_assoc]

/-- Where a group begins, it depends on them through the pattern at their start. -/
theorem read_through_pattern {u : List TokenKind} (h : Begins u) :
    ∃ f, ∀ ts, Descent.read (u ++ ts) = (pattern ts).bind f := by
  have hpushed (k : TokenKind) (hk : k = .opening ∨ k = .negation) (w : List TokenKind) :
      ∃ f, ∀ ts, Descent.read (w ++ [k] ++ ts) = (pattern ts).bind f := by
    cases hfold : (located (w ++ [k])).foldlM Assembly.feed Assembly.start with
    | error e =>
      refine ⟨fun _ => none, fun ts => ?_⟩
      rw [Assembly.read_append_of_error hfold, Option.bind_fun_none]
    | ok b =>
      have hlast := hfold
      rw [located, List.map_append, List.foldlM_append] at hlast
      cases hfirst : (w.map (⟨·, 0⟩ : TokenKind → Token)).foldlM Assembly.feed Assembly.start with
      | error e =>
        rw [hfirst] at hlast
        cases hlast
      | ok a =>
        rw [hfirst] at hlast
        have hfeed : a.feed ⟨k, 0⟩ = .ok b := (bind_pure (a.feed ⟨k, 0⟩)).symm.trans hlast
        obtain ⟨f, hf⟩ := Assembly.resume_feed hk hfeed
        exact ⟨f, fun ts => by rw [(Assembly.read_append hfold ts).2, hf]⟩
  cases h with
  | start =>
    refine ⟨fun pr => if pr.2 = [] then some pr.1 else none, fun ts => ?_⟩
    rw [List.nil_append, Descent.read]
    rcases pattern ts with _ | ⟨p, _ | ⟨t, rest⟩⟩ <;> rfl
  | opening w => exact hpushed .opening (.inl rfl) w
  | negation w => exact hpushed .negation (.inr rfl) w

/-- **Parentheses that change nothing.** What may be put in parentheses is read as before. -/
theorem read_enclosed {u x v : List TokenKind} {p : Pattern} (h : Enclosable u x v)
    (hread : Descent.read (u ++ (x ++ v)) = some p) :
    Descent.read (u ++ .opening :: (x ++ .closing :: v)) = some p := by
  cases h with
  | whole =>
    rw [List.nil_append, List.append_nil] at hread
    have hinner := pattern_append (ends_closing []) (read_eq_some_iff.1 hread)
    exact read_eq_some_iff.2 (pattern_of_factor (factor_enclosed hinner) ends_nil)
  | operand _ _ hx =>
    obtain ⟨f, hf⟩ := read_through_factor u
    rw [hf .opening _ nofun nofun, hx.factor_enclosed]
    cases hx with
    | keyword k =>
      rw [List.singleton_append] at hread ⊢
      rwa [← hf (.keyword k) _ nofun nofun]
    | group hy =>
      rw [List.cons_append] at hread ⊢
      rwa [← hf .opening _ nofun nofun]
  | leading _ hu hx =>
    obtain ⟨f, hf⟩ := read_through_pattern hu
    rw [hf, hx.pattern_enclosed, ← hf]
    exact hread

end Pattern

end DealWatch
