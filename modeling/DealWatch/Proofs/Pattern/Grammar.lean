import DealWatch.Pattern.Token
import DealWatch.Proofs.Pattern.Walk

/-!
# The grammar of patterns

The documented grammar says which lists of tokens write a pattern, but not how far a negation
reaches. Recursive descent settles that: a reader takes as much as it can.

* `Derives` is the grammar as a relation;
* `Descent.factor`, `Descent.tail` and `Descent.pattern` are the readers, one for each nonterminal,
  and `Descent.read` reads a whole list;
* `Descent.joined` folds the operands of a group from left to right, whatever their connectives;
* `Descent.read_isSome_iff` says that reading succeeds exactly on the lists of the grammar.

What is read is derived, by the recursion of the readers. The converse cannot be said of one
derivation alone, because a negation in it may reach further than derived. `Reads` therefore speaks
of what follows: if the readers get from there to the end of the group, then they do so with the
derived tokens in front, wherever they stop in between. This is by induction on the derivation.
-/

namespace DealWatch

namespace Pattern

/-- The nonterminals of the grammar. -/
inductive Nonterminal where
  | pattern
  | tail
  | factor
  deriving DecidableEq, Repr

/-- The lists of tokens that a nonterminal derives. -/
inductive Derives : Nonterminal → List TokenKind → Prop where
  | pattern {u v : List TokenKind} : Derives .factor u → Derives .tail v →
      Derives .pattern (u ++ v)
  | tailEnd : Derives .tail []
  | tail {u v : List TokenKind} (c : Connective) : Derives .factor u → Derives .tail v →
      Derives .tail (.connective c :: (u ++ v))
  | group {u : List TokenKind} : Derives .pattern u →
      Derives .factor (.opening :: (u ++ [.closing]))
  | negation {u : List TokenKind} : Derives .pattern u → Derives .factor (.negation :: u)
  | keyword (k : String) : Derives .factor [.keyword k]

/-- The keyword of a token, if it is one. -/
def TokenKind.keyword? : TokenKind → Option String
  | .keyword k => some k
  | _ => none

/-- The keywords among some tokens. -/
def keywordsOf (ts : List TokenKind) : List String := ts.filterMap TokenKind.keyword?

@[simp] theorem keywordsOf_append (ts us : List TokenKind) :
    keywordsOf (ts ++ us) = keywordsOf ts ++ keywordsOf us :=
  List.filterMap_append

@[simp] theorem keywordsOf_nil : keywordsOf [] = [] := rfl

theorem keywordsOf_cons (t : TokenKind) (ts : List TokenKind) :
    keywordsOf (t :: ts) = t.keyword?.toList ++ keywordsOf ts := by
  rw [keywordsOf, List.filterMap_cons]
  cases t.keyword? <;> rfl

namespace Descent

/-- The first operand of a group joined with the others, strictly from left to right. -/
def joined (first : Pattern) (others : List (Connective × Pattern)) : Pattern :=
  others.foldl (fun l (c, q) => .compound c l q) first

@[simp] theorem joined_nil (p : Pattern) : joined p [] = p := rfl

@[simp] theorem joined_cons (p q : Pattern) (c : Connective) (qs : List (Connective × Pattern)) :
    joined p ((c, q) :: qs) = joined (.compound c p q) qs := rfl

theorem keywords_joined (p : Pattern) (qs : List (Connective × Pattern)) :
    (joined p qs).keywords = p.keywords ++ qs.flatMap fun (_, q) => q.keywords := by
  induction qs generalizing p with
  | nil => simp
  | cons cq qs ih =>
    obtain ⟨c, q⟩ := cq
    rw [joined_cons, ih, keywords, List.flatMap_cons, List.append_assoc]

/-! ### The readers -/

/-- What a reader that takes a token leaves of a list. -/
abbrev Shorter (ts : List TokenKind) := { rest : List TokenKind // rest.length < ts.length }

/-- What a reader that may take nothing leaves of a list. -/
abbrev Remaining (ts : List TokenKind) := { rest : List TokenKind // rest.length ≤ ts.length }

mutual

/-- Reads a factor. -/
def readFactor : (ts : List TokenKind) → Option (Pattern × Shorter ts)
  | .opening :: ts =>
    match readPattern ts with
    | some (p, ⟨.closing :: rest, h⟩) =>
      some (p, ⟨rest, by simp only [List.length_cons] at h ⊢; omega⟩)
    | _ => none
  | .negation :: ts =>
    match readPattern ts with
    | some (p, ⟨rest, h⟩) => some (.negation p, ⟨rest, by simp only [List.length_cons]; omega⟩)
    | none => none
  | .keyword k :: ts => some (.keyword k, ⟨ts, by simp⟩)
  | _ => none
termination_by ts => (ts.length, 0)

/-- Reads the operands after the first one, each with the connective before it. -/
def readTail : (ts : List TokenKind) → Option (List (Connective × Pattern) × Remaining ts)
  | .connective c :: ts =>
    match readFactor ts with
    | some (q, ⟨rest, h⟩) =>
      match readTail rest with
      | some (qs, ⟨rest', h'⟩) =>
        some ((c, q) :: qs, ⟨rest', by simp only [List.length_cons]; omega⟩)
      | none => none
    | none => none
  | ts => some ([], ⟨ts, Nat.le_refl _⟩)
termination_by ts => (ts.length, 0)

/-- Reads a factor and what follows it in its group. -/
def readPattern (ts : List TokenKind) : Option (Pattern × Shorter ts) :=
  match readFactor ts with
  | some (p, ⟨rest, h⟩) =>
    match readTail rest with
    | some (qs, ⟨rest', h'⟩) => some (joined p qs, ⟨rest', by omega⟩)
    | none => none
  | none => none
termination_by (ts.length, 1)

end

/-- The factor at the start of a list and the tokens after it. -/
def factor (ts : List TokenKind) : Option (Pattern × List TokenKind) :=
  (readFactor ts).map fun (p, rest) => (p, rest.1)

/-- The operands at the start of a list, each with its connective, and the tokens after them. -/
def tail (ts : List TokenKind) : Option (List (Connective × Pattern) × List TokenKind) :=
  (readTail ts).map fun (qs, rest) => (qs, rest.1)

/-- The pattern at the start of a list and the tokens after it. -/
def pattern (ts : List TokenKind) : Option (Pattern × List TokenKind) :=
  (readPattern ts).map fun (p, rest) => (p, rest.1)

/-- The pattern that a whole list writes. -/
def read (ts : List TokenKind) : Option Pattern :=
  match pattern ts with
  | some (p, []) => some p
  | _ => none

/-! ### What the readers do with the next token -/

theorem factor_opening (ts : List TokenKind) :
    factor (.opening :: ts) =
      match pattern ts with
      | some (p, .closing :: rest) => some (p, rest)
      | _ => none := by
  rw [factor, readFactor, pattern]
  rcases readPattern ts with _ | ⟨p, rest, h⟩
  · rfl
  · rcases rest with _ | ⟨t, rest⟩
    · rfl
    · cases t <;> rfl

theorem factor_negation (ts : List TokenKind) :
    factor (.negation :: ts) = (pattern ts).map fun (p, rest) => (.negation p, rest) := by
  rw [factor, readFactor, pattern]
  rcases readPattern ts with _ | ⟨p, rest, h⟩ <;> rfl

@[simp] theorem factor_keyword (k : String) (ts : List TokenKind) :
    factor (.keyword k :: ts) = some (.keyword k, ts) := by
  rw [factor, readFactor]; rfl

@[simp] theorem factor_nil : factor [] = none := by
  rw [factor, readFactor] <;> simp

@[simp] theorem factor_closing (ts : List TokenKind) : factor (.closing :: ts) = none := by
  rw [factor, readFactor] <;> simp

@[simp] theorem factor_connective (c : Connective) (ts : List TokenKind) :
    factor (.connective c :: ts) = none := by
  rw [factor, readFactor] <;> simp

theorem tail_connective (c : Connective) (ts : List TokenKind) :
    tail (.connective c :: ts) =
      (factor ts).bind fun (q, rest) => (tail rest).map fun (qs, r) => ((c, q) :: qs, r) := by
  rw [tail, readTail, factor]
  rcases readFactor ts with _ | ⟨q, rest, h⟩
  · rfl
  · simp only [Option.map_some, Option.bind_some, tail]
    rcases readTail rest with _ | ⟨qs, r, h'⟩ <;> rfl

/-- Tokens at which a group may end: the first of them, if any, is no connective. -/
def Ends (ts : List TokenKind) : Prop := ∀ c rest, ts ≠ .connective c :: rest

theorem ends_nil : Ends [] := fun _ _ h => by cases h

theorem ends_closing (ts : List TokenKind) : Ends (.closing :: ts) := fun _ _ h => by cases h

theorem ends_or_connective : ∀ ts, Ends ts ∨ ∃ c rest, ts = .connective c :: rest
  | [] => .inl ends_nil
  | t :: ts => by
    cases t with
    | connective c => exact .inr ⟨c, ts, rfl⟩
    | _ => exact .inl fun _ _ h => by cases h

theorem tail_of_ends {ts : List TokenKind} (h : Ends ts) : tail ts = some ([], ts) := by
  rw [tail, readTail]
  · rfl
  · exact h

theorem pattern_eq (ts : List TokenKind) :
    pattern ts =
      (factor ts).bind fun (p, rest) => (tail rest).map fun (qs, r) => (joined p qs, r) := by
  rw [pattern, readPattern, factor]
  rcases readFactor ts with _ | ⟨p, rest, h⟩
  · rfl
  · simp only [Option.map_some, Option.bind_some, tail]
    rcases readTail rest with _ | ⟨qs, r, h'⟩ <;> rfl

theorem pattern_of_factor {us ts : List TokenKind} {p : Pattern}
    (h : factor us = some (p, ts)) (he : Ends ts) : pattern us = some (p, ts) := by
  simp only [pattern_eq, h, Option.bind_some, tail_of_ends he, Option.map_some, joined_nil]

theorem factor_length {ts rest : List TokenKind} {p : Pattern} (h : factor ts = some (p, rest)) :
    rest.length < ts.length := by
  obtain ⟨⟨q, r⟩, -, he⟩ := Option.map_eq_some_iff.1 h
  obtain ⟨-, rfl⟩ := Prod.mk.inj he
  exact r.2

/-! ### What is read is derived -/

mutual

theorem derives_of_factor {ts rest : List TokenKind} {p : Pattern}
    (h : factor ts = some (p, rest)) :
    ∃ u, ts = u ++ rest ∧ Derives .factor u ∧ keywordsOf u = p.keywords := by
  match ts with
  | [] => simp at h
  | .closing :: ts => simp at h
  | .connective c :: ts => simp at h
  | .keyword k :: ts =>
    simp only [factor_keyword, Option.some.injEq, Prod.mk.injEq] at h
    obtain ⟨rfl, rfl⟩ := h
    exact ⟨[.keyword k], rfl, .keyword k, rfl⟩
  | .negation :: ts =>
    rw [factor_negation] at h
    obtain ⟨⟨q, r⟩, hp, he⟩ := Option.map_eq_some_iff.1 h
    obtain ⟨rfl, rfl⟩ := Prod.mk.inj he
    obtain ⟨u, rfl, hu, hk⟩ := derives_of_pattern hp
    exact ⟨.negation :: u, rfl, .negation hu,
      by simpa [keywordsOf_cons, TokenKind.keyword?, keywords] using hk⟩
  | .opening :: ts =>
    rw [factor_opening] at h
    split at h
    · rename_i q r hp
      obtain ⟨rfl, rfl⟩ := Prod.mk.inj (Option.some.inj h)
      obtain ⟨u, rfl, hu, hk⟩ := derives_of_pattern hp
      exact ⟨.opening :: (u ++ [.closing]), by simp, .group hu,
        by simpa [keywordsOf_cons, TokenKind.keyword?] using hk⟩
    · cases h
termination_by (ts.length, 0)

theorem derives_of_tail {ts rest : List TokenKind} {qs : List (Connective × Pattern)}
    (h : tail ts = some (qs, rest)) :
    ∃ u, ts = u ++ rest ∧ Derives .tail u ∧
      keywordsOf u = qs.flatMap fun (_, q) => q.keywords := by
  obtain hc | ⟨c, ts', rfl⟩ := ends_or_connective ts
  · rw [tail_of_ends hc] at h
    obtain ⟨rfl, rfl⟩ := Prod.mk.inj (Option.some.inj h)
    exact ⟨[], rfl, .tailEnd, rfl⟩
  · rw [tail_connective] at h
    obtain ⟨⟨q, r⟩, hf, h⟩ := Option.bind_eq_some_iff.1 h
    obtain ⟨⟨qs', r'⟩, ht, he⟩ := Option.map_eq_some_iff.1 h
    obtain ⟨rfl, rfl⟩ := Prod.mk.inj he
    have hlen := factor_length hf
    obtain ⟨u, rfl, hu, hku⟩ := derives_of_factor hf
    obtain ⟨v, rfl, hv, hkv⟩ := derives_of_tail ht
    exact ⟨.connective c :: (u ++ v), by simp, .tail c hu hv,
      by simp [keywordsOf_cons, TokenKind.keyword?, hku, hkv]⟩
termination_by (ts.length, 0)

theorem derives_of_pattern {ts rest : List TokenKind} {p : Pattern}
    (h : pattern ts = some (p, rest)) :
    ∃ u, ts = u ++ rest ∧ Derives .pattern u ∧ keywordsOf u = p.keywords := by
  rw [pattern_eq] at h
  obtain ⟨⟨q, r⟩, hf, h⟩ := Option.bind_eq_some_iff.1 h
  obtain ⟨⟨qs, r'⟩, ht, he⟩ := Option.map_eq_some_iff.1 h
  obtain ⟨rfl, rfl⟩ := Prod.mk.inj he
  have hlen := factor_length hf
  obtain ⟨u, rfl, hu, hku⟩ := derives_of_factor hf
  obtain ⟨v, rfl, hv, hkv⟩ := derives_of_tail ht
  exact ⟨u ++ v, by simp, .pattern hu hv, by simp [keywords_joined, hku, hkv]⟩
termination_by (ts.length, 1)

end

/-! ### What is derived is read -/

/-- Reading the other operands of a group takes all tokens up to `r`. -/
def TailReaches (r ts : List TokenKind) : Prop := ∃ qs, tail ts = some (qs, r)

theorem tailReaches_self {r : List TokenKind} (h : Ends r) : TailReaches r r :=
  ⟨[], tail_of_ends h⟩

/-- What each nonterminal promises of the tokens `u` that it derives, whatever follows them. A
factor may take more than `u`, because a negation goes on to the end of its group. -/
def Reads : Nonterminal → List TokenKind → Prop
  | .factor, u => ∀ r ts, Ends r → TailReaches r ts →
      ∃ p ts', factor (u ++ ts) = some (p, ts') ∧ TailReaches r ts'
  | .tail, u => ∀ r ts, Ends r → TailReaches r ts → TailReaches r (u ++ ts)
  | .pattern, u => ∀ r ts, Ends r → TailReaches r ts → ∃ p, pattern (u ++ ts) = some (p, r)

theorem reads_of_derives {n : Nonterminal} {u : List TokenKind} (h : Derives n u) : Reads n u := by
  induction h with
  | pattern _ _ ihf iht =>
    intro r ts hr hts
    obtain ⟨p, ts', hp, qs, hqs⟩ := ihf r _ hr (iht r ts hr hts)
    refine ⟨joined p qs, ?_⟩
    simp only [List.append_assoc, pattern_eq, hp, Option.bind_some, hqs, Option.map_some]
  | tailEnd => exact fun r ts _ hts => hts
  | tail c _ _ ihf iht =>
    intro r ts hr hts
    obtain ⟨q, ts', hq, qs, hqs⟩ := ihf r _ hr (iht r ts hr hts)
    refine ⟨(c, q) :: qs, ?_⟩
    simp only [List.cons_append, List.append_assoc, tail_connective, hq, Option.bind_some, hqs,
      Option.map_some]
  | group _ ih =>
    intro r ts hr hts
    have hclose := ends_closing ts
    obtain ⟨p, hp⟩ := ih (.closing :: ts) (.closing :: ts) hclose (tailReaches_self hclose)
    refine ⟨p, ts, ?_, hts⟩
    rw [List.cons_append, List.append_assoc, List.singleton_append, factor_opening, hp]
  | negation _ ih =>
    intro r ts hr hts
    obtain ⟨p, hp⟩ := ih r ts hr hts
    exact ⟨.negation p, r, by rw [List.cons_append, factor_negation, hp]; rfl, tailReaches_self hr⟩
  | keyword k => exact fun r ts _ hts => ⟨.keyword k, ts, factor_keyword k ts, hts⟩

theorem read_eq_some_iff {ts : List TokenKind} {p : Pattern} :
    read ts = some p ↔ pattern ts = some (p, []) := by
  rw [read]
  rcases pattern ts with _ | ⟨q, _ | ⟨t, rest⟩⟩ <;> simp

/-- Reading keeps the keywords in their order. -/
theorem keywords_of_read {ts : List TokenKind} {p : Pattern} (h : read ts = some p) :
    p.keywords = keywordsOf ts := by
  obtain ⟨u, rfl, -, hk⟩ := derives_of_pattern (read_eq_some_iff.1 h)
  rw [List.append_nil, hk]

/-- **Recursive descent reads exactly the lists of the grammar.** -/
theorem read_isSome_iff (ts : List TokenKind) : (read ts).isSome ↔ Derives .pattern ts := by
  simp only [Option.isSome_iff_exists, read_eq_some_iff]
  constructor
  · rintro ⟨p, h⟩
    obtain ⟨u, rfl, hu, -⟩ := derives_of_pattern h
    rwa [List.append_nil]
  · intro h
    obtain ⟨p, hp⟩ := reads_of_derives h [] [] ends_nil (tailReaches_self ends_nil)
    rw [List.append_nil] at hp
    exact ⟨p, hp⟩

end Descent

end Pattern

end DealWatch
