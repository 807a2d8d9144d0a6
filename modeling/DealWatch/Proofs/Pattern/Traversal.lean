import DealWatch.Pattern.Match
import DealWatch.Proofs.Pattern.Canonical
import DealWatch.Proofs.Pattern.Digest
import Mathlib.Data.List.Infix

/-!
# The walk through a pattern

The walk lists each node of a pattern once. Two nodes can be equal patterns, so a node is given by
its position, the branches that lead to it from the root.

* `Position` and `Pattern.at?` are the nodes of a pattern, `Precedes` is their order in the walk;
* `Pattern.positions` lists them in this order, `postorder_eq_positions` says that the walk does;
* `TrueOf`, `hashTree` and `written` are what the walk is used for, by recursion on the pattern;
* `postorder_spec` says that the values left on a stack are these.

Everything goes by structural induction: the positions of a compound are those of its operands, one
branch further down, and then its own. For the values on the stack the walk is first compared with
recursion in general (`Reading.value?_eq`), and each use is an instance.
-/

namespace DealWatch

namespace Pattern

/-! ### Nodes -/

/-- The way from a pattern to one of its operands. -/
inductive Branch where
  | operand
  | left
  | right
  deriving DecidableEq, Repr

/-- A node of a pattern, by the branches that lead to it from the root. -/
abbrev Position := List Branch

/-- The pattern at a position, if there is one. -/
def at? : Pattern → Position → Option Pattern
  | p, [] => some p
  | .negation p, .operand :: q => p.at? q
  | .compound _ l _, .left :: q => l.at? q
  | .compound _ _ r, .right :: q => r.at? q
  | _, _ :: _ => none

/-- The first of two positions is listed first: it lies below the second, or they part at a compound
and the first one is on the left. -/
inductive Precedes : Position → Position → Prop
  | below (u v : Position) (b : Branch) : Precedes (u ++ b :: v) u
  | left (u v w : Position) : Precedes (u ++ .left :: v) (u ++ .right :: w)

theorem Precedes.ne {q r : Position} (h : Precedes q r) : q ≠ r := by
  cases h with
  | below u v b => simp
  | left u v w => simp

theorem Precedes.cons {q r : Position} (h : Precedes q r) (b : Branch) :
    Precedes (b :: q) (b :: r) := by
  cases h with
  | below _ v b' => exact .below (b :: r) v b'
  | left u v w => exact .left (b :: u) v w

/-- The positions of a pattern, the left ones before the right ones and both before the root. -/
def positions : Pattern → List Position
  | .keyword _ => [[]]
  | .negation p => p.positions.map (.operand :: ·) ++ [[]]
  | .compound _ l r => l.positions.map (.left :: ·) ++ (r.positions.map (.right :: ·) ++ [[]])

theorem mem_positions {p : Pattern} {q : Position} : q ∈ p.positions ↔ (p.at? q).isSome := by
  induction p generalizing q with
  | keyword k => cases q <;> simp [positions, at?]
  | negation p ih =>
    rcases q with _ | ⟨b, q⟩
    · simp [positions, at?]
    · cases b <;> simp [positions, at?, ih]
  | compound c l r ihl ihr =>
    rcases q with _ | ⟨b, q⟩
    · simp [positions, at?]
    · cases b <;> simp [positions, at?, ihl, ihr]

/-- Positions below one branch keep their order, and come before the root. -/
theorem pairwise_below {qs : List Position} (h : qs.Pairwise Precedes) (b : Branch) :
    (qs.map (b :: ·) ++ [[]]).Pairwise Precedes := by
  rw [List.pairwise_append]
  refine ⟨List.pairwise_map.2 (h.imp fun hqr => hqr.cons b), List.pairwise_singleton _ _, ?_⟩
  intro q hq r hr
  obtain ⟨v, -, rfl⟩ := List.mem_map.1 hq
  obtain rfl := List.mem_singleton.1 hr
  exact .below [] v b

theorem positions_pairwise (p : Pattern) : p.positions.Pairwise Precedes := by
  induction p with
  | keyword k => exact List.pairwise_singleton _ _
  | negation p ih => exact pairwise_below ih .operand
  | compound c l r ihl ihr =>
    rw [positions, List.pairwise_append]
    refine ⟨List.pairwise_map.2 (ihl.imp fun hqr => hqr.cons .left), pairwise_below ihr .right, ?_⟩
    intro q hq s hs
    obtain ⟨v, -, rfl⟩ := List.mem_map.1 hq
    obtain hs | hs := List.mem_append.1 hs
    · obtain ⟨w, -, rfl⟩ := List.mem_map.1 hs
      exact .left [] v w
    · obtain rfl := List.mem_singleton.1 hs
      exact .below [] v .left

theorem positions_nodup (p : Pattern) : p.positions.Nodup :=
  p.positions_pairwise.imp Precedes.ne

/-- **The walk** lists the nodes in the order of their positions. -/
theorem postorder_eq_positions (p : Pattern) : p.postorder.map some = p.positions.map p.at? := by
  rw [postorder_eq_parts]
  induction p with
  | keyword k => rfl
  | negation p ih => simp [parts, positions, at?, ih]
  | compound c l r ihl ihr =>
    have hleft : (compound c l r).at? ∘ (.left :: ·) = l.at? := rfl
    have hright : (compound c l r).at? ∘ (.right :: ·) = r.at? := rfl
    simp [parts, positions, ihl, ihr, hleft, hright, at?]

/-! ### What the walk is used for -/

theorem occursIn_iff (needle text : List Char) : occursIn needle text = true ↔ needle <:+: text := by
  induction text with
  | nil => simp [occursIn]
  | cons c text ih =>
    rw [occursIn, Bool.or_eq_true, List.isPrefixOf_iff_prefix, ih, List.infix_cons_iff]

/-- What a pattern says of a text: a keyword occurs in it when both are in small letters. -/
def TrueOf (text : String) : Pattern → Prop
  | .keyword k => (lower k).toList <:+: (lower text).toList
  | .negation p => ¬ p.TrueOf text
  | .compound .both l r => l.TrueOf text ∧ r.TrueOf text
  | .compound .either l r => l.TrueOf text ∨ r.TrueOf text

theorem holds_eq_eval (p : Pattern) (text : String) :
    p.holds text = (asStatement (lower text).toList).eval p := by
  rw [holds, Reading.value?_eq, Option.getD_some]

theorem holds_iff_trueOf (p : Pattern) (text : String) : p.holds text = true ↔ p.TrueOf text := by
  rw [holds_eq_eval]
  induction p with
  | keyword k => exact occursIn_iff _ _
  | negation p ih =>
    rw [TrueOf, ← ih]
    simp [Reading.eval, asStatement]
  | compound c l r ihl ihr =>
    cases c with
    | both =>
      rw [TrueOf, ← ihl, ← ihr]
      simp [Reading.eval, asStatement, Connective.combine]
    | either =>
      rw [TrueOf, ← ihl, ← ihr]
      simp [Reading.eval, asStatement, Connective.combine]

/-- The hash of a pattern from those of its operands, with a tag for its outermost sign. -/
def hashTree (hash : List UInt8 → Digest) : Pattern → Digest
  | .keyword k => hash (utf8 k)
  | .negation p => hash (utf8 "!" ++ (p.hashTree hash).toList)
  | .compound .both l r =>
    hash (utf8 "&&" ++ ((l.hashTree hash).toList ++ (r.hashTree hash).toList))
  | .compound .either l r =>
    hash (utf8 "||" ++ ((l.hashTree hash).toList ++ (r.hashTree hash).toList))

theorem digestWith_eq_hashTree (hash : List UInt8 → Digest) (p : Pattern) :
    p.digestWith hash = p.hashTree hash := by
  induction p with
  | keyword k => exact digestWith_eq hash _
  | negation p ih => rw [digestWith_eq, preimage, ih, hashTree]
  | compound c l r ihl ihr =>
    cases c <;> rw [digestWith_eq, preimage, ihl, ihr, List.append_assoc, hashTree] <;> rfl

/-- The values of the nodes in the order of the walk leave that of the pattern on an empty stack, and
nothing is taken from a stack that has too little. -/
theorem foldlM_postorder {α : Type} (m : Reading α) (p : Pattern) :
    p.postorder.foldlM m.step [] = some [m.eval p] := by
  rw [postorder_eq_parts, Reading.foldlM_parts]

/-- **The walk and its uses.**  The walk lists each node of a pattern once, the left ones before the
right ones and all below a node before it. On a stack, its truth, its digest and its text come of
the list without a value too few or too many, and they are what recursion on the pattern gives. -/
theorem postorder_spec (p : Pattern) (text : String) (hash : List UInt8 → Digest) :
    (∃ order : List Position, order.Nodup ∧ (∀ q, q ∈ order ↔ (p.at? q).isSome) ∧
      order.Pairwise Precedes ∧ p.postorder.map some = order.map p.at?) ∧
    (p.postorder.foldlM (asStatement (lower text).toList).step [] = some [p.holds text] ∧
      (p.holds text = true ↔ p.TrueOf text)) ∧
    (p.postorder.foldlM (asDigest hash).step [] = some [p.digestWith hash] ∧
      p.digestWith hash = p.hashTree hash) ∧
    p.postorder.foldlM asText.step [] = some [p.canonical] ∧ p.canonical.toList = p.written := by
  refine ⟨⟨p.positions, p.positions_nodup, fun q => mem_positions, p.positions_pairwise,
    p.postorder_eq_positions⟩, ⟨?_, p.holds_iff_trueOf text⟩,
    ⟨?_, digestWith_eq_hashTree hash p⟩, ?_, canonical_toList p⟩
  · rw [foldlM_postorder, holds_eq_eval]
  · rw [foldlM_postorder, digestWith_eq_eval]
  · rw [foldlM_postorder, canonical, Reading.value?_eq, Option.getD_some]

end Pattern

end DealWatch
