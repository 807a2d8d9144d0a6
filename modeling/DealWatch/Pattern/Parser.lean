import DealWatch.Pattern.Token

/-!
# Reading patterns

Operands are folded into the innermost open frame as they arrive: the connectives of one group have
the same rank and are applied from left to right. A negation takes everything up to the end of the
group it stands in.

* `Frame` is a group or a negation that is still open;
* `Assembly` is the state between two tokens, and `Assembly.feed` its step;
* `Pattern.parse` reads a text.
-/

namespace DealWatch

namespace Pattern

/-- What opened a frame: the start of the text, a parenthesis or a negation. -/
inductive Opener where
  | root
  | group
  | negation
  deriving DecidableEq, Repr, Inhabited

/-- A group or a negation that is still open: what was read of it, and the connective after that. -/
structure Frame where
  opener : Opener
  location : Nat
  operand : Option Pattern := none
  pending : Option Connective := none
  deriving DecidableEq, Repr, Inhabited

/-- A frame after one more operand. -/
def Frame.add (f : Frame) (p : Pattern) : Frame :=
  match f.operand, f.pending with
  | none, _ => { f with operand := some p, pending := none }
  | some l, some .both => { f with operand := some (.compound .both l p), pending := none }
  | some l, _ => { f with operand := some (.compound .either l p), pending := none }

/-- The state between two tokens: the open frames, the innermost apart, and whether an operand is
awaited. -/
structure Assembly where
  top : Frame
  below : List Frame
  wanted : Bool
  deriving DecidableEq, Repr, Inhabited

namespace Assembly

/-- The state before the first token. -/
def start : Assembly := ⟨{ opener := .root, location := 0 }, [], true⟩

/-- Closes the negations on top of the open frames. -/
def closeNegations (top : Frame) : List Frame → Frame × List Frame
  | [] => (top, [])
  | f :: fs =>
    match top.opener, top.operand with
    | .negation, some p => closeNegations (f.add (.negation p)) fs
    | .negation, none => closeNegations f fs
    | _, _ => (top, f :: fs)

/-- Closes the negations on top of the open frames, and then the group. -/
def closeGroup (a : Assembly) : Option Assembly :=
  match closeNegations a.top a.below with
  | (⟨.group, _, some p, _⟩, f :: fs) => some ⟨f.add p, fs, false⟩
  | _ => none

/-- The state after a token, or what is wrong with the token. -/
def feed (a : Assembly) (t : Token) : Except Located Assembly :=
  if a.wanted then
    match t.kind with
    | .opening => .ok ⟨{ opener := .group, location := t.location }, a.top :: a.below, true⟩
    | .negation => .ok ⟨{ opener := .negation, location := t.location }, a.top :: a.below, true⟩
    | .keyword k => .ok ⟨a.top.add (.keyword k), a.below, false⟩
    | _ => .error (t.location, .expectedOperand)
  else
    match t.kind with
    | .connective c => .ok ⟨{ a.top with pending := some c }, a.below, true⟩
    | .closing =>
      match a.closeGroup with
      | some a => .ok a
      | none => .error (t.location, .unmatchedClosing)
    | _ => .error (t.location, .expectedConnective)

/-- The pattern at the end of a text with the given number of characters. -/
def finish (a : Assembly) (length : Nat) : Except Located Pattern :=
  if a.wanted then .error (length, .expectedOperand)
  else
    match closeNegations a.top a.below with
    | (f, _ :: _) => .error (f.location, .unclosedOpening)
    | (f, []) =>
      match f.operand with
      | some p => .ok p
      | none => .error (length, .expectedOperand)

end Assembly

/-- The pattern that a list of tokens writes; `length` is the location of the end. -/
def assemble (length : Nat) (tokens : List Token) : Except Located Pattern := do
  let a ← tokens.foldlM Assembly.feed Assembly.start
  a.finish length

/-- Reads a text as a pattern. The column of an error among the tokens counts from the start of
the text. -/
def parse (source : String) : Except SyntaxError Pattern := do
  let tokens ← scan source
  match assemble source.length tokens with
  | .ok p => .ok p
  | .error (location, fault) => .error ⟨source, location + 1, fault⟩

end Pattern

end DealWatch
