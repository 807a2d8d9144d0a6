import DealWatch.Proofs.Bytes.Word
import DealWatch.Store.Basic

/-!
# Which rules can be identified

Computing a fingerprint fails for some rules, and then the rule cannot be stored and no match of it
can be: `Rule.flaw?` is what fails. `Rule.tryFingerprint_eq` says that nothing else does, and
`Rule.flaw?_eq_none_iff` which rules have no flaw: those whose texts can all be encoded and whose
bounds are words.

The parts of the bytes are computed one after the other, and the first that fails counts. So the
proof goes part by part: `SourcedPattern.mapM_tryDigestWith` is about the digests and
`Rule.mapM_signedBytes` about the bounds, both by induction on the list.
-/

namespace DealWatch

namespace SourcedPattern

/-- Why a keyword of a pattern cannot be encoded, if one cannot. -/
def fault? (p : SourcedPattern) : Option EncodingFault := p.halving.map (·.fault)

theorem mapM_tryDigestWith (hash : List UInt8 → Digest) (ps : List SourcedPattern) :
    ps.mapM (·.tryDigestWith hash) =
      (ps.findSome? fault?).elim (.ok (ps.map (·.pattern.digestWith hash)))
        fun fault => .error (.unencodable fault) := by
  induction ps with
  | nil => rfl
  | cons p ps ih =>
    rw [List.mapM_cons, ih, tryDigestWith, List.findSome?_cons, fault?]
    cases p.halving with
    | some h => rfl
    | none => cases ps.findSome? fault? <;> rfl

end SourcedPattern

namespace Rule

variable {r : Rule} {f : Failure}

/-- Why a text of a rule cannot be encoded, if one cannot. -/
def fault? (r : Rule) : Option EncodingFault :=
  r.nameFault.or ((r.patterns.filterMap id).findSome? SourcedPattern.fault?)

/-- Why a rule cannot be identified, if it cannot. -/
def flaw? (r : Rule) : Option Failure :=
  match r.fault? with
  | some fault => some (.unencodable fault)
  | none => if r.bounds.all isWord then none else some .wideBound

theorem fitsWords_iff : r.FitsWords ↔ r.bounds.all isWord = true := List.all_eq_true.symm

theorem flaw?_eq_none_iff : r.flaw? = none ↔ r.fault? = none ∧ r.FitsWords := by
  rw [flaw?, fitsWords_iff]
  cases r.fault? <;> simp

/-- All texts of a rule can be encoded if its name can and so can its patterns. -/
theorem fault?_eq_none_iff :
    r.fault? = none ↔ r.nameFault = none ∧ ∀ p, some p ∈ r.patterns → p.halving = none := by
  rw [fault?, Option.or_eq_none_iff, List.findSome?_eq_none_iff]
  simp only [List.mem_filterMap, id, exists_eq_right, SourcedPattern.fault?, Option.map_eq_none_iff]

theorem exists_flaw?_of_fault? (h : r.fault? ≠ none) :
    ∃ fault, r.flaw? = some (.unencodable fault) := by
  obtain ⟨fault, hfault⟩ := Option.ne_none_iff_exists'.1 h
  exact ⟨fault, by rw [flaw?, hfault]⟩

theorem mapM_signedBytes (is : List Int) :
    is.mapM (signedBytes 8) =
      if is.all isWord then .ok (is.map wordBytes) else .error .wideBound := by
  induction is with
  | nil => rfl
  | cons i is ih =>
    rw [List.mapM_cons, ih, signedBytes_eight, List.all_cons]
    cases isWord i with
    | false => rfl
    | true => cases is.all isWord <;> rfl

/-- **A rule is identified** unless it has a flaw. -/
theorem tryFingerprint_eq (r : Rule) :
    r.tryFingerprint = r.flaw?.elim (.ok r.fingerprint) .error := by
  have hdigests : (r.patterns.filterMap id).flatMap (fun p => (p.pattern.digestWith sha256).toList) =
      ((r.patterns.filterMap id).map (·.pattern.digestWith sha256)).flatMap Vector.toList := by
    rw [List.flatMap_map]
  rw [tryFingerprint, tryIdentityWith, tryNameBytes, SourcedPattern.mapM_tryDigestWith,
    mapM_signedBytes, flaw?, fault?, fingerprint, fingerprintWith, identity, hdigests]
  cases r.nameFault with
  | some fault => rfl
  | none =>
    rw [Option.none_or]
    cases (r.patterns.filterMap id).findSome? SourcedPattern.fault? with
    | some fault => rfl
    | none => cases r.bounds.all isWord <;> rfl

theorem tryFingerprint_of_flaw (h : r.flaw? = some f) : r.tryFingerprint = .error f := by
  rw [tryFingerprint_eq, h]
  rfl

theorem tryFingerprint_of_sound (h : r.flaw? = none) : r.tryFingerprint = .ok r.fingerprint := by
  rw [tryFingerprint_eq, h]
  rfl

end Rule

namespace Store

variable {r : Rule} {f : Failure}

/-- A rule is written if it can be identified: then its bounds can be stored as well. -/
theorem tryInsertRule_of_sound (s : Store) (h : r.flaw? = none) :
    s.tryInsertRule r = .ok (s.insertRule r) := by
  rw [tryInsertRule, Rule.tryFingerprint_of_sound h]
  exact if_pos (Rule.fitsWords_iff.1 (Rule.flaw?_eq_none_iff.1 h).2)

theorem tryInsertRule_of_flaw (s : Store) (h : r.flaw? = some f) :
    s.tryInsertRule r = .error f := by
  rw [tryInsertRule, Rule.tryFingerprint_of_flaw h]
  rfl

theorem tryInsertMatch_of_sound (s : Store) (h : r.flaw? = none) (postId : String) (now : Int) :
    s.tryInsertMatch r postId now = .ok (s.insertMatch r postId now) := by
  rw [tryInsertMatch, Rule.tryFingerprint_of_sound h]
  rfl

theorem tryInsertMatch_of_flaw (s : Store) (h : r.flaw? = some f) (postId : String) (now : Int) :
    s.tryInsertMatch r postId now = .error f := by
  rw [tryInsertMatch, Rule.tryFingerprint_of_flaw h]
  rfl

/-- A rule with a bound that is no word is not written. -/
example :
    empty.tryInsertRule ⟨none, none, none, none, some (2 ^ 63), none, none⟩ = .error .wideBound :=
  rfl

end Store

end DealWatch
