import DealWatch.Pattern.Digest
import DealWatch.Proofs.Pattern.Walk

/-!
# What digests tell apart

The digest of a pattern hashes one text of bytes for each part. Two patterns with the same digest
are the same, unless the hash function fails or a keyword is written like the bytes of a negation or
a compound.

* `preimage` is what is hashed for a whole pattern, `hashed` lists what is hashed for its parts;
* `Collides` and `Spells` are the two exceptions, `Confuses` is either of them;
* `eq_or_confuses` says that there are no others.

The proof is by induction on one of the patterns, with a case for what the other one is. Equal
digests have equal preimages or collide (`preimage_eq_or_confuses`), and a preimage tells the kind
of a pattern and the digests of its operands, as these have a fixed length.
-/

namespace DealWatch

theorem utf8_injective {s t : String} (h : utf8 s = utf8 t) : s = t := by
  simp only [utf8, String.toUTF8_eq_toByteArray, Array.toList_inj] at h
  exact String.toByteArray_inj.1 (ByteArray.ext h)

namespace Pattern

variable (hash : List UInt8 → Digest)

theorem digestWith_eq_eval (p : Pattern) : p.digestWith hash = (asDigest hash).eval p := by
  rw [digestWith, Reading.value?_eq, Option.getD_some]

/-- What is hashed for a pattern, after the digests of its operands are known. -/
def preimage : Pattern → List UInt8
  | .keyword k => utf8 k
  | .negation p => utf8 "!" ++ (p.digestWith hash).toList
  | .compound c l r => utf8 c.symbol ++ (l.digestWith hash).toList ++ (r.digestWith hash).toList

/-- What is hashed for the parts of a pattern. -/
def hashed (p : Pattern) : List (List UInt8) := p.parts.map (preimage hash)

theorem digestWith_eq (p : Pattern) : p.digestWith hash = hash (p.preimage hash) := by
  rw [digestWith_eq_eval]
  cases p with
  | keyword k => rfl
  | negation p => rw [preimage, digestWith_eq_eval]; rfl
  | compound c l r => rw [preimage, digestWith_eq_eval, digestWith_eq_eval]; rfl

theorem mem_parts_self (p : Pattern) : p ∈ p.parts := by
  cases p <;> simp [parts]

theorem preimage_mem_hashed (p : Pattern) : p.preimage hash ∈ p.hashed hash :=
  List.mem_map_of_mem p.mem_parts_self

/-! ### The exceptions -/

/-- Two different texts of bytes, one from each list, have the same hash. -/
def Collides (us vs : List (List UInt8)) : Prop := ∃ u ∈ us, ∃ v ∈ vs, u ≠ v ∧ hash u = hash v

/-- A keyword of the first pattern has the bytes that are hashed for a negation or a compound in the
second one. -/
def Spells (p q : Pattern) : Prop :=
  ∃ k, .keyword k ∈ p.parts ∧ ∃ x ∈ q.parts, (∀ k', x ≠ .keyword k') ∧ utf8 k = x.preimage hash

/-- One of the exceptions. -/
def Confuses (p q : Pattern) : Prop :=
  Collides hash (p.hashed hash) (q.hashed hash) ∨ Spells hash p q ∨ Spells hash q p

variable {hash}

/-- What confuses parts confuses the whole. -/
theorem Confuses.mono {p p' q q' : Pattern} (h : Confuses hash p q)
    (hp : ∀ x ∈ p.parts, x ∈ p'.parts) (hq : ∀ x ∈ q.parts, x ∈ q'.parts) :
    Confuses hash p' q' := by
  obtain ⟨u, hu, v, hv, hne, he⟩ | ⟨k, hk, x, hx, hcomp, he⟩ | ⟨k, hk, x, hx, hcomp, he⟩ := h
  · obtain ⟨x, hx, rfl⟩ := List.mem_map.1 hu
    obtain ⟨y, hy, rfl⟩ := List.mem_map.1 hv
    exact .inl ⟨_, List.mem_map_of_mem (hp x hx), _, List.mem_map_of_mem (hq y hy), hne, he⟩
  · exact .inr (.inl ⟨k, hp _ hk, x, hq x hx, hcomp, he⟩)
  · exact .inr (.inr ⟨k, hq _ hk, x, hp x hx, hcomp, he⟩)

/-! ### The bytes of composite parts -/

theorem preimage_negation_ne_compound {p l r : Pattern} {c : Connective} :
    preimage hash (.negation p) ≠ preimage hash (.compound c l r) := by
  intro h
  -- one byte and a digest against two bytes and two digests
  have hlen := congrArg List.length h
  have hsign : (utf8 "!").length = 1 := by decide
  have hsymbol : (utf8 c.symbol).length = 2 := by cases c <;> decide
  simp [preimage, hsign, hsymbol] at hlen

theorem preimage_negation_inj {p q : Pattern}
    (h : preimage hash (.negation p) = preimage hash (.negation q)) :
    p.digestWith hash = q.digestWith hash :=
  Vector.toList_inj.1 (List.append_cancel_left h)

theorem preimage_compound_inj {c c' : Connective} {l r l' r' : Pattern}
    (h : preimage hash (.compound c l r) = preimage hash (.compound c' l' r')) :
    c = c' ∧ l.digestWith hash = l'.digestWith hash ∧ r.digestWith hash = r'.digestWith hash := by
  obtain ⟨hleft, hr⟩ := List.append_inj' h (by simp)
  obtain ⟨hsymbol, hl⟩ := List.append_inj' hleft (by simp)
  have hc : c = c' := by
    have := utf8_injective hsymbol
    cases c <;> cases c' <;> first | rfl | exact absurd this (by decide)
  exact ⟨hc, Vector.toList_inj.1 hl, Vector.toList_inj.1 hr⟩

/-! ### Equal digests -/

/-- Equal digests come from the same bytes, unless these collide. -/
theorem preimage_eq_or_confuses {p q : Pattern} (h : p.digestWith hash = q.digestWith hash) :
    p.preimage hash = q.preimage hash ∨ Confuses hash p q := by
  by_cases he : p.preimage hash = q.preimage hash
  · exact .inl he
  · rw [digestWith_eq, digestWith_eq] at h
    exact .inr (.inl ⟨_, p.preimage_mem_hashed hash, _, q.preimage_mem_hashed hash, he, h⟩)

theorem parts_operand (p : Pattern) : ∀ x ∈ p.parts, x ∈ parts (.negation p) := by
  intro x hx
  exact List.mem_append_left _ hx

theorem parts_left (c : Connective) (l r : Pattern) :
    ∀ x ∈ l.parts, x ∈ parts (.compound c l r) := by
  intro x hx
  exact List.mem_append_left _ hx

theorem parts_right (c : Connective) (l r : Pattern) :
    ∀ x ∈ r.parts, x ∈ parts (.compound c l r) := by
  intro x hx
  exact List.mem_append_right _ (List.mem_append_left _ hx)

/-- A keyword with the bytes of a pattern that is none. -/
theorem confuses_of_spelled {k : String} {q : Pattern} (hq : ∀ k', q ≠ .keyword k')
    (h : utf8 k = q.preimage hash) :
    Confuses hash (.keyword k) q ∧ Confuses hash q (.keyword k) :=
  have hspells : Spells hash (.keyword k) q := ⟨k, mem_parts_self _, q, mem_parts_self q, hq, h⟩
  ⟨.inr (.inl hspells), .inr (.inr hspells)⟩

/-- **Equal digests** come from equal patterns, unless two different texts of bytes have the same
hash, or a keyword has the bytes of a negation or a compound. -/
theorem eq_or_confuses {p q : Pattern} (h : p.digestWith hash = q.digestWith hash) :
    p = q ∨ Confuses hash p q := by
  induction p generalizing q with
  | keyword k =>
    obtain hbytes | hconf := preimage_eq_or_confuses h
    · cases q with
      | keyword k' => exact .inl (congrArg _ (utf8_injective hbytes))
      | negation q => exact .inr (confuses_of_spelled (by simp) hbytes).1
      | compound c l r => exact .inr (confuses_of_spelled (by simp) hbytes).1
    · exact .inr hconf
  | negation p ih =>
    obtain hbytes | hconf := preimage_eq_or_confuses h
    · cases q with
      | keyword k => exact .inr (confuses_of_spelled (by simp) hbytes.symm).2
      | negation q =>
        obtain rfl | hconf := ih (preimage_negation_inj hbytes)
        · exact .inl rfl
        · exact .inr (hconf.mono (parts_operand p) (parts_operand q))
      | compound c l r => exact absurd hbytes preimage_negation_ne_compound
    · exact .inr hconf
  | compound c l r ihl ihr =>
    obtain hbytes | hconf := preimage_eq_or_confuses h
    · cases q with
      | keyword k => exact .inr (confuses_of_spelled (by simp) hbytes.symm).2
      | negation q => exact absurd hbytes.symm preimage_negation_ne_compound
      | compound c' l' r' =>
        obtain ⟨rfl, hl, hr⟩ := preimage_compound_inj hbytes
        obtain rfl | hconf := ihl hl
        · obtain rfl | hconf := ihr hr
          · exact .inl rfl
          · exact .inr (hconf.mono (parts_right c l r) (parts_right c l r'))
        · exact .inr (hconf.mono (parts_left c l r) (parts_left c l' r'))
    · exact .inr hconf

end Pattern

end DealWatch
