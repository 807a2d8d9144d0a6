import DealWatch.Proofs.Pipeline.History
import DealWatch.Proofs.Rule.Identity

/-!
# Rules in the store

A match refers to its rule by the fingerprint. So the row of the rule describes the rule that
accepted the listing as far as fingerprints tell rules apart: `History.record_of_hit` finds the rules
behind the two rows by the invariant of histories, and `History.fingerprint_identifies` says when
they are the same. Nothing is said about rules that cannot be identified, which are never stored.
-/

namespace DealWatch

namespace History

/-- A match and the row of its rule: the match was returned, and the row is the record of a rule
with the fingerprint of the one that accepted it. -/
theorem record_of_hit (es : List Event) {k : MatchRecord} (hk : k ∈ (after es).store.hits)
    {row : RuleRecord} (hrow : row ∈ (after es).store.rules) (hid : row.id = k.ruleId) :
    ∃ m ∈ (after es).returned, ∃ r ∈ (after es).started,
      hitKey m = (k.ruleId, k.postId) ∧ row = r.toRecord ∧ m.rule ∈ (after es).started ∧
        r.fingerprint = m.rule.fingerprint := by
  have hc := consistent_after es
  have hkey : (k.ruleId, k.postId) ∈ (after es).store.hitKeys := List.mem_map_of_mem hk
  rw [hc.hits] at hkey
  obtain ⟨m, hm, hmk⟩ := List.mem_map.1 hkey
  obtain ⟨r, hr, rfl⟩ := hc.records row hrow
  have hfp : r.fingerprint = m.rule.fingerprint := hid.trans (Prod.mk.inj hmk).1.symm
  exact ⟨m, hm, r, hr, hmk, rfl, hc.accepted m hm, hfp⟩

/-- **What a fingerprint identifies.**  Of two rules that were read, if the hash function separates
them: the fingerprints are equal exactly if the bytes are, and the bytes are equal exactly if the
rules look alike or the name of one takes in bytes of the other; where the same fields are there,
only the same rules have the same bytes. In a history of rules that were read, the row of the rule
of a match is the record of a rule that is told from the one that accepted exactly as well. -/
theorem fingerprint_identifies (hash : List UInt8 → Digest) {d e : Datum} {r s : Rule}
    (hr : Rule.compile d = .ok r) (hs : Rule.compile e = .ok s) (hsep : Rule.Separates hash r s)
    (es : List Event) (hread : ∀ r ∈ (after es).started, ∃ d, Rule.compile d = .ok r) :
    (r.fingerprintWith hash = s.fingerprintWith hash ↔ r.identity hash = s.identity hash) ∧
    (r.identity hash = s.identity hash ↔ r.Alike s ∨ r.Absorbs hash s ∨ s.Absorbs hash r) ∧
    (r.SameFields s → (r.identity hash = s.identity hash ↔ r.Same s)) ∧
    ∀ k ∈ (after es).store.hits, ∀ row ∈ (after es).store.rules, row.id = k.ruleId →
      ∃ m ∈ (after es).returned, ∃ r ∈ (after es).started,
        hitKey m = (k.ruleId, k.postId) ∧ row = r.toRecord ∧
        (Rule.Separates sha256 r m.rule →
          (r.Alike m.rule ∨ r.Absorbs sha256 m.rule ∨ m.rule.Absorbs sha256 r) ∧
          (r.SameFields m.rule → r.Same m.rule)) := by
  have hr := Rule.fitsWords_of_compile hr
  have hs := Rule.fitsWords_of_compile hs
  refine ⟨Rule.fingerprintWith_eq_iff hsep, Rule.identity_eq_iff hr hs hsep,
    Rule.identity_eq_iff_same hr hs hsep, ?_⟩
  intro k hk row hrow hid
  obtain ⟨m, hm, r, hr, hmk, hrec, hrule, hfp⟩ := record_of_hit es hk hrow hid
  refine ⟨m, hm, r, hr, hmk, hrec, fun hsep => ?_⟩
  obtain ⟨d, hd⟩ := hread r hr
  obtain ⟨e, he⟩ := hread m.rule hrule
  have hr := Rule.fitsWords_of_compile hd
  have hs := Rule.fitsWords_of_compile he
  have hbytes := (Rule.fingerprintWith_eq_iff hsep).1 hfp
  exact ⟨(Rule.identity_eq_iff hr hs hsep).1 hbytes,
    fun hfields => (Rule.identity_eq_iff_same hr hs hsep hfields).1 hbytes⟩

/-- The first bytes of a text of bytes, filled up with zeros. -/
def leadingBytes (bytes : List UInt8) : Digest := Vector.ofFn fun i => bytes.getD i 0

/-- Rules with different bounds in the same field have different fingerprints. -/
theorem fingerprint_identifies_bound :
    ∃ r s, Rule.compile (.dict [(.text "price_min", .int 5)]) = .ok r ∧
      Rule.compile (.dict [(.text "price_min", .int 6)]) = .ok s ∧
      Rule.Separates leadingBytes r s ∧
      r.fingerprintWith leadingBytes ≠ s.fingerprintWith leadingBytes := by
  let r : Rule := ⟨none, none, none, none, some 5, none, none⟩
  let s : Rule := ⟨none, none, none, none, some 6, none, none⟩
  have hr : Rule.compile (.dict [(.text "price_min", .int 5)]) = .ok r := rfl
  have hs : Rule.compile (.dict [(.text "price_min", .int 6)]) = .ok s := rfl
  have hsep : Rule.Separates leadingBytes r s := by
    refine ⟨?_, fun p hp => absurd hp (List.not_mem_nil)⟩
    rintro ⟨u, hu, v, hv, -, he⟩
    obtain rfl := List.mem_singleton.1 hu
    obtain rfl := List.mem_singleton.1 hv
    exact absurd he (by decide)
  have hread : ∀ q ∈ (after [.start ⟨[r, s]⟩ default]).started, ∃ d, Rule.compile d = .ok q := by
    intro q hq
    have hq : q ∈ [r, s] := hq
    obtain rfl | rfl := by simpa using hq
    · exact ⟨_, hr⟩
    · exact ⟨_, hs⟩
  obtain ⟨hfp, -, hsame, -⟩ :=
    fingerprint_identifies leadingBytes hr hs hsep [.start ⟨[r, s]⟩ default] hread
  refine ⟨r, s, hr, hs, hsep, fun h => ?_⟩
  have hprice := ((hsame ⟨rfl, rfl, rfl, rfl, rfl, rfl⟩).1 (hfp.1 h)).priceMin
  exact absurd hprice (by decide)

end History

end DealWatch
