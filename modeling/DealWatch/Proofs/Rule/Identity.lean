import DealWatch.Proofs.Bytes.Base64
import DealWatch.Proofs.Pattern.Digest
import DealWatch.Rule.Definition

/-!
# What fingerprints tell apart

The bytes that identify a rule are its name, the digests of its patterns and its bounds, one after
the other. Nothing says which field a digest or a bound belongs to, or where the name ends.

* `Rule.Alike` compares rules by their texts without regard to the fields, `Rule.Same` field by
  field, and `Rule.SameFields` says that the same fields are there;
* `Rule.Absorbs` says that the name of one rule goes on with the digests and bounds of the other;
* `Rule.Separates` says that the hash function fails nowhere;
* `Rule.identity_eq_iff` says when the bytes are equal.

Digests have 32 bytes and bounds eight, of which there are two at most. So the length of what stands
behind the name says how many of each there are, and equal bytes behind equal names are equal
digests and equal bounds. If the names are not equal one of them is the beginning of the other, and
that is `Rule.Absorbs`.

Only rules whose bounds are words are compared; the others cannot be identified at all.
-/

namespace DealWatch

/-! ### Lists -/

section FixedWidth

variable {α β : Type} {f : α → List β} {width : Nat}

theorem length_flatMap_of_width (hf : ∀ a, (f a).length = width) (xs : List α) :
    (xs.flatMap f).length = width * xs.length := by
  induction xs with
  | nil => rfl
  | cons x xs ih =>
    rw [List.flatMap_cons, List.length_append, hf, ih, List.length_cons, Nat.mul_succ, Nat.add_comm]

/-- Blocks of the same width are found again in their concatenation. -/
theorem map_eq_of_flatMap_eq (hf : ∀ a, (f a).length = width) {xs ys : List α}
    (hlen : xs.length = ys.length) (h : xs.flatMap f = ys.flatMap f) : xs.map f = ys.map f := by
  induction xs generalizing ys with
  | nil => rw [List.length_eq_zero_iff.1 hlen.symm]
  | cons x xs ih =>
    cases ys with
    | nil => cases hlen
    | cons y ys =>
      rw [List.flatMap_cons, List.flatMap_cons] at h
      obtain ⟨hx, hxs⟩ := List.append_inj h ((hf x).trans (hf y).symm)
      rw [List.map_cons, List.map_cons, hx, ih (Nat.succ.inj hlen) hxs]

end FixedWidth

/-- Lists whose items are told apart by `f` are told apart item by item. -/
theorem eq_of_map_eq {α β : Type} {f : α → β} {xs ys : List α}
    (hinj : ∀ x ∈ xs, ∀ y ∈ ys, f x = f y → x = y) (h : xs.map f = ys.map f) : xs = ys := by
  induction xs generalizing ys with
  | nil => exact (List.map_eq_nil_iff.1 h.symm).symm
  | cons x xs ih =>
    cases ys with
    | nil => cases h
    | cons y ys =>
      obtain ⟨hx, htail⟩ := List.cons.inj h
      have hxy := hinj x List.mem_cons_self y List.mem_cons_self hx
      have hrest := ih (fun x hmx y hmy =>
        hinj x (List.mem_cons_of_mem _ hmx) y (List.mem_cons_of_mem _ hmy)) htail
      rw [hxy, hrest]

theorem length_filterMap_id {α : Type} (xs : List (Option α)) :
    (xs.filterMap id).length = (xs.map (·.isSome)).count true := by
  induction xs with
  | nil => rfl
  | cons x xs ih => cases x <;> simpa using ih

theorem eq_of_filterMap_id {α : Type} {xs ys : List (Option α)}
    (hsome : xs.map (·.isSome) = ys.map (·.isSome)) (h : xs.filterMap id = ys.filterMap id) :
    xs = ys := by
  induction xs generalizing ys with
  | nil =>
    rw [List.map_nil, eq_comm, List.map_eq_nil_iff] at hsome
    exact hsome.symm
  | cons x xs ih =>
    cases ys with
    | nil => cases hsome
    | cons y ys =>
      obtain ⟨hxy, htail⟩ := List.cons.inj hsome
      cases x with
      | none =>
        obtain rfl : y = none := by simpa using hxy.symm
        rw [ih htail h]
      | some a =>
        obtain ⟨b, rfl⟩ := Option.isSome_iff_exists.1 hxy.symm
        obtain ⟨rfl, hrest⟩ := List.cons.inj h
        rw [ih htail hrest]

/-! ### Numbers of eight bytes -/

/-- The low bytes of a number determine its remainder. -/
theorem mod_eq_of_bytes {m n : Nat} (width : Nat)
    (h : (List.range width).map (fun k => UInt8.ofNat (m / Nat.pow 256 k)) =
      (List.range width).map fun k => UInt8.ofNat (n / Nat.pow 256 k)) :
    m % Nat.pow 256 width = n % Nat.pow 256 width := by
  induction width with
  | zero => exact (Nat.mod_one m).trans (Nat.mod_one n).symm
  | succ w ih =>
    rw [List.range_succ, List.map_append, List.map_append] at h
    obtain ⟨hlow, hlast⟩ := List.append_inj' h rfl
    have hbyte : m / Nat.pow 256 w % 256 = n / Nat.pow 256 w % 256 := by
      have hnat := congrArg UInt8.toNat (List.cons.inj hlast).1
      rw [UInt8.toNat_ofNat', UInt8.toNat_ofNat'] at hnat
      exact hnat
    have hpow : Nat.pow 256 (w + 1) = Nat.pow 256 w * 256 := rfl
    rw [hpow, Nat.mod_mul, Nat.mod_mul, ih hlow, hbyte]

namespace Rule

theorem wordBytes_length (i : Int) : (wordBytes i).length = 8 := by
  simp [wordBytes]

theorem isWord_iff {i : Int} :
    isWord i = true ↔ -9223372036854775808 ≤ i ∧ i < 9223372036854775808 := by
  rw [isWord, Bool.and_eq_true, decide_eq_true_eq, decide_eq_true_eq]
  rfl

theorem wordBytes_injective {i j : Int} (hi : isWord i = true) (hj : isWord j = true)
    (h : wordBytes i = wordBytes j) : i = j := by
  have hmod := mod_eq_of_bytes 8 h
  have hi := isWord_iff.1 hi
  have hj := isWord_iff.1 hj
  have hpow : Nat.pow 256 8 = 18446744073709551616 := rfl
  simp only [wordLimit, hpow] at hmod
  omega

/-! ### The parts of the bytes -/

/-- The structures of the patterns that are there. -/
def trees (r : Rule) : List Pattern := (r.patterns.filterMap id).map (·.pattern)

variable (hash : List UInt8 → Digest)

/-- The bytes after the name. -/
def constraintBytes (r : Rule) : List UInt8 :=
  r.trees.flatMap (fun p => (p.digestWith hash).toList) ++ r.bounds.flatMap wordBytes

theorem identity_eq (r : Rule) : r.identity hash = r.nameBytes ++ r.constraintBytes hash := by
  rw [identity, constraintBytes, trees, List.flatMap_map, List.append_assoc]

theorem nameBytes_eq (r : Rule) : r.nameBytes = utf8 (r.name.getD "") := by
  rw [nameBytes]
  cases r.name with
  | none => rfl
  | some n => rfl

theorem length_bounds (r : Rule) : r.bounds.length ≤ 2 :=
  List.length_filterMap_le id [r.priceMin, r.priceMax]

theorem length_constraintBytes (r : Rule) :
    (r.constraintBytes hash).length = 32 * r.trees.length + 8 * r.bounds.length := by
  rw [constraintBytes, List.length_append,
    length_flatMap_of_width (fun p => Vector.length_toList) r.trees,
    length_flatMap_of_width wordBytes_length r.bounds]

/-! ### Comparing rules -/

/-- The same texts and numbers, whatever field they are in. No name counts as an empty one. -/
structure Alike (r s : Rule) : Prop where
  name : r.name.getD "" = s.name.getD ""
  trees : r.trees = s.trees
  bounds : r.bounds = s.bounds

/-- The same name, the same structure of each pattern and the same bounds. -/
structure Same (r s : Rule) : Prop where
  name : r.name = s.name
  flair : r.flair.map (·.pattern) = s.flair.map (·.pattern)
  productType : r.productType.map (·.pattern) = s.productType.map (·.pattern)
  description : r.description.map (·.pattern) = s.description.map (·.pattern)
  priceMin : r.priceMin = s.priceMin
  priceMax : r.priceMax = s.priceMax

/-- The same fields are there. -/
structure SameFields (r s : Rule) : Prop where
  name : r.name.isSome = s.name.isSome
  flair : r.flair.isSome = s.flair.isSome
  productType : r.productType.isSome = s.productType.isSome
  description : r.description.isSome = s.description.isSome
  priceMin : r.priceMin.isSome = s.priceMin.isSome
  priceMax : r.priceMax.isSome = s.priceMax.isSome

/-- The name of the first rule goes on, after the name of the second one, with the bytes of digests
and bounds that only the second one has. -/
def Absorbs (r s : Rule) : Prop :=
  ∃ w, w ≠ [] ∧ r.nameBytes = s.nameBytes ++ w ∧
    s.constraintBytes hash = w ++ r.constraintBytes hash

/-- What is hashed for a rule: the parts of its patterns and its bytes as a whole. -/
def hashed (r : Rule) : List (List UInt8) :=
  r.trees.flatMap (Pattern.hashed hash) ++ [r.identity hash]

/-- No two different texts of bytes that are hashed for the rules have the same hash, and no keyword
has the bytes that are hashed for a negation or a compound. -/
structure Separates (r s : Rule) : Prop where
  noCollision : ¬ Pattern.Collides hash (r.hashed hash) (s.hashed hash)
  noSpelling : ∀ p ∈ r.trees, ∀ q ∈ s.trees, ¬ Pattern.Spells hash p q ∧ ¬ Pattern.Spells hash q p

/-! ### The same fields -/

theorem trees_eq (r : Rule) :
    r.trees = (r.patterns.map (Option.map (·.pattern))).filterMap id := by
  rw [trees, List.map_filterMap, List.filterMap_map]
  rfl

variable {hash} {r s : Rule}

theorem Same.alike (h : r.Same s) : r.Alike s where
  name := by rw [h.name]
  trees := by simp only [trees_eq, patterns, List.map_cons, h.flair, h.productType, h.description]
  bounds := by rw [bounds, bounds, h.priceMin, h.priceMax]

/-- Where the same fields are there, rules that look alike are the same. -/
theorem Alike.same (h : r.Alike s) (hfields : r.SameFields s) : r.Same s := by
  have hname : r.name = s.name := by
    have hn := h.name
    have hf := hfields.name
    cases hr : r.name <;> cases hs : s.name <;> simp_all
  have htrees := h.trees
  rw [trees_eq, trees_eq] at htrees
  have hpatterns := eq_of_filterMap_id (by
    simp [patterns, hfields.flair, hfields.productType, hfields.description]) htrees
  have hbounds := eq_of_filterMap_id (by simp [hfields.priceMin, hfields.priceMax]) h.bounds
  simp only [patterns, List.map_cons, List.cons.injEq, List.map_nil, and_true] at hpatterns hbounds
  exact ⟨hname, hpatterns.1, hpatterns.2.1, hpatterns.2.2, hbounds.1, hbounds.2⟩

theorem SameFields.patterns_isSome (h : r.SameFields s) :
    r.patterns.map (·.isSome) = s.patterns.map (·.isSome) := by
  simp only [patterns, List.map_cons, h.flair, h.productType, h.description]

theorem SameFields.bounds_isSome (h : r.SameFields s) :
    [r.priceMin, r.priceMax].map (·.isSome) = [s.priceMin, s.priceMax].map (·.isSome) := by
  simp only [List.map_cons, h.priceMin, h.priceMax]

/-- Where the same fields are there, no name takes in bytes of the other rule. -/
theorem Absorbs.not_sameFields (h : r.Absorbs hash s) : ¬ r.SameFields s := by
  intro hfields
  obtain ⟨w, hw, -, hbytes⟩ := h
  have htrees : r.trees.length = s.trees.length := by
    rw [trees, trees, List.length_map, List.length_map, length_filterMap_id, length_filterMap_id,
      hfields.patterns_isSome]
  have hbounds : r.bounds.length = s.bounds.length := by
    rw [bounds, bounds, length_filterMap_id, length_filterMap_id, hfields.bounds_isSome]
  have hlen := congrArg List.length hbytes
  rw [List.length_append, length_constraintBytes, length_constraintBytes, htrees, hbounds] at hlen
  exact hw (List.length_eq_zero_iff.1 (by omega))

/-! ### Equal bytes -/

theorem Alike.identity_eq (h : r.Alike s) : r.identity hash = s.identity hash := by
  rw [Rule.identity_eq, Rule.identity_eq, nameBytes_eq, nameBytes_eq, h.name, constraintBytes,
    constraintBytes, h.trees, h.bounds]

theorem Absorbs.identity_eq (h : r.Absorbs hash s) : r.identity hash = s.identity hash := by
  obtain ⟨w, -, hname, hbytes⟩ := h
  rw [Rule.identity_eq, Rule.identity_eq, hname, hbytes, List.append_assoc]

theorem SameFields.symm (h : r.SameFields s) : s.SameFields r :=
  ⟨h.name.symm, h.flair.symm, h.productType.symm, h.description.symm, h.priceMin.symm,
    h.priceMax.symm⟩

/-- The patterns of rules that the hash function separates are not confused. -/
theorem Separates.not_confuses (h : Separates hash r s) :
    ∀ p ∈ r.trees, ∀ q ∈ s.trees, ¬ Pattern.Confuses hash p q := by
  rintro p hp q hq (hcoll | hspell | hspell)
  · obtain ⟨u, hu, v, hv, hne, he⟩ := hcoll
    have hu : u ∈ r.hashed hash := List.mem_append_left _ (List.mem_flatMap.2 ⟨p, hp, hu⟩)
    have hv : v ∈ s.hashed hash := List.mem_append_left _ (List.mem_flatMap.2 ⟨q, hq, hv⟩)
    exact h.noCollision ⟨u, hu, v, hv, hne, he⟩
  · exact (h.noSpelling p hp q hq).1 hspell
  · exact (h.noSpelling p hp q hq).2 hspell

/-- Bounds that are words, as those of every rule that was read. -/
def FitsWords (r : Rule) : Prop := ∀ i ∈ r.bounds, isWord i = true

/-- The same bytes after names of the same bytes come from rules that look alike. -/
theorem alike_of_constraintBytes (hr : r.FitsWords) (hs : s.FitsWords)
    (hsep : Separates hash r s) (hname : r.nameBytes = s.nameBytes)
    (hbytes : r.constraintBytes hash = s.constraintBytes hash) : r.Alike s := by
  -- at most two bounds of eight bytes are shorter than a digest, so the lengths give the numbers
  have hlen := congrArg List.length hbytes
  rw [length_constraintBytes, length_constraintBytes] at hlen
  have hrb := r.length_bounds
  have hsb := s.length_bounds
  have htrees : r.trees.length = s.trees.length := by omega
  have hbounds : r.bounds.length = s.bounds.length := by omega
  obtain ⟨hdigests, hwords⟩ := List.append_inj hbytes (by
    rw [length_flatMap_of_width (fun p => Vector.length_toList),
      length_flatMap_of_width (fun p => Vector.length_toList), htrees])
  refine ⟨?_, ?_, ?_⟩
  · rw [nameBytes_eq, nameBytes_eq] at hname
    exact utf8_injective hname
  · refine eq_of_map_eq (fun p hp q hq hd => ?_)
      (map_eq_of_flatMap_eq (fun p => Vector.length_toList) htrees hdigests)
    obtain he | hconf := Pattern.eq_or_confuses (Vector.toList_inj.1 hd)
    · exact he
    · exact absurd hconf (hsep.not_confuses p hp q hq)
  · exact eq_of_map_eq (fun i hi j hj hw => wordBytes_injective (hr i hi) (hs j hj) hw)
      (map_eq_of_flatMap_eq wordBytes_length hbounds hwords)

/-- **Rules have the same bytes** if they look alike, or if the name of one takes in bytes that
belong to digests and bounds of the other; and not otherwise, if the hash function separates
them. -/
theorem identity_eq_iff (hr : r.FitsWords) (hs : s.FitsWords) (hsep : Separates hash r s) :
    r.identity hash = s.identity hash ↔
      r.Alike s ∨ r.Absorbs hash s ∨ s.Absorbs hash r := by
  constructor
  · intro h
    rw [identity_eq, identity_eq] at h
    obtain ⟨w, hname, hbytes⟩ | ⟨w, hname, hbytes⟩ := List.append_eq_append_iff.1 h
    · by_cases hw : w = []
      · subst hw
        rw [List.append_nil] at hname
        exact .inl (alike_of_constraintBytes hr hs hsep hname.symm hbytes)
      · exact .inr (.inr ⟨w, hw, hname, hbytes⟩)
    · by_cases hw : w = []
      · subst hw
        rw [List.append_nil] at hname
        exact .inl (alike_of_constraintBytes hr hs hsep hname hbytes.symm)
      · exact .inr (.inl ⟨w, hw, hname, hbytes⟩)
  · rintro (h | h | h)
    · exact h.identity_eq
    · exact h.identity_eq
    · exact h.identity_eq.symm

/-- Eight letters of a name are the bytes of a bound. -/
example (hash : List UInt8 → Digest) :
    identity hash ⟨some "AAAAAAAA", none, none, none, none, none, none⟩ =
      identity hash ⟨none, none, none, none, some 4702111234474983745, none, none⟩ := by
  rfl

/-- The least and the greatest price are not told apart. -/
theorem identity_of_other_bound :
    ∃ r s, compile (.dict [(.text "price_min", .int 5)]) = .ok r ∧
      compile (.dict [(.text "price_max", .int 5)]) = .ok s ∧ r.priceMin ≠ s.priceMin ∧
      ∀ hash, r.identity hash = s.identity hash :=
  ⟨⟨none, none, none, none, some 5, none, none⟩, ⟨none, none, none, none, none, some 5, none⟩,
    rfl, rfl, by decide, fun _ => rfl⟩

/-- Where the same fields are there, only the same rules have the same bytes. -/
theorem identity_eq_iff_same (hr : r.FitsWords) (hs : s.FitsWords) (hsep : Separates hash r s)
    (hfields : r.SameFields s) : r.identity hash = s.identity hash ↔ r.Same s := by
  rw [identity_eq_iff hr hs hsep]
  constructor
  · rintro (h | h | h)
    · exact h.same hfields
    · exact absurd hfields h.not_sameFields
    · exact absurd hfields.symm h.not_sameFields
  · exact fun h => .inl h.alike

/-- Fingerprints are equal exactly where the bytes are. -/
theorem fingerprintWith_eq_iff (hsep : Separates hash r s) :
    r.fingerprintWith hash = s.fingerprintWith hash ↔ r.identity hash = s.identity hash := by
  constructor
  · intro h
    have hlen : (hash (r.identity hash)).toList.length =
        (hash (s.identity hash)).toList.length := by
      rw [Vector.length_toList, Vector.length_toList]
    have he := Vector.toList_inj.1 (base64_injective hlen h)
    by_cases hbytes : r.identity hash = s.identity hash
    · exact hbytes
    · exact absurd ⟨_, List.mem_append_right _ List.mem_cons_self, _,
        List.mem_append_right _ List.mem_cons_self, hbytes, he⟩ hsep.noCollision
  · intro h
    rw [fingerprintWith, fingerprintWith, h]

/-! ### Rules that were read -/

theorem boundFits_iff {b : Option Int} : boundFits b = true ↔ ∀ i ∈ b, isWord i = true := by
  cases b <;> simp [boundFits]

/-- A definition is read if its bounds fit and its patterns are read. -/
theorem Definition.compile_eq_ok {d : Definition} {r : Rule} :
    d.compile = .ok r ↔
      (boundFits d.priceMin = true ∧ boundFits d.priceMax = true) ∧
      (compileField "link_flair_pattern" d.flair = .ok r.flair ∧
        compileField "product_type_pattern" d.productType = .ok r.productType ∧
        compileField "description_pattern" d.description = .ok r.description) ∧
      r.name = d.name ∧ r.priceMin = d.priceMin ∧ r.priceMax = d.priceMax ∧
        r.nameFault = none := by
  rw [Definition.compile]
  cases boundFits d.priceMin with
  | false => simp [bind, Except.bind, throw, throwThe, MonadExceptOf.throw]
  | true =>
    cases boundFits d.priceMax with
    | false => simp [bind, Except.bind, throw, throwThe, MonadExceptOf.throw]
    | true =>
      simp only [if_true, bind, Except.bind, pure, Except.pure]
      cases compileField "link_flair_pattern" d.flair with
      | error e => simp
      | ok flair =>
        cases compileField "product_type_pattern" d.productType with
        | error e => simp
        | ok productType =>
          cases compileField "description_pattern" d.description with
          | error e => simp
          | ok description =>
            obtain ⟨name, flair', productType', description', priceMin, priceMax, nameFault⟩ := r
            simp only [Except.ok.injEq, Rule.mk.injEq]
            constructor
            · rintro ⟨rfl, rfl, rfl, rfl, rfl, rfl, rfl⟩
              simp
            · rintro ⟨-, ⟨rfl, rfl, rfl⟩, rfl, rfl, rfl, rfl⟩
              simp

theorem Definition.fitsWords_of_compile {d : Definition} (h : d.compile = .ok r) : r.FitsWords := by
  obtain ⟨⟨hmin, hmax⟩, -, -, hminEq, hmaxEq, -⟩ := Definition.compile_eq_ok.1 h
  rw [← hminEq] at hmin
  rw [← hmaxEq] at hmax
  intro i hi
  simp only [bounds, List.mem_filterMap, List.mem_cons, List.not_mem_nil, or_false, id] at hi
  obtain ⟨b, rfl | rfl, hb⟩ := hi
  · exact boundFits_iff.1 hmin i hb
  · exact boundFits_iff.1 hmax i hb

/-- A document is read through the definition that it is, and then marked with its halves. -/
theorem compile_eq_ok {d : Datum} (h : compile d = .ok r) :
    ∃ es definition r', d = .dict es ∧ Definition.check es = .accepted definition ∧
      definition.compile = .ok r' ∧ r = r'.withHalvesOf es := by
  unfold compile at h
  split at h
  · rename_i es
    split at h
    · rename_i definition hcheck
      cases hr : definition.compile with
      | error e =>
        rw [hr] at h
        cases h
      | ok r' =>
        rw [hr] at h
        cases h
        exact ⟨es, definition, r', rfl, hcheck, hr, rfl⟩
    · cases h
  · cases h

/-- A rule that was read has bounds that are words. -/
theorem fitsWords_of_compile {d : Datum} (h : compile d = .ok r) : r.FitsWords := by
  obtain ⟨es, definition, r', -, -, hr', rfl⟩ := compile_eq_ok h
  have hfits := Definition.fitsWords_of_compile hr'
  exact hfits

end Rule

end DealWatch
