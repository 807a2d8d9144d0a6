import DealWatch.Proofs.Pattern.Digest

/-!
# What a digest computation hashes

The digest of a pattern is computed from the list of its parts with a stack of digests. Each part
hashes one text of bytes, which it makes of the digests on top of the stack.

* `hashedAt` is the text that one part hashes, `hashedAlong` lists the texts of a whole computation
  in their order;
* `hashedAlong_postorder` says that these are the texts of `hashed`, the left operand first;
* `digest_eq_or_collision` says what two patterns with one digest have in common.

The induction for `hashedAlong_postorder` is on the pattern, for any stack and any parts that
follow: a pattern leaves its own digest on top of the stack and touches nothing below.

Nothing is assumed of the hash function, so equal digests of different patterns cannot be excluded;
`digest_eq_of_spelled` is a case without any collision.
-/

namespace DealWatch

namespace Pattern

variable (hash : List UInt8 → Digest)

/-- What is hashed for a part, with the digests of the parts before it on a stack. -/
def hashedAt (stack : List Digest) : Pattern → List UInt8
  | .keyword k => utf8 k
  | .negation _ =>
    match stack with
    | x :: _ => utf8 "!" ++ x.toList
    | [] => []
  | .compound c _ _ =>
    match stack with
    | y :: x :: _ => utf8 c.symbol ++ x.toList ++ y.toList
    | _ => []

/-- What is hashed, one text after the other, while some parts are read on a stack. -/
def hashedAlong (stack : List Digest) : List Pattern → List (List UInt8)
  | [] => []
  | p :: parts =>
    match (asDigest hash).step stack p with
    | some stack' => hashedAt stack p :: hashedAlong stack' parts
    | none => []

/-- The parts of a pattern hash its texts and leave its digest on the stack. -/
theorem hashedAlong_parts (p : Pattern) (stack : List Digest) (rest : List Pattern) :
    hashedAlong hash stack (p.parts ++ rest) =
      p.hashed hash ++ hashedAlong hash (p.digestWith hash :: stack) rest := by
  induction p generalizing stack rest with
  | keyword k =>
    rw [digestWith_eq]
    rfl
  | negation p ih =>
    let below := p.digestWith hash :: stack
    have hstep : (asDigest hash).step below (.negation p) =
        some (hash (hashedAt below (.negation p)) :: stack) := rfl
    have htext : hashedAt below (.negation p) = preimage hash (.negation p) := rfl
    rw [parts, List.append_assoc, ih, List.singleton_append, hashedAlong, hstep, htext,
      ← digestWith_eq hash (.negation p), hashed, hashed, parts, List.map_append, List.append_assoc]
    rfl
  | compound c l r ihl ihr =>
    -- the digest of the right operand is on top of that of the left one
    let below := r.digestWith hash :: l.digestWith hash :: stack
    have hstep : (asDigest hash).step below (.compound c l r) =
        some (hash (hashedAt below (.compound c l r)) :: stack) := rfl
    have htext : hashedAt below (.compound c l r) = preimage hash (.compound c l r) := rfl
    rw [parts, List.append_assoc, ihl, List.append_assoc, ihr, List.singleton_append, hashedAlong,
      hstep, htext, ← digestWith_eq hash (.compound c l r), hashed, hashed, hashed, parts,
      List.map_append, List.map_append, List.append_assoc, List.append_assoc]
    rfl

/-- The computation of a digest hashes one text for each part, the left operand first. -/
theorem hashedAlong_postorder (p : Pattern) :
    hashedAlong hash [] p.postorder = p.hashed hash := by
  have h := hashedAlong_parts hash p [] []
  rw [List.append_nil] at h
  rw [postorder_eq_parts, h]
  exact List.append_nil _

/-- **Patterns with one digest** are the same, or the two computations hash two different texts of
bytes with the same hash, or a keyword of one pattern has the bytes that are hashed for a negation
or a compound in the other. Equal patterns have one digest. -/
theorem digest_eq_or_collision (p q : Pattern) :
    (p.digestWith hash = q.digestWith hash →
      p = q ∨
      Collides hash (hashedAlong hash [] p.postorder) (hashedAlong hash [] q.postorder) ∨
      Spells hash p q ∨ Spells hash q p) ∧
    (p = q → p.digestWith hash = q.digestWith hash) := by
  constructor
  · intro h
    rw [hashedAlong_postorder, hashedAlong_postorder]
    exact eq_or_confuses h
  · intro h
    rw [h]

/-- The first bytes of a text, filled up with the letter A. -/
def paddedBytes (bytes : List UInt8) : Digest := Vector.ofFn fun i => bytes.getD i 65

/-- The negation of a keyword, and a keyword that is written like the bytes of that negation: they
have one digest for a hash function without collisions between them. -/
theorem digest_eq_of_spelled :
    ∃ p q : Pattern, p.digestWith paddedBytes = q.digestWith paddedBytes ∧ p ≠ q ∧
      ¬ Collides paddedBytes (p.hashed paddedBytes) (q.hashed paddedBytes) ∧
      Spells paddedBytes q p := by
  let text := utf8 "!aAAAAAAAAAAAAAAAAAAAAAAAAAAAAAAA"
  let p : Pattern := .negation (.keyword "a")
  let q : Pattern := .keyword "!aAAAAAAAAAAAAAAAAAAAAAAAAAAAAAAA"
  have hoperand : (keyword "a").digestWith paddedBytes = paddedBytes (utf8 "a") :=
    digestWith_eq paddedBytes _
  have hp : p.preimage paddedBytes = text := by
    rw [preimage, hoperand]
    decide
  have hdigest : p.digestWith paddedBytes = q.digestWith paddedBytes := by
    rw [digestWith_eq, digestWith_eq, hp]
    rfl
  have hne : p ≠ q := by decide
  have hcoll : ¬ Collides paddedBytes (p.hashed paddedBytes) (q.hashed paddedBytes) := by
    have hps : p.hashed paddedBytes = [utf8 "a", text] := by
      rw [← hp]
      rfl
    have hqs : q.hashed paddedBytes = [text] := rfl
    rw [hps, hqs]
    rintro ⟨u, hu, v, hv, hne, he⟩
    obtain rfl := List.mem_singleton.1 hv
    obtain rfl | rfl : u = utf8 "a" ∨ u = text := by simpa using hu
    · exact absurd he (by decide)
    · exact hne rfl
  have hnone : ¬ Spells paddedBytes p q := by
    rintro ⟨k, -, x, hx, hcomp, -⟩
    exact hcomp _ (List.mem_singleton.1 hx)
  refine ⟨p, q, hdigest, hne, hcoll, ?_⟩
  obtain h | h | h | h := (digest_eq_or_collision paddedBytes p q).1 hdigest
  · exact absurd h hne
  · rw [hashedAlong_postorder, hashedAlong_postorder] at h
    exact absurd h hcoll
  · exact absurd h hnone
  · exact h

end Pattern

end DealWatch
