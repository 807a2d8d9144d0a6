import DealWatch.Bytes.Sha256
import DealWatch.Pattern.Basic
import DealWatch.Text.Utf8

/-!
# Structural digests of patterns

A keyword is hashed by its bytes, a negation or a compound by its sign followed by the hashes of
its operands. The blanks, quotes and parentheses of the text play no part.

* `Pattern.digestWith` is the digest for any hash function, `Pattern.digest` the one for SHA-256.
-/

namespace DealWatch

namespace Pattern

/-- A pattern as a digest: what is hashed for each of its parts. -/
def asDigest (hash : List UInt8 → Digest) : Reading Digest where
  keyword k := hash (utf8 k)
  negation x := hash (utf8 "!" ++ x.toList)
  compound c x y := hash (utf8 c.symbol ++ x.toList ++ y.toList)

/-- The digest of a pattern for a hash function. -/
def digestWith (hash : List UInt8 → Digest) (p : Pattern) : Digest :=
  ((asDigest hash).value? p).getD (hash [])

/-- The digest of a pattern. -/
def digest (p : Pattern) : Digest := p.digestWith sha256

end Pattern

end DealWatch
