import DealWatch.Bytes.Signed
import DealWatch.Proofs.Rule.Identity
import Mathlib.Algebra.Group.Int.Defs
import Mathlib.Algebra.Group.Nat.Defs

/-!
# Integers in eight bytes

An integer that `signedBytes` writes in two's complement is read back by `ofSignedBytes`
(`ofSignedBytes_of_signedBytes`), and the words, and they only, are written in eight bytes
(`Rule.signedBytes_eight`).

The bytes stand for the integer modulo the power of 256 that they make room for. A negative integer
is thus written as the number larger by that power, and the half of the range that a number lies in
tells the two apart.
-/

namespace DealWatch

/-- The natural number with the given bytes, the least significant first. -/
def ofLittleEndian : List UInt8 → Nat
  | [] => 0
  | b :: bs => b.toNat + 256 * ofLittleEndian bs

/-- The integer with the given bytes in two's complement. -/
def ofSignedBytes (bytes : List UInt8) : Int :=
  let n : Int := ofLittleEndian bytes
  if 2 * n < byteRange bytes.length then n else n - byteRange bytes.length

theorem length_littleEndian (width n : Nat) : (littleEndian width n).length = width := by
  induction width generalizing n with
  | zero => rfl
  | succ width ih => rw [littleEndian, List.length_cons, ih]

theorem byteRange_succ (width : Nat) : byteRange (width + 1) = 256 * byteRange width :=
  Nat.pow_succ'

theorem byteRange_pos (width : Nat) : 0 < byteRange width := Nat.pow_pos (by decide)

theorem ofLittleEndian_littleEndian (width n : Nat) :
    ofLittleEndian (littleEndian width n) = n % byteRange width := by
  induction width generalizing n with
  | zero => exact (Nat.mod_one n).symm
  | succ width ih =>
    rw [littleEndian, ofLittleEndian, ih, UInt8.toNat_ofNat', byteRange_succ, Nat.mod_mul]

/-- The byte at a place is a quotient by a power. -/
theorem littleEndian_eq_map (width n : Nat) :
    littleEndian width n = (List.range width).map fun k => UInt8.ofNat (n / 256 ^ k) := by
  induction width generalizing n with
  | zero => rfl
  | succ width ih =>
    rw [littleEndian, ih, List.range_succ_eq_map, List.map_cons, List.map_map, Nat.pow_zero,
      Nat.div_one]
    refine congrArg _ (List.map_congr_left fun k _ => ?_)
    rw [Function.comp_apply, Nat.div_div_eq_div_mul, Nat.pow_succ']

/-- **What is written is read back.** -/
theorem ofSignedBytes_of_signedBytes {width : Nat} {i : Int} {bytes : List UInt8}
    (h : signedBytes width i = .ok bytes) : bytes.length = width ∧ ofSignedBytes bytes = i := by
  unfold signedBytes at h
  split at h
  · rename_i hi
    obtain rfl := Except.ok.inj h
    have hpos : (0 : Int) < byteRange width := Int.natCast_pos.2 (byteRange_pos width)
    have hnonneg := Int.emod_nonneg i (Int.ne_of_gt hpos)
    have hread : (ofLittleEndian (littleEndian width (i % byteRange width).toNat) : Int) =
        i % byteRange width := by
      rw [ofLittleEndian_littleEndian, Int.natCast_emod, Int.toNat_of_nonneg hnonneg]
      exact Int.emod_emod_of_dvd i (Int.dvd_refl _)
    refine ⟨length_littleEndian _ _, ?_⟩
    simp only [ofSignedBytes, hread, length_littleEndian]
    -- a negative integer is written as the number that is larger by the whole range
    by_cases hneg : i < 0
    · have hmod : i % byteRange width = i + byteRange width := by
        rw [← Int.add_emod_right, Int.emod_eq_of_lt (by omega) (by omega)]
      rw [hmod, if_neg (by omega), Int.add_sub_cancel]
    · rw [Int.emod_eq_of_lt (by omega) (by omega), if_pos hi.2]
  · cases h

namespace Rule

/-- **Eight bytes** are written for the words, and for no other integers. -/
theorem signedBytes_eight (i : Int) :
    signedBytes 8 i = if isWord i = true then .ok (wordBytes i) else .error .wideBound := by
  have hrange : -byteRange 8 ≤ 2 * i ∧ 2 * i < byteRange 8 ↔ isWord i = true := by
    have height : byteRange 8 = 2 ^ 64 := rfl
    rw [isWord_iff, height]
    omega
  have hbytes : littleEndian 8 (i % byteRange 8).toNat = wordBytes i := littleEndian_eq_map 8 _
  simp only [signedBytes, hbytes, hrange]

end Rule

end DealWatch
