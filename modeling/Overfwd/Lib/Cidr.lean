import Mathlib.Algebra.GroupWithZero.Nat
import Mathlib.Tactic.Common

namespace Cidr

/-- `base/len`: the base is written with zeros after its first `len` bits. -/
structure Block (w : ℕ) where
  base : BitVec w
  len : ℕ
  len_le : len ≤ w
  aligned : 2^(w-len) ∣ base.toNat

variable {w : ℕ}

/-- The word agrees with the base in its first bits. -/
def Block.Contains (b : Block w) (x : BitVec w) : Prop :=
  ∀ i < b.len, x.getMsbD i = b.base.getMsbD i

/-- The block of a single word. -/
def Block.single (x : BitVec w) : Block w where
  base := x
  len := w
  len_le := Nat.le_refl w
  aligned := by simp

/-- The first `len` bits set and no others. -/
def mask (w len : ℕ) : BitVec w := BitVec.allOnes w <<< (w-len)

section Membership

variable (b : Block w) (x : BitVec w)

theorem contains_iff_div :
    b.Contains x ↔ x.toNat / 2^(w-b.len) = b.base.toNat / 2^(w-b.len) := by
  have hle := b.len_le
  have hshift : b.Contains x ↔ x >>> (w-b.len) = b.base >>> (w-b.len) := by
    constructor
    · intro h
      apply BitVec.eq_of_getMsbD_eq
      intro i hi
      rw [BitVec.getMsbD_ushiftRight, BitVec.getMsbD_ushiftRight]
      by_cases hback : i < w-b.len
      · simp [hback]
      · rw [h (i-(w-b.len)) (by omega)]
    · intro h i hi
      have hbit := congrArg (fun y => BitVec.getMsbD y (i+(w-b.len))) h
      simp only [BitVec.getMsbD_ushiftRight] at hbit
      have hlt : i+(w-b.len) < w := by omega
      have hnot : ¬i+(w-b.len) < w-b.len := by omega
      simpa [hlt, hnot] using hbit
  rw [hshift, ← BitVec.toNat_inj, BitVec.toNat_ushiftRight, BitVec.toNat_ushiftRight,
    Nat.shiftRight_eq_div_pow, Nat.shiftRight_eq_div_pow]

/-- The words of a block are consecutive numbers from its base on. -/
theorem contains_iff_range :
    b.Contains x ↔ b.base.toNat ≤ x.toNat ∧ x.toNat < b.base.toNat + 2^(w-b.len) := by
  have hpos : 0 < 2^(w-b.len) := Nat.two_pow_pos _
  obtain ⟨k, hk⟩ := b.aligned
  have hbase : b.base.toNat / 2^(w-b.len) = k := by
    rw [hk, Nat.mul_div_cancel_left k hpos]
  rw [contains_iff_div, hbase, Nat.div_eq_iff hpos, hk, Nat.mul_comm k]
  omega

theorem contains_single (y : BitVec w) : (Block.single y).Contains x ↔ x = y := by
  constructor
  · intro h
    apply BitVec.eq_of_getMsbD_eq
    exact fun i hi => h i hi
  · intro h i hi
    rw [h]
    rfl

/-- Masking a word leaves the base of the block that it is in. -/
theorem contains_iff_mask : b.Contains x ↔ x &&& mask w b.len = b.base := by
  have hmask : x &&& mask w b.len = x >>> (w-b.len) <<< (w-b.len) := by
    apply BitVec.eq_of_getMsbD_eq
    intro i hi
    have hnot : ¬i+(w-b.len) < w-b.len := by omega
    simp [mask, hnot, Bool.and_comm]
  have hpos : 0 < 2^(w-b.len) := Nat.two_pow_pos _
  have hvalue : (x >>> (w-b.len) <<< (w-b.len)).toNat = x.toNat / 2^(w-b.len) * 2^(w-b.len) := by
    have hle := Nat.div_mul_le_self x.toNat (2^(w-b.len))
    rw [BitVec.toNat_shiftLeft, BitVec.toNat_ushiftRight, Nat.shiftRight_eq_div_pow,
      Nat.shiftLeft_eq, Nat.mod_eq_of_lt (Nat.lt_of_le_of_lt hle x.isLt)]
  have hbase := Nat.div_mul_cancel b.aligned
  rw [hmask, ← BitVec.toNat_inj, hvalue, contains_iff_div]
  constructor
  · intro h
    rw [h, hbase]
  · intro h
    rw [← h, Nat.mul_div_cancel _ hpos]

/-- A program's test by a mask is a test of a range. -/
theorem masked_iff_range (m : BitVec w) (hm : m = mask w b.len) :
    (x &&& m == b.base) = true ↔
      b.base.toNat ≤ x.toNat ∧ x.toNat < b.base.toNat + 2^(w-b.len) := by
  rw [beq_iff_eq, hm, ← contains_iff_mask, contains_iff_range]

end Membership

end Cidr
