import Mathlib.Tactic

/-!
# Blocks of addresses

An address is a bit vector.  A block holds the addresses that share their first
bits with its base, which are those of an interval.
-/

namespace NxccBridge.AddressBlock

variable {width : ℕ}

/-- The base has no bits set behind the prefix. -/
structure Block (width : ℕ) where
  base : BitVec width
  prefixBits : ℕ
  aligned : 2 ^ (width - prefixBits) ∣ base.toNat

namespace Block

/-- How many bits the addresses of the block differ in. -/
def hostBits (block : Block width) : ℕ := width - block.prefixBits

def Contains (block : Block width) (addr : BitVec width) : Prop :=
  block.base.toNat ≤ addr.toNat ∧
    addr.toNat < block.base.toNat + 2 ^ block.hostBits

instance (block : Block width) : DecidablePred block.Contains :=
  fun _ => inferInstanceAs (Decidable (_ ∧ _))

end Block

/-- Two addresses have the same masked bits exactly if they agree in front of
the host bits. -/
theorem and_mask_eq_iff (left right : BitVec width) (hostBits : ℕ) :
    left &&& BitVec.allOnes width <<< hostBits =
        right &&& BitVec.allOnes width <<< hostBits ↔
      left >>> hostBits = right >>> hostBits := by
  constructor
  · intro hmask
    apply BitVec.eq_of_getLsbD_eq
    intro i _
    rw [BitVec.getLsbD_ushiftRight, BitVec.getLsbD_ushiftRight]
    by_cases hi : hostBits + i < width
    · have hbit := congrArg (BitVec.getLsbD · (hostBits + i)) hmask
      simpa [hi, show i < width by omega] using hbit
    · rw [BitVec.getLsbD_of_ge _ _ (by omega),
        BitVec.getLsbD_of_ge _ _ (by omega)]
  · intro hshift
    apply BitVec.eq_of_getLsbD_eq
    intro i _
    by_cases hi : i < hostBits
    · simp [hi]
    · have hbit := congrArg (BitVec.getLsbD · (i - hostBits)) hshift
      simp only [BitVec.getLsbD_ushiftRight,
        Nat.add_sub_cancel' (Nat.le_of_not_lt hi)] at hbit
      simp [hbit]

namespace Block

theorem contains_iff_ushiftRight {block : Block width}
    {addr : BitVec width} :
    block.Contains addr ↔
      addr >>> block.hostBits = block.base >>> block.hostBits := by
  have haligned : 2 ^ block.hostBits ∣ block.base.toNat := block.aligned
  obtain ⟨start, hstart⟩ := haligned
  have hpos : 0 < 2 ^ block.hostBits := Nat.two_pow_pos _
  have hdiv : addr >>> block.hostBits = block.base >>> block.hostBits ↔
      addr.toNat / 2 ^ block.hostBits = start := by
    rw [← BitVec.toNat_inj, BitVec.toNat_ushiftRight,
      BitVec.toNat_ushiftRight, Nat.shiftRight_eq_div_pow,
      Nat.shiftRight_eq_div_pow, hstart, Nat.mul_div_cancel_left _ hpos]
  rw [hdiv, Contains, hstart, Nat.div_eq_iff hpos, Nat.mul_comm start]
  omega

theorem contains_iff_mask {block : Block width} {addr : BitVec width} :
    block.Contains addr ↔
      addr &&& BitVec.allOnes width <<< block.hostBits =
        block.base &&& BitVec.allOnes width <<< block.hostBits := by
  rw [and_mask_eq_iff, contains_iff_ushiftRight]

theorem Contains.ushiftRight {block : Block width} {addr : BitVec width}
    (hcontains : block.Contains addr) {shift : ℕ}
    (hshift : block.hostBits ≤ shift) :
    addr >>> shift = block.base >>> shift := by
  rw [← Nat.add_sub_cancel' hshift, BitVec.shiftRight_add,
    BitVec.shiftRight_add, contains_iff_ushiftRight.mp hcontains]

/-- The bases differ in front of the larger number of host bits. -/
def Apart (left right : Block width) : Prop :=
  left.base >>> max left.hostBits right.hostBits ≠
    right.base >>> max left.hostBits right.hostBits

instance (left : Block width) : DecidablePred left.Apart :=
  fun _ => inferInstanceAs (Decidable (_ ≠ _))

theorem Apart.not_contains {left right : Block width}
    (hapart : left.Apart right) {addr : BitVec width}
    (hcontains : left.Contains addr) : ¬ right.Contains addr := by
  intro hother
  apply hapart
  rw [← hcontains.ushiftRight (le_max_left _ _),
    ← hother.ushiftRight (le_max_right _ _)]

end Block

end NxccBridge.AddressBlock
