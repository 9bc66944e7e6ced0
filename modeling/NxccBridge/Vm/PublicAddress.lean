import NxccBridge.Core.AddressBlock
import NxccBridge.Vm.Postback

/-!
# Public addresses

What `is_public_ip` of `vm/zenroom/src/vmm/mod.rs` lets through.  An IPv6 address
that stands for an IPv4 address is judged by that one only where it is mapped or
compatible, not where it is translated by NAT64 or tunnelled by 6to4.
-/

namespace NxccBridge.Postback

open NxccBridge.AddressBlock

/-! ## IPv4 -/

theorem aligned_of_mem {range : BitVec 32 × ℕ} (hmem : range ∈ ipv4Ranges) :
    2 ^ (32 - range.2) ∣ range.1.toNat := by
  have hall : ∀ range ∈ ipv4Ranges, 2 ^ (32 - range.2) ∣ range.1.toNat := by
    decide +kernel
  exact hall range hmem

/-- The address lies in one of the listed ranges. -/
def Reserved (addr : BitVec 32) : Prop :=
  ∃ range ∈ ipv4Ranges, range.1.toNat ≤ addr.toNat ∧
    addr.toNat < range.1.toNat + 2 ^ (32 - range.2)

theorem ipv4InRange_iff {range : BitVec 32 × ℕ} (hmem : range ∈ ipv4Ranges)
    (addr : BitVec 32) :
    ipv4InRange addr range.1 range.2 = true ↔
      range.1.toNat ≤ addr.toNat ∧
        addr.toNat < range.1.toNat + 2 ^ (32 - range.2) := by
  have hnonzero : ∀ range ∈ ipv4Ranges, range.2 ≠ 0 := by decide +kernel
  let block : Block 32 := ⟨range.1, range.2, aligned_of_mem hmem⟩
  have hcontains : block.Contains addr ↔ _ := Block.contains_iff_mask
  rw [ipv4InRange, if_neg (hnonzero range hmem)]
  exact beq_iff_eq.trans hcontains.symm

theorem isPublicIpv4_eq_false_iff (addr : BitVec 32) :
    isPublicIpv4 addr = false ↔ Reserved addr := by
  simp only [isPublicIpv4, Bool.not_eq_false', List.any_eq_true, Reserved]
  exact exists_congr fun range =>
    and_congr_right fun hmem => ipv4InRange_iff hmem addr

/-! ## IPv6 -/

/-- `::1`. -/
def loopback : Block 128 := ⟨1, 128, by decide⟩

/-- `::`. -/
def unspecified : Block 128 := ⟨0, 128, by decide⟩

/-- `ff00::/8`. -/
def multicast : Block 128 :=
  ⟨0xff000000000000000000000000000000, 8, by decide +kernel⟩

/-- `fc00::/7`. -/
def uniqueLocal : Block 128 :=
  ⟨0xfc000000000000000000000000000000, 7, by decide +kernel⟩

/-- `fe80::/10`. -/
def linkLocal : Block 128 :=
  ⟨0xfe800000000000000000000000000000, 10, by decide +kernel⟩

/-- `2001:db8::/32`. -/
def documentation : Block 128 :=
  ⟨0x20010db8000000000000000000000000, 32, by decide +kernel⟩

/-- `::ffff:0:0/96`. -/
def mapped : Block 128 := ⟨0xffff00000000, 96, by decide +kernel⟩

/-- `::/96`. -/
def compatible : Block 128 := ⟨0, 96, by decide +kernel⟩

/-- `64:ff9b::/96`. -/
def nat64 : Block 128 :=
  ⟨0x0064ff9b000000000000000000000000, 96, by decide +kernel⟩

/-- `2002::/16`. -/
def sixToFour : Block 128 :=
  ⟨0x20020000000000000000000000000000, 16, by decide +kernel⟩

/-- Addresses that no host on the public network has. -/
def specialBlocks : List (Block 128) :=
  [loopback, unspecified, multicast, uniqueLocal, linkLocal, documentation]

/-- The IPv4 address behind a prefix of 96 bits. -/
def lastBits (addr : BitVec 128) : BitVec 32 := addr.setWidth 32

/-- The IPv4 address behind `2002`. -/
def tunnelBits (addr : BitVec 128) : BitVec 32 := (addr >>> 80).setWidth 32

/-- The translations that the check does not look into. -/
inductive Translated (addr : BitVec 128) : BitVec 32 → Prop
  | nat64 (hblock : nat64.Contains addr) : Translated addr (lastBits addr)
  | sixToFour (hblock : sixToFour.Contains addr) :
      Translated addr (tunnelBits addr)

/-- The IPv4 address that an IPv6 address stands for. -/
inductive StandsFor (addr : BitVec 128) : BitVec 32 → Prop
  | mapped (hblock : mapped.Contains addr) : StandsFor addr (lastBits addr)
  | compatible (hblock : compatible.Contains addr) :
      StandsFor addr (lastBits addr)
  | translated {v4 : BitVec 32} (htranslated : Translated addr v4) :
      StandsFor addr v4

/-- What the check promises of an address. -/
def ChecksAddress : IpAddr → Prop
  | .v4 addr => isPublicIp (.v4 addr) = false ↔ Reserved addr
  | .v6 addr => isPublicIp (.v6 addr) = true →
      (∀ block ∈ specialBlocks, ¬ block.Contains addr) ∧
        ∀ v4, StandsFor addr v4 → ¬ Reserved v4

/-- The address is not translated from a reserved one. -/
def TranslatesPublic : IpAddr → Prop
  | .v4 _ => True
  | .v6 addr => ∀ v4, Translated addr v4 → ¬ Reserved v4

/-! ## What the tests of the code mean -/

theorem toNat_firstSegment (addr : BitVec 128) :
    (firstSegment addr).toNat = addr.toNat / 2 ^ 112 := by
  have hlt : addr.toNat / 2 ^ 112 < 2 ^ 16 := by
    have haddr := addr.isLt
    omega
  rw [firstSegment, BitVec.toNat_setWidth, BitVec.toNat_ushiftRight,
    Nat.shiftRight_eq_div_pow, Nat.mod_eq_of_lt hlt]

example : firstSegment 0x20010db8000000000000000000000000 = 0x2001 := by
  decide +kernel

/-- A mask on the first segment tests for a block of at most 16 bits. -/
theorem firstSegment_and_iff {block : Block 128} {hostBits : ℕ}
    {mask segment : BitVec 16} (hhost : block.hostBits = 112 + hostBits)
    (hmask : mask = BitVec.allOnes 16 <<< hostBits)
    (hbase : firstSegment block.base = segment)
    (hsegment : segment &&& mask = segment) (addr : BitVec 128) :
    firstSegment addr &&& mask = segment ↔ block.Contains addr := by
  have hshift : ∀ other : BitVec 128, (other >>> (112 + hostBits)).toNat =
      (firstSegment other >>> hostBits).toNat := by
    intro other
    rw [BitVec.toNat_ushiftRight, BitVec.toNat_ushiftRight,
      toNat_firstSegment, Nat.shiftRight_eq_div_pow,
      Nat.shiftRight_eq_div_pow, Nat.pow_add, Nat.div_div_eq_div_mul]
  have hblock : addr >>> (112 + hostBits) = block.base >>> (112 + hostBits) ↔
      firstSegment addr >>> hostBits = segment >>> hostBits := by
    rw [← BitVec.toNat_inj, hshift, hshift, BitVec.toNat_inj, hbase]
  rw [Block.contains_iff_ushiftRight, hhost, hblock, ← and_mask_eq_iff,
    ← hmask, hsegment]

theorem multicast_iff (addr : BitVec 128) :
    firstSegment addr &&& 0xff00 = 0xff00 ↔ multicast.Contains addr :=
  firstSegment_and_iff (show multicast.hostBits = 112 + 8 from rfl) (by decide)
    (by decide +kernel) (by decide) addr

theorem uniqueLocal_iff (addr : BitVec 128) :
    firstSegment addr &&& 0xfe00 = 0xfc00 ↔ uniqueLocal.Contains addr :=
  firstSegment_and_iff (show uniqueLocal.hostBits = 112 + 9 from rfl)
    (by decide) (by decide +kernel) (by decide) addr

theorem linkLocal_iff (addr : BitVec 128) :
    firstSegment addr &&& 0xffc0 = 0xfe80 ↔ linkLocal.Contains addr :=
  firstSegment_and_iff (show linkLocal.hostBits = 112 + 6 from rfl) (by decide)
    (by decide +kernel) (by decide) addr

theorem loopback_iff (addr : BitVec 128) :
    addr = 1 ↔ loopback.Contains addr := by
  rw [Block.contains_iff_ushiftRight]
  exact Iff.rfl

theorem unspecified_iff (addr : BitVec 128) :
    addr = 0 ↔ unspecified.Contains addr := by
  rw [Block.contains_iff_ushiftRight]
  exact Iff.rfl

theorem documentation_iff (addr : BitVec 128) :
    isDocumentationIpv6 addr = true ↔ documentation.Contains addr := by
  have hbase : documentation.base >>> documentation.hostBits =
      0x20010db8 := by
    decide +kernel
  rw [Block.contains_iff_ushiftRight, hbase]
  exact beq_iff_eq

theorem mapped_iff (addr : BitVec 128) :
    addr >>> 32 = 0xffff ↔ mapped.Contains addr := by
  have hbase : mapped.base >>> mapped.hostBits = 0xffff := by decide +kernel
  rw [Block.contains_iff_ushiftRight, hbase]
  exact Iff.rfl

theorem compatible_iff (addr : BitVec 128) :
    addr >>> 32 = 0 ↔ compatible.Contains addr := by
  have hbase : compatible.base >>> compatible.hostBits = 0 := by
    decide +kernel
  rw [Block.contains_iff_ushiftRight, hbase]
  exact Iff.rfl

/-- An address that is neither mapped nor compatible is public unless it lies in
a special block. -/
theorem isPublicIpv6_of_native {addr : BitVec 128}
    (hmapped : ¬ mapped.Contains addr)
    (hcompatible : ¬ compatible.Contains addr) :
    isPublicIpv6 addr = true ↔
      ∀ block ∈ specialBlocks, ¬ block.Contains addr := by
  rw [← mapped_iff] at hmapped
  rw [← compatible_iff] at hcompatible
  simp only [isPublicIpv6, toIpv4Mapped, toIpv4, hmapped, hcompatible,
    or_self, if_false, Option.or_none, Bool.not_eq_true', ← Bool.not_eq_true,
    Bool.or_eq_true, beq_iff_eq, not_or, specialBlocks, List.forall_mem_cons,
    List.not_mem_nil, false_imp_iff, implies_true, and_true, and_assoc,
    multicast_iff, uniqueLocal_iff, linkLocal_iff, loopback_iff,
    unspecified_iff, documentation_iff]

/-- A mapped or compatible address is judged by its IPv4 address. -/
theorem isPublicIpv6_of_embedded {addr : BitVec 128}
    (hembedded : mapped.Contains addr ∨ compatible.Contains addr) :
    isPublicIpv6 addr = isPublicIpv4 (lastBits addr) := by
  have hfound : (toIpv4Mapped addr).or (toIpv4 addr) =
      some (lastBits addr) := by
    rw [← mapped_iff, ← compatible_iff] at hembedded
    rw [toIpv4, if_pos hembedded, toIpv4Mapped]
    split_ifs <;> rfl
  rw [isPublicIpv6, hfound]

/-- `::ffff:10.0.0.1`. -/
example : isPublicIpv6 0xffff0a000001 = false := by decide +kernel

/-! ## The exact condition -/

/-- A block apart from the mapped, the compatible and the special addresses is
public. -/
theorem isPublicIpv6_of_apart {block : Block 128}
    (hapart : ∀ other ∈ mapped :: compatible :: specialBlocks,
      block.Apart other) {addr : BitVec 128}
    (hcontains : block.Contains addr) : isPublicIpv6 addr = true := by
  have houtside : ∀ other ∈ mapped :: compatible :: specialBlocks,
      ¬ other.Contains addr :=
    fun other hmem => (hapart other hmem).not_contains hcontains
  rw [List.forall_mem_cons, List.forall_mem_cons] at houtside
  exact (isPublicIpv6_of_native houtside.1 houtside.2.1).mpr houtside.2.2

theorem isPublicIpv6_of_translated {addr : BitVec 128} {v4 : BitVec 32}
    (htranslated : Translated addr v4) : isPublicIpv6 addr = true := by
  cases htranslated with
  | nat64 hblock => exact isPublicIpv6_of_apart (by decide +kernel) hblock
  | sixToFour hblock => exact isPublicIpv6_of_apart (by decide +kernel) hblock

/-- The only special addresses that are mapped or compatible are `::1` and `::`,
and the IPv4 rule refuses both. -/
theorem special_of_embedded {addr : BitVec 128}
    (hembedded : mapped.Contains addr ∨ compatible.Contains addr)
    (hpublic : isPublicIpv6 addr = true) :
    ∀ block ∈ specialBlocks, ¬ block.Contains addr := by
  have hone : ¬ loopback.Contains addr := by
    rw [← loopback_iff]
    rintro rfl
    exact absurd hpublic (by decide +kernel)
  have hzero : ¬ unspecified.Contains addr := by
    rw [← unspecified_iff]
    rintro rfl
    exact absurd hpublic (by decide +kernel)
  have hapart : ∀ block ∈ [multicast, uniqueLocal, linkLocal, documentation],
      mapped.Apart block ∧ compatible.Apart block := by
    decide +kernel
  rw [specialBlocks, List.forall_mem_cons, List.forall_mem_cons]
  refine ⟨hone, hzero, fun block hmem => ?_⟩
  rcases hembedded with hmapped | hcompatible
  · exact (hapart block hmem).1.not_contains hmapped
  · exact (hapart block hmem).2.not_contains hcompatible

/-- The test keeps its promise for every IPv4 address, and for an IPv6 address
exactly if that is not translated from a reserved one. -/
theorem isPublicIp_checks_iff (addr : IpAddr) :
    ChecksAddress addr ↔ TranslatesPublic addr := by
  cases addr with
  | v4 addr => exact iff_of_true (isPublicIpv4_eq_false_iff addr) trivial
  | v6 addr =>
      constructor
      · intro hchecks v4 htranslated
        have hpublic := isPublicIpv6_of_translated htranslated
        exact (hchecks hpublic).2 v4 (.translated htranslated)
      · intro htranslates hpublic
        have hjudged : ∀ hembedded : mapped.Contains addr ∨
            compatible.Contains addr, ¬ Reserved (lastBits addr) := by
          intro hembedded
          rw [← isPublicIpv4_eq_false_iff,
            ← isPublicIpv6_of_embedded hembedded]
          exact Bool.not_eq_false _ ▸ hpublic
        constructor
        · by_cases hembedded : mapped.Contains addr ∨ compatible.Contains addr
          · exact special_of_embedded hembedded hpublic
          · rw [not_or] at hembedded
            exact (isPublicIpv6_of_native hembedded.1 hembedded.2).mp hpublic
        · intro v4 hstands
          cases hstands with
          | mapped hblock => exact hjudged (Or.inl hblock)
          | compatible hblock => exact hjudged (Or.inr hblock)
          | translated htranslated => exact htranslates v4 htranslated

/-- `64:ff9b::10.0.0.1`. -/
def translatedPrivate : BitVec 128 := 0x0064ff9b00000000000000000a000001

/-- `2002:a00:1::`. -/
def tunnelledPrivate : BitVec 128 := 0x20020a00000100000000000000000000

/-- Both stand for `10.0.0.1` and pass. -/
theorem isPublicIp_translated :
    isPublicIp (.v6 translatedPrivate) = true ∧
    isPublicIp (.v6 tunnelledPrivate) = true ∧
    isPublicIp (.v4 (ipv4 10 0 0 1)) = false ∧
    ¬ ChecksAddress (.v6 translatedPrivate) ∧
    ¬ ChecksAddress (.v6 tunnelledPrivate) := by
  have hreserved : Reserved (ipv4 10 0 0 1) :=
    (isPublicIpv4_eq_false_iff _).mp (by decide +kernel)
  refine ⟨by decide +kernel, by decide +kernel, by decide +kernel, ?_, ?_⟩
  · intro hchecks
    have hlast : lastBits translatedPrivate = ipv4 10 0 0 1 := by
      decide +kernel
    have htranslated : Translated translatedPrivate (ipv4 10 0 0 1) :=
      hlast ▸ .nat64 (by decide +kernel)
    exact (hchecks (by decide +kernel)).2 _ (.translated htranslated) hreserved
  · intro hchecks
    have htunnel : tunnelBits tunnelledPrivate = ipv4 10 0 0 1 := by
      decide +kernel
    have htranslated : Translated tunnelledPrivate (ipv4 10 0 0 1) :=
      htunnel ▸ .sixToFour (by decide +kernel)
    exact (hchecks (by decide +kernel)).2 _ (.translated htranslated) hreserved

end NxccBridge.Postback
