import NxccBridge.Core.Indexing
import NxccBridge.Core.LittleEndian
import NxccBridge.Core.MerkleTree
import NxccBridge.Interface.Types

/-!
# Freshness proofs

`node/attestation/src/freshness.rs`: a proof lists recent blocks of several
chains, a Merkle root over them, and a compact representation that carries the
root and the block references.  The verifier fetches the referenced blocks from
its own gateways and recomputes the root.
-/

namespace NxccBridge.Freshness

open Function
open NxccBridge.Framing
open NxccBridge.LittleEndian
open NxccBridge.Indexing
open NxccBridge.MerkleTree
open NxccBridge.Interface

abbrev Sha256Digest := Octets 32

/-- Reference to a specific block for verification. -/
structure BlockReference where
  chainId : UInt64
  blockNumber : UInt64
  deriving DecidableEq

/-- Configuration for freshness proof requirements. -/
structure FreshnessConfig where
  maxBlockAgeSeconds : ℕ
  requiredChains : List UInt64
  minBlocks : ℕ
  enabled : Bool
  deriving DecidableEq

structure FreshnessProof where
  blocks : List BlockInfo
  merkleRoot : Bytes
  compactRepresentation : Bytes
  createdAt : ℕ
  config : FreshnessConfig
  deriving DecidableEq

def reference (block : BlockInfo) : BlockReference where
  chainId := block.chainId
  blockNumber := block.blockNumber

def referenceBytes (ref : BlockReference) : Bytes :=
  u64.toLeBytes ref.chainId ++ u64.toLeBytes ref.blockNumber

@[simp]
theorem length_referenceBytes (ref : BlockReference) :
    (referenceBytes ref).length = 16 := by
  simp [referenceBytes, u64]

theorem referenceBytes_selfDelimiting : SelfDelimiting referenceBytes := by
  intro left right leftRest rightRest heq
  obtain ⟨hpair, hrest⟩ := u64.toLeBytes_selfDelimiting.append
    u64.toLeBytes_selfDelimiting (left.chainId, left.blockNumber)
    (right.chainId, right.blockNumber) _ _ heq
  cases left
  cases right
  simp only [Prod.mk.injEq] at hpair
  exact ⟨by rw [hpair.1, hpair.2], hrest⟩

/-! ## Merkle root -/

section MerkleRoot

variable (sha256 : Bytes → Sha256Digest)

/-- Hash input of a leaf: chain_id || block_number || block_hash. -/
def leafBytes (block : BlockInfo) : Bytes :=
  u64.toLeBytes block.chainId ++ u64.toLeBytes block.blockNumber ++
    block.blockHash

def pairBytes (left right : Sha256Digest) : Bytes := left.val ++ right.val

def zeroRoot : Sha256Digest :=
  ⟨List.replicate 32 0, List.length_replicate⟩

def computeMerkleRoot (blocks : List BlockInfo) : Sha256Digest :=
  -- an odd level duplicates its last hash
  (reduce (fun left right => sha256 (pairBytes left right))
    (blocks.map fun block => sha256 (leafBytes block))).getD zeroRoot

end MerkleRoot

/-! ## Compact representation -/

/-- `blocks.len() as u8`. -/
def countByte (count : ℕ) : Byte := Fin.ofNat 256 count

def createCompactRepresentation (blocks : List BlockInfo) (merkleRoot : Bytes) :
    Bytes :=
  1 :: countByte blocks.length ::
    (merkleRoot ++
      blocks.flatMap fun block => referenceBytes (reference block))

def parseReference (compactData : Bytes) (i : ℕ) : BlockReference :=
  let offset := 34 + i * 16
  { chainId := u64.fromLeBytes (slice compactData offset (offset + 8))
    blockNumber :=
      u64.fromLeBytes (slice compactData (offset + 8) (offset + 16)) }

def parseCompactData (compactData : Bytes) :
    Except String (Bytes × List BlockReference) :=
  if compactData.length < 34 then .error "Compact data too short"
  else
    let version := compactData.getD 0 0
    if version ≠ 1 then
      .error ("Unsupported compact data version: " ++ toString version.val)
    else
      let numBlocks := (compactData.getD 1 0).val
      let expectedSize := 34 + numBlocks * 16
      if compactData.length ≠ expectedSize then
        .error ("Invalid compact data size: " ++ toString compactData.length ++
          " != " ++ toString expectedSize)
      else
        .ok (slice compactData 2 34,
          (List.range numBlocks).map (parseReference compactData))

def FreshnessProof.new (sha256 : Bytes → Sha256Digest) (createdAt : ℕ)
    (blocks : List BlockInfo) (config : FreshnessConfig) : FreshnessProof :=
  let merkleRoot := computeMerkleRoot sha256 blocks
  { blocks
    merkleRoot := merkleRoot.val
    compactRepresentation := createCompactRepresentation blocks merkleRoot.val
    createdAt
    config }

/-! ## The compact format

The body is read reference by reference, at the offsets the writer used. -/

theorem length_flatMap_referenceBytes (refs : List BlockReference) :
    (refs.flatMap referenceBytes).length = refs.length * 16 := by
  induction refs with
  | nil => rfl
  | cons ref rest ih =>
      simp only [List.flatMap_cons, List.length_append, length_referenceBytes,
        ih, List.length_cons]
      omega

/-- The bytes of a root and its references. -/
def compactBytes (root : Bytes) (refs : List BlockReference) : Bytes :=
  1 :: countByte refs.length :: (root ++ refs.flatMap referenceBytes)

theorem createCompactRepresentation_eq (blocks : List BlockInfo)
    (merkleRoot : Bytes) :
    createCompactRepresentation blocks merkleRoot =
      compactBytes merkleRoot (blocks.map reference) := by
  rw [createCompactRepresentation, compactBytes, List.flatMap_map,
    List.length_map]

theorem length_compactBytes {root : Bytes} (hroot : root.length = 32)
    (refs : List BlockReference) :
    (compactBytes root refs).length = 34 + refs.length * 16 := by
  simp only [compactBytes, List.length_cons, List.length_append, hroot,
    length_flatMap_referenceBytes]
  omega

theorem slice_compactBytes_root {root : Bytes} (hroot : root.length = 32)
    (refs : List BlockReference) :
    slice (compactBytes root refs) 2 34 = root := by
  have hfront : (1 :: countByte refs.length :: root).length = 34 := by
    simp [hroot]
  have htake : ((1 :: countByte refs.length :: root) ++
      refs.flatMap referenceBytes).take 34 =
        1 :: countByte refs.length :: root :=
    List.take_left' hfront
  simp only [List.cons_append] at htake
  rw [slice, compactBytes, htake]
  rfl

theorem referenceBytes_parseReference {data : Bytes} {i : ℕ}
    (hrange : 34 + i * 16 + 16 ≤ data.length) :
    referenceBytes (parseReference data i) =
      slice data (34 + i * 16) (34 + i * 16 + 16) := by
  rw [referenceBytes, parseReference,
    u64.toLeBytes_fromLeBytes (by simp [u64]; omega),
    u64.toLeBytes_fromLeBytes (by simp [u64]; omega)]
  exact slice_append data (by omega) (by omega)

theorem flatMap_parseReference {data : Bytes} {count : ℕ}
    (hrange : 34 + count * 16 ≤ data.length) :
    ((List.range count).map (parseReference data)).flatMap referenceBytes =
      slice data 34 (34 + count * 16) := by
  induction count with
  | zero => simp [slice]
  | succ count ih =>
      rw [List.range_succ, List.map_append, List.flatMap_append,
        ih (by omega)]
      simp only [List.map_cons, List.map_nil, List.flatMap_cons,
        List.flatMap_nil, List.append_nil]
      rw [referenceBytes_parseReference (by omega), Nat.add_one_mul,
        ← Nat.add_assoc]
      exact slice_append data (by omega) (by omega)

theorem parseReference_compactBytes {root : Bytes} (hroot : root.length = 32)
    (refs : List BlockReference) :
    (List.range refs.length).map (parseReference (compactBytes root refs)) =
      refs := by
  have hlength := length_compactBytes hroot refs
  have hbody : slice (compactBytes root refs) 34 (34 + refs.length * 16) =
      refs.flatMap referenceBytes := by
    rw [← hlength, slice_full]
    exact List.drop_left' hroot
  apply (referenceBytes_selfDelimiting.flatMap_of_length _ _ [] []
    (by simp) _).1
  rw [flatMap_parseReference (by omega), hbody]

theorem parseCompactData_compactBytes {root : Bytes}
    {refs : List BlockReference} (hroot : root.length = 32)
    (hcount : refs.length ≤ 255) :
    parseCompactData (compactBytes root refs) = .ok (root, refs) := by
  have hlength := length_compactBytes hroot refs
  have hbyte : (countByte refs.length).val = refs.length :=
    Nat.mod_eq_of_lt (by omega)
  have hversion : (compactBytes root refs).getD 0 0 = 1 := rfl
  have hannounced : ((compactBytes root refs).getD 1 0).val = refs.length :=
    hbyte
  simp only [parseCompactData, hversion, hannounced, hlength, ne_eq,
    not_true_eq_false, if_false, slice_compactBytes_root hroot,
    parseReference_compactBytes hroot]
  rw [if_neg (by omega)]

theorem eq_compactBytes_of_parseCompactData {data root : Bytes}
    {refs : List BlockReference}
    (hparse : parseCompactData data = .ok (root, refs)) :
    root.length = 32 ∧ refs.length ≤ 255 ∧ data = compactBytes root refs := by
  simp only [parseCompactData] at hparse
  split_ifs at hparse with hshort hversion hsize
  obtain ⟨version, count, rest, rfl⟩ : ∃ version count rest,
      data = version :: count :: rest := by
    rcases data with _ | ⟨version, _ | ⟨count, rest⟩⟩
    · simp at hshort
    · simp at hshort
    · exact ⟨version, count, rest, rfl⟩
  simp only [List.getD_cons_zero, List.getD_cons_succ, not_not,
    Except.ok.injEq, Prod.mk.injEq] at hversion hsize hparse
  obtain ⟨hroot, hrefs⟩ := hparse
  have hlength : refs.length = count.val := by simp [← hrefs]
  have hcount : countByte refs.length = count := by
    rw [hlength]
    exact Fin.ofNat_val_eq_self count
  have hbody : refs.flatMap referenceBytes =
      slice (version :: count :: rest) 34
        (version :: count :: rest).length := by
    rw [← hrefs, flatMap_parseReference (by omega), ← hsize]
  refine ⟨?_, by omega, ?_⟩
  · rw [← hroot, length_slice]
    omega
  · rw [compactBytes, hbody, ← hroot, slice_append _ (by omega) (by omega),
      hversion, hcount, slice_full]
    rfl

/-- What the parser accepts: version, count, a root of 32 bytes and the
references, of which the count byte can announce 255. -/
theorem parseCompactData_eq_ok_iff {data root : Bytes}
    {refs : List BlockReference} :
    parseCompactData data = .ok (root, refs) ↔
      root.length = 32 ∧ refs.length ≤ 255 ∧ data = compactBytes root refs := by
  constructor
  · exact eq_compactBytes_of_parseCompactData
  · rintro ⟨hroot, hcount, rfl⟩
    exact parseCompactData_compactBytes hroot hcount

/-- The bytes tell the root and the references. -/
theorem compactBytes_inj {root other : Bytes} {refs others : List BlockReference}
    (hroot : root.length = 32) (hother : other.length = 32)
    (hcount : refs.length ≤ 255)
    (heq : compactBytes root refs = compactBytes other others) :
    root = other ∧ refs = others := by
  have hlength := congrArg List.length heq
  rw [length_compactBytes hroot, length_compactBytes hother] at hlength
  have hparse := parseCompactData_compactBytes hroot hcount
  rw [heq, parseCompactData_compactBytes hother (by omega)] at hparse
  cases hparse
  exact ⟨rfl, rfl⟩

/-- A root and a block list come back exactly if the count fits its byte;
whatever is accepted is the representation of what is returned. -/
theorem compactRepresentation_roundTrip_iff (blocks : List BlockInfo)
    (root : Octets 32) (data : Bytes) :
    (parseCompactData (createCompactRepresentation blocks root.val) =
        .ok (root.val, blocks.map reference) ↔
      blocks.length ≤ 255) ∧
    (∀ (root : Bytes) (refs : List BlockReference),
      parseCompactData data = .ok (root, refs) →
        root.length = 32 ∧ ∃ blocks : List BlockInfo,
          blocks.map reference = refs ∧
            createCompactRepresentation blocks root = data) := by
  constructor
  · rw [parseCompactData_eq_ok_iff, createCompactRepresentation_eq,
      List.length_map]
    constructor
    · intro haccepted
      exact haccepted.2.1
    · intro hcount
      exact ⟨root.property, hcount, rfl⟩
  · intro root refs hparse
    obtain ⟨hroot, -, hdata⟩ := parseCompactData_eq_ok_iff.mp hparse
    have hblocks : (refs.map fun ref =>
        (⟨ref.chainId, "", ref.blockNumber, [], 0, 0⟩ : BlockInfo)).map
          reference = refs := by
      rw [List.map_map]
      exact List.map_id' refs
    refine ⟨hroot, _, hblocks, ?_⟩
    rw [createCompactRepresentation_eq, hblocks, hdata]

def sampleBlock (chainId blockNumber : UInt64) (hash : Byte) : BlockInfo where
  chainId := chainId
  chainName := ""
  blockNumber := blockNumber
  blockHash := [hash]
  timestamp := 0
  fetchedAt := 0

/-- 256 blocks are announced as none. -/
theorem compactRepresentation_not_roundTrip :
    ¬∀ (blocks : List BlockInfo) (root : Octets 32),
      parseCompactData (createCompactRepresentation blocks root.val) =
        .ok (root.val, blocks.map reference) := by
  intro hall
  have hparse := hall (List.replicate 256 (sampleBlock 1 12345 1)) zeroRoot
  have hcount := (parseCompactData_eq_ok_iff.mp hparse).2.1
  rw [List.length_map, List.length_replicate] at hcount
  omega

end NxccBridge.Freshness
