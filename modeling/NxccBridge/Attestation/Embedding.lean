import NxccBridge.Attestation.Generation
import NxccBridge.Core.Scan

/-!
# Freshness proofs embedded in user data

`FreshnessEmbedder` appends the compact representation of a proof to the user
data, without a mark between them, and looks for it from the front: at every
offset that holds a version byte and whose announced size fits.
-/

namespace NxccBridge.Freshness

open NxccBridge.Framing
open NxccBridge.Indexing
open NxccBridge.Interface
open NxccBridge.Scan

/-! ## The code -/

section Embedder

variable (service : FreshnessService) (sha256 : Bytes → Sha256Digest)
variable (createdAt : ℕ)

/-- Embed a freshness proof in user data for a TDX quote. -/
def embedFreshnessInUserData (timedOut : Bool) (userData : Bytes)
    (maxUserDataSize : ℕ) : Except String Bytes := do
  let proof ← service.fetchFreshnessProof sha256 createdAt timedOut
  let combinedData := userData ++ proof.compactRepresentation
  if combinedData.length ≤ maxUserDataSize then .ok combinedData
  -- hash if too large
  else .ok (sha256 combinedData).val

/-- Reconstruct a freshness proof from its compact representation; `call` is
the number of the next call to the gateways. -/
def reconstructProofFromCompact (call : ℕ) (compactData : Bytes) :
    Except String FreshnessProof := do
  let (merkleRoot, blockRefs) ← parseCompactData compactData
  let blocks ← service.fetchBlocksByReferences call blockRefs
  .ok { FreshnessProof.new sha256 createdAt blocks service.config with
        merkleRoot, compactRepresentation := compactData }

/-- The data that an offset announces, if it fits. -/
def compactDataAt (userData : Bytes) (startPos : ℕ) : Option Bytes :=
  if userData.getD startPos 0 = 1 then
    if startPos + 1 < userData.length then
      let numBlocks := (userData.getD (startPos + 1) 0).val
      let expectedSize := 34 + numBlocks * 16
      if startPos + expectedSize ≤ userData.length then
        some (slice userData startPos (startPos + expectedSize))
      else none
    else none
  else none

/-- The calls that fetching some references makes, up to the first failure. -/
def callsByReferences : ℕ → List BlockReference → ℕ
  | _, [] => 0
  | call, ref :: rest =>
      match service.fetchChainBlock call ref.chainId with
      | .error _ => 1
      | .ok _ => 1 + callsByReferences (call + 1) rest

/-- One pass of the loop. -/
def reconstructAt (userData : Bytes) (call startPos : ℕ) :
    Option FreshnessProof :=
  (compactDataAt userData startPos).bind fun compactData =>
    (reconstructProofFromCompact service sha256 createdAt call
      compactData).toOption

/-- The number of the next call after a pass that fails. -/
def callAfter (userData : Bytes) (call startPos : ℕ) : ℕ :=
  match compactDataAt userData startPos with
  | none => call
  | some compactData =>
      match parseCompactData compactData with
      | .error _ => call
      | .ok (_, blockRefs) => call + callsByReferences service call blockRefs

/-- The offset and the proof that the loop stops with. -/
def findFreshness (userData : Bytes) : Option (ℕ × FreshnessProof) :=
  scan (reconstructAt service sha256 createdAt userData)
    (callAfter service userData) (userData.length - 34) 0 0

/-- Extract a freshness proof from user data if present. -/
def extractFreshnessFromUserData (userData : Bytes) : Option FreshnessProof :=
  (findFreshness service sha256 createdAt userData).map Prod.snd

/-- The number of the first call made at an offset that is reached. -/
def callAt (userData : Bytes) (startPos : ℕ) : ℕ :=
  stateAt (callAfter service userData) 0 startPos

end Embedder

/-! ## What is found at an offset -/

section Found

variable {service : FreshnessService} {sha256 : Bytes → Sha256Digest}
variable {createdAt : ℕ} {userData : Bytes}

/-- Some offset is taken for a proof exactly when a compact representation
stands there, whatever it was written for. -/
theorem compactDataAt_eq_some_iff {startPos : ℕ} {compactData : Bytes} :
    compactDataAt userData startPos = some compactData ↔
      ∃ root refs, root.length = 32 ∧ refs.length ≤ 255 ∧
        compactData = compactBytes root refs ∧
        At userData startPos compactData := by
  constructor
  · intro hfound
    simp only [compactDataAt] at hfound
    split_ifs at hfound with hversion hnext hfits
    have hat := at_slice (Nat.le_add_right startPos _) hfits
    rw [Option.some.inj hfound] at hat
    have hlength : compactData.length =
        34 + (userData.getD (startPos + 1) 0).val * 16 := by
      rw [← Option.some.inj hfound, length_slice]
      omega
    have hfirst := hat.getD (i := 0) (by omega) 0
    have hcount := hat.getD (i := 1) (by omega) 0
    rw [Nat.add_zero, hversion] at hfirst
    have hparse : parseCompactData compactData =
        .ok (slice compactData 2 34,
          (List.range (compactData.getD 1 0).val).map
            (parseReference compactData)) := by
      simp only [parseCompactData]
      rw [if_neg (by omega), if_neg (not_not.mpr hfirst.symm), ← hcount,
        if_neg (not_not.mpr hlength)]
    obtain ⟨hroot, hrefs, hdata⟩ := eq_compactBytes_of_parseCompactData hparse
    exact ⟨_, _, hroot, hrefs, hdata, hat⟩
  · rintro ⟨root, refs, hroot, hrefs, rfl, hat⟩
    have hlength := length_compactBytes hroot refs
    have hversion : userData.getD startPos 0 = 1 :=
      hat.getD (i := 0) (by omega) 0
    have hcount := hat.getD (i := 1) (by omega) 0
    have hbyte : (userData.getD (startPos + 1) 0).val = refs.length := by
      rw [hcount]
      exact Nat.mod_eq_of_lt (by omega)
    have hrange := hat.1
    have hslice := hat.2
    rw [hlength] at hrange hslice
    rw [compactDataAt, if_pos hversion, if_pos (by omega)]
    simp only [hbyte]
    rw [if_pos hrange, hslice]

/-- One byte is missing. -/
example : compactDataAt ([1, 0] ++ List.replicate 31 0) 0 = none := by
  decide +kernel

theorem reconstructProofFromCompact_compactBytes {call : ℕ} {root : Bytes}
    {refs : List BlockReference} (hroot : root.length = 32)
    (hrefs : refs.length ≤ 255) :
    reconstructProofFromCompact service sha256 createdAt call
        (compactBytes root refs) =
      (service.fetchBlocksByReferences call refs).map fun blocks =>
        { FreshnessProof.new sha256 createdAt blocks service.config with
          merkleRoot := root
          compactRepresentation := compactBytes root refs } := by
  rw [reconstructProofFromCompact, parseCompactData_compactBytes hroot hrefs]
  cases hfetch : service.fetchBlocksByReferences call refs with
  | error message => simp [hfetch, bind, Except.bind, Except.map]
  | ok blocks => simp [hfetch, bind, Except.bind, Except.map]

/-- A representation stands at an offset and the gateways serve its blocks. -/
def Acceptable (service : FreshnessService) (userData : Bytes)
    (startPos : ℕ) : Prop :=
  ∃ root refs blocks, root.length = 32 ∧ refs.length ≤ 255 ∧
    At userData startPos (compactBytes root refs) ∧
    service.fetchBlocksByReferences (callAt service userData startPos) refs =
      .ok blocks

theorem Acceptable.version {startPos : ℕ}
    (hacceptable : Acceptable service userData startPos) :
    userData.getD startPos 0 = 1 := by
  obtain ⟨root, refs, blocks, -, -, hat, -⟩ := hacceptable
  exact hat.getD (i := 0) (Nat.zero_lt_succ _) 0

theorem reconstructAt_eq_some_iff {call startPos : ℕ}
    {found : FreshnessProof} :
    reconstructAt service sha256 createdAt userData call startPos =
        some found ↔
      ∃ root refs blocks, root.length = 32 ∧ refs.length ≤ 255 ∧
        At userData startPos (compactBytes root refs) ∧
        service.fetchBlocksByReferences call refs = .ok blocks ∧
        found = { FreshnessProof.new sha256 createdAt blocks service.config with
          merkleRoot := root
          compactRepresentation := compactBytes root refs } := by
  rw [reconstructAt, Option.bind_eq_some_iff]
  constructor
  · rintro ⟨compactData, hdata, hfound⟩
    obtain ⟨root, refs, hroot, hrefs, rfl, hat⟩ :=
      compactDataAt_eq_some_iff.mp hdata
    rw [reconstructProofFromCompact_compactBytes hroot hrefs] at hfound
    cases hfetch : service.fetchBlocksByReferences call refs with
    | error message =>
        rw [hfetch] at hfound
        cases hfound
    | ok blocks =>
        rw [hfetch] at hfound
        cases hfound
        exact ⟨root, refs, blocks, hroot, hrefs, hat, hfetch, rfl⟩
  · rintro ⟨root, refs, blocks, hroot, hrefs, hat, hfetch, rfl⟩
    refine ⟨compactBytes root refs, compactDataAt_eq_some_iff.mpr
      ⟨root, refs, hroot, hrefs, rfl, hat⟩, ?_⟩
    rw [reconstructProofFromCompact_compactBytes hroot hrefs, hfetch]
    rfl

theorem reconstructAt_eq_none_iff {startPos : ℕ} :
    reconstructAt service sha256 createdAt userData
        (callAt service userData startPos) startPos = none ↔
      ¬ Acceptable service userData startPos := by
  rw [← not_iff_not, not_not, ← ne_eq, Option.ne_none_iff_exists']
  constructor
  · rintro ⟨found, hfound⟩
    obtain ⟨root, refs, blocks, hroot, hrefs, hat, hfetch, -⟩ :=
      reconstructAt_eq_some_iff.mp hfound
    exact ⟨root, refs, blocks, hroot, hrefs, hat, hfetch⟩
  · rintro ⟨root, refs, blocks, hroot, hrefs, hat, hfetch⟩
    exact ⟨_, reconstructAt_eq_some_iff.mpr
      ⟨root, refs, blocks, hroot, hrefs, hat, hfetch, rfl⟩⟩

/-- The loop stops at the first acceptable offset, if it gets there. -/
theorem findFreshness_eq_some_iff {startPos : ℕ} {found : FreshnessProof} :
    findFreshness service sha256 createdAt userData = some (startPos, found) ↔
      startPos < userData.length - 34 ∧
        (∀ earlier < startPos, ¬ Acceptable service userData earlier) ∧
        reconstructAt service sha256 createdAt userData
          (callAt service userData startPos) startPos = some found := by
  have hscan : findFreshness service sha256 createdAt userData =
        some (startPos, found) ↔ _ :=
    scan_eq_some_iff
  rw [hscan, Nat.zero_add]
  constructor
  · rintro ⟨-, hbound, hearlier, hfound⟩
    refine ⟨hbound, ?_, hfound⟩
    intro earlier hlt
    exact reconstructAt_eq_none_iff.mp (hearlier earlier (Nat.zero_le _) hlt)
  · rintro ⟨hbound, hearlier, hfound⟩
    refine ⟨Nat.zero_le _, hbound, ?_, hfound⟩
    intro earlier _ hlt
    exact reconstructAt_eq_none_iff.mpr (hearlier earlier hlt)

end Found

/-! ## What was embedded -/

/-- An enabled proof carries the representation of its root and blocks. -/
theorem compactRepresentation_of_enabled {service : FreshnessService}
    {sha256 : Bytes → Sha256Digest} {createdAt : ℕ} {timedOut : Bool}
    {proof : FreshnessProof}
    (hproof : service.fetchFreshnessProof sha256 createdAt timedOut =
      .ok proof)
    (henabled : proof.config.enabled = true) :
    proof.merkleRoot.length = 32 ∧
      proof.compactRepresentation =
        compactBytes proof.merkleRoot (proof.blocks.map reference) := by
  simp only [FreshnessService.fetchFreshnessProof] at hproof
  split_ifs at hproof with hdisabled hlate
  · cases hproof
    cases henabled
  · cases hproof
    cases henabled
  · cases hblocks : service.fetchBlocksInternal with
    | error message =>
        rw [hblocks] at hproof
        cases hproof
        cases henabled
    | ok blocks =>
        rw [hblocks] at hproof
        simp only [validateBlockFreshness_eq_ok] at hproof
        cases hproof
        exact ⟨(computeMerkleRoot sha256 blocks).property,
          createCompactRepresentation_eq _ _⟩

/-- A proof that fits is appended as it is. -/
theorem embed_of_fits {service : FreshnessService}
    {sha256 : Bytes → Sha256Digest} {createdAt : ℕ} {timedOut : Bool}
    {proof : FreshnessProof}
    (hproof : service.fetchFreshnessProof sha256 createdAt timedOut =
      .ok proof)
    (userData : Bytes) {maxUserDataSize : ℕ}
    (hfits : (userData ++ proof.compactRepresentation).length ≤
      maxUserDataSize) :
    embedFreshnessInUserData service sha256 createdAt timedOut userData
      maxUserDataSize = .ok (userData ++ proof.compactRepresentation) := by
  rw [embedFreshnessInUserData, hproof]
  exact if_pos hfits

section Embedded

variable (extractor : FreshnessService) (sha256 : Bytes → Sha256Digest)
variable (extractedAt : ℕ)

theorem length_compactRepresentation {proof : FreshnessProof}
    (hroot : proof.merkleRoot.length = 32)
    (hcompact : proof.compactRepresentation =
      compactBytes proof.merkleRoot (proof.blocks.map reference)) :
    proof.compactRepresentation.length = 34 + proof.blocks.length * 16 := by
  rw [hcompact, length_compactBytes hroot, List.length_map]

variable {extractor sha256 extractedAt} in
/-- The scan stops 34 bytes before the end, and a proof it returns has a count
of one byte. -/
theorem length_blocks_of_found {proof found : FreshnessProof}
    (hroot : proof.merkleRoot.length = 32)
    (hcompact : proof.compactRepresentation =
      compactBytes proof.merkleRoot (proof.blocks.map reference))
    (userData : Bytes)
    (hsame : found.compactRepresentation = proof.compactRepresentation)
    (hfind : findFreshness extractor sha256 extractedAt
      (userData ++ proof.compactRepresentation) =
        some (userData.length, found)) :
    0 < proof.blocks.length ∧ proof.blocks.length ≤ 255 := by
  have hlength := length_compactRepresentation hroot hcompact
  obtain ⟨hbound, -, hfound⟩ := findFreshness_eq_some_iff.mp hfind
  obtain ⟨root, refs, blocks, hlen, hrefs, -, -, rfl⟩ :=
    reconstructAt_eq_some_iff.mp hfound
  have hcount := congrArg List.length hsame
  rw [length_compactBytes hlen, hlength] at hcount
  rw [List.length_append, hlength] at hbound
  constructor <;> omega

/-- The scan takes the embedded representation when nothing in front of it is
acceptable. -/
theorem findFreshness_embedded {proof : FreshnessProof}
    (hroot : proof.merkleRoot.length = 32)
    (hcompact : proof.compactRepresentation =
      compactBytes proof.merkleRoot (proof.blocks.map reference))
    (hserved : ∀ call, ∃ blocks, extractor.fetchBlocksByReferences call
      (proof.blocks.map reference) = .ok blocks)
    (userData : Bytes) (hsome : 0 < proof.blocks.length)
    (hcount : proof.blocks.length ≤ 255)
    (hearlier : ∀ startPos < userData.length,
      ¬ Acceptable extractor (userData ++ proof.compactRepresentation)
        startPos) :
    ∃ found, findFreshness extractor sha256 extractedAt
        (userData ++ proof.compactRepresentation) =
          some (userData.length, found) ∧
      found.merkleRoot = proof.merkleRoot ∧
      found.compactRepresentation = proof.compactRepresentation := by
  obtain ⟨blocks, hblocks⟩ := hserved
    (callAt extractor (userData ++ proof.compactRepresentation)
      userData.length)
  have hat : At (userData ++ proof.compactRepresentation) userData.length
      (compactBytes proof.merkleRoot (proof.blocks.map reference)) := by
    rw [← hcompact]
    exact at_append_right userData proof.compactRepresentation
  have hrefs : (proof.blocks.map reference).length ≤ 255 := by
    rw [List.length_map]
    exact hcount
  have hbound : userData.length <
      (userData ++ proof.compactRepresentation).length - 34 := by
    rw [List.length_append, length_compactRepresentation hroot hcompact]
    omega
  have hfound : reconstructAt extractor sha256 extractedAt
      (userData ++ proof.compactRepresentation) _ userData.length = some _ :=
    reconstructAt_eq_some_iff.mpr
      ⟨_, _, blocks, hroot, hrefs, hat, hblocks, rfl⟩
  have hfind := findFreshness_eq_some_iff.mpr ⟨hbound, hearlier, hfound⟩
  exact ⟨_, hfind, rfl, hcompact.symm⟩

end Embedded

/-- Extraction from the embedded data finds the proof at the place where it
was put, with its root and representation. -/
def ExtractsEmbedded (prover extractor : FreshnessService)
    (sha256 : Bytes → Sha256Digest) (createdAt extractedAt : ℕ)
    (timedOut : Bool) (proof : FreshnessProof) (userData : Bytes)
    (maxUserDataSize : ℕ) : Prop :=
  ∃ embedded found,
    embedFreshnessInUserData prover sha256 createdAt timedOut userData
      maxUserDataSize = .ok embedded ∧
    extractFreshnessFromUserData extractor sha256 extractedAt embedded =
      some found ∧
    found.merkleRoot = proof.merkleRoot ∧
    found.compactRepresentation = proof.compactRepresentation ∧
    findFreshness extractor sha256 extractedAt embedded =
      some (userData.length, found)

/-- A proof that fits and whose blocks the gateways serve again is extracted
exactly when it has a block, its count fits the count byte and no acceptable
representation starts inside the user data. -/
theorem extractsEmbedded_iff (prover extractor : FreshnessService)
    (sha256 : Bytes → Sha256Digest) (createdAt extractedAt : ℕ)
    (timedOut : Bool) (proof : FreshnessProof)
    (hproof : prover.fetchFreshnessProof sha256 createdAt timedOut =
      .ok proof)
    (henabled : proof.config.enabled = true)
    (hserved : ∀ call, ∃ blocks, extractor.fetchBlocksByReferences call
      (proof.blocks.map reference) = .ok blocks)
    (userData : Bytes) (maxUserDataSize : ℕ)
    (hfits : (userData ++ proof.compactRepresentation).length ≤
      maxUserDataSize) :
    ExtractsEmbedded prover extractor sha256 createdAt extractedAt timedOut
        proof userData maxUserDataSize ↔
      0 < proof.blocks.length ∧ proof.blocks.length ≤ 255 ∧
        ∀ startPos < userData.length,
          ¬ Acceptable extractor (userData ++ proof.compactRepresentation)
            startPos := by
  obtain ⟨hroot, hcompact⟩ :=
    compactRepresentation_of_enabled hproof henabled
  have hembed := embed_of_fits hproof userData hfits
  constructor
  · rintro ⟨embedded, found, hembedded, -, -, hsame, hfind⟩
    rw [hembed] at hembedded
    cases hembedded
    obtain ⟨hsome, hcount⟩ :=
      length_blocks_of_found hroot hcompact userData hsame hfind
    obtain ⟨-, hearlier, -⟩ := findFreshness_eq_some_iff.mp hfind
    exact ⟨hsome, hcount, hearlier⟩
  · rintro ⟨hsome, hcount, hearlier⟩
    obtain ⟨found, hfind, hsameRoot, hsame⟩ :=
      findFreshness_embedded extractor sha256 extractedAt hroot hcompact hserved
        userData hsome hcount hearlier
    have hextract : extractFreshnessFromUserData extractor sha256 extractedAt
        (userData ++ proof.compactRepresentation) = some found :=
      congrArg (Option.map Prod.snd) hfind
    exact ⟨_, found, hembed, hextract, hsameRoot, hsame, hfind⟩

/-! ## One chain -/

/-- The gateways that answer every call with one block. -/
def oneBlockGateways : GatewayProvider where
  fetchMultipleLatestBlocks := fun _ _ => .ok [sampleBlock 1 12345 7]

def oneChainService : FreshnessService where
  gatewayProvider := oneBlockGateways
  config := ⟨300, [1], 1, true⟩

/-- A digest for runs on fixed inputs. -/
def zeroDigest : Bytes → Sha256Digest := fun _ => zeroRoot

def oneBlockProof : FreshnessProof :=
  .new zeroDigest 0 [sampleBlock 1 12345 7] oneChainService.config

example : oneBlockProof.compactRepresentation.length = 34 + 1 * 16 := by
  decide +kernel

/-- Behind four bytes of text the proof is found. -/
theorem extractsEmbedded_text :
    ExtractsEmbedded oneChainService oneChainService zeroDigest 0 0 false
      oneBlockProof (utf8 "user") 64 := by
  apply (extractsEmbedded_iff oneChainService oneChainService zeroDigest 0 0
    false oneBlockProof (by decide +kernel) rfl _ (utf8 "user") 64
    (by decide +kernel)).mpr
  · have htext : ∀ startPos < (utf8 "user").length,
        (utf8 "user" ++ oneBlockProof.compactRepresentation).getD startPos 0 ≠
          1 := by
      decide +kernel
    refine ⟨by decide, by decide, ?_⟩
    intro startPos hinside hacceptable
    exact htext startPos hinside hacceptable.version
  · intro call
    exact ⟨[sampleBlock 1 12345 7], rfl⟩

/-- What is found where the user data is a version byte and a count of no
blocks: the root is the front of the embedded proof. -/
def insideProof : FreshnessProof :=
  { FreshnessProof.new zeroDigest 0 [] oneChainService.config with
    merkleRoot := oneBlockProof.compactRepresentation.take 32
    compactRepresentation :=
      [1, 0] ++ oneBlockProof.compactRepresentation.take 32 }

/-- Two bytes of user data hide the embedded proof. -/
theorem extractsEmbedded_inside :
    embedFreshnessInUserData oneChainService zeroDigest 0 false [1, 0] 64 =
      .ok ([1, 0] ++ oneBlockProof.compactRepresentation) ∧
    extractFreshnessFromUserData oneChainService zeroDigest 0
        ([1, 0] ++ oneBlockProof.compactRepresentation) =
      some insideProof ∧
    insideProof.merkleRoot ≠ oneBlockProof.merkleRoot ∧
    insideProof.compactRepresentation ≠
      oneBlockProof.compactRepresentation ∧
    ¬ ExtractsEmbedded oneChainService oneChainService zeroDigest 0 0 false
      oneBlockProof [1, 0] 64 := by
  have hembed : embedFreshnessInUserData oneChainService zeroDigest 0 false
      [1, 0] 64 = .ok ([1, 0] ++ oneBlockProof.compactRepresentation) := by
    decide +kernel
  have hextract : extractFreshnessFromUserData oneChainService zeroDigest 0
      ([1, 0] ++ oneBlockProof.compactRepresentation) =
        some insideProof := by
    decide +kernel
  have hroot : insideProof.merkleRoot ≠ oneBlockProof.merkleRoot := by
    decide +kernel
  refine ⟨hembed, hextract, hroot, by decide +kernel, ?_⟩
  rintro ⟨embedded, found, hembedded, hfound, hsame, -⟩
  cases hembed.symm.trans hembedded
  cases hextract.symm.trans hfound
  exact hroot hsame

end NxccBridge.Freshness
