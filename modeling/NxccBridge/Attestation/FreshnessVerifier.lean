import NxccBridge.Attestation.Commitment

/-!
# Verifying a freshness proof

`FreshnessService::verify_freshness_proof` fetches the latest block of every
referenced chain and compares the recomputed root with the one in the compact
representation.
-/

namespace NxccBridge.Freshness

open NxccBridge.Framing
open NxccBridge.MerkleTree
open NxccBridge.Interface

/-- The gateways behind a `GatewayProvider`: the answer to each call, in the
order in which one verification makes them. -/
structure GatewayProvider where
  fetchMultipleLatestBlocks : ℕ → List UInt64 → Except String (List BlockInfo)

structure FreshnessService where
  gatewayProvider : GatewayProvider
  config : FreshnessConfig

section Verify

variable (sha256 : Bytes → Sha256Digest)

def FreshnessProof.verifyStructure (proof : FreshnessProof) :
    Except String Unit :=
  if proof.config.enabled = true ∧
      proof.blocks.length < proof.config.minBlocks then
    .error ("Insufficient blocks in freshness proof: " ++
      toString proof.blocks.length ++ " < " ++ toString proof.config.minBlocks)
  else if (computeMerkleRoot sha256 proof.blocks).val ≠ proof.merkleRoot then
    .error "Merkle root verification failed"
  else .ok ()

namespace FreshnessService

/-- The first block of the chain in the gateways' answer. -/
def fetchChainBlock (service : FreshnessService) (call : ℕ)
    (chainId : UInt64) : Except String BlockInfo :=
  match service.gatewayProvider.fetchMultipleLatestBlocks call [chainId] with
  | .error message => .error message
  | .ok blocks =>
      match blocks.find? (fun block => block.chainId == chainId) with
      | some block => .ok block
      | none => .error ("No block returned for chain " ++ toString chainId)

def fetchBlocksByReferences (service : FreshnessService) :
    ℕ → List BlockReference → Except String (List BlockInfo)
  | _, [] => .ok []
  | call, ref :: rest =>
      match service.fetchChainBlock call ref.chainId with
      | .error message =>
          .error ("Failed to fetch block " ++ toString ref.blockNumber ++
            " from chain " ++ toString ref.chainId ++ ": " ++ message)
      | .ok block =>
          -- another block number than the referenced one is only logged
          match service.fetchBlocksByReferences (call + 1) rest with
          | .error message => .error message
          | .ok blocks => .ok (block :: blocks)

def validateBlockFreshness (service : FreshnessService) :
    List BlockInfo → Except String Unit
  | [] => .ok ()
  | block :: rest =>
      -- the source sets the age to 0 "to fully disable timestamp check"
      let blockAge := 0
      if service.config.maxBlockAgeSeconds < blockAge then
        .error ("Block " ++ toString block.blockNumber ++ " on chain " ++
          toString block.chainId ++ " is too old: " ++ toString blockAge ++
          " seconds (max: " ++ toString service.config.maxBlockAgeSeconds ++
          ")")
      else service.validateBlockFreshness rest

def commitmentMismatch : String :=
  "Freshness proof verification failed: prover's block hashes don't match " ++
    "actual blocks. Prover may have stale data or be attempting fraud."

def verifyFreshnessProof (service : FreshnessService)
    (proof : FreshnessProof) : Except String Unit :=
  if proof.config.enabled = false then .ok ()
  else do
    proof.verifyStructure sha256
    let (claimedMerkleRoot, blockRefs) ←
      parseCompactData proof.compactRepresentation
    let actualBlocks ← service.fetchBlocksByReferences 0 blockRefs
    service.validateBlockFreshness actualBlocks
    if claimedMerkleRoot ≠ (computeMerkleRoot sha256 actualBlocks).val then
      .error commitmentMismatch
    else .ok ()

end FreshnessService

end Verify

/-! ## What the checks establish -/

variable {sha256 : Bytes → Sha256Digest} {service : FreshnessService}

theorem verifyStructure_eq_ok_iff {proof : FreshnessProof}
    (henabled : proof.config.enabled = true) :
    proof.verifyStructure sha256 = .ok () ↔
      proof.config.minBlocks ≤ proof.blocks.length ∧
        (computeMerkleRoot sha256 proof.blocks).val = proof.merkleRoot := by
  rw [FreshnessProof.verifyStructure]
  split_ifs with hfew hroot
  · simp only [false_iff]
    rintro ⟨henough, -⟩
    omega
  · simp [hroot]
  · simp only [true_iff]
    rw [not_and, not_lt] at hfew
    exact ⟨hfew henabled, not_not.mp hroot⟩

/-- The age is never more than the maximum. -/
theorem validateBlockFreshness_eq_ok (blocks : List BlockInfo) :
    service.validateBlockFreshness blocks = .ok () := by
  induction blocks with
  | nil => rfl
  | cons block rest ih =>
      simpa [FreshnessService.validateBlockFreshness] using ih

theorem fetchBlocksByReferences_cons_iff {call : ℕ} {ref : BlockReference}
    {rest : List BlockReference} {actual : List BlockInfo} :
    service.fetchBlocksByReferences call (ref :: rest) = .ok actual ↔
      ∃ block blocks, service.fetchChainBlock call ref.chainId = .ok block ∧
        service.fetchBlocksByReferences (call + 1) rest = .ok blocks ∧
          block :: blocks = actual := by
  rw [FreshnessService.fetchBlocksByReferences]
  cases service.fetchChainBlock call ref.chainId with
  | error message => simp
  | ok block =>
      cases service.fetchBlocksByReferences (call + 1) rest with
      | error message => simp
      | ok blocks => simp

/-- What the fetched blocks are: one for each reference, each the block of the
gateways' answer to that call. -/
theorem fetchBlocksByReferences_eq_ok_iff {call : ℕ}
    {refs : List BlockReference} {actual : List BlockInfo} :
    service.fetchBlocksByReferences call refs = .ok actual ↔
      actual.length = refs.length ∧ ∀ (i : ℕ) (hrefs : i < refs.length)
        (hactual : i < actual.length),
          service.fetchChainBlock (call + i) refs[i].chainId =
            .ok actual[i] := by
  induction refs generalizing call actual with
  | nil =>
      simp only [FreshnessService.fetchBlocksByReferences, Except.ok.injEq,
        List.length_nil, List.length_eq_zero_iff]
      constructor
      · intro hactual
        exact ⟨hactual.symm, fun i hrefs => absurd hrefs (Nat.not_lt_zero i)⟩
      · intro hactual
        exact hactual.1.symm
  | cons ref rest ih =>
      have hnext : ∀ i, call + (i + 1) = call + 1 + i := by omega
      rw [fetchBlocksByReferences_cons_iff]
      constructor
      · rintro ⟨block, blocks, hblock, hrest, rfl⟩
        obtain ⟨hlength, hall⟩ := ih.mp hrest
        refine ⟨by simp [hlength], ?_⟩
        intro i hrefs hactual
        cases i with
        | zero => exact hblock
        | succ i =>
            rw [hnext]
            exact hall i (by simpa using hrefs) (by simpa using hactual)
      · rintro ⟨hlength, hall⟩
        cases actual with
        | nil => simp at hlength
        | cons block blocks =>
            have hrest : service.fetchBlocksByReferences (call + 1) rest =
                .ok blocks := by
              apply ih.mpr
              refine ⟨by simpa using hlength, ?_⟩
              intro i hrefs hactual
              rw [← hnext]
              exact hall (i + 1) (by simpa using hrefs)
                (by simpa using hactual)
            exact ⟨block, blocks, hall 0 (by simp) (by simp), hrest, rfl⟩

/-- The commitment check: the compact representation carries some references,
and its root is that of the blocks fetched for them. -/
def CommitmentChecked (sha256 : Bytes → Sha256Digest)
    (service : FreshnessService) (compactData : Bytes)
    (refs : List BlockReference) (actual : List BlockInfo) : Prop :=
  parseCompactData compactData =
      .ok ((computeMerkleRoot sha256 actual).val, refs) ∧
    service.fetchBlocksByReferences 0 refs = .ok actual

theorem verifyFreshnessProof_eq_ok_iff {proof : FreshnessProof}
    (henabled : proof.config.enabled = true) :
    service.verifyFreshnessProof sha256 proof = .ok () ↔
      proof.verifyStructure sha256 = .ok () ∧ ∃ refs actual,
        CommitmentChecked sha256 service proof.compactRepresentation refs
          actual := by
  rw [FreshnessService.verifyFreshnessProof, if_neg (by simp [henabled])]
  constructor
  · intro haccepted
    cases hstructure : proof.verifyStructure sha256 with
    | error message => simp [hstructure, bind, Except.bind] at haccepted
    | ok checked =>
        cases hparse : parseCompactData proof.compactRepresentation with
        | error message =>
            simp [hstructure, hparse, bind, Except.bind] at haccepted
        | ok parsed =>
            obtain ⟨root, refs⟩ := parsed
            cases hfetch : service.fetchBlocksByReferences 0 refs with
            | error message =>
                simp [hstructure, hparse, hfetch, bind, Except.bind]
                  at haccepted
            | ok actual =>
                simp only [hstructure, hparse, hfetch, bind, Except.bind,
                  validateBlockFreshness_eq_ok, ite_not] at haccepted
                split_ifs at haccepted with hroot
                exact ⟨rfl, refs, actual, hroot ▸ hparse, hfetch⟩
  · rintro ⟨hstructure, refs, actual, hparse, hfetch⟩
    simp [hstructure, hparse, hfetch, bind, Except.bind,
      validateBlockFreshness_eq_ok]

end NxccBridge.Freshness
