import NxccBridge.Attestation.Service

/-!
# Generating an attestation

`AttestationService::generate_attestation` fetches a block of every required
chain, lists those it got in the userdata and has the provider sign the hash of
that.  If the fetch fails or takes too long the list is empty.
-/

namespace NxccBridge.Freshness

open NxccBridge.Framing
open NxccBridge.MerkleTree
open NxccBridge.Interface

/-- `FreshnessConfig::default`, with what the environment says of it. -/
def FreshnessConfig.default (enabled : Bool) : FreshnessConfig where
  maxBlockAgeSeconds := 300
  requiredChains := [1, 137, 56, 10]
  minBlocks := 2
  enabled := enabled

/-- Create disabled proof when freshness is disabled. -/
def FreshnessProof.disabled (createdAt : ℕ) : FreshnessProof where
  blocks := []
  merkleRoot := zeroRoot.val
  compactRepresentation := []
  createdAt := createdAt
  config := FreshnessConfig.default false

namespace FreshnessService

/-- The loop over the required chains, with the number of the next call. -/
def fetchRequiredChains (service : FreshnessService) :
    ℕ → List UInt64 → List BlockInfo
  | _, [] => []
  | call, chainId :: rest =>
      match service.fetchChainBlock call chainId with
      | .ok block => block :: service.fetchRequiredChains (call + 1) rest
      -- continue with other chains
      | .error _ => service.fetchRequiredChains (call + 1) rest

def fetchBlocksInternal (service : FreshnessService) :
    Except String (List BlockInfo) :=
  let blocks := service.fetchRequiredChains 0 service.config.requiredChains
  if blocks.length < service.config.minBlocks then
    .error ("Insufficient fresh blocks: got " ++ toString blocks.length ++
      ", need " ++ toString service.config.minBlocks)
  else .ok blocks

/-- Fetch freshness proof; `timedOut` says whether the fetch takes longer than
the timeout. -/
def fetchFreshnessProof (service : FreshnessService)
    (sha256 : Bytes → Sha256Digest) (createdAt : ℕ) (timedOut : Bool) :
    Except String FreshnessProof :=
  if service.config.enabled = false then .ok (.disabled createdAt)
  else if timedOut = true then .ok (.disabled createdAt)
  else
    match service.fetchBlocksInternal with
    -- disabled proof for fallback
    | .error _ => .ok (.disabled createdAt)
    | .ok blocks =>
        match service.validateBlockFreshness blocks with
        | .error message => .error message
        | .ok () => .ok (.new sha256 createdAt blocks service.config)

/-- The blocks that an attestation lists. -/
def listedBlocks (service : FreshnessService) (timedOut : Bool) :
    List BlockInfo :=
  let blocks := service.fetchRequiredChains 0 service.config.requiredChains
  if service.config.enabled = false ∨ timedOut = true ∨
      blocks.length < service.config.minBlocks then []
  else blocks

/-- A proof is always there, and lists nothing after a failure. -/
theorem fetchFreshnessProof_blocks (service : FreshnessService)
    (sha256 : Bytes → Sha256Digest) (createdAt : ℕ) (timedOut : Bool) :
    ∃ proof, service.fetchFreshnessProof sha256 createdAt timedOut =
        .ok proof ∧ proof.blocks = service.listedBlocks timedOut := by
  simp only [fetchFreshnessProof, listedBlocks, fetchBlocksInternal]
  by_cases hfallback : service.config.enabled = false ∨ timedOut = true ∨
      (service.fetchRequiredChains 0 service.config.requiredChains).length <
        service.config.minBlocks
  · rw [if_pos hfallback]
    refine ⟨.disabled createdAt, ?_, rfl⟩
    rcases hfallback with hdisabled | htimedOut | hfew
    · rw [if_pos hdisabled]
    · simp [htimedOut]
    · simp [hfew]
  · rw [if_neg hfallback]
    simp only [not_or] at hfallback
    obtain ⟨henabled, hinTime, henough⟩ := hfallback
    rw [if_neg henabled, if_neg hinTime, if_neg henough]
    simp only [validateBlockFreshness_eq_ok]
    exact ⟨_, rfl, rfl⟩

end FreshnessService

end NxccBridge.Freshness

namespace NxccBridge.Attestation

open NxccBridge.Framing
open NxccBridge.Indexing
open NxccBridge.Interface
open NxccBridge.Freshness

/-- What a registered provider does on the generating side. -/
structure Generator where
  platformType : String
  isAvailable : Bool
  generateAttestation : Bytes → Except String RawAttestation

/-- The generating side of a service: its providers by platform type, the
crates it writes with, and what happens during one call. -/
structure Generation where
  generators : String → Option (List Generator)
  /-- `ciborium::into_writer` at `UserData`. -/
  userDataToCbor : UserData → Except String Bytes
  /-- `serde_json::to_vec` at `NullAttestationEvidence`. -/
  nullEvidenceToJson : NullAttestationEvidence → Except String Bytes
  randomNonce : Octets 32
  timedOut : Bool

namespace Generation

/-- Real TEEs come first, the null provider last. -/
def platformPriority : List String := ["tdx", "null"]

/-- The first available provider, platform by platform. -/
def provider (generation : Generation) : Option Generator :=
  platformPriority.findSome? fun platformType =>
    (generation.generators platformType).bind fun generators =>
      generators.find? Generator.isAvailable

/-- Create null attestation evidence with random nonce. -/
def nullEvidence (generation : Generation) (userdataHash ephemeralKey : Bytes) :
    NullAttestationEvidence where
  userdataHash := userdataHash
  ephemeralKey := ephemeralKey
  nonce := some generation.randomNonce.val

def generateNullAttestation (generation : Generation)
    (userdataHash ephemeralKey : Bytes) : Except String RawAttestation :=
  if ephemeralKey.length ≠ 32 then
    .error "Ephemeral key must be 32 bytes"
  else
    match generation.nullEvidenceToJson
      (generation.nullEvidence userdataHash ephemeralKey) with
    | .error message =>
        .error ("Failed to serialize null evidence: " ++ message)
    | .ok evidenceBytes =>
        .ok
          { platformType := "null"
            evidence := evidenceBytes
            certificates := none }

/-- The evidence for a hash: the null provider's is made by the service. -/
def rawAttestation (generation : Generation) (provider : Generator)
    (userdataHash ephemeralKey : Bytes) : Except String RawAttestation :=
  if provider.platformType = "null" then
    generation.generateNullAttestation userdataHash ephemeralKey
  else provider.generateAttestation userdataHash

end Generation

variable {Collateral : Type}

/-- Generate attestation (auto-detects platform). -/
def AttestationService.generateAttestation
    (service : AttestationService Collateral) (generation : Generation)
    (ephemeralKey : Bytes) : Except AttestationError AttestationBundle :=
  match generation.provider with
  | none => .error (.noProvidersAvailable "No available TEE platform detected")
  | some provider =>
      match service.freshnessService.fetchFreshnessProof
        service.crates.sha256 service.createdAt generation.timedOut with
      | .error message => .error (.other message)
      | .ok freshnessProof =>
          match generation.userDataToCbor
            ⟨ephemeralKey, freshnessProof.blocks⟩ with
          | .error message => .error (.other message)
          | .ok detachedUserdata =>
              match generation.rawAttestation provider
                (hashUserdata service.crates detachedUserdata).val
                ephemeralKey with
              | .error message => .error (.other message)
              | .ok rawAttestation =>
                  .ok
                    { rawAttestation := rawAttestation
                      detachedUserdata := detachedUserdata }

/-- The userdata of a generated bundle lists the fetched blocks. -/
theorem AttestationService.generateAttestation_userdata
    {service : AttestationService Collateral} {generation : Generation}
    {ephemeralKey : Bytes} {bundle : AttestationBundle}
    (hgenerated : service.generateAttestation generation ephemeralKey =
      .ok bundle) :
    generation.userDataToCbor
      ⟨ephemeralKey,
        service.freshnessService.listedBlocks generation.timedOut⟩ =
      .ok bundle.detachedUserdata := by
  rw [generateAttestation] at hgenerated
  cases hprovider : generation.provider with
  | none => simp [hprovider] at hgenerated
  | some provider =>
      obtain ⟨proof, hproof, hblocks⟩ :=
        service.freshnessService.fetchFreshnessProof_blocks
          service.crates.sha256 service.createdAt generation.timedOut
      rw [← hblocks]
      simp only [hprovider, hproof] at hgenerated
      cases hcbor : generation.userDataToCbor
          ⟨ephemeralKey, proof.blocks⟩ with
      | error message => simp [hcbor] at hgenerated
      | ok detachedUserdata =>
          simp only [hcbor] at hgenerated
          cases hraw : generation.rawAttestation provider
              (hashUserdata service.crates detachedUserdata).val
              ephemeralKey with
          | error message => simp [hraw] at hgenerated
          | ok rawAttestation =>
              simp only [hraw, Except.ok.injEq] at hgenerated
              rw [← hgenerated]

end NxccBridge.Attestation
