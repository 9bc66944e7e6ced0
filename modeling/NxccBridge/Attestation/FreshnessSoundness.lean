import NxccBridge.Attestation.Service

/-!
# What an accepted freshness proof shows

A proof commits to a list of blocks when the verifier reads the root and the
references of that list from it.  An accepted proof shows that its root is that
of the blocks the gateways return; that these are enough blocks, on distinct
and required chains, and at the referenced numbers, nothing checks.
-/

namespace NxccBridge.Freshness

open NxccBridge.Framing
open NxccBridge.Indexing
open NxccBridge.MerkleTree
open NxccBridge.Interface
open NxccBridge.Attestation

variable {sha256 : Bytes → Sha256Digest} {service : FreshnessService}

/-- The proof carries the commitment to a list of blocks. -/
def Commits (sha256 : Bytes → Sha256Digest) (proof : FreshnessProof)
    (blocks : List BlockInfo) : Prop :=
  parseCompactData proof.compactRepresentation =
    .ok ((computeMerkleRoot sha256 blocks).val, blocks.map reference)

/-- Every block of a list is the one that the gateways return for its chain, at
its number. -/
def Returned (service : FreshnessService) (blocks : List BlockInfo) : Prop :=
  ∀ (i : ℕ) (hi : i < blocks.length), ∃ returned,
    service.fetchChainBlock i blocks[i].chainId = .ok returned ∧
      committed returned = committed blocks[i]

/-- What the verifier's configuration asks of a list of blocks. -/
structure Fresh (service : FreshnessService) (blocks : List BlockInfo) :
    Prop where
  enough : service.config.minBlocks ≤ blocks.length
  distinct : (blocks.map BlockInfo.chainId).Nodup
  required : ∀ block ∈ blocks, block.chainId ∈ service.config.requiredChains
  returned : Returned service blocks

/-- An accepted proof commits to a fresh list. -/
def ProofSound (sha256 : Bytes → Sha256Digest) (service : FreshnessService)
    (proof : FreshnessProof) : Prop :=
  service.verifyFreshnessProof sha256 proof = .ok () →
    ∃ blocks, Commits sha256 proof blocks ∧ Fresh service blocks

/-- Two of the strings hashed for a list and for the blocks fetched for it
collide. -/
def FetchCollides (sha256 : Bytes → Sha256Digest) (service : FreshnessService)
    (blocks : List BlockInfo) : Prop :=
  ∃ actual,
    service.fetchBlocksByReferences 0 (blocks.map reference) = .ok actual ∧
      Collision sha256
        (hashedStrings sha256 blocks ++ hashedStrings sha256 actual)

/-- References that the verifier's configuration admits, at the numbers of the
blocks that its gateways return. -/
structure ReferencesAdmissible (service : FreshnessService)
    (refs : List BlockReference) : Prop where
  enough : service.config.minBlocks ≤ refs.length
  distinct : (refs.map BlockReference.chainId).Nodup
  required : ∀ ref ∈ refs, ref.chainId ∈ service.config.requiredChains
  numbers : ∀ (i : ℕ) (hi : i < refs.length), ∃ returned,
    service.fetchChainBlock i refs[i].chainId = .ok returned ∧
      reference returned = refs[i]

/-- A proof that claims to be enabled is judged by its compact representation,
if its other fields agree; a proof that claims not to be is not judged. -/
def ProofCondition (sha256 : Bytes → Sha256Digest)
    (service : FreshnessService) (proof : FreshnessProof) : Prop :=
  if proof.config.enabled = true then
    proof.verifyStructure sha256 = .ok () → ∀ refs actual,
      CommitmentChecked sha256 service proof.compactRepresentation refs
        actual → ReferencesAdmissible service refs
  else ∃ refs actual,
    CommitmentChecked sha256 service proof.compactRepresentation refs
      actual ∧ ReferencesAdmissible service refs

/-- An attested list names distinct required chains, or is refused. -/
def ListCondition (sha256 : Bytes → Sha256Digest) (service : FreshnessService)
    (blocks : List BlockInfo) : Prop :=
  ((blocks.map BlockInfo.chainId).Nodup ∧
      ∀ block ∈ blocks, block.chainId ∈ service.config.requiredChains) ∨
    blocks = [] ∨ blocks.length < service.config.minBlocks ∨
    255 < blocks.length ∨ ¬Returned service blocks ∨
    FetchCollides sha256 service blocks

/-! ## Committed and fetched blocks -/

theorem map_committed_eq_iff {left right : List BlockInfo} :
    left.map committed = right.map committed ↔
      left.length = right.length ∧ ∀ (i : ℕ) (hleft : i < left.length)
        (hright : i < right.length),
          committed left[i] = committed right[i] := by
  rw [List.ext_getElem_iff]
  simp

theorem map_reference_of_committed {left right : List BlockInfo}
    (heq : left.map committed = right.map committed) :
    left.map reference = right.map reference := by
  have hreference : ∀ blocks : List BlockInfo, blocks.map reference =
      (blocks.map committed).map fun triple => ⟨triple.1, triple.2.1⟩ := by
    intro blocks
    rw [List.map_map]
    rfl
  rw [hreference, hreference, heq]

theorem computeMerkleRoot_of_committed {left right : List BlockInfo}
    (heq : left.map committed = right.map committed) :
    computeMerkleRoot sha256 left = computeMerkleRoot sha256 right := by
  rw [computeMerkleRoot_eq, computeMerkleRoot_eq, blockTree, blockTree,
    map_leafBytes_eq_iff.mpr heq]

/-- A list is returned when the fetch for its references gives it back. -/
theorem returned_iff {blocks : List BlockInfo} :
    Returned service blocks ↔ ∃ actual,
      service.fetchBlocksByReferences 0 (blocks.map reference) =
          .ok actual ∧
        actual.map committed = blocks.map committed := by
  constructor
  · intro hreturned
    choose fetched hfetched hsame using hreturned
    have hlength : (List.ofFn fun i : Fin blocks.length =>
        fetched i i.isLt).length = blocks.length := List.length_ofFn
    refine ⟨List.ofFn fun i : Fin blocks.length => fetched i i.isLt, ?_, ?_⟩
    · rw [fetchBlocksByReferences_eq_ok_iff]
      refine ⟨by simp, ?_⟩
      intro i hrefs hactual
      simpa [reference] using hfetched i (by simpa using hrefs)
    · rw [map_committed_eq_iff]
      refine ⟨hlength, ?_⟩
      intro i hleft hright
      simpa using hsame i hright
  · rintro ⟨actual, hfetch, hsame⟩ i hi
    obtain ⟨hlength, hall⟩ := fetchBlocksByReferences_eq_ok_iff.mp hfetch
    rw [map_committed_eq_iff] at hsame
    refine ⟨actual[i], ?_, hsame.2 i (by omega) hi⟩
    have hat := hall i (by simpa using hi) (by omega)
    rw [List.getElem_map, Nat.zero_add] at hat
    exact hat

/-- The references are read back from the blocks fetched for them when all
numbers match. -/
theorem numbers_iff {refs : List BlockReference} {actual : List BlockInfo}
    (hfetch : service.fetchBlocksByReferences 0 refs = .ok actual) :
    (∀ (i : ℕ) (hi : i < refs.length), ∃ returned,
      service.fetchChainBlock i refs[i].chainId = .ok returned ∧
        reference returned = refs[i]) ↔
      actual.map reference = refs := by
  obtain ⟨hlength, hall⟩ := fetchBlocksByReferences_eq_ok_iff.mp hfetch
  simp only [Nat.zero_add] at hall
  constructor
  · intro hnumbers
    apply List.ext_getElem (by simpa using hlength)
    intro i hleft hright
    obtain ⟨returned, hreturned, hreference⟩ := hnumbers i hright
    rw [hall i hright (by omega), Except.ok.injEq] at hreturned
    rw [List.getElem_map, hreturned, hreference]
  · intro hsame i hi
    refine ⟨actual[i], hall i hi (by omega), ?_⟩
    have hat := List.getElem_of_eq hsame.symm hi
    rw [hat, List.getElem_map]

theorem map_chainId (blocks : List BlockInfo) :
    (blocks.map reference).map BlockReference.chainId =
      blocks.map BlockInfo.chainId := by
  rw [List.map_map]
  rfl

/-- Some fresh list is committed to exactly if the commitment check passes for
admissible references. -/
theorem exists_fresh_iff {proof : FreshnessProof} :
    (∃ blocks, Commits sha256 proof blocks ∧ Fresh service blocks) ↔
      ∃ refs actual,
        CommitmentChecked sha256 service proof.compactRepresentation refs
          actual ∧ ReferencesAdmissible service refs := by
  constructor
  · rintro ⟨blocks, hcommits, hfresh⟩
    obtain ⟨actual, hfetch, hsame⟩ := returned_iff.mp hfresh.returned
    refine ⟨blocks.map reference, actual, ⟨?_, hfetch⟩, ?_⟩
    · rw [computeMerkleRoot_of_committed hsame]
      exact hcommits
    · constructor
      · simpa using hfresh.enough
      · rw [map_chainId]
        exact hfresh.distinct
      · intro ref href
        obtain ⟨block, hblock, rfl⟩ := List.mem_map.mp href
        exact hfresh.required block hblock
      · exact (numbers_iff hfetch).mpr (map_reference_of_committed hsame)
  · rintro ⟨refs, actual, ⟨hparse, hfetch⟩, hadmissible⟩
    have hsame := (numbers_iff hfetch).mp hadmissible.numbers
    subst hsame
    refine ⟨actual, hparse, ?_⟩
    constructor
    · simpa using hadmissible.enough
    · rw [← map_chainId]
      exact hadmissible.distinct
    · intro block hblock
      exact hadmissible.required (reference block) (List.mem_map_of_mem hblock)
    · exact returned_iff.mpr ⟨actual, hfetch, rfl⟩

theorem proofSound_iff (proof : FreshnessProof) :
    ProofSound sha256 service proof ↔
      ProofCondition sha256 service proof := by
  rw [ProofSound, ProofCondition, exists_fresh_iff]
  by_cases henabled : proof.config.enabled = true
  · rw [if_pos henabled, verifyFreshnessProof_eq_ok_iff henabled]
    constructor
    · intro hsound hstructure refs actual hchecked
      obtain ⟨refs', actual', hchecked', hadmissible⟩ :=
        hsound ⟨hstructure, refs, actual, hchecked⟩
      have hparsed := hchecked.1.symm.trans hchecked'.1
      simp only [Except.ok.injEq, Prod.mk.injEq] at hparsed
      exact hparsed.2 ▸ hadmissible
    · rintro hcondition ⟨hstructure, refs, actual, hchecked⟩
      exact ⟨refs, actual, hchecked,
        hcondition hstructure refs actual hchecked⟩
  · rw [if_neg henabled]
    have haccepted : service.verifyFreshnessProof sha256 proof = .ok () := by
      rw [FreshnessService.verifyFreshnessProof,
        if_pos (by simpa using henabled)]
    simp [haccepted]

/-! ## Attested block lists -/

variable {Collateral : Type} {attestation : AttestationService Collateral}

/-- The proof built from an attested list is accepted when its count fits the
compact format and the fetched blocks have the same root. -/
theorem attestedProof_accepted_iff
    (henabled : attestation.freshnessService.config.enabled = true)
    {blocks : List BlockInfo} :
    attestation.freshnessService.verifyFreshnessProof
        attestation.crates.sha256 (attestation.attestedProof blocks) =
          .ok () ↔
      attestation.freshnessService.config.minBlocks ≤ blocks.length ∧
        blocks.length ≤ 255 ∧ ∃ actual,
          attestation.freshnessService.fetchBlocksByReferences 0
              (blocks.map reference) = .ok actual ∧
            computeMerkleRoot attestation.crates.sha256 actual =
              computeMerkleRoot attestation.crates.sha256 blocks := by
  have hproof : (attestation.attestedProof blocks).config.enabled = true :=
    henabled
  rw [verifyFreshnessProof_eq_ok_iff hproof, verifyStructure_eq_ok_iff hproof]
  simp only [CommitmentChecked, AttestationService.attestedProof,
    FreshnessProof.new, and_true, createCompactRepresentation_eq,
    parseCompactData_eq_ok_iff, length_octets, true_and]
  constructor
  · rintro ⟨henough, refs, actual, ⟨hcount, hdata⟩, hfetch⟩
    obtain ⟨hroot, hrefs⟩ := compactBytes_inj (length_octets _)
      (length_octets _) hcount hdata.symm
    subst hrefs
    exact ⟨henough, by simpa using hcount, actual, hfetch,
      Subtype.ext hroot⟩
  · rintro ⟨henough, hcount, actual, hfetch, hroot⟩
    exact ⟨henough, blocks.map reference, actual,
      ⟨by simpa using hcount, by rw [hroot]⟩, hfetch⟩

/-- An attested list that passes: neither empty, short nor too long for the
compact format, and the fetched blocks have its root. -/
def ListAccepted (attestation : AttestationService Collateral)
    (blocks : List BlockInfo) : Prop :=
  blocks ≠ [] ∧
    attestation.freshnessService.config.minBlocks ≤ blocks.length ∧
    blocks.length ≤ 255 ∧ ∃ actual,
      attestation.freshnessService.fetchBlocksByReferences 0
          (blocks.map reference) = .ok actual ∧
        computeMerkleRoot attestation.crates.sha256 actual =
          computeMerkleRoot attestation.crates.sha256 blocks

theorem verifyAttestation_eq_ok_iff_accepted
    (henabled : attestation.freshnessService.config.enabled = true)
    {bundle : AttestationBundle} {claims : StandardizedClaims}
    {providers : List (AttestationProvider Collateral)}
    (hproviders : attestation.providers bundle.rawAttestation.platformType =
      some providers)
    (hverified : attestation.VerifiedBy bundle claims providers)
    {userdata : UserData}
    (huserdata : attestation.crates.userDataFromCbor
      bundle.detachedUserdata = .ok userdata) :
    attestation.verifyAttestation bundle = .ok claims ↔
      ListAccepted attestation userdata.blockHashes := by
  rw [AttestationService.verifyAttestation_eq_ok_iff, ListAccepted,
    ← attestedProof_accepted_iff henabled]
  simp [hproviders, hverified, AttestationService.UserdataAccepted,
    huserdata, AttestationService.FreshnessAccepted, henabled]

theorem listAccepted_of_returned {blocks : List BlockInfo}
    (hnonempty : blocks ≠ [])
    (henough : attestation.freshnessService.config.minBlocks ≤ blocks.length)
    (hcount : blocks.length ≤ 255)
    (hreturned : Returned attestation.freshnessService blocks) :
    ListAccepted attestation blocks := by
  obtain ⟨actual, hfetch, hsame⟩ := returned_iff.mp hreturned
  exact ⟨hnonempty, henough, hcount, actual, hfetch,
    computeMerkleRoot_of_committed hsame⟩

/-- What is fetched for an accepted list is the list itself, unless hashed
strings collide. -/
theorem ListAccepted.returned {blocks : List BlockInfo}
    (haccepted : ListAccepted attestation blocks)
    (hcollides : ¬FetchCollides attestation.crates.sha256
      attestation.freshnessService blocks) :
    Returned attestation.freshnessService blocks := by
  obtain ⟨-, -, -, actual, hfetch, hroot⟩ := haccepted
  have hlength : blocks.length = actual.length := by
    simpa using (fetchBlocksByReferences_eq_ok_iff.mp hfetch).1.symm
  rw [returned_iff]
  rcases committed_eq_of_root_eq hlength hroot.symm with hsame | hcollision
  · exact ⟨actual, hfetch, hsame.symm⟩
  · exact absurd ⟨actual, hfetch, hcollision⟩ hcollides

/-- A list that is accepted is fresh, up to a collision. -/
def ListSound (attestation : AttestationService Collateral)
    (bundle : AttestationBundle) (claims : StandardizedClaims)
    (blocks : List BlockInfo) : Prop :=
  attestation.verifyAttestation bundle = .ok claims →
    Fresh attestation.freshnessService blocks ∨
      FetchCollides attestation.crates.sha256 attestation.freshnessService
        blocks

theorem listCondition_of_fresh {blocks : List BlockInfo}
    (hsound : ListAccepted attestation blocks →
      Fresh attestation.freshnessService blocks ∨
        FetchCollides attestation.crates.sha256 attestation.freshnessService
          blocks) :
    ListCondition attestation.crates.sha256 attestation.freshnessService
      blocks := by
  by_cases hrefused : blocks = [] ∨
      blocks.length < attestation.freshnessService.config.minBlocks ∨
      255 < blocks.length ∨ ¬Returned attestation.freshnessService blocks
  · rcases hrefused with hempty | hfew | hmany | hforeign
    · exact Or.inr (Or.inl hempty)
    · exact Or.inr (Or.inr (Or.inl hfew))
    · exact Or.inr (Or.inr (Or.inr (Or.inl hmany)))
    · exact Or.inr (Or.inr (Or.inr (Or.inr (Or.inl hforeign))))
  simp only [not_or, not_not, not_lt] at hrefused
  obtain ⟨hnonempty, henough, hcount, hreturned⟩ := hrefused
  rcases hsound (listAccepted_of_returned hnonempty henough hcount hreturned)
    with hfresh | hcollides
  · exact Or.inl ⟨hfresh.distinct, hfresh.required⟩
  · exact Or.inr (Or.inr (Or.inr (Or.inr (Or.inr hcollides))))

theorem fresh_of_listCondition {blocks : List BlockInfo}
    (hcondition : ListCondition attestation.crates.sha256
      attestation.freshnessService blocks)
    (haccepted : ListAccepted attestation blocks) :
    Fresh attestation.freshnessService blocks ∨
      FetchCollides attestation.crates.sha256 attestation.freshnessService
        blocks := by
  by_cases hcollides : FetchCollides attestation.crates.sha256
      attestation.freshnessService blocks
  · exact Or.inr hcollides
  have hreturned := haccepted.returned hcollides
  obtain ⟨hnonempty, henough, hcount, -⟩ := haccepted
  rcases hcondition with ⟨hdistinct, hrequired⟩ | hrefused
  · exact Or.inl ⟨henough, hdistinct, hrequired, hreturned⟩
  · exact absurd hrefused (by
      simp only [not_or, not_not, not_lt]
      exact ⟨hnonempty, henough, hcount, hreturned, hcollides⟩)

theorem listSound_iff
    (henabled : attestation.freshnessService.config.enabled = true)
    {bundle : AttestationBundle} {claims : StandardizedClaims}
    {providers : List (AttestationProvider Collateral)}
    (hproviders : attestation.providers bundle.rawAttestation.platformType =
      some providers)
    (hverified : attestation.VerifiedBy bundle claims providers)
    {userdata : UserData}
    (huserdata : attestation.crates.userDataFromCbor
      bundle.detachedUserdata = .ok userdata) :
    ListSound attestation bundle claims userdata.blockHashes ↔
      ListCondition attestation.crates.sha256 attestation.freshnessService
        userdata.blockHashes := by
  rw [ListSound, verifyAttestation_eq_ok_iff_accepted henabled hproviders
    hverified huserdata]
  exact ⟨listCondition_of_fresh, fresh_of_listCondition⟩

/-- For a verifier with freshness enabled: which proofs, and which attested
lists of verified bundles, are accepted only if they are fresh. -/
theorem freshness_sound_iff (attestation : AttestationService Collateral)
    (henabled : attestation.freshnessService.config.enabled = true) :
    (∀ proof : FreshnessProof,
      ProofSound attestation.crates.sha256 attestation.freshnessService
          proof ↔
        ProofCondition attestation.crates.sha256 attestation.freshnessService
          proof) ∧
    (∀ (bundle : AttestationBundle) (claims : StandardizedClaims)
      (providers : List (AttestationProvider Collateral))
      (userdata : UserData),
      attestation.providers bundle.rawAttestation.platformType =
          some providers →
        attestation.VerifiedBy bundle claims providers →
        attestation.crates.userDataFromCbor bundle.detachedUserdata =
          .ok userdata →
        (ListSound attestation bundle claims userdata.blockHashes ↔
          ListCondition attestation.crates.sha256
            attestation.freshnessService userdata.blockHashes)) := by
  constructor
  · intro proof
    exact proofSound_iff proof
  · intro bundle claims providers userdata hproviders hverified huserdata
    exact listSound_iff henabled hproviders hverified huserdata

/-! ## A foreign chain, twice -/

def foreignBlock : BlockInfo := sampleBlock 999 7 1

/-- Gateways that always return one block. -/
def sampleFreshnessService : FreshnessService where
  gatewayProvider :=
    { fetchMultipleLatestBlocks := fun _ _ => .ok [foreignBlock] }
  config :=
    { maxBlockAgeSeconds := 300
      requiredChains := [1, 137, 56, 10]
      minBlocks := 2
      enabled := true }

def sampleKey : Bytes := List.replicate 32 7

/-- Userdata that lists the block of a foreign chain twice. -/
def sampleUserData : UserData where
  ephemeralPublicKey := sampleKey
  blockHashes := [foreignBlock, foreignBlock]

def sampleNullProvider : NullAttestationProvider where
  timestamp := 0
  platformMeasurement := zeroRoot
  appMeasurement := ⟨List.replicate 48 0, List.length_replicate⟩

/-- Null evidence is the userdata hash itself. -/
def sampleAttestation : AttestationService Unit where
  crates :=
    { sha256 := sampleSha256
      userDataFromCbor := fun _ => .ok sampleUserData
      nullEvidenceFromJson := fun evidence => .ok ⟨evidence, sampleKey, none⟩ }
  providers := fun platform =>
    if platform = "null" then some [.null sampleNullProvider] else none
  freshnessService := sampleFreshnessService
  createdAt := 0

def sampleBundle : AttestationBundle where
  rawAttestation :=
    { platformType := "null"
      evidence := (sampleSha256 []).val
      certificates := none }
  detachedUserdata := []

def sampleClaims : StandardizedClaims :=
  sampleNullProvider.createNullClaims (sampleSha256 []).val

theorem sampleBundle_verifiedBy : sampleAttestation.VerifiedBy sampleBundle
    sampleClaims [.null sampleNullProvider] := by
  rw [AttestationService.verifiedBy_cons]
  exact Or.inl rfl

theorem freshness_sound_foreign :
    (∀ proof : FreshnessProof,
      ProofSound sampleSha256 sampleFreshnessService proof ↔
        ProofCondition sampleSha256 sampleFreshnessService proof) ∧
    (ListSound sampleAttestation sampleBundle sampleClaims
        [foreignBlock, foreignBlock] ↔
      ListCondition sampleSha256 sampleFreshnessService
        [foreignBlock, foreignBlock]) := by
  obtain ⟨hproofs, hlists⟩ := freshness_sound_iff sampleAttestation rfl
  exact ⟨hproofs, hlists sampleBundle sampleClaims _ sampleUserData rfl
    sampleBundle_verifiedBy rfl⟩

/-- A proof that says it is disabled. -/
def disabledProof : FreshnessProof where
  blocks := []
  merkleRoot := []
  compactRepresentation := []
  createdAt := 0
  config := { sampleFreshnessService.config with enabled := false }

theorem fetch_foreignBlocks :
    sampleFreshnessService.fetchBlocksByReferences 0
      ([foreignBlock, foreignBlock].map reference) =
        .ok [foreignBlock, foreignBlock] := by
  decide

theorem sampleBundle_accepted :
    sampleAttestation.verifyAttestation sampleBundle = .ok sampleClaims := by
  rw [AttestationService.verifyAttestation_eq_ok_iff]
  have hproof : sampleAttestation.freshnessService.verifyFreshnessProof
      sampleAttestation.crates.sha256
      (sampleAttestation.attestedProof [foreignBlock, foreignBlock]) =
        .ok () :=
    (attestedProof_accepted_iff rfl).mpr ⟨le_rfl, by decide, _,
      fetch_foreignBlocks, rfl⟩
  exact ⟨_, rfl, sampleBundle_verifiedBy, sampleUserData, rfl,
    Or.inl ⟨by decide, hproof⟩⟩

theorem foreignBlocks_not_collide :
    ¬FetchCollides sampleSha256 sampleFreshnessService
      [foreignBlock, foreignBlock] := by
  rintro ⟨actual, hfetch, hcollision⟩
  have htree : blockTree [foreignBlock, foreignBlock] =
      some (.node (.leaf (leafBytes foreignBlock))
        (.leaf (leafBytes foreignBlock))) := by
    simp [blockTree, HashTree.ofList, reduce, pairUp]
  rw [fetch_foreignBlocks, Except.ok.injEq] at hfetch
  subst hfetch
  rw [hashedStrings_of_tree htree] at hcollision
  revert hcollision
  decide +kernel

/-- A proof that says it is disabled commits to nothing, and the block of a
foreign chain is accepted twice. -/
theorem freshness_unsound :
    sampleAttestation.freshnessService.config.enabled = true ∧
      ¬ProofSound sampleSha256 sampleFreshnessService disabledProof ∧
      ¬ListSound sampleAttestation sampleBundle sampleClaims
        [foreignBlock, foreignBlock] := by
  refine ⟨rfl, ?_, ?_⟩
  · intro hsound
    obtain ⟨blocks, hcommits, -⟩ := hsound rfl
    have hempty : parseCompactData disabledProof.compactRepresentation =
        .error "Compact data too short" := rfl
    rw [Commits, hempty] at hcommits
    exact absurd hcommits (by simp)
  · intro hsound
    rcases hsound sampleBundle_accepted with hfresh | hcollides
    · exact absurd hfresh.distinct (by decide)
    · exact foreignBlocks_not_collide hcollides

end NxccBridge.Freshness
