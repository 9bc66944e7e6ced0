import NxccBridge.Core.GrowingLog
import NxccBridge.Attestation.FreshnessSoundness
import NxccBridge.Attestation.Generation

/-!
# When an honest attestation is accepted

Two nodes follow the same chains with the same configuration.  One lists the
last blocks that it fetched, the other fetches last blocks again when it
verifies.  The chains grow in between, and a listed chain that produces a block
makes the roots differ, however recent the listed block is.
-/

namespace NxccBridge.Freshness

open NxccBridge.Framing
open NxccBridge.GrowingLog
open NxccBridge.MerkleTree
open NxccBridge.Interface
open NxccBridge.Attestation

structure ChainBlock where
  number : UInt64
  hash : Bytes
  deriving DecidableEq

def ChainBlock.height (block : ChainBlock) : ℕ := block.number.toNat

/-- The blocks of every chain over time. -/
abbrev Chains : Type := Logs UInt64 ChainBlock ChainBlock.height

/-- What a proof commits to for the last block of a chain. -/
def Chains.latest (chains : Chains) (now : ℕ) (chainId : UInt64) :
    Option (UInt64 × UInt64 × Bytes) :=
  (chains.head now chainId).map fun block =>
    (chainId, block.number, block.hash)

/-- The gateways answer for a chain with its last block, and fail while it has
none. -/
structure GatewayProvider.Follows (gateways : GatewayProvider)
    (chains : Chains) (now : ℕ) : Prop where
  answers : ∀ (call : ℕ) {chainId : UInt64} {block : ChainBlock},
    chains.head now chainId = some block → ∃ info,
      gateways.fetchMultipleLatestBlocks call [chainId] = .ok [info] ∧
        committed info = (chainId, block.number, block.hash)
  fails : ∀ (call : ℕ) {chainId : UInt64}, chains.head now chainId = none →
    ∃ message,
      gateways.fetchMultipleLatestBlocks call [chainId] = .error message

/-- The required chains that have a block. -/
def FreshnessConfig.producing (config : FreshnessConfig) (chains : Chains)
    (now : ℕ) : List UInt64 :=
  config.requiredChains.filter fun chainId =>
    (chains.head now chainId).isSome

/-- Enough of the required chains have a block when they are fetched, and none
of these has another one later. -/
structure FreshnessConfig.Settled (config : FreshnessConfig) (chains : Chains)
    (fetched later : ℕ) : Prop where
  nonempty : config.producing chains fetched ≠ []
  enough : config.minBlocks ≤ (config.producing chains fetched).length
  counted : (config.producing chains fetched).length ≤ 255
  still : ∀ chainId ∈ config.producing chains fetched,
    chains.entries later chainId = chains.entries fetched chainId

/-! ## Fetching from the chains -/

section Fetch

variable {service : FreshnessService} {chains : Chains} {now : ℕ}

theorem fetchChainBlock_of_head
    (hfollows : service.gatewayProvider.Follows chains now) (call : ℕ)
    {chainId : UInt64} {block : ChainBlock}
    (hhead : chains.head now chainId = some block) :
    ∃ info, service.fetchChainBlock call chainId = .ok info ∧
      committed info = (chainId, block.number, block.hash) := by
  obtain ⟨info, hanswer, hinfo⟩ := hfollows.answers call hhead
  have hchain : info.chainId = chainId := congrArg Prod.fst hinfo
  refine ⟨info, ?_, hinfo⟩
  simp [FreshnessService.fetchChainBlock, hanswer, hchain]

theorem fetchChainBlock_of_none
    (hfollows : service.gatewayProvider.Follows chains now) (call : ℕ)
    {chainId : UInt64} (hhead : chains.head now chainId = none) :
    ∃ message, service.fetchChainBlock call chainId = .error message := by
  obtain ⟨message, hanswer⟩ := hfollows.fails call hhead
  exact ⟨message, by simp [FreshnessService.fetchChainBlock, hanswer]⟩

/-- What is committed of a fetched block is the latest of the chain. -/
theorem fetchChainBlock_committed_iff
    (hfollows : service.gatewayProvider.Follows chains now) (call : ℕ)
    {chainId : UInt64} {triple : UInt64 × UInt64 × Bytes} :
    (∃ returned, service.fetchChainBlock call chainId = .ok returned ∧
      committed returned = triple) ↔
        chains.latest now chainId = some triple := by
  cases hhead : chains.head now chainId with
  | none =>
      obtain ⟨message, hfetch⟩ := fetchChainBlock_of_none hfollows call hhead
      simp [hfetch, Chains.latest, hhead]
  | some block =>
      obtain ⟨info, hfetch, hinfo⟩ :=
        fetchChainBlock_of_head hfollows call hhead
      simp [hfetch, Chains.latest, hhead, hinfo]

/-- The prover's list: the latest of every required chain that has one. -/
theorem fetchRequiredChains_committed
    (hfollows : service.gatewayProvider.Follows chains now) (call : ℕ)
    (required : List UInt64) :
    (service.fetchRequiredChains call required).map committed =
      required.filterMap (chains.latest now) := by
  induction required generalizing call with
  | nil => rfl
  | cons chainId rest ih =>
      rw [FreshnessService.fetchRequiredChains]
      cases hhead : chains.head now chainId with
      | none =>
          obtain ⟨message, hfetch⟩ :=
            fetchChainBlock_of_none hfollows call hhead
          simp [hfetch, ih, Chains.latest, hhead]
      | some block =>
          obtain ⟨info, hfetch, hinfo⟩ :=
            fetchChainBlock_of_head hfollows call hhead
          simp [hfetch, ih, hinfo, Chains.latest, hhead]

/-- The verifier's gateways return a list if it is the latest of its chains. -/
theorem returned_iff_latest
    (hfollows : service.gatewayProvider.Follows chains now)
    {blocks : List BlockInfo} :
    Returned service blocks ↔ ∀ triple ∈ blocks.map committed,
      chains.latest now triple.1 = some triple := by
  simp only [Returned, fetchChainBlock_committed_iff hfollows, List.mem_map,
    forall_exists_index, and_imp, forall_apply_eq_imp_iff₂]
  rw [List.forall_mem_iff_getElem]
  rfl

theorem length_filterMap_latest (config : FreshnessConfig) (chains : Chains)
    (now : ℕ) :
    (config.requiredChains.filterMap (chains.latest now)).length =
      (config.producing chains now).length := by
  rw [FreshnessConfig.producing]
  induction config.requiredChains with
  | nil => rfl
  | cons chainId rest ih =>
      cases hhead : chains.head now chainId <;>
        simp [Chains.latest, hhead, ih]

/-- The listed blocks are the latest later on exactly if no listed chain has
produced another one. -/
theorem latest_later_iff {config : FreshnessConfig} {later : ℕ}
    (hlater : now ≤ later) :
    (∀ triple ∈ config.requiredChains.filterMap (chains.latest now),
      chains.latest later triple.1 = some triple) ↔
    ∀ chainId ∈ config.producing chains now,
      chains.entries later chainId = chains.entries now chainId := by
  have hchain : ∀ (chainId : UInt64) (block : ChainBlock),
      chains.head now chainId = some block →
        (chains.latest later chainId =
            some (chainId, block.number, block.hash) ↔
          chains.entries later chainId = chains.entries now chainId) := by
    intro chainId block hhead
    have hproduced : chains.entries now chainId ≠ [] := by
      intro hempty
      simp [Logs.head_eq_none_iff.mpr hempty] at hhead
    rw [← Logs.head_eq_head_iff hlater hproduced, hhead, Chains.latest]
    cases chains.head later chainId with
    | none => simp
    | some last => cases last; cases block; simp
  simp only [FreshnessConfig.producing, List.mem_filterMap, List.mem_filter,
    Option.isSome_iff_exists]
  constructor
  · rintro hall chainId ⟨hrequired, block, hhead⟩
    have hlatest : chains.latest now chainId =
        some (chainId, block.number, block.hash) := by
      rw [Chains.latest, hhead]
      rfl
    exact (hchain chainId block hhead).mp
      (hall _ ⟨chainId, hrequired, hlatest⟩)
  · rintro hall triple ⟨chainId, hrequired, hlatest⟩
    obtain ⟨block, hhead, rfl⟩ := Option.map_eq_some_iff.mp hlatest
    exact (hchain chainId block hhead).mpr
      (hall chainId ⟨hrequired, block, hhead⟩)

end Fetch

/-! ## Two nodes -/

variable {Collateral : Type}

/-- A node over time: its providers, its gateways and its configuration. -/
structure Node (Collateral : Type) where
  providers : ℕ → String → Option (List (AttestationProvider Collateral))
  gateways : ℕ → GatewayProvider
  config : FreshnessConfig

/-- The attestation service of a node at some time. -/
def Node.serviceAt (node : Node Collateral) (crates : Crates) (now : ℕ) :
    AttestationService Collateral where
  crates := crates
  providers := node.providers now
  freshnessService :=
    { gatewayProvider := node.gateways now
      config := node.config }
  createdAt := now

def Node.Follows (node : Node Collateral) (chains : Chains) : Prop :=
  ∀ now, (node.gateways now).Follows chains now

/-- The providers verify the quote of a bundle. -/
def QuoteVerified (attestation : AttestationService Collateral)
    (bundle : AttestationBundle) : Prop :=
  ∃ claims providers,
    attestation.providers bundle.rawAttestation.platformType =
        some providers ∧
      attestation.VerifiedBy bundle claims providers

/-- A service accepts a bundle. -/
def Accepts (attestation : AttestationService Collateral)
    (bundle : AttestationBundle) : Prop :=
  ∃ claims, attestation.verifyAttestation bundle = .ok claims

/-- The times at which a block fetched at some time is recent enough. -/
def FreshnessConfig.InTime (config : FreshnessConfig) (fetched now : ℕ) :
    Prop :=
  fetched ≤ now ∧ now ≤ fetched + config.maxBlockAgeSeconds

section Accepted

variable {attestation : AttestationService Collateral}

theorem accepts_iff_listAccepted
    (henabled : attestation.freshnessService.config.enabled = true)
    {bundle : AttestationBundle} (hquote : QuoteVerified attestation bundle)
    {userdata : UserData}
    (huserdata : attestation.crates.userDataFromCbor
      bundle.detachedUserdata = .ok userdata) :
    Accepts attestation bundle ↔
      ListAccepted attestation userdata.blockHashes := by
  constructor
  · rintro ⟨claims, haccepted⟩
    obtain ⟨providers, hproviders, hverified, -⟩ :=
      AttestationService.verifyAttestation_eq_ok_iff.mp haccepted
    exact (verifyAttestation_eq_ok_iff_accepted henabled hproviders hverified
      huserdata).mp haccepted
  · intro haccepted
    obtain ⟨claims, providers, hproviders, hverified⟩ := hquote
    exact ⟨claims, (verifyAttestation_eq_ok_iff_accepted henabled hproviders
      hverified huserdata).mpr haccepted⟩

/-- Without a collision, a list passes that is not empty, fits and is returned
again. -/
theorem listAccepted_iff {blocks : List BlockInfo}
    (hcollides : ¬FetchCollides attestation.crates.sha256
      attestation.freshnessService blocks) :
    ListAccepted attestation blocks ↔
      blocks ≠ [] ∧
        attestation.freshnessService.config.minBlocks ≤ blocks.length ∧
        blocks.length ≤ 255 ∧
        Returned attestation.freshnessService blocks := by
  constructor
  · intro haccepted
    exact ⟨haccepted.1, haccepted.2.1, haccepted.2.2.1,
      haccepted.returned hcollides⟩
  · rintro ⟨hnonempty, henough, hcount, hreturned⟩
    exact listAccepted_of_returned hnonempty henough hcount hreturned

end Accepted

/-- The list of one service is accepted by the other exactly if it was fetched
in time and the chains are settled. -/
theorem listAccepted_listedBlocks_iff
    {prover : FreshnessService} {verifier : AttestationService Collateral}
    {chains : Chains} {fetched later : ℕ} {timedOut : Bool}
    (hsame : verifier.freshnessService.config = prover.config)
    (henabled : prover.config.enabled = true)
    (hprover : prover.gatewayProvider.Follows chains fetched)
    (hverifier : verifier.freshnessService.gatewayProvider.Follows chains
      later)
    (hlater : fetched ≤ later)
    (hcollides : ¬FetchCollides verifier.crates.sha256
      verifier.freshnessService (prover.listedBlocks timedOut)) :
    ListAccepted verifier (prover.listedBlocks timedOut) ↔
      timedOut = false ∧ prover.config.Settled chains fetched later := by
  rw [listAccepted_iff hcollides, returned_iff_latest hverifier, hsame]
  have hcommitted := fetchRequiredChains_committed hprover 0
    prover.config.requiredChains
  have hlength : (prover.fetchRequiredChains 0
      prover.config.requiredChains).length =
        (prover.config.producing chains fetched).length := by
    rw [← length_filterMap_latest, ← hcommitted, List.length_map]
  rw [FreshnessService.listedBlocks]
  by_cases hfallback : prover.config.enabled = false ∨ timedOut = true ∨
      (prover.fetchRequiredChains 0 prover.config.requiredChains).length <
        prover.config.minBlocks
  · -- an empty list was attested
    simp only [if_pos hfallback, ne_eq, not_true_eq_false, false_and,
      false_iff]
    rintro ⟨hinTime, hsettled⟩
    have henough := hsettled.enough
    rcases hfallback with hdisabled | htimedOut | hfew
    · simp [henabled] at hdisabled
    · simp [hinTime] at htimedOut
    · omega
  · simp only [if_neg hfallback]
    simp only [not_or, not_lt, Bool.not_eq_true] at hfallback
    rw [hcommitted, latest_later_iff hlater, hlength,
      ← List.length_pos_iff_ne_nil, hlength, List.length_pos_iff_ne_nil]
    constructor
    · rintro ⟨hnonempty, henough, hcount, hstill⟩
      exact ⟨hfallback.2.1, hnonempty, henough, hcount, hstill⟩
    · rintro ⟨-, hsettled⟩
      exact ⟨hsettled.nonempty, hsettled.enough, hsettled.counted,
        hsettled.still⟩

/-- Chains that are settled at some time are settled before it. -/
theorem FreshnessConfig.Settled.mono {config : FreshnessConfig}
    {chains : Chains} {fetched now later : ℕ}
    (hsettled : config.Settled chains fetched later) (hnow : fetched ≤ now)
    (hlater : now ≤ later) : config.Settled chains fetched now := by
  refine ⟨hsettled.nonempty, hsettled.enough, hsettled.counted, ?_⟩
  intro chainId hproducing
  have hafter := chains.grows hlater chainId
  rw [hsettled.still chainId hproducing] at hafter
  exact hafter.eq_of_length_le (chains.grows hnow chainId).length_le

/-- A bundle is accepted for as long as its blocks are recent enough. -/
def AcceptedInTime (crates : Crates) (verifier : Node Collateral)
    (fetched : ℕ) (bundle : AttestationBundle) : Prop :=
  ∀ now, verifier.config.InTime fetched now →
    Accepts (verifier.serviceAt crates now) bundle

/-- When what one node generates is accepted by another that shares its chains
and configuration, at one time and for as long as the blocks are recent
enough. -/
theorem freshness_complete_iff (crates : Crates) (generation : Generation)
    (chains : Chains) (prover verifier : Node Collateral)
    (hsame : verifier.config = prover.config)
    (henabled : prover.config.enabled = true)
    (hprover : prover.Follows chains) (hverifier : verifier.Follows chains)
    (hcbor : ∀ userdata bytes, generation.userDataToCbor userdata =
      .ok bytes → crates.userDataFromCbor bytes = .ok userdata)
    {fetched : ℕ} {ephemeralKey : Bytes} {bundle : AttestationBundle}
    (hgenerated : (prover.serviceAt crates fetched).generateAttestation
      generation ephemeralKey = .ok bundle)
    (hquote : ∀ now, prover.config.InTime fetched now →
      QuoteVerified (verifier.serviceAt crates now) bundle)
    (hcollides : ∀ now, prover.config.InTime fetched now →
      ¬FetchCollides crates.sha256
        (verifier.serviceAt crates now).freshnessService
        ((prover.serviceAt crates fetched).freshnessService.listedBlocks
          generation.timedOut)) :
    (∀ now, prover.config.InTime fetched now →
      (Accepts (verifier.serviceAt crates now) bundle ↔
        generation.timedOut = false ∧
          prover.config.Settled chains fetched now)) ∧
    (AcceptedInTime crates verifier fetched bundle ↔
      generation.timedOut = false ∧
        prover.config.Settled chains fetched
          (fetched + prover.config.maxBlockAgeSeconds)) := by
  have huserdata := hcbor _ _
    (AttestationService.generateAttestation_userdata hgenerated)
  have hat : ∀ now, prover.config.InTime fetched now →
      (Accepts (verifier.serviceAt crates now) bundle ↔
        generation.timedOut = false ∧
          prover.config.Settled chains fetched now) := by
    intro now hnow
    have hverifierEnabled : verifier.config.enabled = true := by
      rw [hsame, henabled]
    rw [accepts_iff_listAccepted hverifierEnabled (hquote now hnow) huserdata]
    exact listAccepted_listedBlocks_iff hsame henabled (hprover fetched)
      (hverifier now) hnow.1 (hcollides now hnow)
  refine ⟨hat, ?_⟩
  rw [AcceptedInTime, hsame]
  constructor
  · intro haccepted
    have hlast : prover.config.InTime fetched
        (fetched + prover.config.maxBlockAgeSeconds) :=
      ⟨Nat.le_add_right _ _, le_rfl⟩
    exact (hat _ hlast).mp (haccepted _ hlast)
  · rintro ⟨hinTime, hsettled⟩ now hnow
    exact (hat now hnow).mpr ⟨hinTime, hsettled.mono hnow.1 hnow.2⟩

/-! ## Two chains, one of which produces a block -/

def blockInfo (chainId : UInt64) (block : ChainBlock) : BlockInfo where
  chainId := chainId
  chainName := ""
  blockNumber := block.number
  blockHash := block.hash
  timestamp := 0
  fetchedAt := 0

/-- Gateways that answer with the last block of each chain asked for. -/
def Chains.gateways (chains : Chains) (now : ℕ) : GatewayProvider where
  fetchMultipleLatestBlocks := fun _ chainIds =>
    chainIds.mapM fun chainId =>
      match chains.head now chainId with
      | some block => .ok (blockInfo chainId block)
      | none => .error "No block yet"

theorem Chains.gateways_follows (chains : Chains) (now : ℕ) :
    (chains.gateways now).Follows chains now := by
  constructor
  · intro call chainId block hhead
    refine ⟨blockInfo chainId block, ?_, rfl⟩
    simp only [Chains.gateways, List.mapM_cons, List.mapM_nil, hhead]
    rfl
  · intro call chainId hhead
    refine ⟨"No block yet", ?_⟩
    simp only [Chains.gateways, List.mapM_cons, List.mapM_nil, hhead]
    rfl

/-- Chain 1 has its second block from some time on, chain 10 stays. -/
def sampleEntries (second now : ℕ) (chainId : UInt64) : List ChainBlock :=
  if chainId = 1 then
    if now < second then [⟨7, [1]⟩] else [⟨7, [1]⟩, ⟨8, [3]⟩]
  else if chainId = 10 then [⟨9, [2]⟩]
  else []

def sampleChains (second : ℕ) : Chains where
  entries := sampleEntries second
  grows := by
    intro now later hlater chainId
    simp only [sampleEntries]
    split_ifs with hchain hnow hafter
    · exact List.prefix_rfl
    · exact List.prefix_append [_] [_]
    · omega
    · exact List.prefix_rfl
    · exact List.prefix_rfl
    · exact List.prefix_rfl
  ascending := by
    intro now chainId
    simp only [sampleEntries]
    split_ifs <;> decide

/-- Nothing happens before the second block. -/
theorem gateways_before {second now : ℕ} (hbefore : now < second) :
    (sampleChains second).gateways now =
      (sampleChains second).gateways 0 := by
  have hpositive : 0 < second := by omega
  simp only [Chains.gateways, Logs.head, sampleChains, sampleEntries,
    if_pos hbefore, if_pos hpositive]

def sampleNode (second : ℕ) : Node Unit where
  providers := fun now platform =>
    if platform = "null" then
      some [.null { sampleNullProvider with timestamp := now }]
    else none
  gateways := (sampleChains second).gateways
  config :=
    { maxBlockAgeSeconds := 300
      requiredChains := [1, 10]
      minBlocks := 2
      enabled := true }

/-- What is listed at time 0. -/
def firstBlocks : List BlockInfo :=
  [blockInfo 1 ⟨7, [1]⟩, blockInfo 10 ⟨9, [2]⟩]

def firstUserData : UserData where
  ephemeralPublicKey := sampleKey
  blockHashes := firstBlocks

/-- Null evidence is the concatenation of its fields. -/
def sampleCrates : Crates where
  sha256 := sampleSha256
  userDataFromCbor := fun _ => .ok firstUserData
  nullEvidenceFromJson := fun evidence =>
    .ok ⟨evidence.take 32, (evidence.drop 32).take 32,
      some (evidence.drop 64)⟩

def sampleGeneration : Generation where
  generators := fun platform =>
    if platform = "null" then
      some
        [{ platformType := "null"
           isAvailable := true
           generateAttestation := fun _ => .error
            ("Null provider generate_attestation should not be called " ++
              "directly. Use AttestationService.") }]
    else none
  userDataToCbor := fun userdata =>
    if userdata = firstUserData then .ok [] else .error "No encoding"
  nullEvidenceToJson := fun evidence =>
    .ok (evidence.userdataHash ++ evidence.ephemeralKey ++
      evidence.nonce.getD [])
  randomNonce := zeroRoot
  timedOut := false

def firstBundle : AttestationBundle where
  rawAttestation :=
    { platformType := "null"
      evidence := (sampleSha256 []).val ++ sampleKey ++ zeroRoot.val
      certificates := none }
  detachedUserdata := []

theorem sampleGeneration_roundTrip (userdata : UserData) (bytes : Bytes)
    (hencoded : sampleGeneration.userDataToCbor userdata = .ok bytes) :
    sampleCrates.userDataFromCbor bytes = .ok userdata := by
  simp only [sampleGeneration] at hencoded
  split_ifs at hencoded with hsame
  rw [hsame]
  rfl

theorem firstBundle_quoteVerified (second now : ℕ) :
    QuoteVerified ((sampleNode second).serviceAt sampleCrates now)
      firstBundle :=
  ⟨_, _, rfl, AttestationService.verifiedBy_cons.mpr (Or.inl rfl)⟩

theorem blockTree_two (first second : BlockInfo) :
    blockTree [first, second] =
      some (.node (.leaf (leafBytes first)) (.leaf (leafBytes second))) := by
  simp [blockTree, HashTree.ofList, reduce, pairUp]

theorem fetch_firstBlocks :
    ((sampleNode 1000).serviceAt sampleCrates
      0).freshnessService.fetchBlocksByReferences 0
        (firstBlocks.map reference) = .ok firstBlocks := by
  rfl

theorem firstBlocks_not_collide {now : ℕ} (hbefore : now < 1000) :
    ¬FetchCollides sampleSha256
      ((sampleNode 1000).serviceAt sampleCrates now).freshnessService
      firstBlocks := by
  have hservice :
      ((sampleNode 1000).serviceAt sampleCrates now).freshnessService =
        ((sampleNode 1000).serviceAt sampleCrates 0).freshnessService :=
    congrArg (FreshnessService.mk · (sampleNode 1000).config)
      (gateways_before hbefore)
  rintro ⟨actual, hfetch, hcollision⟩
  rw [hservice, fetch_firstBlocks, Except.ok.injEq] at hfetch
  subst hfetch
  rw [firstBlocks, hashedStrings_of_tree (blockTree_two _ _)] at hcollision
  revert hcollision
  decide +kernel

/-- Nothing happens for as long as the blocks are recent enough. -/
theorem freshness_complete_settled :
    AcceptedInTime sampleCrates (sampleNode 1000) 0 firstBundle ↔
      sampleGeneration.timedOut = false ∧
        (sampleNode 1000).config.Settled (sampleChains 1000) 0 (0 + 300) :=
  (freshness_complete_iff sampleCrates sampleGeneration (sampleChains 1000)
    (sampleNode 1000) (sampleNode 1000) rfl rfl
    (sampleChains 1000).gateways_follows (sampleChains 1000).gateways_follows
    sampleGeneration_roundTrip
    (rfl : ((sampleNode 1000).serviceAt sampleCrates 0).generateAttestation
      sampleGeneration sampleKey = .ok firstBundle)
    (fun now _ => firstBundle_quoteVerified 1000 now)
    (fun _ hnow => firstBlocks_not_collide
      (hnow.2.trans_lt (by decide)))).2

/-- The second block of chain 1, and the first of chain 10. -/
def secondBlocks : List BlockInfo :=
  [blockInfo 1 ⟨8, [3]⟩, blockInfo 10 ⟨9, [2]⟩]

theorem fetch_secondBlocks :
    ((sampleNode 1).serviceAt sampleCrates
      1).freshnessService.fetchBlocksByReferences 0
        (firstBlocks.map reference) = .ok secondBlocks := by
  rfl

theorem root_secondBlocks : computeMerkleRoot sampleSha256 secondBlocks ≠
    computeMerkleRoot sampleSha256 firstBlocks := by
  rw [firstBlocks, secondBlocks, computeMerkleRoot_of_tree (blockTree_two _ _),
    computeMerkleRoot_of_tree (blockTree_two _ _)]
  decide +kernel

/-- Chain 1 produces a block at time 1, and what was fetched at time 0 is
refused at time 1 of 300. -/
theorem freshness_incomplete :
    ((sampleNode 1).serviceAt sampleCrates 0).generateAttestation
        sampleGeneration sampleKey = .ok firstBundle ∧
      (∀ now, QuoteVerified ((sampleNode 1).serviceAt sampleCrates now)
        firstBundle) ∧
      (sampleNode 1).config.InTime 0 1 ∧
      ¬Accepts ((sampleNode 1).serviceAt sampleCrates 1) firstBundle ∧
      ¬AcceptedInTime sampleCrates (sampleNode 1) 0 firstBundle := by
  have hinTime : (sampleNode 1).config.InTime 0 1 := ⟨by decide, by decide⟩
  have hrefused :
      ¬Accepts ((sampleNode 1).serviceAt sampleCrates 1) firstBundle := by
    rw [accepts_iff_listAccepted rfl (firstBundle_quoteVerified 1 1)
      (rfl : sampleCrates.userDataFromCbor [] = .ok firstUserData)]
    rintro ⟨-, -, -, actual, hfetch, hroot⟩
    have hactual := fetch_secondBlocks.symm.trans hfetch
    rw [Except.ok.injEq] at hactual
    subst hactual
    exact root_secondBlocks hroot
  exact ⟨rfl, firstBundle_quoteVerified 1, hinTime, hrefused,
    fun haccepted => hrefused (haccepted 1 hinTime)⟩

end NxccBridge.Freshness
