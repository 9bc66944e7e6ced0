import NxccBridge.Daemon.Network
import NxccBridge.Daemon.Policies
import NxccBridge.Enclave.Release

/-!
# Where the secrets of a network come from

Every entry that a node holds, and every secret in a box under way, was
generated by some node of the network after one of its requests timed out.  A
node generates a secret once.  So two nodes that disagree on a secret have it
from two nodes that each generated their own.
-/

namespace NxccBridge.Network

open Function
open NxccBridge.LastWriter
open NxccBridge.Framing
open NxccBridge.Interface
open NxccBridge.Crypto
open NxccBridge.EnclaveSecrets
open NxccBridge.DaemonSecrets
open NxccBridge.PendingRequests

variable {Digest : Type*} [DecidableEq Digest] {platform : Platform Digest}
variable {Policy Node : Type*} [DecidableEq Node]

/-! ## Generated entries -/

/-- Generation leaves the identifiers alone that it is not asked for. -/
theorem generateLoop_of_not_mem (authorized : SecretId → ConsumerInfo → Bool)
    (now : ℕ) (requests : List GenerateRequest) (storage : SecretsStorage)
    {secretId : SecretId} (habsent : secretId ∉ requests.map Prod.fst) :
    (generateLoop authorized now requests storage).1 secretId =
      storage secretId := by
  induction requests generalizing storage with
  | nil => rfl
  | cons request requests ih =>
      obtain ⟨requested, consumer, entropy⟩ := request
      obtain ⟨hne, hrest⟩ : secretId ≠ requested ∧
          secretId ∉ requests.map Prod.fst := by
        simpa using habsent
      unfold generateLoop
      split_ifs with hdenied hexists
      · exact ih storage hrest
      · rfl
      · cases entropy with
        | error err => rfl
        | ok secretData =>
            dsimp only
            rw [ih _ hrest, update_of_ne hne]

theorem map_fst_idsToGenerate_subset (entry : PendingRequest)
    {secretId : SecretId}
    (hmem : secretId ∈ (idsToGenerate entry).map Prod.fst) :
    secretId ∈ entry.requestedIds := by
  simp only [idsToGenerate, List.mem_map, List.mem_filterMap] at hmem
  obtain ⟨⟨found, consumer⟩, ⟨requested, hrequested, hpair⟩, rfl⟩ := hmem
  obtain ⟨registered, -, hpair⟩ := Option.map_eq_some_iff.mp hpair
  obtain ⟨rfl, -⟩ := Prod.mk.inj hpair
  exact hrequested

/-- The timeout finalizer keeps every entry. -/
theorem finalizeRequestTimeout_of_some (env : Env Policy)
    (enclave : Secrets platform) (requestId : ℕ) (entry : PendingRequest)
    {secretId : SecretId} {stored : StoredSecret}
    (hstored : enclave.secretsStorage secretId = some stored) :
    (finalizeRequestTimeout env enclave requestId entry).1.secretsStorage
      secretId = some stored := by
  obtain ⟨authorized, honly, hcases⟩ :=
    finalizeRequestTimeout_enclave env enclave requestId entry
  rw [← honly.storage] at hstored
  rcases hcases with hsame | hgenerated
  · rw [hsame, hstored]
  · rw [hgenerated]
    exact generateSecrets_of_some _ _ _ _ hstored

/-- The timeout finalizer adds entries under requested identifiers only. -/
theorem finalizeRequestTimeout_of_not_mem (env : Env Policy)
    (enclave : Secrets platform) (requestId : ℕ) (entry : PendingRequest)
    {secretId : SecretId} (habsent : secretId ∉ entry.requestedIds) :
    (finalizeRequestTimeout env enclave requestId entry).1.secretsStorage
      secretId = enclave.secretsStorage secretId := by
  obtain ⟨authorized, honly, hcases⟩ :=
    finalizeRequestTimeout_enclave env enclave requestId entry
  rw [← honly.storage]
  rcases hcases with hsame | hgenerated
  · rw [hsame]
  · rw [hgenerated]
    unfold Secrets.generateSecrets
    cases env.enclaveReport with
    | error e => rfl
    | ok selfReport =>
        refine generateLoop_of_not_mem _ _ _ _ fun hmem => ?_
        refine habsent (map_fst_idsToGenerate_subset entry ?_)
        simpa using hmem

theorem mem_insertedEntries {before after : SecretsStorage}
    {ids : List SecretId} {secretId : SecretId} {stored : StoredSecret} :
    (secretId, stored) ∈ insertedEntries before after ids ↔
      secretId ∈ ids ∧ before secretId = none ∧
        after secretId = some stored := by
  simp only [insertedEntries, List.mem_filterMap]
  constructor
  · rintro ⟨found, hmem, hpair⟩
    split_ifs at hpair with hnone
    obtain ⟨entry, hentry, hpair⟩ := Option.map_eq_some_iff.mp hpair
    obtain ⟨rfl, rfl⟩ := Prod.mk.inj hpair
    exact ⟨hmem, Option.isNone_iff_eq_none.mp hnone, hentry⟩
  · rintro ⟨hmem, hnone, hsome⟩
    exact ⟨secretId, hmem, by simp [hnone, hsome]⟩

/-! ## One node -/

/-- A box that an enclave sealed around secrets of which `made` holds. -/
def SealedFrom (platform : Platform Digest)
    (made : SecretId × StoredSecret → Prop) (secretsBox : SecretsBox) : Prop :=
  ∃ (nonce : Nonce) (ours : KeyExchangeKeyPair platform) (recipient : Bytes)
    (packed : List PackedSecret),
    encryptSecretsBox nonce ours recipient packed = .ok secretsBox ∧
      ∀ secret ∈ packed, made (toOffer secret)

/-- The bundles of a request came in boxes sealed around such secrets. -/
def CollectedFrom (platform : Platform Digest)
    (made : SecretId × StoredSecret → Prop) (entry : PendingRequest) : Prop :=
  ∀ bundle ∈ entry.collectedBundles, SealedFrom platform made bundle.1

/-- Of everything that a node holds, stored or in a box, `made` holds. -/
structure NodeOrigin (made : SecretId × StoredSecret → Prop)
    (state : NodeState platform) : Prop where
  stored : ∀ secretId entry,
    state.enclave.secretsStorage secretId = some entry → made (secretId, entry)
  entries : EntriesSatisfy (fun _ => CollectedFrom platform made)
    (fun _ _ => CollectedFrom platform made) state

omit [DecidableEq Digest] in
theorem SealedFrom.mono {made more : SecretId × StoredSecret → Prop}
    (hmore : ∀ entry, made entry → more entry) {secretsBox : SecretsBox}
    (hsealed : SealedFrom platform made secretsBox) :
    SealedFrom platform more secretsBox := by
  obtain ⟨nonce, ours, recipient, packed, hbox, hpacked⟩ := hsealed
  exact ⟨nonce, ours, recipient, packed, hbox,
    fun secret hmem => hmore _ (hpacked secret hmem)⟩

omit [DecidableEq Digest] in
theorem NodeOrigin.mono {made more : SecretId × StoredSecret → Prop}
    (hmore : ∀ entry, made entry → more entry) {state : NodeState platform}
    (horigin : NodeOrigin made state) : NodeOrigin more state where
  stored := fun secretId entry hentry =>
    hmore _ (horigin.stored secretId entry hentry)
  entries := {
    waiting := fun requestId entry hpending bundle hmem =>
      (horigin.entries.waiting requestId entry hpending bundle hmem).mono hmore
    handed := fun requestId kind entry hhanded bundle hmem =>
      (horigin.entries.handed requestId kind entry hhanded bundle hmem).mono
        hmore }

/-- All but the finalizers leave the stored secrets as they were. -/
theorem step_storage (state : NodeState platform) (action : Action Policy) :
    ((state.step action).enclave.secretsStorage =
        state.enclave.secretsStorage ∧
      (state.step action).generated = state.generated) ∨
    ∃ (env : Env Policy) (requestId : ℕ) (kind : Finalizer)
      (entry : PendingRequest), (requestId, kind, entry) ∈ state.finalizers ∧
      state.step action = state.finalize env requestId kind entry := by
  cases action with
  | getSecrets env secretRequests callerEnvReport =>
      have honly := getSecrets_onlyAuthorizes state.service env state.enclave
        secretRequests callerEnvReport
      refine Or.inl ?_
      simp only [NodeState.step, NodeState.act]
      split <;> rename_i heq <;> rw [heq] at honly <;>
        exact ⟨honly.storage, rfl⟩
  | answer env requestId secretRequests requesterEnvReport =>
      have honly := handleIncomingSecretBatchRequest_onlyAuthorizes env
        state.enclave secretRequests requesterEnvReport
      refine Or.inl ?_
      simp only [NodeState.step, NodeState.act]
      split <;> rename_i heq <;> rw [heq] at honly <;>
        exact ⟨honly.storage, rfl⟩
  | response env requestId secretsBox envReport =>
      have honly := handleIncomingSecretBatchResponse_onlyAuthorizes env
        state.enclave state.service.pending requestId secretsBox envReport
      refine Or.inl ?_
      simp only [NodeState.step, NodeState.act]
      generalize handleIncomingSecretBatchResponse env state.enclave
        state.service.pending requestId secretsBox envReport = outcome at honly
      obtain ⟨enclave, pending, taken, result⟩ := outcome
      cases taken <;> exact ⟨honly.storage, rfl⟩
  | timeout requestId =>
      refine Or.inl ?_
      simp only [NodeState.step, NodeState.act]
      split_ifs
      · generalize timeoutReached state.service.pending requestId = outcome
        obtain ⟨pending, taken⟩ := outcome
        cases taken <;> exact ⟨rfl, rfl⟩
      · exact ⟨rfl, rfl⟩
  | finish env requestId =>
      simp only [NodeState.step, NodeState.act]
      cases hfind : state.finalizers.find? fun task => task.1 = requestId with
      | none => exact Or.inl ⟨rfl, rfl⟩
      | some task =>
          obtain ⟨found, kind, entry⟩ := task
          have hmem := List.mem_of_find?_eq_some hfind
          obtain rfl : found = requestId := by
            simpa using List.find?_some hfind
          exact Or.inr ⟨env, found, kind, entry, hmem, rfl⟩
  | authorize report =>
      exact Or.inl ⟨storeAuthorization_storage _ _, rfl⟩

omit [DecidableEq Digest] in
theorem mem_collected_of_mem_bundlesForEnclave {entry : PendingRequest}
    {bundle : SecretsBundle} (hmem : bundle ∈ bundlesForEnclave entry) :
    (bundle.1, bundle.2.1) ∈ entry.collectedBundles := by
  obtain ⟨⟨secretsBox, envReport⟩, hcollected, hpair⟩ :=
    List.mem_filterMap.mp hmem
  dsimp only at hpair
  split at hpair
  · cases hpair
  · obtain ⟨consumer, -, rfl⟩ := Option.map_eq_some_iff.mp hpair
    exact hcollected

omit [DecidableEq Digest] in
theorem CollectedFrom.collect {made : SecretId × StoredSecret → Prop}
    {entry : PendingRequest} (hentry : CollectedFrom platform made entry)
    {secretsBox : SecretsBox} (hbox : SealedFrom platform made secretsBox)
    (envReport : EnvReport) :
    CollectedFrom platform made (entry.collect secretsBox envReport) := by
  intro bundle hmem
  rcases List.mem_append.mp hmem with hmem | hmem
  · exact hentry bundle hmem
  · obtain rfl := List.mem_singleton.mp hmem
    exact hbox

omit [DecidableEq Digest] in
/-- What the threshold finalizer leaves in the store was there or comes out of
a collected box. -/
theorem finalizeRequestThreshold_source (hroundTrips : platform.RoundTrips)
    (hideal : platform.IdealAead)
    {made : SecretId × StoredSecret → Prop} {env : Env Policy}
    {enclave : Secrets platform} {requestId : ℕ} {entry : PendingRequest}
    (hcollected : CollectedFrom platform made entry)
    {secretId : SecretId} {stored : StoredSecret}
    (hstored : (finalizeRequestThreshold env enclave requestId
      entry).1.secretsStorage secretId = some stored) :
    enclave.secretsStorage secretId = some stored ∨ made (secretId, stored) := by
  rcases finalizeRequestThreshold_enclave env enclave requestId entry with
    hsame | hput
  · rw [hsame] at hstored
    exact Or.inl hstored
  · rw [hput] at hstored
    rcases (putSecrets_isLatest enclave env.putSecrets.clock env.attestation
        (bundlesForEnclave entry) secretId).source with
      hsame | ⟨offered, hmem, hresult, -⟩
    · exact Or.inl (hsame ▸ hstored)
    · obtain rfl := Option.some.inj (hresult.symm.trans hstored)
      obtain ⟨bundle, hbundle, hoffer⟩ :=
        List.mem_flatMap.mp (mem_offersFor.mp hmem)
      obtain ⟨secret, hsecret, hpair⟩ := List.mem_map.mp hoffer
      obtain ⟨-, -, -, opened, hopened, hin⟩ :=
        mem_admitted_iff.mp (List.mem_of_mem_filter hsecret)
      obtain ⟨nonce, ours, recipient, packed, hbox, hpacked⟩ :=
        hcollected _ (mem_collected_of_mem_bundlesForEnclave hbundle)
      obtain rfl := eq_of_decrypt_encryptSecretsBox hroundTrips hideal hbox
        hopened
      exact Or.inr (hpair ▸ hpacked secret hin)

theorem NodeOrigin.step (hroundTrips : platform.RoundTrips)
    (hideal : platform.IdealAead) {made : SecretId × StoredSecret → Prop}
    {state : NodeState platform} (horigin : NodeOrigin made state)
    {action : Action Policy}
    (hreceived : ∀ env requestId secretsBox envReport,
      action = .response env requestId secretsBox envReport →
        SealedFrom platform made secretsBox)
    (hgenerated : ∀ entry ∈ (state.step action).generated, made entry) :
    NodeOrigin made (state.step action) where
  stored := by
    intro secretId entry hentry
    rcases step_storage state action with
      ⟨hstorage, -⟩ | ⟨env, requestId, kind, request, hmem, hfinalize⟩
    · rw [hstorage] at hentry
      exact horigin.stored secretId entry hentry
    · rw [hfinalize] at hentry hgenerated
      cases kind with
      | threshold =>
          rcases finalizeRequestThreshold_source hroundTrips hideal
              (horigin.entries.handed requestId .threshold request hmem)
              hentry with
            hbefore | hmade
          · exact horigin.stored secretId entry hbefore
          · exact hmade
      | timeout =>
          cases hbefore : state.enclave.secretsStorage secretId with
          | some stored =>
              have hkept := finalizeRequestTimeout_of_some env state.enclave
                requestId request hbefore
              obtain rfl := Option.some.inj (hkept.symm.trans hentry)
              exact horigin.stored secretId stored hbefore
          | none =>
              refine hgenerated _ (List.mem_append_right _ ?_)
              refine mem_insertedEntries.mpr ⟨?_, hbefore, hentry⟩
              by_contra habsent
              have hkept := finalizeRequestTimeout_of_not_mem env state.enclave
                requestId request habsent
              exact absurd (hkept.symm.trans hentry) (by simp [hbefore])
  entries := by
    refine (step_effect state action).entriesSatisfy horigin.entries ?_ ?_ ?_ ?_
    · intro requestId entry hempty hcount hthreshold bundle hmem
      rw [hempty] at hmem
      cases hmem
    · intro env requestId secretsBox envReport entry haction hvalid hentry
        hbelow
      exact hentry.collect (hreceived _ _ _ _ haction) envReport
    · intro env requestId secretsBox envReport entry haction hvalid hentry
        hthreshold
      exact hentry.collect (hreceived _ _ _ _ haction) envReport
    · intro requestId entry hentry hbelow
      exact hentry

/-- A box that a node sends is sealed around what the node holds. -/
theorem act_sealed {made : SecretId × StoredSecret → Prop}
    {state : NodeState platform} (horigin : NodeOrigin made state)
    {action : Action Policy} {requestId : ℕ} {secretsBox : SecretsBox}
    {envReport : EnvReport}
    (hmessage : (state.act action).2 =
      some (.secretBatchResponse requestId secretsBox envReport)) :
    SealedFrom platform made secretsBox := by
  cases action with
  | getSecrets env secretRequests callerEnvReport =>
      obtain ⟨_, _, hrequest⟩ := act_getSecrets_message hmessage
      cases hrequest
  | answer env otherId secretRequests requesterEnvReport =>
      simp only [NodeState.act] at hmessage
      have honly := handleIncomingSecretBatchRequest_onlyAuthorizes env
        state.enclave secretRequests requesterEnvReport
      split at hmessage
      · rename_i enclave answered report heq
        obtain ⟨rfl, rfl, rfl⟩ : otherId = requestId ∧ answered = secretsBox ∧
            report = envReport := by
          simpa using hmessage
        obtain ⟨authorized, hbox⟩ :=
          handleIncomingSecretBatchRequest_box (congrArg Prod.snd heq)
        rw [heq] at hbox honly
        obtain ⟨-, userdata, -, hsealed⟩ := getSecrets_ok hbox
        refine ⟨_, _, _, _, hsealed, fun secret hmem => ?_⟩
        rw [secretsToPack_eq] at hmem
        obtain ⟨⟨secretId, consumer⟩, -, hread⟩ := List.mem_filterMap.mp hmem
        obtain ⟨stored, hreadable, rfl⟩ := Option.map_eq_some_iff.mp hread
        refine horigin.stored secretId stored ?_
        rw [← honly.storage]
        exact readable_present hreadable
      · cases hmessage
  | response env otherId otherBox otherReport => cases hmessage
  | timeout otherId =>
      simp only [NodeState.act] at hmessage
      split_ifs at hmessage
  | finish env otherId =>
      simp only [NodeState.act] at hmessage
      split at hmessage <;> cases hmessage
  | authorize report => cases hmessage

/-! ## Once for each secret -/

/-- A node keeps what it generated and generated each secret once. -/
structure GeneratedOnce (state : NodeState platform) : Prop where
  stored : ∀ secretId entry, (secretId, entry) ∈ state.generated →
    (state.enclave.secretsStorage secretId).isSome = true
  unique : ∀ secretId first second, (secretId, first) ∈ state.generated →
    (secretId, second) ∈ state.generated → first = second

omit [DecidableEq Digest] in
theorem finalizeRequestThreshold_isSome {env : Env Policy}
    {enclave : Secrets platform} {requestId : ℕ} {entry : PendingRequest}
    {secretId : SecretId}
    (hsome : (enclave.secretsStorage secretId).isSome = true) :
    ((finalizeRequestThreshold env enclave requestId
      entry).1.secretsStorage secretId).isSome = true := by
  rcases finalizeRequestThreshold_enclave env enclave requestId entry with
    hsame | hput
  · rw [hsame, hsome]
  · obtain ⟨stored, hstored⟩ := Option.isSome_iff_exists.mp hsome
    obtain ⟨last, hlast, -⟩ := (putSecrets_isLatest enclave env.putSecrets.clock
      env.attestation (bundlesForEnclave entry) secretId).current_le stored
        hstored
    rw [hput, hlast, Option.isSome_some]

theorem GeneratedOnce.step {state : NodeState platform}
    (honce : GeneratedOnce state) (action : Action Policy) :
    GeneratedOnce (state.step action) := by
  rcases step_storage state action with
    ⟨hstorage, hgenerated⟩ | ⟨env, requestId, kind, request, -, hfinalize⟩
  · constructor
    · rw [hstorage, hgenerated]
      exact honce.stored
    · rw [hgenerated]
      exact honce.unique
  · rw [hfinalize]
    cases kind with
    | threshold =>
        exact {
          stored := fun secretId entry hmem =>
            finalizeRequestThreshold_isSome (honce.stored secretId entry hmem)
          unique := honce.unique }
    | timeout =>
        have hkept : ∀ secretId entry, (secretId, entry) ∈ state.generated →
            state.enclave.secretsStorage secretId ≠ none := by
          intro secretId entry hmem hnone
          have hsome := honce.stored secretId entry hmem
          rw [hnone] at hsome
          cases hsome
        constructor
        · intro secretId entry hmem
          rcases List.mem_append.mp hmem with hmem | hmem
          · obtain ⟨stored, hstored⟩ := Option.isSome_iff_exists.mp
              (honce.stored secretId entry hmem)
            have hafter := finalizeRequestTimeout_of_some env state.enclave
              requestId request hstored
            exact Option.isSome_iff_exists.mpr ⟨stored, hafter⟩
          · obtain ⟨-, -, hafter⟩ := mem_insertedEntries.mp hmem
            exact Option.isSome_iff_exists.mpr ⟨entry, hafter⟩
        · intro secretId first second hfirst hsecond
          rcases List.mem_append.mp hfirst with hfirst | hfirst <;>
            rcases List.mem_append.mp hsecond with hsecond | hsecond
          · exact honce.unique secretId first second hfirst hsecond
          · exact absurd (mem_insertedEntries.mp hsecond).2.1
              (hkept secretId first hfirst)
          · exact absurd (mem_insertedEntries.mp hfirst).2.1
              (hkept secretId second hsecond)
          · have heq := (mem_insertedEntries.mp hfirst).2.2.symm.trans
              (mem_insertedEntries.mp hsecond).2.2
            exact Option.some.inj heq

/-! ## The network -/

/-- Some node of the network generated the entry. -/
def GeneratedBy (state : NetworkState platform Node)
    (entry : SecretId × StoredSecret) : Prop :=
  ∃ node, entry ∈ (state.nodes node).generated

/-- Everything held at a node or under way was generated in the network, and
each node generated a secret once. -/
structure Origin (state : NetworkState platform Node) : Prop where
  nodes : ∀ node, NodeOrigin (GeneratedBy state) (state.nodes node)
  sent : ∀ sent ∈ state.sent, ∀ requestId secretsBox envReport,
    sent.message = .secretBatchResponse requestId secretsBox envReport →
      SealedFrom platform (GeneratedBy state) secretsBox
  once : ∀ node, GeneratedOnce (state.nodes node)

theorem mem_generated_step {state : NodeState platform}
    (action : Action Policy) {entry : SecretId × StoredSecret}
    (hmem : entry ∈ state.generated) :
    entry ∈ (state.step action).generated := by
  rcases step_storage state action with
    ⟨-, hgenerated⟩ | ⟨env, requestId, kind, request, -, hfinalize⟩
  · rw [hgenerated]
    exact hmem
  · rw [hfinalize]
    cases kind with
    | threshold => exact hmem
    | timeout => exact List.mem_append_left _ hmem

theorem Origin.act (hroundTrips : platform.RoundTrips)
    (hideal : platform.IdealAead) {state : NetworkState platform Node}
    (horigin : Origin state) {node : Node} {step : Action Policy}
    (hreceived : ∀ env requestId secretsBox envReport,
      step = .response env requestId secretsBox envReport →
        ∃ sent ∈ state.sent, sent.message =
          .secretBatchResponse requestId secretsBox envReport)
    (requester : Node) (published : Bool) :
    Origin (state.act node step requester published) := by
  have hmore : ∀ entry, GeneratedBy state entry →
      GeneratedBy (state.act node step requester published) entry := by
    rintro entry ⟨other, hmem⟩
    refine ⟨other, ?_⟩
    by_cases hother : other = node
    · subst hother
      rw [act_nodes_self]
      exact mem_generated_step step hmem
    · rw [act_nodes_of_ne _ hother]
      exact hmem
  have hacting : NodeOrigin
      (GeneratedBy (state.act node step requester published))
      ((state.nodes node).step step) := by
    refine ((horigin.nodes node).mono hmore).step hroundTrips hideal ?_ ?_
    · intro env requestId secretsBox envReport hstep
      obtain ⟨sent, hmem, hmessage⟩ := hreceived _ _ _ _ hstep
      exact (horigin.sent sent hmem _ _ _ hmessage).mono hmore
    · intro entry hmem
      exact ⟨node, by rwa [act_nodes_self]⟩
  constructor
  · intro other
    by_cases hother : other = node
    · subst hother
      rw [act_nodes_self]
      exact hacting
    · rw [act_nodes_of_ne _ hother]
      exact (horigin.nodes other).mono hmore
  · intro sent hmem requestId secretsBox envReport hmessage
    rcases act_sent state node step requester published with
      hsame | ⟨message, hpublished, hsent⟩
    · rw [hsame] at hmem
      exact (horigin.sent sent hmem _ _ _ hmessage).mono hmore
    · rw [hsent] at hmem
      rcases List.mem_append.mp hmem with hmem | hmem
      · exact (horigin.sent sent hmem _ _ _ hmessage).mono hmore
      · obtain rfl := List.mem_singleton.mp hmem
        obtain rfl : message = _ := hmessage
        exact (act_sealed (horigin.nodes node) hpublished).mono hmore
  · intro other
    by_cases hother : other = node
    · subst hother
      rw [act_nodes_self]
      exact (horigin.once other).step step
    · rw [act_nodes_of_ne _ hother]
      exact horigin.once other

omit [DecidableEq Digest] [DecidableEq Node] in
theorem Origin.congr {state after : NetworkState platform Node}
    (horigin : Origin state) (hnodes : after.nodes = state.nodes)
    (hsent : after.sent = state.sent) : Origin after := by
  have hgenerated : GeneratedBy after = GeneratedBy state := by
    funext entry
    simp only [GeneratedBy, hnodes]
  constructor
  · rw [hnodes, hgenerated]
    exact horigin.nodes
  · rw [hsent, hgenerated]
    exact horigin.sent
  · rw [hnodes]
    exact horigin.once

omit [DecidableEq Digest] [DecidableEq Node] in
theorem origin_new (keys : Node → KeyExchangeKeyPair platform) :
    Origin (NetworkState.new keys) where
  nodes := fun node => {
    stored := fun secretId entry hentry => by cases hentry
    entries := {
      waiting := fun requestId entry hpending => by cases hpending
      handed := fun requestId kind entry hmem => by cases hmem } }
  sent := fun sent hmem => by cases hmem
  once := fun node => {
    stored := fun secretId entry hmem => by cases hmem
    unique := fun secretId first second hfirst => by cases hfirst }

theorem run_origin (hroundTrips : platform.RoundTrips)
    (hideal : platform.IdealAead) (keys : Node → KeyExchangeKeyPair platform)
    (actions : List (NetworkAction Policy Node)) :
    Origin ((NetworkState.new keys).run actions) := by
  induction actions using List.reverseRecOn with
  | nil => exact origin_new keys
  | append_singleton actions last ih =>
      rw [NetworkState.run_concat]
      rcases step_acts ((NetworkState.new keys).run actions) last with
        hsame | ⟨node, step, requester, published, hreceived, hnodes, hsent⟩
      · rw [hsame]
        exact ih
      · exact (ih.act hroundTrips hideal hreceived requester published).congr
          hnodes hsent

/-- In every run of any number of nodes two nodes hold the same entry under an
identifier, unless two different nodes each generated their own. -/
theorem secrets_agree (hroundTrips : platform.RoundTrips)
    (hideal : platform.IdealAead) (keys : Node → KeyExchangeKeyPair platform)
    (actions : List (NetworkAction Policy Node)) (first second : Node)
    (secretId : SecretId) (left right : StoredSecret)
    (hleft : (((NetworkState.new keys).run actions).nodes
      first).enclave.secretsStorage secretId = some left)
    (hright : (((NetworkState.new keys).run actions).nodes
      second).enclave.secretsStorage secretId = some right) :
    left = right ∨
    ∃ maker other, maker ≠ other ∧
      (secretId, left) ∈
        (((NetworkState.new keys).run actions).nodes maker).generated ∧
      (secretId, right) ∈
        (((NetworkState.new keys).run actions).nodes other).generated := by
  have horigin := run_origin hroundTrips hideal keys actions
  obtain ⟨maker, hmaker⟩ := (horigin.nodes first).stored secretId left hleft
  obtain ⟨other, hother⟩ := (horigin.nodes second).stored secretId right hright
  by_cases hsame : maker = other
  · subst hsame
    exact Or.inl ((horigin.once maker).unique secretId left right hmaker hother)
  · exact Or.inr ⟨maker, other, hsame, hmaker, hother⟩

def answeredRun : List (NetworkAction Unit (Fin 3)) :=
  crossedRun ++ [.deliver 0 (sampleEnv [0] 8 0) 3 true,
    .finish 0 (sampleEnv [0] 8 0) 1]

/-- The node that generated the secret of `crossedRun` and the node that asked
for it end with one entry. -/
theorem secrets_agree_answered :
    ∃ left right,
      (((NetworkState.new sampleKeys).run answeredRun).nodes
        0).enclave.secretsStorage (sampleSecretId 7) = some left ∧
      (((NetworkState.new sampleKeys).run answeredRun).nodes
        2).enclave.secretsStorage (sampleSecretId 7) = some right ∧
      (left = right ∨ ∃ maker other, maker ≠ other ∧
        (sampleSecretId 7, left) ∈
          (((NetworkState.new sampleKeys).run answeredRun).nodes
            maker).generated ∧
        (sampleSecretId 7, right) ∈
          (((NetworkState.new sampleKeys).run answeredRun).nodes
            other).generated) := by
  have hleft : (((NetworkState.new sampleKeys).run answeredRun).nodes
      0).enclave.secretsStorage (sampleSecretId 7) = some {
        data := [9], expiry := 0, generationTimestamp := 5 } := by
    decide +kernel
  have hright : (((NetworkState.new sampleKeys).run answeredRun).nodes
      2).enclave.secretsStorage (sampleSecretId 7) = some {
        data := [9], expiry := 0, generationTimestamp := 5 } := by
    decide +kernel
  exact ⟨_, _, hleft, hright, secrets_agree
    (symbolicPlatform_roundTrips _ _) (symbolicPlatform_idealAead _ _)
    sampleKeys answeredRun 0 2 (sampleSecretId 7) _ _ hleft hright⟩

/-! ## Two nodes that generate -/

/-- Every message reached every other node, and no request is in the map of a
node or with a finalizer. -/
structure Quiescent (state : NetworkState platform Node) : Prop where
  delivered : ∀ index (hindex : index < state.sent.length) (node : Node),
    node ≠ state.sent[index].publisher → (node, index) ∈ state.delivered
  pending : ∀ node requestId,
    (state.nodes node).service.pending requestId = none
  finalizers : ∀ node, (state.nodes node).finalizers = []

theorem run_pending_eq_none (keys : Node → KeyExchangeKeyPair platform)
    (actions : List (NetworkAction Policy Node)) {node : Node}
    (htimers : (((NetworkState.new keys).run actions).nodes node).timers = [])
    (requestId : ℕ) :
    (((NetworkState.new keys).run actions).nodes node).service.pending
      requestId = none := by
  obtain ⟨steps, hsteps⟩ := run_node keys actions node
  rw [hsteps] at htimers ⊢
  exact (run_conserved (keys node) steps requestId).pending_eq_none
    (by simp [htimers])

/-- Nodes 0 and 1 request the secret, nobody has it, and both generate it. -/
def generatedTwiceRun : List (NetworkAction Unit (Fin 3)) :=
  [.getSecrets 0 (sampleEnv [0] 5 1) sampleRequests
      (symbolicReport (padKey [0])) true,
    .getSecrets 1 (sampleEnv [1] 5 2) sampleRequests
      (symbolicReport (padKey [1])) true,
    .deliver 1 (sampleEnv [1] 6 2) 0 true,
    .deliver 2 (sampleEnv [2] 6 3) 0 true,
    .deliver 0 (sampleEnv [0] 6 1) 1 true,
    .deliver 2 (sampleEnv [2] 6 3) 1 true,
    .timeout 0 1, .timeout 1 1, .finish 0 (sampleEnv [0] 7 1) 1,
    .finish 1 (sampleEnv [1] 7 2) 1]

theorem secrets_disagree :
    ¬ ∀ actions : List (NetworkAction Unit (Fin 3)),
      Quiescent ((NetworkState.new sampleKeys).run actions) →
      ∀ first second secretId left right now,
        (((NetworkState.new sampleKeys).run actions).nodes
          first).enclave.secretsStorage secretId = some left →
        (((NetworkState.new sampleKeys).run actions).nodes
          second).enclave.secretsStorage secretId = some right →
        unexpired left.expiry now = true →
        unexpired right.expiry now = true → left.data = right.data := by
  intro hagree
  have hquiescent :
      Quiescent ((NetworkState.new sampleKeys).run generatedTwiceRun) := {
    delivered := by decide +kernel
    pending := fun node => run_pending_eq_none sampleKeys generatedTwiceRun
      (by revert node; decide +kernel)
    finalizers := by decide +kernel }
  have hdata := hagree generatedTwiceRun hquiescent 0 1 (sampleSecretId 7)
    { data := [1], expiry := 0, generationTimestamp := 7 }
    { data := [2], expiry := 0, generationTimestamp := 7 } 8
    (by decide +kernel) (by decide +kernel) rfl rfl
  cases hdata

end NxccBridge.Network
