import NxccBridge.Daemon.SecretsService
import NxccBridge.Enclave.Convergence

/-!
# Policies and the enclave

The loops of the daemon that run policies change its enclave in one way: they
file reports there.  The stored secrets and the keypair stay as they were.
-/

namespace NxccBridge.DaemonSecrets

open NxccBridge.Framing
open NxccBridge.Interface
open NxccBridge.Crypto
open NxccBridge.EnclaveSecrets

variable {Digest : Type*} [DecidableEq Digest] {platform : Platform Digest}
variable {Policy : Type*}

/-- From `before` to `after` the enclave was handed reports and nothing else. -/
def OnlyAuthorizes (before after : Secrets platform) : Prop :=
  ∃ reports : List PolicyExecutionReport,
    after = reports.foldl Secrets.storeAuthorization before

theorem OnlyAuthorizes.refl (enclave : Secrets platform) :
    OnlyAuthorizes enclave enclave :=
  ⟨[], rfl⟩

theorem OnlyAuthorizes.trans {first second third : Secrets platform}
    (hfirst : OnlyAuthorizes first second)
    (hsecond : OnlyAuthorizes second third) : OnlyAuthorizes first third := by
  obtain ⟨reports, rfl⟩ := hfirst
  obtain ⟨others, rfl⟩ := hsecond
  exact ⟨reports ++ others, by rw [List.foldl_append]⟩

theorem onlyAuthorizes_storeAuthorization (enclave : Secrets platform)
    (report : PolicyExecutionReport) :
    OnlyAuthorizes enclave (enclave.storeAuthorization report) :=
  ⟨[report], rfl⟩

theorem OnlyAuthorizes.storage {before after : Secrets platform}
    (hafter : OnlyAuthorizes before after) :
    after.secretsStorage = before.secretsStorage := by
  obtain ⟨reports, rfl⟩ := hafter
  induction reports using List.reverseRecOn with
  | nil => rfl
  | append_singleton reports last ih =>
      rw [List.foldl_append, List.foldl_cons, List.foldl_nil,
        storeAuthorization_storage, ih]

theorem storeAuthorization_keys (self : Secrets platform)
    (report : PolicyExecutionReport) :
    (self.storeAuthorization report).ephemeralKxKeypair =
      self.ephemeralKxKeypair := by
  unfold Secrets.storeAuthorization
  split_ifs
  · rfl
  · split <;> rfl

theorem OnlyAuthorizes.keys {before after : Secrets platform}
    (hafter : OnlyAuthorizes before after) :
    after.ephemeralKxKeypair = before.ephemeralKxKeypair := by
  obtain ⟨reports, rfl⟩ := hafter
  induction reports using List.reverseRecOn with
  | nil => rfl
  | append_singleton reports last ih =>
      rw [List.foldl_append, List.foldl_cons, List.foldl_nil,
        storeAuthorization_keys, ih]

theorem checkPolicyForEnv_onlyAuthorizes (env : Env Policy)
    (enclave : Secrets platform) (policy : Policy) (envReport : EnvReport)
    (secretId : SecretId) (consumer : ConsumerInfo) :
    OnlyAuthorizes enclave (env.checkPolicyForEnv enclave policy envReport
      secretId consumer).1 := by
  simp only [Env.checkPolicyForEnv]
  cases env.execute policy envReport secretId consumer with
  | satisfied timestamp =>
      exact onlyAuthorizes_storeAuthorization enclave
        (policyReport envReport secretId consumer timestamp)
  | denied => exact .refl enclave
  | failed error stored =>
      cases stored with
      | none => exact .refl enclave
      | some timestamp =>
          exact onlyAuthorizes_storeAuthorization enclave
            (policyReport envReport secretId consumer timestamp)

theorem authorizeSelf_onlyAuthorizes (env : Env Policy)
    (selfEnvReport : EnvReport)
    (consumersById : SecretId → Option ConsumerInfo) (ids : List SecretId)
    (enclave : Secrets platform) :
    OnlyAuthorizes enclave
      (authorizeSelf env selfEnvReport consumersById ids enclave).1 := by
  induction ids generalizing enclave with
  | nil => exact .refl _
  | cons secretId ids ih =>
      rw [authorizeSelf]
      split
      · exact .refl _
      · rename_i policy _
        split
        · exact .refl _
        · rename_i consumer _
          have hpolicy := checkPolicyForEnv_onlyAuthorizes env enclave policy
            selfEnvReport secretId consumer
          split <;> rename_i heq <;> rw [heq] at hpolicy
          · exact hpolicy
          · exact hpolicy
          · exact hpolicy.trans (ih _)

theorem checkResponse_onlyAuthorizes (env : Env Policy) (requestId : ℕ)
    (entry : PendingRequest) (envReport : EnvReport) (ids : List SecretId)
    (enclave : Secrets platform) :
    OnlyAuthorizes enclave
      (checkResponse env requestId entry envReport ids enclave).1 := by
  induction ids generalizing enclave with
  | nil => exact .refl _
  | cons secretId ids ih =>
      rw [checkResponse]
      split
      · exact .refl _
      · rename_i policy _
        split
        · exact .refl _
        · rename_i consumer _
          have hpolicy := checkPolicyForEnv_onlyAuthorizes env enclave policy
            envReport secretId consumer
          split <;> rename_i heq <;> rw [heq] at hpolicy
          · exact hpolicy
          · exact hpolicy
          · exact hpolicy.trans (ih _)

theorem authorizeRequester_onlyAuthorizes (env : Env Policy)
    (requesterEnvReport : EnvReport) (requests : Requests)
    (ids : List SecretId) (enclave : Secrets platform) :
    OnlyAuthorizes enclave
      (authorizeRequester env requesterEnvReport requests ids enclave).1 := by
  induction ids generalizing enclave with
  | nil => exact .refl _
  | cons secretId ids ih =>
      rw [authorizeRequester]
      split
      · exact ih enclave
      · rename_i consumer _
        split
        · exact ih enclave
        · rename_i policy _
          have hpolicy := checkPolicyForEnv_onlyAuthorizes env enclave policy
            requesterEnvReport secretId consumer
          split <;> rename_i heq <;> rw [heq] at hpolicy
          · exact hpolicy.trans (ih _)
          · exact hpolicy.trans (ih _)

theorem selfAuthorize_onlyAuthorizes (env : Env Policy)
    (selfEnvReport : EnvReport) (requests : List (SecretId × ConsumerInfo))
    (enclave : Secrets platform) :
    OnlyAuthorizes enclave
      (selfAuthorize env selfEnvReport requests enclave).1 := by
  induction requests generalizing enclave with
  | nil => exact .refl _
  | cons request requests ih =>
      obtain ⟨secretId, consumer⟩ := request
      rw [selfAuthorize]
      split
      · exact .refl _
      · rename_i policy _
        have hpolicy := checkPolicyForEnv_onlyAuthorizes env enclave policy
          selfEnvReport secretId consumer
        split <;> rename_i heq <;> rw [heq] at hpolicy
        · exact hpolicy
        · exact hpolicy.trans (ih _)

/-! ## What a satisfied policy files -/

/-- The policy of the secret admits the report for the consumer, at the time
of its execution. -/
def AdmittedAt (env : Env Policy) (envReport : EnvReport)
    (secretId : SecretId) (consumer : ConsumerInfo) (timestamp : ℕ) : Prop :=
  ∃ policy, env.getPolicy secretId = .ok policy ∧
    env.execute policy envReport secretId consumer = .satisfied timestamp

/-- The policies of the listed secrets admit the report for the consumers that
are registered for them. -/
def Admits (env : Env Policy) (entry : PendingRequest) (envReport : EnvReport)
    (secretId : SecretId) : Prop :=
  ∃ consumer timestamp, entry.consumersById secretId = some consumer ∧
    AdmittedAt env envReport secretId consumer timestamp

theorem Admits.requested {env : Env Policy} {entry : PendingRequest}
    {envReport : EnvReport} {secretId : SecretId}
    (hadmits : Admits env entry envReport secretId) :
    secretId ∈ entry.requestedIds := by
  obtain ⟨consumer, timestamp, hconsumer, -⟩ := hadmits
  exact (entry.registered secretId).mpr (by simp [hconsumer])

/-- The loop goes past an identifier by storing the report of its policy. -/
theorem checkResponse_cons_ok_true {env : Env Policy} {requestId : ℕ}
    {entry : PendingRequest} {envReport : EnvReport} {secretId : SecretId}
    {ids : List SecretId} {enclave : Secrets platform}
    (hvalid : (checkResponse env requestId entry envReport (secretId :: ids)
      enclave).2 = .ok true) :
    ∃ consumer policy timestamp,
      entry.consumersById secretId = some consumer ∧
      env.getPolicy secretId = .ok policy ∧
      env.execute policy envReport secretId consumer = .satisfied timestamp ∧
      checkResponse env requestId entry envReport (secretId :: ids) enclave =
        checkResponse env requestId entry envReport ids
          (enclave.storeAuthorization
            (policyReport envReport secretId consumer timestamp)) := by
  rw [checkResponse] at hvalid
  split at hvalid
  · cases hvalid
  · rename_i policy hpolicy
    split at hvalid
    · cases hvalid
    · rename_i consumer hconsumer
      split at hvalid
      · cases hvalid
      · cases hvalid
      · rename_i after hallowed
        obtain ⟨timestamp, hrun, rfl⟩ := checkPolicyForEnv_ok_true hallowed
        refine ⟨consumer, policy, timestamp, hconsumer, hpolicy, hrun, ?_⟩
        rw [checkResponse]
        simp only [hpolicy, hconsumer, hallowed]

/-- A response is let through when every listed secret admits its sender. -/
theorem checkResponse_ok_true_iff {env : Env Policy} {requestId : ℕ}
    {entry : PendingRequest} {envReport : EnvReport} {ids : List SecretId}
    {enclave : Secrets platform} :
    (checkResponse env requestId entry envReport ids enclave).2 = .ok true ↔
      ∀ secretId ∈ ids, Admits env entry envReport secretId := by
  induction ids generalizing enclave with
  | nil => simp [checkResponse]
  | cons head tail ih =>
      rw [List.forall_mem_cons]
      constructor
      · intro hvalid
        obtain ⟨consumer, policy, timestamp, hconsumer, hpolicy, hrun, hrest⟩ :=
          checkResponse_cons_ok_true hvalid
        rw [hrest] at hvalid
        exact ⟨⟨consumer, timestamp, hconsumer, policy, hpolicy, hrun⟩,
          ih.mp hvalid⟩
      · rintro ⟨⟨consumer, timestamp, hconsumer, policy, hpolicy, hrun⟩, htail⟩
        have hallowed : env.checkPolicyForEnv enclave policy envReport head
            consumer = (enclave.storeAuthorization
              (policyReport envReport head consumer timestamp), .ok true) := by
          simp only [Env.checkPolicyForEnv, hrun]
        rw [checkResponse]
        simp only [hpolicy, hconsumer, hallowed]
        exact ih.mpr htail

omit [DecidableEq Digest] in
theorem covers_policyReport_iff {envReport : EnvReport} {userdata : UserData}
    (huserdata : platform.userDataFromCbor
      envReport.attestation.detachedUserdata = .ok userdata)
    (requested secretId : SecretId) (registered consumer : ConsumerInfo)
    (timestamp : ℕ) :
    Covers platform (policyReport envReport requested registered timestamp)
        userdata.ephemeralPublicKey secretId consumer ↔
      secretId = requested ∧ registered = consumer := by
  constructor
  · rintro ⟨-, -, hmem, hconsumer⟩
    exact ⟨by simpa [policyReport] using hmem, hconsumer⟩
  · rintro ⟨rfl, rfl⟩
    exact ⟨rfl, ⟨userdata, huserdata, rfl⟩, by simp [policyReport], rfl⟩

/-! ## The handlers -/

theorem getSecrets_onlyAuthorizes (self : SecretsService) (env : Env Policy)
    (enclave : Secrets platform) (secretRequests : Requests)
    (callerEnvReport : EnvReport) :
    OnlyAuthorizes enclave
      (self.getSecrets env enclave secretRequests callerEnvReport).2.1 := by
  unfold SecretsService.getSecrets
  split
  · exact .refl _
  · split_ifs
    · exact .refl _
    · split
      · exact .refl _
      · rename_i entry _
        split
        · exact .refl _
        · rename_i selfEnvReport _
          have hloop := authorizeSelf_onlyAuthorizes env selfEnvReport
            entry.consumersById entry.requestedIds enclave
          split <;> rename_i heq <;> rw [heq] at hloop
          · exact hloop
          · exact hloop

theorem handleIncomingSecretBatchResponse_onlyAuthorizes (env : Env Policy)
    (enclave : Secrets platform) (pending : Pending) (requestId : ℕ)
    (secretsBox : SecretsBox) (envReport : EnvReport) :
    OnlyAuthorizes enclave (handleIncomingSecretBatchResponse env enclave
      pending requestId secretsBox envReport).1 := by
  unfold handleIncomingSecretBatchResponse
  split
  · exact .refl _
  · rename_i entry _
    have hloop := checkResponse_onlyAuthorizes env requestId entry envReport
      secretsBox.containedSecretIds enclave
    split <;> rename_i heq <;> rw [heq] at hloop
    · exact hloop
    · exact hloop
    · dsimp only
      split_ifs <;> exact hloop

theorem handleIncomingSecretBatchRequest_onlyAuthorizes (env : Env Policy)
    (enclave : Secrets platform) (requests : Requests)
    (requesterEnvReport : EnvReport) :
    OnlyAuthorizes enclave (handleIncomingSecretBatchRequest env enclave
      requests requesterEnvReport).1 := by
  have hloop := authorizeRequester_onlyAuthorizes env requesterEnvReport
    requests (gatherLocal env enclave requests) enclave
  simp only [handleIncomingSecretBatchRequest]
  split_ifs
  · exact .refl _
  · exact hloop
  · split
    · exact hloop
    · split <;> exact hloop

/-- A box that answers a request comes from `get_secrets` of the enclave. -/
theorem handleIncomingSecretBatchRequest_box {env : Env Policy}
    {enclave : Secrets platform} {requests : Requests}
    {requesterEnvReport responder : EnvReport} {secretsBox : SecretsBox}
    (hreply : (handleIncomingSecretBatchRequest env enclave requests
      requesterEnvReport).2 = some (secretsBox, responder)) :
    ∃ authorized,
      (handleIncomingSecretBatchRequest env enclave requests
        requesterEnvReport).1.getSecrets env.getSecrets.clock env.attestation
          env.nonce authorized requesterEnvReport = .ok secretsBox := by
  simp only [handleIncomingSecretBatchRequest] at hreply ⊢
  split_ifs at hreply ⊢
  generalize authorizeRequester env requesterEnvReport requests
    (gatherLocal env enclave requests) enclave = outcome at hreply ⊢
  obtain ⟨after, authorized⟩ := outcome
  refine ⟨authorized, ?_⟩
  dsimp only at hreply ⊢
  cases hbox : env.enclaveGetSecrets after authorized requesterEnvReport with
  | error e => simp [hbox] at hreply
  | ok answered =>
      cases hreport : env.ownEnvReport with
      | error e => simp [hbox, hreport] at hreply
      | ok report =>
          simp only [hbox, hreport, Option.some.injEq, Prod.mk.injEq] at hreply
          obtain ⟨rfl, -⟩ := hreply
          simp only [Env.enclaveGetSecrets] at hbox
          cases hrpc : env.getSecrets.rpc with
          | answered => simpa [hrpc, Rpc.reply] using hbox
          | lost message => simp [hrpc, Rpc.reply] at hbox
          | failed message => simp [hrpc, Rpc.reply] at hbox

omit [DecidableEq Digest] in
/-- The threshold finalizer puts the collected bundles or does nothing. -/
theorem finalizeRequestThreshold_enclave (env : Env Policy)
    (enclave : Secrets platform) (requestId : ℕ) (entry : PendingRequest) :
    (finalizeRequestThreshold env enclave requestId entry).1 = enclave ∨
    (finalizeRequestThreshold env enclave requestId entry).1 =
      (enclave.putSecrets env.putSecrets.clock env.attestation
        (bundlesForEnclave entry)).1 := by
  have houtcome : (env.enclavePutSecrets enclave (bundlesForEnclave entry)).1 =
      enclave ∨
    (env.enclavePutSecrets enclave (bundlesForEnclave entry)).1 =
      (enclave.putSecrets env.putSecrets.clock env.attestation
        (bundlesForEnclave entry)).1 := by
    unfold Env.enclavePutSecrets
    cases env.putSecrets.rpc with
    | answered => exact Or.inr rfl
    | lost message => exact Or.inr rfl
    | failed message => exact Or.inl rfl
  unfold finalizeRequestThreshold
  split_ifs
  · exact Or.inl rfl
  · split <;> rename_i heq <;> rw [heq] at houtcome <;> exact houtcome

omit [DecidableEq Digest] in
/-- `generate_secrets` of the enclave ran or the call did nothing. -/
theorem enclaveGenerateSecrets_enclave (env : Env Policy)
    (enclave : Secrets platform) (requests : List (SecretId × ConsumerInfo)) :
    (env.enclaveGenerateSecrets enclave requests).1 = enclave ∨
    (env.enclaveGenerateSecrets enclave requests).1 =
      (enclave.generateSecrets env.generateSecrets.clock env.enclaveReport
        (requests.map fun (secretId, consumer) =>
          (secretId, consumer, env.entropy secretId))).1 := by
  simp only [Env.enclaveGenerateSecrets]
  cases env.generateSecrets.rpc with
  | answered => exact Or.inr rfl
  | lost message => exact Or.inr rfl
  | failed message => exact Or.inl rfl

/-- The generation flow files reports and then generates or does nothing. -/
theorem generateSecretsFlow_enclave (env : Env Policy)
    (enclave : Secrets platform) (requests : List (SecretId × ConsumerInfo)) :
    ∃ authorized, OnlyAuthorizes enclave authorized ∧
      ((generateSecretsFlow env enclave requests).1 = authorized ∨
      (generateSecretsFlow env enclave requests).1 =
        (authorized.generateSecrets env.generateSecrets.clock env.enclaveReport
          (requests.map fun (secretId, consumer) =>
            (secretId, consumer, env.entropy secretId))).1) := by
  unfold generateSecretsFlow
  split_ifs
  · exact ⟨enclave, .refl _, Or.inl rfl⟩
  · split
    · exact ⟨enclave, .refl _, Or.inl rfl⟩
    · rename_i selfEnvReport _
      have hloop := selfAuthorize_onlyAuthorizes env selfEnvReport requests
        enclave
      split <;> rename_i heq <;> rw [heq] at hloop
      · exact ⟨_, hloop, Or.inl rfl⟩
      · rename_i authorized
        refine ⟨authorized, hloop, ?_⟩
        have hrun := enclaveGenerateSecrets_enclave env authorized requests
        split <;> rename_i houtcome <;> rw [houtcome] at hrun <;> exact hrun

theorem finalizeRequestTimeout_enclave (env : Env Policy)
    (enclave : Secrets platform) (requestId : ℕ) (entry : PendingRequest) :
    ∃ authorized, OnlyAuthorizes enclave authorized ∧
      ((finalizeRequestTimeout env enclave requestId entry).1 = authorized ∨
      (finalizeRequestTimeout env enclave requestId entry).1 =
        (authorized.generateSecrets env.generateSecrets.clock env.enclaveReport
          ((idsToGenerate entry).map fun (secretId, consumer) =>
            (secretId, consumer, env.entropy secretId))).1) := by
  simp only [finalizeRequestTimeout]
  split_ifs
  · exact ⟨enclave, .refl _, Or.inl rfl⟩
  · obtain ⟨authorized, hloop, hcases⟩ := generateSecretsFlow_enclave env
      enclave (idsToGenerate entry)
    refine ⟨authorized, hloop, ?_⟩
    split <;> rename_i heq <;> rw [heq] at hcases <;> exact hcases

end NxccBridge.DaemonSecrets
