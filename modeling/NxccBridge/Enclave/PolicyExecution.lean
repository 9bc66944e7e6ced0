import NxccBridge.Enclave.Grants

/-!
# Executing a policy

`RunnerService::execute_policy` sends the contexts to the policy worker and
files a grant for each context that the worker accepts.  With it, the answers
of the authorization table are stated against the reports that were filed.
-/

namespace NxccBridge.PolicyExecution

open Function
open NxccBridge.Framing
open NxccBridge.Interface
open NxccBridge.Crypto
open NxccBridge.EnclaveSecrets

inductive RunnerError
  | vmNotAttached (vmId : String)
  | workerNotFound (workerId : String)
  | vmConnection (message : String)
  | deserialization (message : String)
  | policyExecutionFailed (message : String)
  | internal (message : String)
  | eventSendError (message : String)
  deriving DecidableEq

def RunnerError.display : RunnerError → String
  | vmNotAttached vmId => "VM with ID '" ++ vmId ++ "' not attached"
  | workerNotFound workerId => "Worker with ID '" ++ workerId ++ "' not found"
  | vmConnection message => "VM connection error: " ++ message
  | deserialization message => "Deserialization error: " ++ message
  | policyExecutionFailed message =>
      "Policy execution failed in VM: " ++ message
  | internal message => "Internal error: " ++ message
  | eventSendError message =>
      "Event delivery channel send error: " ++ message

/-- Sanitized attestation bundle for policy workers. -/
structure PolicyAttestationBundle where
  platformType : String
  evidence : Bytes
  userData : Bytes
  deriving DecidableEq

structure PolicyEnvReport where
  attestation : PolicyAttestationBundle
  operatorSignature : Option OperatorSignature
  deriving DecidableEq

/-- Sanitized context sent to policy workers. -/
structure PolicyExecutionContextForWorker (Claims : Type) where
  secretIds : List SecretId
  consumer : ConsumerInfo
  envReport : PolicyEnvReport
  attestationClaims : Option Claims

def PolicyEnvReport.fromEnvReport (envReport : EnvReport)
    (userProvidedData : Bytes) : PolicyEnvReport where
  attestation :=
    { platformType := envReport.attestation.rawAttestation.platformType
      evidence := envReport.attestation.rawAttestation.evidence
      userData := userProvidedData }
  operatorSignature := envReport.operatorSignature

variable {Claims : Type}

def forPolicyWorker (context : ClaimedPolicyRequest Claims)
    (userProvidedData : Bytes) : PolicyExecutionContextForWorker Claims where
  secretIds := context.secretIds
  consumer := context.consumer
  envReport := PolicyEnvReport.fromEnvReport context.envReport userProvidedData
  attestationClaims := context.attestationClaims

/-- What one execution meets outside the secrets service. -/
structure RunnerEnvironment (Claims : Type) where
  /-- The answer to each call of `verify_and_extract_claims`. -/
  verifyAndExtractClaims : ℕ → AttestationBundle → Except String Claims
  workerMap : String → Option String
  /-- The attached VM clients, by `invoke_worker`. -/
  vms : String → Option (String → String → Bytes → Except String Bytes)
  /-- `serde_json::to_vec` of the sanitized contexts. -/
  toVec : List (PolicyExecutionContextForWorker Claims) → Bytes
  /-- `serde_json::from_slice` at `Vec<bool>`. -/
  resultsFromSlice : Bytes → Except String (List Bool)
  currentTime : ℕ

namespace RunnerEnvironment

variable (env : RunnerEnvironment Claims)

/-- Adds the claims of the reports that verify. -/
def enhance : ℕ → List (ClaimedPolicyRequest Claims) →
    List (ClaimedPolicyRequest Claims)
  | _, [] => []
  | call, context :: rest =>
      (match env.verifyAndExtractClaims call context.envReport.attestation with
        | .ok claims => { context with attestationClaims := some claims }
        | .error _ => context) :: enhance (call + 1) rest

def policyHandlerName : String := "_policy"

/-- The results of the policy worker, one for each context it was sent. -/
def invokePolicy (workerId : String)
    (contexts : List (ClaimedPolicyRequest Claims)) :
    Except RunnerError (List Bool) :=
  match env.workerMap workerId with
  | none => .error (.workerNotFound workerId)
  | some vmId =>
      let payload := env.toVec (contexts.map fun context =>
        forPolicyWorker context context.envReport.attestation.detachedUserdata)
      match env.vms vmId with
      | none => .error (.vmNotAttached vmId)
      | some invokeWorker =>
          match invokeWorker workerId policyHandlerName payload with
          | .error message => .error (.vmConnection message)
          | .ok resultPayload =>
              match env.resultsFromSlice resultPayload with
              | .error message => .error (.deserialization message)
              | .ok results => .ok results

end RunnerEnvironment

/-- The report filed for a satisfied context. -/
def policyReport (currentTime : ℕ) (context : ClaimedPolicyRequest Claims) :
    PolicyExecutionReport where
  request := context.toPolicyExecutionRequest
  decision := true
  timestamp := currentTime

variable {Digest : Type*} [DecidableEq Digest] {platform : Platform Digest}

/-- The loop over the contexts, each with its result. -/
def storeSatisfied (currentTime : ℕ) :
    List (ClaimedPolicyRequest Claims × Bool) → Secrets platform →
      Secrets platform × List (ClaimedPolicyRequest Claims)
  | [], secrets => (secrets, [])
  | (context, result) :: rest, secrets =>
      if result then
        let stored := storeSatisfied currentTime rest
          (secrets.storeAuthorization (policyReport currentTime context))
        (stored.1, context :: stored.2)
      else storeSatisfied currentTime rest secrets

/-- Executes a policy worker against multiple contexts. -/
def executePolicy (env : RunnerEnvironment Claims) (secrets : Secrets platform)
    (workerId : String) (contexts : List (ClaimedPolicyRequest Claims)) :
    Secrets platform ×
      Except RunnerError (List (ClaimedPolicyRequest Claims)) :=
  let contexts := env.enhance 0 contexts
  match env.invokePolicy workerId contexts with
  | .error error => (secrets, .error error)
  | .ok results =>
      if results.length ≠ contexts.length then
        (secrets, .error (.policyExecutionFailed "Mismatched result count"))
      else
        let stored :=
          storeSatisfied env.currentTime (contexts.zip results) secrets
        (stored.1, .ok stored.2)

/-! ## What an execution files -/

/-- Filing a list of entries grants the triples that an accepted one covers and
touches no other. -/
theorem storeSatisfied_apply (hsha256 : Injective platform.sha256)
    (currentTime : ℕ) (entries : List (ClaimedPolicyRequest Claims × Bool))
    (secrets : Secrets platform) (key : Bytes) (secretId : SecretId)
    (consumer : ConsumerInfo) :
    ((∃ entry ∈ entries, entry.2 = true ∧ Covers platform
        (policyReport currentTime entry.1) key secretId consumer) →
      (storeSatisfied currentTime entries secrets).1.authorizations
        (grantId platform key secretId consumer) =
          some (expiryTime currentTime)) ∧
    ((¬∃ entry ∈ entries, entry.2 = true ∧ Covers platform
        (policyReport currentTime entry.1) key secretId consumer) →
      (storeSatisfied currentTime entries secrets).1.authorizations
        (grantId platform key secretId consumer) =
          secrets.authorizations (grantId platform key secretId consumer)) := by
  induction entries generalizing secrets with
  | nil => simp [storeSatisfied]
  | cons entry rest ih =>
      obtain ⟨context, result⟩ := entry
      cases result with
      | false =>
          simpa [storeSatisfied] using ih secrets
      | true =>
          obtain ⟨hrest, hother⟩ := ih
            (secrets.storeAuthorization (policyReport currentTime context))
          obtain ⟨hcovers, hnot⟩ := storeAuthorization_apply hsha256 secrets
            (policyReport currentTime context) key secretId consumer
          simp only [List.exists_mem_cons_iff, storeSatisfied, if_true,
            true_and]
          constructor
          · intro hcovered
            by_cases hlater : ∃ entry ∈ rest, entry.2 = true ∧
                Covers platform (policyReport currentTime entry.1) key
                  secretId consumer
            · exact hrest hlater
            · rw [hother hlater]
              exact hcovers (hcovered.resolve_right hlater)
          · intro hcovered
            rw [not_or] at hcovered
            rw [hother hcovered.2, hnot hcovered.1]

/-- Verification adds claims and leaves the requests as they are. -/
theorem map_enhance (env : RunnerEnvironment Claims) (call : ℕ)
    (contexts : List (ClaimedPolicyRequest Claims)) :
    (env.enhance call contexts).map
        ClaimedPolicyRequest.toPolicyExecutionRequest =
      contexts.map ClaimedPolicyRequest.toPolicyExecutionRequest := by
  induction contexts generalizing call with
  | nil => rfl
  | cons context rest ih =>
      simp only [RunnerEnvironment.enhance, List.map_cons, ih]
      cases env.verifyAndExtractClaims call
        context.envReport.attestation <;> rfl

/-- Some context with the result `true` covers the triple. -/
def Satisfied (platform : Platform Digest) (currentTime : ℕ)
    (contexts : List (ClaimedPolicyRequest Claims)) (results : List Bool)
    (key : Bytes) (secretId : SecretId) (consumer : ConsumerInfo) : Prop :=
  ∃ (i : ℕ) (context : ClaimedPolicyRequest Claims),
    contexts[i]? = some context ∧ results[i]? = some true ∧
      Covers platform (policyReport currentTime context) key secretId consumer

omit [DecidableEq Digest] in
theorem satisfied_zip_iff {currentTime : ℕ}
    {contexts enhanced : List (ClaimedPolicyRequest Claims)}
    {results : List Bool}
    (hrequests : enhanced.map ClaimedPolicyRequest.toPolicyExecutionRequest =
      contexts.map ClaimedPolicyRequest.toPolicyExecutionRequest)
    {key : Bytes} {secretId : SecretId} {consumer : ConsumerInfo} :
    (∃ entry ∈ enhanced.zip results, entry.2 = true ∧ Covers platform
        (policyReport currentTime entry.1) key secretId consumer) ↔
      Satisfied platform currentTime contexts results key secretId
        consumer := by
  have hreport : ∀ (i : ℕ) (left right : ClaimedPolicyRequest Claims),
      left.toPolicyExecutionRequest = right.toPolicyExecutionRequest →
        policyReport currentTime left = policyReport currentTime right := by
    intro i left right hsame
    rw [policyReport, policyReport, hsame]
  have hat : ∀ i : ℕ, (enhanced[i]?).map
      ClaimedPolicyRequest.toPolicyExecutionRequest = (contexts[i]?).map
        ClaimedPolicyRequest.toPolicyExecutionRequest := by
    intro i
    rw [← List.getElem?_map, ← List.getElem?_map, hrequests]
  constructor
  · rintro ⟨⟨context, result⟩, hmem, hresult, hcovers⟩
    obtain ⟨i, hi⟩ := List.mem_iff_getElem?.mp hmem
    rw [List.getElem?_zip_eq_some] at hi
    have hsame := hat i
    rw [hi.1, Option.map_some, eq_comm, Option.map_eq_some_iff] at hsame
    obtain ⟨original, horiginal, hrequest⟩ := hsame
    refine ⟨i, original, horiginal, hresult ▸ hi.2, ?_⟩
    rw [hreport i original context hrequest]
    exact hcovers
  · rintro ⟨i, original, horiginal, hresult, hcovers⟩
    have hsame := hat i
    rw [horiginal, Option.map_some, Option.map_eq_some_iff] at hsame
    obtain ⟨context, hcontext, hrequest⟩ := hsame
    refine ⟨(context, true), ?_, rfl, ?_⟩
    · exact List.mem_iff_getElem?.mpr
        ⟨i, List.getElem?_zip_eq_some.mpr ⟨hcontext, hresult⟩⟩
    · rw [hreport i context original hrequest]
      exact hcovers

/-- What an execution did to the table, by its outcome. -/
def FilesExactly (env : RunnerEnvironment Claims) (secrets : Secrets platform)
    (workerId : String) (contexts : List (ClaimedPolicyRequest Claims)) :
    Prop :=
  match executePolicy env secrets workerId contexts with
  | (after, .error _) => after = secrets
  | (after, .ok _) => ∃ results,
      env.invokePolicy workerId (env.enhance 0 contexts) = .ok results ∧
        results.length = contexts.length ∧
        ∀ key secretId consumer,
          (Satisfied platform env.currentTime contexts results key secretId
              consumer →
            after.authorizations (grantId platform key secretId consumer) =
              some (expiryTime env.currentTime)) ∧
          (¬Satisfied platform env.currentTime contexts results key secretId
              consumer →
            after.authorizations (grantId platform key secretId consumer) =
              secrets.authorizations
                (grantId platform key secretId consumer))

theorem executePolicy_filesExactly (hsha256 : Injective platform.sha256)
    (env : RunnerEnvironment Claims) (secrets : Secrets platform)
    (workerId : String) (contexts : List (ClaimedPolicyRequest Claims)) :
    FilesExactly env secrets workerId contexts := by
  have hlength : (env.enhance 0 contexts).length = contexts.length := by
    simpa using congrArg List.length (map_enhance env 0 contexts)
  rw [FilesExactly, executePolicy]
  cases hinvoke : env.invokePolicy workerId (env.enhance 0 contexts) with
  | error error => simp
  | ok results =>
      by_cases hcount : results.length = contexts.length
      · simp only [hlength, hcount, ne_eq, not_true_eq_false, if_false]
        refine ⟨results, rfl, hcount, ?_⟩
        intro key secretId consumer
        have happly := storeSatisfied_apply hsha256 env.currentTime
          ((env.enhance 0 contexts).zip results) secrets key secretId consumer
        rwa [satisfied_zip_iff (map_enhance env 0 contexts)] at happly
      · simp [hlength, hcount]

/-! ## Exact answers -/

/-- A check passes while the last covering report is less than the lifetime
old. -/
def AnswersExactly (platform : Platform Digest) (steps : List SecretsStep)
    (self : Secrets platform) (bundle : AttestationBundle)
    (secretId : SecretId) (consumer : ConsumerInfo) : Prop :=
  ∀ now,
    self.checkAuthorization now bundle secretId consumer = true ↔
      ∃ userdata report,
        platform.userDataFromCbor bundle.detachedUserdata = .ok userdata ∧
          LastReport platform steps userdata.ephemeralPublicKey secretId
            consumer report ∧
          now < report.timestamp + authorizationLifetime

/-- The expiry of the last covering report fits a `u64`. -/
def ExpiryFits (platform : Platform Digest) (steps : List SecretsStep)
    (bundle : AttestationBundle) (secretId : SecretId)
    (consumer : ConsumerInfo) : Prop :=
  ∀ userdata report,
    platform.userDataFromCbor bundle.detachedUserdata = .ok userdata →
      LastReport platform steps userdata.ephemeralPublicKey secretId consumer
        report →
      report.timestamp + authorizationLifetime < 2 ^ 64

theorem answersExactly_iff (hsha256 : Injective platform.sha256)
    {steps : List SecretsStep} {self : Secrets platform}
    (hreached : ReachedBy steps self) (bundle : AttestationBundle)
    (secretId : SecretId) (consumer : ConsumerInfo) :
    AnswersExactly platform steps self bundle secretId consumer ↔
      ExpiryFits platform steps bundle secretId consumer := by
  constructor
  · intro hexact userdata report huserdata hlast
    by_contra hwraps
    have hwrapped : expiryTime report.timestamp < 2 ^ 64 :=
      Nat.mod_lt _ (by norm_num)
    -- at the wrapped expiry the grant is already refused
    have hchecked := (hexact (expiryTime report.timestamp)).mpr
      ⟨userdata, report, huserdata, hlast, by omega⟩
    rw [checkAuthorization_iff] at hchecked
    obtain ⟨other, expiry, hother, hentry, hvalid⟩ := hchecked
    rw [huserdata, Except.ok.injEq] at hother
    subst hother
    have hfiled := (authorizations_eq_some_iff hsha256 hreached _ _ _ _).mpr
      ⟨report, hlast, rfl⟩
    rw [hfiled, Option.some.injEq] at hentry
    omega
  · intro hfits now
    rw [checkAuthorization_iff_granted hsha256 hreached]
    constructor
    · rintro ⟨userdata, huserdata, report, hlast, hvalid⟩
      exact ⟨userdata, report, huserdata, hlast,
        lt_of_lt_of_le hvalid (expiryTime_le _)⟩
    · rintro ⟨userdata, report, huserdata, hlast, hvalid⟩
      have hexpiry : expiryTime report.timestamp =
          report.timestamp + authorizationLifetime :=
        Nat.mod_eq_of_lt (hfits userdata report huserdata hlast)
      exact ⟨userdata, huserdata, report, hlast, hexpiry ▸ hvalid⟩

/-- The last second that `chrono::Utc` represents, at the end of the year
262142; reading a clock before the epoch panics. -/
def lastUtcSecond : ℕ := 8210266876799

/-- The reports are those of `execute_policy`, stamped by `Utc::now`. -/
def StampedByClock (steps : List SecretsStep) : Prop :=
  ∀ report, .storeAuthorization report ∈ steps →
    report.timestamp ≤ lastUtcSecond

omit [DecidableEq Digest] in
/-- No expiry wraps that is counted from a reading of the clock. -/
theorem StampedByClock.expiryFits {steps : List SecretsStep}
    (hstamped : StampedByClock steps) (bundle : AttestationBundle)
    (secretId : SecretId) (consumer : ConsumerInfo) :
    ExpiryFits platform steps bundle secretId consumer := by
  intro userdata report _ hlast
  have hstamp := hstamped report hlast.mem
  have hexpiry : lastUtcSecond + authorizationLifetime < 2 ^ 64 := by decide
  omega

/-- A report that does not cover what is asked leaves the answer as it was. -/
theorem checkAuthorization_storeAuthorization
    (hsha256 : Injective platform.sha256) (self : Secrets platform)
    (report : PolicyExecutionReport) (now : ℕ) (bundle : AttestationBundle)
    (secretId : SecretId) (consumer : ConsumerInfo)
    (hother : ∀ userdata,
      platform.userDataFromCbor bundle.detachedUserdata = .ok userdata →
        ¬Covers platform report userdata.ephemeralPublicKey secretId
          consumer) :
    (self.storeAuthorization report).checkAuthorization now bundle secretId
        consumer =
      self.checkAuthorization now bundle secretId consumer := by
  rw [Bool.eq_iff_iff, checkAuthorization_iff, checkAuthorization_iff]
  refine exists_congr fun userdata => exists_congr fun expiry => ?_
  refine and_congr_right fun huserdata => ?_
  rw [(storeAuthorization_apply hsha256 self report _ secretId consumer).2
    (hother userdata huserdata)]

/-- The table over every run: its answers are exact at every time, other reports
change no answer, and an execution files exactly the grants of the contexts
whose result is true. -/
theorem authorizationTable_exact (hsha256 : Injective platform.sha256) :
    (∀ (steps : List SecretsStep) (self : Secrets platform),
      ReachedBy steps self → StampedByClock steps →
        ∀ (bundle : AttestationBundle) (secretId : SecretId)
          (consumer : ConsumerInfo),
        AnswersExactly platform steps self bundle secretId consumer) ∧
    (∀ (self : Secrets platform) (report : PolicyExecutionReport) (now : ℕ)
      (bundle : AttestationBundle) (secretId : SecretId)
      (consumer : ConsumerInfo),
      (∀ userdata,
        platform.userDataFromCbor bundle.detachedUserdata = .ok userdata →
          ¬Covers platform report userdata.ephemeralPublicKey secretId
            consumer) →
        (self.storeAuthorization report).checkAuthorization now bundle
            secretId consumer =
          self.checkAuthorization now bundle secretId consumer) ∧
    (∀ (Claims : Type) (env : RunnerEnvironment Claims)
      (secrets : Secrets platform) (workerId : String)
      (contexts : List (ClaimedPolicyRequest Claims)),
      FilesExactly env secrets workerId contexts) :=
  ⟨fun _ _ hreached hstamped bundle secretId consumer =>
      (answersExactly_iff hsha256 hreached bundle secretId consumer).mpr
        (hstamped.expiryFits bundle secretId consumer),
    fun self report now bundle secretId consumer =>
      checkAuthorization_storeAuthorization hsha256 self report now bundle
        secretId consumer,
    fun _ env secrets workerId contexts =>
      executePolicy_filesExactly hsha256 env secrets workerId contexts⟩

/-! ### A grant of the first second -/

def samplePolicyPlatform : Platform Bytes := symbolicPlatform [padKey [2]] []

/-- A grant for the key `[2]`, filed at `timestamp`. -/
def grantAt (timestamp : ℕ) : PolicyExecutionReport :=
  { sampleGrant (padKey [2]) with timestamp := timestamp }

def enclaveAfter (timestamp : ℕ) : Secrets samplePolicyPlatform :=
  (Secrets.newWithKeypair (symbolicKeyPair _ _ [1])).run
    [.storeAuthorization (grantAt timestamp)]

theorem sampleUserdata_decodes :
    samplePolicyPlatform.userDataFromCbor
        (symbolicReport (padKey [2])).attestation.detachedUserdata =
      .ok { ephemeralPublicKey := padKey [2], blockHashes := [] } := by
  decide +kernel

theorem grantAt_covers (timestamp : ℕ) :
    Covers samplePolicyPlatform (grantAt timestamp) (padKey [2])
      (sampleSecretId 7) (sampleConsumer 0) where
  positive := rfl
  userdata := ⟨_, sampleUserdata_decodes, rfl⟩
  secretId_mem := List.mem_singleton_self _
  consumer_eq := rfl

/-- A grant of the first second is answered exactly, and a negative report
leaves the answer as it was. -/
theorem authorizationTable_first :
    AnswersExactly samplePolicyPlatform [.storeAuthorization (grantAt 1)]
      (enclaveAfter 1) (symbolicReport (padKey [2])).attestation
      (sampleSecretId 7) (sampleConsumer 0) ∧
    ((enclaveAfter 1).storeAuthorization
        { grantAt 1 with decision := false }).checkAuthorization 3600
        (symbolicReport (padKey [2])).attestation (sampleSecretId 7)
        (sampleConsumer 0) =
      (enclaveAfter 1).checkAuthorization 3600
        (symbolicReport (padKey [2])).attestation (sampleSecretId 7)
        (sampleConsumer 0) := by
  have hsha256 : Injective samplePolicyPlatform.sha256 := injective_id
  obtain ⟨hanswers, hother, -⟩ := authorizationTable_exact hsha256
  constructor
  · apply hanswers _ _ ⟨_, rfl⟩
    intro report hmem
    rw [SecretsStep.storeAuthorization.inj (List.mem_singleton.mp hmem)]
    decide
  · apply hother
    intro userdata huserdata hcovers
    exact Bool.false_ne_true hcovers.positive

end NxccBridge.PolicyExecution
