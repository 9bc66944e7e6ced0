import NxccBridge.Daemon.Policies
import NxccBridge.Enclave.Release
import NxccBridge.Interface.WorkerBundle

/-!
# Running a worker on behalf of a bundle

The work order orchestrator of the daemon has the secrets of a worker authorized
for the consumer that it computes from the bundle; the enclave reads them for
the consumer that it computes itself.  The two calls parse the same bytes, so
they agree where the metadata can be written in one order only.
-/

namespace NxccBridge.WorkOrder

open Function
open NxccBridge.Framing
open NxccBridge.Interface
open NxccBridge.Crypto
open NxccBridge.EnclaveSecrets
open NxccBridge.DaemonSecrets
open NxccBridge.Worker

variable {Digest : Type*} [DecidableEq Digest] {platform : Platform Digest}
variable {Policy : Type*}

/-- What a work order gives the orchestrator besides its bundle, with the
formatting of identifiers and the attached machines. -/
structure Order where
  hash : String
  identities : List (SecretId × String)
  debugIdentityId : U256 → String
  vmAttached : String → Bool

/-- The `thiserror` display strings. -/
def displayAppError : AppError → String
  | .io message => "IO error: " ++ message
  | .network message => "Network error: " ++ message
  | .identity message => "Identity error: " ++ message
  | .service message => "Service error: " ++ message
  | .internal message => "Internal error: " ++ message
  | .validation message => "Validation error: " ++ message
  | .authorization message => "Authorization error: " ++ message

/-- An I/O error is passed on without its prefix. -/
def innerMessage : AppError → String
  | .io message => message
  | other => displayAppError other

/-- The self-authorization loop over the identities of the manifest. -/
def selfAuthorizeWorker (env : Env Policy) (order : Order)
    (envReport : EnvReport) (consumer : ConsumerInfo) :
    List (SecretId × String) → Secrets platform →
      Secrets platform × Except AppError Unit
  | [], enclave => (enclave, .ok ())
  | (secretId, _) :: identities, enclave =>
      match env.getPolicy secretId with
      | .error e => (enclave, .error e)
      | .ok policy =>
          match env.checkPolicyForEnv enclave policy envReport secretId
              consumer with
          | (enclave, .error e) =>
              (enclave, .error (.service
                ("Policy execution for self-auth of secret " ++
                  order.debugIdentityId secretId.identityId ++ " failed: " ++
                  displayAppError e)))
          | (enclave, .ok false) =>
              (enclave, .error (.authorization
                ("Self-authorization policy denied for secret " ++
                  env.debug secretId ++ " for work order (hash: " ++
                  order.hash ++ ")")))
          | (enclave, .ok true) =>
              selfAuthorizeWorker env order envReport consumer identities
                enclave

/-- The orchestrator from the bundle to the end of self-authorization. -/
def authorizeWorkOrder (env : Env Policy) (codecs : Codecs)
    (iteration : IterationOrder) (order : Order) (bundle : WorkerBundle)
    (enclave : Secrets platform) : Secrets platform × Except AppError Unit :=
  match bundle.payload codecs with
  | .error e =>
      (enclave, .error (.validation
        ("Failed to parse worker bundle payload: " ++ e.display)))
  | .ok payload =>
      if !order.vmAttached payload.vm then
        (enclave, .error (.validation
          ("Work order (hash: " ++ order.hash ++ ") requests VM '" ++
            payload.vm ++ "', but it is not attached.")))
      else
        match env.ownEnvReport with
        | .error e =>
            (enclave, .error (.service
              ("Failed to get daemon env report for self-auth for work " ++
                "order " ++ order.hash ++ ": " ++ innerMessage e)))
        | .ok envReport =>
            match bundle.hashSignedPayload codecs iteration with
            | .error e =>
                (enclave, .error (.validation
                  ("Failed to hash worker bundle payload: " ++ e.display)))
            | .ok bundleHash =>
                match bundle.getDsseSignature codecs with
                | .error e =>
                    (enclave, .error (.validation
                      ("Failed to get worker bundle signature: " ++
                        e.display)))
                | .ok signature =>
                    selfAuthorizeWorker env order envReport
                      { bundleHash := bundleHash, signature := signature }
                      order.identities enclave

inductive RunnerError
  | deserialization (message : String)
  | internal (message : String)
  deriving DecidableEq

/-- `run_worker` of the enclave up to the secrets that the worker gets. -/
def runWorkerSecrets (self : Secrets platform) (clock : CallClock)
    (report : Except String AttestationBundle) (codecs : Codecs)
    (iteration : IterationOrder) (identities : List (SecretId × String))
    (bundle : WorkerBundle) : Except RunnerError (String → Option Bytes) :=
  match bundle.payload codecs with
  | .error e => .error (.deserialization e.display)
  | .ok _ =>
      if identities.isEmpty then .ok fun _ => none
      else
        match bundle.hashSignedPayload codecs iteration with
        | .error e => .error (.deserialization e.display)
        | .ok bundleHash =>
            match bundle.getDsseSignature codecs with
            | .error e => .error (.deserialization e.display)
            | .ok signature =>
                match self.getSecretsForLocalWorker clock report identities
                    { bundleHash := bundleHash, signature := signature } with
                | .ok workerSecrets => .ok workerSecrets
                | .error e =>
                    .error (.internal
                      ("Failed to get secrets for worker: " ++ e))

/-! ## What self-authorization files -/

/-- The loop goes past an identity by storing the report of its policy. -/
theorem selfAuthorizeWorker_cons_ok {env : Env Policy} {order : Order}
    {envReport : EnvReport} {consumer : ConsumerInfo} {secretId : SecretId}
    {name : String} {identities : List (SecretId × String)}
    {enclave after : Secrets platform}
    (hok : selfAuthorizeWorker env order envReport consumer
      ((secretId, name) :: identities) enclave = (after, .ok ())) :
    ∃ timestamp, AdmittedAt env envReport secretId consumer timestamp ∧
      selfAuthorizeWorker env order envReport consumer identities
        (enclave.storeAuthorization
          (policyReport envReport secretId consumer timestamp)) =
        (after, .ok ()) := by
  rw [selfAuthorizeWorker] at hok
  split at hok
  · cases hok
  · rename_i policy hpolicy
    split at hok
    · cases hok
    · cases hok
    · rename_i stored hallowed
      obtain ⟨timestamp, hrun, rfl⟩ := checkPolicyForEnv_ok_true hallowed
      exact ⟨timestamp, ⟨policy, hpolicy, hrun⟩, hok⟩

/-- Successful self-authorization files every identity for the consumer. -/
theorem selfAuthorizeWorker_authorizations (hsha256 : Injective platform.sha256)
    {env : Env Policy} {order : Order} {envReport : EnvReport}
    {consumer : ConsumerInfo} {userdata : UserData}
    (huserdata : platform.userDataFromCbor
      envReport.attestation.detachedUserdata = .ok userdata)
    {identities : List (SecretId × String)} {enclave after : Secrets platform}
    (hok : selfAuthorizeWorker env order envReport consumer identities enclave =
      (after, .ok ())) (secretId : SecretId) :
    (secretId ∈ identities.map Prod.fst →
      ∃ timestamp, AdmittedAt env envReport secretId consumer timestamp ∧
        after.authorizations (grantId platform userdata.ephemeralPublicKey
          secretId consumer) = some (expiryTime timestamp)) ∧
    (secretId ∉ identities.map Prod.fst →
      after.authorizations (grantId platform userdata.ephemeralPublicKey
          secretId consumer) =
        enclave.authorizations (grantId platform userdata.ephemeralPublicKey
          secretId consumer)) := by
  induction identities generalizing enclave with
  | nil =>
      obtain ⟨rfl, -⟩ := Prod.mk.inj hok
      exact ⟨fun hmem => absurd hmem List.not_mem_nil, fun _ => rfl⟩
  | cons identity identities ih =>
      obtain ⟨requested, name⟩ := identity
      obtain ⟨timestamp, hadmitted, hrest⟩ := selfAuthorizeWorker_cons_ok hok
      obtain ⟨hlisted, hunlisted⟩ := ih hrest
      obtain ⟨hfiled, hother⟩ := storeAuthorization_apply hsha256 enclave
        (policyReport envReport requested consumer timestamp)
        userdata.ephemeralPublicKey secretId consumer
      rw [covers_policyReport_iff huserdata] at hfiled hother
      simp only [List.map_cons, List.mem_cons, not_or]
      constructor
      · intro hmem
        by_cases htail : secretId ∈ identities.map Prod.fst
        · exact hlisted htail
        · obtain rfl := hmem.resolve_right htail
          refine ⟨timestamp, hadmitted, ?_⟩
          rw [hunlisted htail]
          exact hfiled ⟨rfl, rfl⟩
      · rintro ⟨hne, htail⟩
        rw [hunlisted htail]
        exact hother fun hsame => hne hsame.1

/-- What a successful self-authorization went through. -/
theorem authorizeWorkOrder_ok {env : Env Policy} {codecs : Codecs}
    {iteration : IterationOrder} {order : Order} {bundle : WorkerBundle}
    {enclave after : Secrets platform}
    (hok : authorizeWorkOrder env codecs iteration order bundle enclave =
      (after, .ok ())) :
    ∃ payload envReport bundleHash signature,
      bundle.payload codecs = .ok payload ∧
      env.ownEnvReport = .ok envReport ∧
      bundle.hashSignedPayload codecs iteration = .ok bundleHash ∧
      bundle.getDsseSignature codecs = .ok signature ∧
      selfAuthorizeWorker env order envReport
        { bundleHash := bundleHash, signature := signature } order.identities
        enclave = (after, .ok ()) := by
  unfold authorizeWorkOrder at hok
  split at hok
  · cases hok
  · rename_i payload hpayload
    split at hok
    · cases hok
    · split at hok
      · cases hok
      · rename_i envReport hreport
        split at hok
        · cases hok
        · rename_i bundleHash hhash
          split at hok
          · cases hok
          · rename_i signature hsignature
            exact ⟨payload, envReport, bundleHash, signature, hpayload,
              hreport, hhash, hsignature, hok⟩

/-! ## Whether the enclave finds it -/

/-- Whatever the orders of the two calls: once the daemon has a worker
authorized, and as long as these authorizations last, the enclave gives the
worker every one of its secrets that is stored and unexpired. -/
def GrantsFound (platform : Platform Digest) (Policy : Type*) (codecs : Codecs)
    (bundle : WorkerBundle) : Prop :=
  ∀ (daemonIteration enclaveIteration : IterationOrder) (env : Env Policy)
    (order : Order) (enclave after : Secrets platform) (envReport : EnvReport)
    (selfReport : AttestationBundle) (userdata own : UserData)
    (clock : CallClock),
    authorizeWorkOrder env codecs daemonIteration order bundle enclave =
      (after, .ok ()) →
    env.ownEnvReport = .ok envReport →
    platform.userDataFromCbor envReport.attestation.detachedUserdata =
      .ok userdata →
    platform.userDataFromCbor selfReport.detachedUserdata = .ok own →
    own.ephemeralPublicKey = userdata.ephemeralPublicKey →
    (∀ secretId consumer timestamp,
      AdmittedAt env envReport secretId consumer timestamp →
        clock.checked < expiryTime timestamp) →
    (order.identities.map Prod.snd).Nodup →
    ∃ workerSecrets,
      runWorkerSecrets after clock (.ok selfReport) codecs enclaveIteration
        order.identities bundle = .ok workerSecrets ∧
      ∀ secretId name stored, (secretId, name) ∈ order.identities →
        after.secretsStorage secretId = some stored →
        unexpired stored.expiry clock.now = true →
        workerSecrets name = some stored.data

/-- One hash for all calls is enough for the grants to be found. -/
theorem grantsFound_of_hash_eq (hsha256 : Injective platform.sha256)
    {codecs : Codecs} {bundle : WorkerBundle}
    (hsame : ∀ first second : IterationOrder,
      bundle.hashSignedPayload codecs first =
        bundle.hashSignedPayload codecs second) :
    GrantsFound platform Policy codecs bundle := by
  intro daemonIteration enclaveIteration env order enclave after envReport
    selfReport userdata own clock hok hreport huserdata hown hkey hlive hnodup
  obtain ⟨payload, report, bundleHash, signature, hpayload, hreport', hhash,
    hsignature, hloop⟩ := authorizeWorkOrder_ok hok
  obtain rfl := Except.ok.inj (hreport.symm.trans hreport')
  rw [hsame daemonIteration enclaveIteration] at hhash
  cases hempty : order.identities with
  | nil =>
      refine ⟨fun _ => none, ?_, fun secretId name stored hmem => ?_⟩
      · simp [runWorkerSecrets, hpayload]
      · cases hmem
  | cons identity identities =>
      rw [← hempty]
      have hsome : order.identities.isEmpty = false := by simp [hempty]
      have hmap : ∃ workerSecrets, after.getSecretsForLocalWorker clock
          (.ok selfReport) order.identities
          { bundleHash := bundleHash, signature := signature } =
            .ok workerSecrets := ⟨_, getSecretsForLocalWorker_ok ..⟩
      obtain ⟨workerSecrets, hmap⟩ := hmap
      refine ⟨workerSecrets, ?_, ?_⟩
      · simp [runWorkerSecrets, hpayload, hsome, hhash, hsignature, hmap]
      · intro secretId name stored hmem hstored hunexpired
        refine getSecretsForLocalWorker_of_readable hnodup hmap hmem ?_
        obtain ⟨timestamp, hadmitted, hfiled⟩ :=
          (selfAuthorizeWorker_authorizations hsha256 huserdata hloop
            secretId).1 (List.mem_map.mpr ⟨_, hmem, rfl⟩)
        have hcheck : after.checkAuthorization clock.checked selfReport
            secretId { bundleHash := bundleHash, signature := signature } =
              true := by
          refine (checkAuthorization_iff after clock.checked selfReport
            secretId _).mpr ?_
          exact ⟨own, expiryTime timestamp, hown, hkey ▸ hfiled,
            hlive secretId _ timestamp hadmitted⟩
        simp [Secrets.readable, hcheck, hstored, hunexpired]

/-- For every bundle that parses: whatever orders the maps of the two calls
take, the daemon and the enclave compute one bundle hash and every authorization
is found, exactly when the metadata has at most one key. -/
theorem consumerInfo_agrees_iff {codecs : Codecs}
    (hsha512 : Injective codecs.sha512) (hsha256 : Injective platform.sha256)
    {bundle : WorkerBundle} {payload : WorkerBundlePayload}
    (hpayload : bundle.payload codecs = .ok payload) :
    ((∀ daemonIteration enclaveIteration : IterationOrder,
      bundle.hashSignedPayload codecs daemonIteration =
        bundle.hashSignedPayload codecs enclaveIteration) ∧
      GrantsFound platform Policy codecs bundle) ↔
      payload.metadata.entries.length ≤ 1 := by
  rw [← hashSignedPayload_eq_iff hsha512 hpayload]
  exact and_iff_left_of_imp (grantsFound_of_hash_eq hsha256)

/-! ## One key and two -/

/-- The envelope of a base64 payload, with an empty signature. -/
def envelopeText (payload : String) : String :=
  "\x7b\"payload\":\"" ++ payload ++ "\",\"payloadType\":\"" ++
    dsseWorkerBundlePayloadType ++
    "\",\"signatures\":[\x7b\"sig\":\"\"\x7d]\x7d"

/-- Codecs that know one payload, its text and its base64; SHA-512 is the
identity. -/
def sampleCodecs (payload : WorkerBundlePayload) (text base64 : String) :
    Codecs where
  parseEnvelope := fun bytes =>
    if bytes = utf8 (envelopeText base64) then
      .ok {
        payload := base64
        payloadType := dsseWorkerBundlePayloadType
        signatures := [{ keyId := none, sig := "" }] }
    else .error "not the envelope"
  parsePayload := fun bytes =>
    if bytes = utf8 text then .ok payload else .error "not the payload"
  base64Encode := fun _ => ""
  base64Decode := fun encoded =>
    if encoded = base64 then .ok (utf8 text) else .ok []
  sha512 := id

def oneKeyPayload : WorkerBundlePayload where
  vm := "nxcc/workerd"
  executable := []
  metadata := { entries := [("a", "1")], nodup := by decide }

def oneKeyBase64 : String :=
  "eyJ2bSI6Im54Y2Mvd29ya2VyZCIsImV4ZWN1dGFibGUiOiIiLCJtZXRhZGF0YSI6eyJhIjoi" ++
    "MSJ9fQ=="

def oneKeyCodecs : Codecs :=
  sampleCodecs oneKeyPayload
    ("\x7b\"vm\":\"nxcc/workerd\",\"executable\":\"\"," ++
      "\"metadata\":\x7b\"a\":\"1\"\x7d\x7d") oneKeyBase64

def twoKeyPayload : WorkerBundlePayload where
  vm := "nxcc/workerd"
  executable := []
  metadata := { entries := [("a", "1"), ("b", "2")], nodup := by decide }

def twoKeyText : String :=
  "\x7b\"vm\":\"nxcc/workerd\",\"executable\":\"\"," ++
    "\"metadata\":\x7b\"a\":\"1\",\"b\":\"2\"\x7d\x7d"

def twoKeyBase64 : String :=
  "eyJ2bSI6Im54Y2Mvd29ya2VyZCIsImV4ZWN1dGFibGUiOiIiLCJtZXRhZGF0YSI6eyJhIjoi" ++
    "MSIsImIiOiIyIn19"

def twoKeyCodecs : Codecs :=
  sampleCodecs twoKeyPayload twoKeyText twoKeyBase64

example : payloadJson twoKeyCodecs twoKeyPayload [("a", "1"), ("b", "2")] =
    utf8 twoKeyText := by
  decide +kernel

theorem consumerInfo_agrees_oneKey :
    (∀ daemonIteration enclaveIteration : IterationOrder,
      ({ bytes := utf8 (envelopeText oneKeyBase64) } :
        WorkerBundle).hashSignedPayload oneKeyCodecs daemonIteration =
      ({ bytes := utf8 (envelopeText oneKeyBase64) } :
        WorkerBundle).hashSignedPayload oneKeyCodecs enclaveIteration) ∧
      GrantsFound (symbolicPlatform [] []) Unit oneKeyCodecs
        { bytes := utf8 (envelopeText oneKeyBase64) } := by
  have hpayload : ({ bytes := utf8 (envelopeText oneKeyBase64) } :
      WorkerBundle).payload oneKeyCodecs = .ok oneKeyPayload := by
    decide +kernel
  exact (consumerInfo_agrees_iff (fun _ _ heq => heq) (fun _ _ heq => heq)
    hpayload).mpr (by decide)

/-- Two keys that the daemon writes in one order and the enclave in the
other. -/
theorem consumerInfo_disagrees_twoKeys :
    ¬ ∀ (bundle : WorkerBundle) (payload : WorkerBundlePayload),
      bundle.payload twoKeyCodecs = .ok payload →
      (∀ daemonIteration enclaveIteration : IterationOrder,
        bundle.hashSignedPayload twoKeyCodecs daemonIteration =
          bundle.hashSignedPayload twoKeyCodecs enclaveIteration) ∧
        GrantsFound (symbolicPlatform [] []) Unit twoKeyCodecs bundle := by
  intro hagrees
  have hparses : ({ bytes := utf8 (envelopeText twoKeyBase64) } :
      WorkerBundle).payload twoKeyCodecs = .ok twoKeyPayload := by
    decide +kernel
  have hsame := (hagrees _ _ hparses).1 listedOrder swappedOrder
  exact absurd hsame (by decide +kernel)

end NxccBridge.WorkOrder
