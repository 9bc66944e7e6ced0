import NxccBridge.Daemon.Network
import NxccBridge.Daemon.Submission
import NxccBridge.Daemon.WorkOrder

/-!
# The secrets of a started worker

`submit_work_order` from the bytes to the installed events, with what the enclave
does for it.  The worker gets its secrets when the enclave starts it.  Between the
calls of the daemon, others may change the store and the authorizations of the
enclave in any way.
-/

namespace NxccBridge.WorkerStart

open Function
open NxccBridge.Framing
open NxccBridge.Interface
open NxccBridge.Crypto
open NxccBridge.EnclaveSecrets
open NxccBridge.DaemonSecrets
open NxccBridge.EventQueue (Status mapRunnerError)
open NxccBridge.Installation
open NxccBridge.Network (sampleEnv)
open NxccBridge.Submission (RunWorkerResponse runWorkerAnswer)
open NxccBridge.Worker
open NxccBridge.WorkOrder

variable {Digest : Type*} {platform : Platform Digest} {codecs : Codecs}

structure WorkerBundlePointer where
  source : String
  hash : Option Bytes
  deriving DecidableEq

/-- A manifest, with its userdata as JSON text. -/
structure WorkerManifest where
  bundle : WorkerBundlePointer
  identities : List (SecretId × String)
  userdata : String
  deriving DecidableEq

structure WorkOrderPayload where
  worker : WorkerManifest
  events : List WorkerEvent

/-! ## The enclave -/

/-- What the VM is asked to start. -/
structure StartRequest where
  workerId : String
  executable : Bytes
  userdataJson : String
  secrets : String → Option Bytes

inductive ClientError
  | grpc (message : String)
  | other (display : String)

/-- What a call of `run_worker` meets in the enclave besides the secrets. -/
structure RunnerEnvironment where
  clock : CallClock
  report : Except String AttestationBundle
  iteration : IterationOrder
  vms : String → Option (StartRequest → Except ClientError String)

/-- A worker that a VM has started: the state that the runner found, and the
request that it made of it. -/
structure Launch (platform : Platform Digest) (codecs : Codecs) where
  enclave : Secrets platform
  environment : RunnerEnvironment
  identities : List (SecretId × String)
  bundle : WorkerBundle
  request : StartRequest
  given : runWorkerSecrets enclave environment.clock environment.report codecs
    environment.iteration identities bundle = .ok request.secrets

inductive RunnerError
  | secrets (error : WorkOrder.RunnerError)
  | vmNotAttached (vmId : String)
  | workerStartFailed (message : String)
  | vmConnection (display : String)

def runWorker (codecs : Codecs) (environment : RunnerEnvironment)
    (enclave : Secrets platform) (workerId vmId : String)
    (manifest : WorkerManifest) (bundle : WorkerBundle) :
    Except RunnerError (Launch platform codecs × String) :=
  match bundle.payload codecs with
  | .error e => .error (.secrets (.deserialization e.display))
  | .ok payload =>
      match hgiven : runWorkerSecrets enclave environment.clock
          environment.report codecs environment.iteration manifest.identities
          bundle with
      | .error e => .error (.secrets e)
      | .ok workerSecrets =>
          match environment.vms vmId with
          | none => .error (.vmNotAttached vmId)
          | some startWorker =>
              let request : StartRequest := {
                workerId := workerId
                executable := payload.executable
                userdataJson := manifest.userdata
                secrets := workerSecrets }
              match startWorker request with
              | .error (.grpc message) => .error (.workerStartFailed message)
              | .error (.other display) => .error (.vmConnection display)
              | .ok instanceId =>
                  .ok ({
                    enclave := enclave
                    environment := environment
                    identities := manifest.identities
                    bundle := bundle
                    request := request
                    given := hgiven }, instanceId)

/-- `serde_json` at `WorkerManifest`. -/
structure ManifestJson where
  toVec : WorkerManifest → Except String Bytes
  fromSlice : Bytes → Except String WorkerManifest
  roundTrip : ∀ manifest bytes,
    toVec manifest = .ok bytes → fromSlice bytes = .ok manifest

/-- The status of an error that is not a start failure. -/
def RunnerError.status : RunnerError → Status
  | .secrets (.deserialization message) =>
      mapRunnerError (.deserialization message)
  | .secrets (.internal message) => mapRunnerError (.internal message)
  | .vmNotAttached vmId => mapRunnerError (.vmNotAttached vmId)
  | .workerStartFailed message =>
      .internal ("Failed to start worker: " ++ message)
  | .vmConnection display => mapRunnerError (.vmConnection display)

/-- `RunWorker` of the enclave's gRPC service, and the worker it starts. -/
def grpcRunWorker (codecs : Codecs) (manifests : ManifestJson)
    (environment : RunnerEnvironment) (enclave : Secrets platform)
    (workerId vmId : String) (manifestBytes bundleBytes : Bytes) :
    Option (Launch platform codecs) × Except Status RunWorkerResponse :=
  match manifests.fromSlice manifestBytes with
  | .error e =>
      (none, .error (.invalidArgument
        ("Failed to deserialize WorkerManifest: " ++ e)))
  | .ok manifest =>
      match runWorker codecs environment enclave workerId vmId manifest
          { bytes := bundleBytes } with
      | .ok (launch, workerId) =>
          (some launch,
            .ok { success := true, workerId := workerId, errorMessage := "" })
      | .error (.workerStartFailed message) =>
          (none,
            .ok { success := false, workerId := "", errorMessage := message })
      | .error e => (none, .error e.status)

theorem runWorker_ok {environment : RunnerEnvironment}
    {enclave : Secrets platform} {workerId vmId : String}
    {manifest : WorkerManifest} {bundle : WorkerBundle}
    {launch : Launch platform codecs} {instanceId : String}
    (hok : runWorker codecs environment enclave workerId vmId manifest bundle =
      .ok (launch, instanceId)) :
    launch.identities = manifest.identities ∧ launch.enclave = enclave := by
  unfold runWorker at hok
  split at hok
  · cases hok
  · split at hok
    · cases hok
    · split at hok
      · cases hok
      · dsimp only at hok
        split at hok
        · cases hok
        · cases hok
        · obtain ⟨rfl, -⟩ := Prod.mk.inj (Except.ok.inj hok)
          exact ⟨rfl, rfl⟩

/-- A launch with a success, a start failure without an identifier, or a
status. -/
theorem grpcRunWorker_cases (codecs : Codecs)
    (environment : RunnerEnvironment)
    (enclave : Secrets platform) (workerId vmId : String)
    (bundleBytes : Bytes) {manifests : ManifestJson}
    {manifest : WorkerManifest} {manifestBytes : Bytes}
    (hmanifest : manifests.fromSlice manifestBytes = .ok manifest) :
    (∃ (launch : Launch platform codecs) (response : RunWorkerResponse),
      grpcRunWorker codecs manifests environment enclave workerId vmId
          manifestBytes bundleBytes = (some launch, .ok response) ∧
        launch.identities = manifest.identities ∧ launch.enclave = enclave) ∨
    (∃ message, grpcRunWorker codecs manifests environment enclave workerId
        vmId manifestBytes bundleBytes =
      (none,
        .ok { success := false, workerId := "", errorMessage := message })) ∨
    ∃ status, grpcRunWorker codecs manifests environment enclave workerId
      vmId manifestBytes bundleBytes = (none, .error status) := by
  simp only [grpcRunWorker, hmanifest]
  cases hrun : runWorker codecs environment enclave workerId vmId manifest
      { bytes := bundleBytes } with
  | ok started =>
      obtain ⟨launch, instanceId⟩ := started
      exact Or.inl ⟨launch, _, rfl, runWorker_ok hrun⟩
  | error e =>
      cases e with
      | workerStartFailed message => exact Or.inr (Or.inl ⟨message, rfl⟩)
      | secrets error => exact Or.inr (Or.inr ⟨_, rfl⟩)
      | vmNotAttached vmId => exact Or.inr (Or.inr ⟨_, rfl⟩)
      | vmConnection display => exact Or.inr (Or.inr ⟨_, rfl⟩)

/-! ## What the worker gets -/

/-- Every identity of the manifest is bound to the data stored for its
identifier. -/
def Launch.Complete (launch : Launch platform codecs) : Prop :=
  ∀ secretId name, (secretId, name) ∈ launch.identities →
    ∃ stored, launch.enclave.secretsStorage secretId = some stored ∧
      launch.request.secrets name = some stored.data

/-- The secret that is authorized for the consumer of the bundle, stored and
unexpired when the worker is started. -/
def Launch.readable (launch : Launch platform codecs) (secretId : SecretId) :
    Option StoredSecret :=
  match launch.environment.report,
      launch.bundle.hashSignedPayload codecs launch.environment.iteration,
      launch.bundle.getDsseSignature codecs with
  | .ok selfReport, .ok bundleHash, .ok signature =>
      launch.enclave.readable launch.environment.clock selfReport secretId
        { bundleHash := bundleHash, signature := signature }
  | _, _, _ => none

/-- Every identity is stored, and the last readable one of its name has the same
data. -/
def Launch.Served (launch : Launch platform codecs) : Prop :=
  ∀ secretId name, (secretId, name) ∈ launch.identities →
    ∃ stored before last after served,
      launch.enclave.secretsStorage secretId = some stored ∧
      launch.identities = before ++ (last, name) :: after ∧
      launch.readable last = some served ∧
      (∀ later, (later, name) ∈ after → launch.readable later = none) ∧
      stored.data = served.data

theorem Launch.readable_present {launch : Launch platform codecs}
    {secretId : SecretId} {stored : StoredSecret}
    (hread : launch.readable secretId = some stored) :
    launch.enclave.secretsStorage secretId = some stored := by
  unfold Launch.readable at hread
  split at hread
  · exact EnclaveSecrets.readable_present hread
  · cases hread

/-- The bindings are those of one pass over the identities. -/
theorem Launch.secrets_eq (launch : Launch platform codecs) :
    launch.request.secrets =
      launch.identities.foldl (insertRead launch.readable) fun _ => none := by
  have hgiven := launch.given
  unfold runWorkerSecrets at hgiven
  split at hgiven
  · cases hgiven
  · split at hgiven
    next hempty =>
      rw [List.isEmpty_iff.mp hempty]
      exact (Except.ok.inj hgiven).symm
    next =>
      split at hgiven
      · cases hgiven
      · rename_i bundleHash hhash
        split at hgiven
        · cases hgiven
        · rename_i signature hsignature
          cases hreport : launch.environment.report with
          | error e => simp [hreport, Secrets.getSecretsForLocalWorker] at hgiven
          | ok selfReport =>
              rw [hreport, getSecretsForLocalWorker_ok] at hgiven
              rw [← Except.ok.inj hgiven]
              unfold Launch.readable
              rw [hreport, hhash, hsignature]

theorem Launch.complete_iff (launch : Launch platform codecs) :
    launch.Complete ↔ launch.Served := by
  refine forall_congr' fun secretId => forall_congr' fun name =>
    imp_congr_right fun _ => ?_
  rw [launch.secrets_eq]
  constructor
  · rintro ⟨stored, hstored, hbound⟩
    obtain ⟨before, last, after, served, hsplit, hread, hlater, hdata⟩ :=
      (foldl_insertRead_eq_some_iff _).mp hbound
    exact ⟨stored, before, last, after, served, hstored, hsplit, hread,
      hlater, hdata⟩
  · rintro ⟨stored, before, last, after, served, hstored, hsplit, hread,
      hlater, hdata⟩
    exact ⟨stored, hstored, (foldl_insertRead_eq_some_iff _).mpr
      ⟨before, last, after, served, hsplit, hread, hlater, hdata⟩⟩

/-- With one identity for each name, all of them have to be readable. -/
theorem Launch.served_iff_of_nodup {launch : Launch platform codecs}
    (hnodup : (launch.identities.map Prod.snd).Nodup) :
    launch.Served ↔ ∀ secretId name, (secretId, name) ∈ launch.identities →
      (launch.readable secretId).isSome = true := by
  refine forall_congr' fun secretId => forall_congr' fun name =>
    imp_congr_right fun hmem => ?_
  constructor
  · rintro ⟨stored, before, last, after, served, hstored, hsplit, hread, -, -⟩
    have hlast : (last, name) ∈ launch.identities := by simp [hsplit]
    have hsame := congrArg Prod.fst
      (List.inj_on_of_nodup_map hnodup hmem hlast rfl)
    change secretId = last at hsame
    rw [hsame, hread]
    rfl
  · intro hsome
    obtain ⟨stored, hread⟩ := Option.isSome_iff_exists.mp hsome
    obtain ⟨before, after, hsplit⟩ := List.append_of_mem hmem
    rw [hsplit] at hnodup
    exact ⟨stored, before, secretId, after, stored,
      Launch.readable_present hread, hsplit, hread,
      fun other hin => absurd hin (name_not_mem_after hnodup other), rfl⟩

/-! ## The daemon -/

variable {Policy : Type*}

/-- What one submission meets: third-party code, the services of the daemon at its
calls, and what others do to the enclave before each of the later ones.
`awaited` is how the wait for a pending request for secrets ends. -/
structure Node (platform : Platform Digest) (Policy : Type*)
    (codecs : Codecs) where
  hashWorkOrder : Bytes → String
  parseWorkOrder : Bytes → Except String WorkOrderPayload
  manifests : ManifestJson
  fetchWorkerBundle : WorkerBundlePointer → Except AppError WorkerBundle
  debugIdentityId : U256 → String
  debugError : AppError → String
  statusText : Status → String
  vmAttached : String → Bool
  authorizing : Env Policy
  checking : Env Policy
  fetching : Env Policy
  authorizingOrder : IterationOrder
  checkingOrder : IterationOrder
  beforeCheck : Secrets platform → Secrets platform
  beforeFetch : Secrets platform → Secrets platform
  awaited : Except AppError Unit
  beforeRun : Secrets platform → Secrets platform
  runWorkerRpc : Rpc
  runner : RunnerEnvironment
  events : World

variable (node : Node platform Policy codecs)

def dsseWorkOrderPayloadType : String :=
  "application/vnd.nxcc.workorderpayload.v1+json"

/-- The payload of an envelope. -/
def readPayload (envelope : DsseEnvelope) : Except AppError WorkOrderPayload :=
  if envelope.payloadType ≠ dsseWorkOrderPayloadType then
    .error (.service
      ("Invalid WorkOrder DSSE payloadType: expected '" ++
        dsseWorkOrderPayloadType ++ "', got '" ++ envelope.payloadType ++ "'"))
  else
    match codecs.base64Decode envelope.payload with
    | .error e =>
        .error (.service
          ("Failed to base64 decode WorkOrder payload: " ++ e))
    | .ok payloadBytes =>
        (node.parseWorkOrder payloadBytes).mapError fun e =>
          .service ("Failed to parse WorkOrderPayload: " ++ e)

def fetchBundle (manifest : WorkerManifest) : Except AppError WorkerBundle :=
  (node.fetchWorkerBundle manifest.bundle).mapError fun e =>
    .service ("Failed to fetch worker bundle from source '" ++
      manifest.bundle.source ++ "': " ++ innerMessage e)

def orderOf (hash : String) (manifest : WorkerManifest) : Order where
  hash := hash
  identities := manifest.identities
  debugIdentityId := node.debugIdentityId
  vmAttached := node.vmAttached

/-- The identifiers whose status is missing or expired. -/
def missingSecrets (now : ℕ) (statuses : List (SecretId × Bool × ℕ)) :
    List SecretId :=
  statuses.filterMap fun (secretId, found, expiry) =>
    if !found || (expiry != 0 && decide (expiry ≤ now)) then some secretId
    else none

/-- An I/O error is passed on as it is, any other in its `Debug` form. -/
def debugMessage : AppError → String
  | .io message => message
  | other => node.debugError other

/-- The machine that the bundle asks for. -/
def vmOf (codecs : Codecs) (bundle : WorkerBundle) : String :=
  match bundle.payload codecs with
  | .ok payload => payload.vm
  | .error _ => ""

/-- The call of `run_worker`: the worker that it starts and what the daemon gets
to know. -/
def callRunWorker (hash : String) (manifest : WorkerManifest)
    (bundle : WorkerBundle) (enclave : Secrets platform) :
    Option (Launch platform codecs) × Except AppError String :=
  match node.manifests.toVec manifest with
  | .error e =>
      (none, .error (.internal
        ("Failed to serialize worker manifest: " ++ e)))
  | .ok manifestBytes =>
      let outcome := grpcRunWorker codecs node.manifests node.runner enclave
        hash (vmOf codecs bundle) manifestBytes bundle.bytes
      let (launch, response) :=
        match node.runWorkerRpc with
        | .answered => (outcome.1, outcome.2.mapError node.statusText)
        | .lost message => (outcome.1, .error message)
        | .failed message => (none, .error message)
      (launch, (runWorkerAnswer response).mapError fun e =>
        .service ("Failed to run worker in enclave for " ++ hash ++ ": " ++ e))

/-- Where the daemon hears of a success, there is a launch of the manifest. -/
theorem callRunWorker_ok {node : Node platform Policy codecs} {hash : String}
    {manifest : WorkerManifest} {bundle : WorkerBundle}
    {enclave : Secrets platform} {enclaveWorkerId : String}
    (hok : (callRunWorker node hash manifest bundle enclave).2 =
      .ok enclaveWorkerId) :
    ∃ launch, (callRunWorker node hash manifest bundle enclave).1 =
        some launch ∧
      launch.identities = manifest.identities ∧ launch.enclave = enclave := by
  unfold callRunWorker at hok ⊢
  cases hbytes : node.manifests.toVec manifest with
  | error e => simp [hbytes] at hok
  | ok manifestBytes =>
      have hmanifest := node.manifests.roundTrip manifest manifestBytes hbytes
      have hcases := grpcRunWorker_cases codecs node.runner enclave hash
        (vmOf codecs bundle) bundle.bytes hmanifest
      simp only [hbytes] at hok ⊢
      cases hrpc : node.runWorkerRpc with
      | lost message =>
          simp [hrpc, runWorkerAnswer, Except.mapError] at hok
      | failed message =>
          simp [hrpc, runWorkerAnswer, Except.mapError] at hok
      | answered =>
          simp only [hrpc] at hok ⊢
          rcases hcases with ⟨launch, response, heq, hlaunch⟩ |
            ⟨message, heq⟩ | ⟨status, heq⟩
          · exact ⟨launch, congrArg Prod.fst heq, hlaunch⟩
          · simp [heq, runWorkerAnswer, Except.mapError] at hok
          · simp [heq, runWorkerAnswer, Except.mapError] at hok

variable [DecidableEq Digest]

/-- `get_secrets` for the identifiers that the enclave does not have. -/
def fetchMissing (hash : String) (consumer : ConsumerInfo)
    (missing : List SecretId) (service : SecretsService)
    (enclave : Secrets platform) :
    SecretsService × Secrets platform × Except AppError Unit :=
  let failed := fun e : AppError => AppError.service
    ("Failed to get secrets for work order " ++ hash ++ ": " ++
      debugMessage node e)
  match node.fetching.ownEnvReport with
  | .error e =>
      (service, enclave, .error (.service
        ("Failed to get daemon env report for work order " ++ hash ++ ": " ++
          innerMessage e)))
  | .ok envReport =>
      let requests := missing.dedup.map fun secretId =>
        (secretId, [{ secretId := secretId, consumer := consumer }])
      match service.getSecrets node.fetching (node.beforeFetch enclave)
          requests envReport with
      | (service, enclave, .error e) => (service, enclave, .error (failed e))
      | (service, enclave, .ok none) => (service, enclave, .ok ())
      | (service, enclave, .ok (some _)) =>
          (service, enclave, node.awaited.mapError failed)

/-- Ensure secrets are present in the enclave. -/
def ensureSecrets (hash : String) (identities : List (SecretId × String))
    (bundle : WorkerBundle) (service : SecretsService)
    (enclave : Secrets platform) :
    SecretsService × Secrets platform × Except AppError Unit :=
  if identities.isEmpty then (service, enclave, .ok ())
  else
    match node.checking.enclaveCheckSecrets enclave
        (identities.map Prod.fst) with
    | .error e =>
        (service, enclave, .error (.service
          ("Failed to check secrets for work order " ++ hash ++ ": " ++ e)))
    | .ok statuses =>
        match bundle.hashSignedPayload codecs node.checkingOrder with
        | .error e =>
            (service, enclave, .error (.validation
              ("Failed to hash worker bundle payload: " ++ e.display)))
        | .ok bundleHash =>
            match bundle.getDsseSignature codecs with
            | .error e =>
                (service, enclave, .error (.validation
                  ("Failed to get worker bundle signature: " ++ e.display)))
            | .ok signature =>
                let missing := missingSecrets node.checking.now statuses
                if missing.isEmpty then (service, enclave, .ok ())
                else
                  fetchMissing node hash
                    { bundleHash := bundleHash, signature := signature }
                    missing service enclave

/-- What a submission leaves behind, with the launch of the work order. -/
structure Outcome (platform : Platform Digest) (codecs : Codecs) where
  service : SecretsService
  enclave : Secrets platform
  launch : Option (Launch platform codecs)
  effects : List Effect
  result : Except AppError String

/-- The submission of some bytes.  `active` is the launch for which the daemon
has entered their hash. -/
def submitWorkOrder (active : Option (Launch platform codecs))
    (service : SecretsService) (enclave : Secrets platform) (bytes : Bytes) :
    Outcome platform codecs :=
  let hash := node.hashWorkOrder bytes
  let refused := fun (service : SecretsService) (enclave : Secrets platform)
      (e : AppError) =>
    ({ service := service
       enclave := enclave
       launch := active
       effects := []
       result := .error e } : Outcome platform codecs)
  match codecs.parseEnvelope bytes with
  | .error e =>
      refused service enclave (.service
        ("Failed to parse WorkOrder DSSE envelope: " ++ e))
  | .ok envelope =>
      if active.isSome then
        { service := service
          enclave := enclave
          launch := active
          effects := []
          result := .ok hash }
      else
        match readPayload node envelope with
        | .error e => refused service enclave e
        | .ok payload =>
            match fetchBundle node payload.worker with
            | .error e => refused service enclave e
            | .ok bundle =>
                match authorizeWorkOrder node.authorizing codecs
                    node.authorizingOrder (orderOf node hash payload.worker)
                    bundle enclave with
                | (enclave, .error e) => refused service enclave e
                | (enclave, .ok ()) =>
                    match ensureSecrets node hash payload.worker.identities
                        bundle service (node.beforeCheck enclave) with
                    | (service, enclave, .error e) =>
                        refused service enclave e
                    | (service, enclave, .ok ()) =>
                        let enclave := node.beforeRun enclave
                        let started :=
                          callRunWorker node hash payload.worker bundle enclave
                        let installation := Installation.submitWorkOrder
                          node.events hash payload.events started.2
                        { service := service
                          enclave := enclave
                          launch := started.1
                          effects := installation.1
                          result := installation.2 }

/-! ## A submission that returns Ok -/

omit [DecidableEq Digest] in
theorem prepared_of_ok {world : World} {hash : String}
    {events : List WorkerEvent} {prepared : Except AppError String}
    {id : String}
    (hok : (Installation.submitWorkOrder world hash events prepared).2 =
      .ok id) : ∃ enclaveWorkerId, prepared = .ok enclaveWorkerId := by
  cases prepared with
  | error e => cases hok
  | ok enclaveWorkerId => exact ⟨enclaveWorkerId, rfl⟩

/-- Where the daemon returns `Ok`, it has started the worker now, or had entered
the hash for a worker before. -/
theorem submitWorkOrder_ok {node : Node platform Policy codecs}
    {active : Option (Launch platform codecs)}
    {service : SecretsService} {enclave : Secrets platform} {bytes : Bytes}
    {id : String}
    (hok : (submitWorkOrder node active service enclave bytes).result =
      .ok id) :
    ∃ launch,
      (submitWorkOrder node active service enclave bytes).launch =
        some launch ∧
      (active = some launch ∨ active = none ∧
        ∃ envelope payload, codecs.parseEnvelope bytes = .ok envelope ∧
          readPayload node envelope = .ok payload ∧
          launch.identities = payload.worker.identities ∧
          launch.enclave =
            (submitWorkOrder node active service enclave bytes).enclave) := by
  unfold submitWorkOrder at hok ⊢
  cases henvelope : codecs.parseEnvelope bytes with
  | error e => simp [henvelope] at hok
  | ok envelope =>
      cases active with
      | some launch =>
          exact ⟨launch, by simp, Or.inl rfl⟩
      | none =>
          simp only [henvelope, Option.isSome_none, Bool.false_eq_true,
            if_false] at hok ⊢
          cases hpayload : readPayload node envelope with
          | error e => simp [hpayload] at hok
          | ok payload =>
              simp only [hpayload] at hok ⊢
              cases hbundle : fetchBundle node payload.worker with
              | error e => simp [hbundle] at hok
              | ok bundle =>
                  simp only [hbundle] at hok ⊢
                  rcases hauthorized : authorizeWorkOrder node.authorizing
                      codecs node.authorizingOrder
                      (orderOf node (node.hashWorkOrder bytes) payload.worker)
                      bundle enclave with ⟨authorized, e | _⟩
                  · simp [hauthorized] at hok
                  · simp only [hauthorized] at hok ⊢
                    rcases hensured : ensureSecrets node
                        (node.hashWorkOrder bytes) payload.worker.identities
                        bundle service (node.beforeCheck authorized) with
                      ⟨service, ensured, e | _⟩
                    · simp [hensured] at hok
                    · simp only [hensured] at hok ⊢
                      obtain ⟨enclaveWorkerId, hstarted⟩ :=
                        prepared_of_ok hok
                      obtain ⟨launch, hlaunch, hidentities, henclave⟩ :=
                        callRunWorker_ok hstarted
                      exact ⟨launch, hlaunch, Or.inr ⟨trivial, envelope, payload,
                        rfl, hpayload, hidentities, henclave⟩⟩

/-- On every submission that returns `Ok`, the worker of the work order has all of
its secrets exactly if, when the enclave started it, each was stored and the
last readable one of its name had the same data. -/
theorem started_complete_iff (node : Node platform Policy codecs)
    (active : Option (Launch platform codecs)) (service : SecretsService)
    (enclave : Secrets platform) {bytes : Bytes} {id : String}
    (hok : (submitWorkOrder node active service enclave bytes).result =
      .ok id) :
    ∃ launch,
      (submitWorkOrder node active service enclave bytes).launch =
        some launch ∧
      (active = some launch ∨ active = none ∧
        ∃ envelope payload, codecs.parseEnvelope bytes = .ok envelope ∧
          readPayload node envelope = .ok payload ∧
          launch.identities = payload.worker.identities ∧
          launch.enclave =
            (submitWorkOrder node active service enclave bytes).enclave) ∧
      (launch.Complete ↔ launch.Served) := by
  obtain ⟨launch, hlaunch, horigin⟩ := submitWorkOrder_ok hok
  exact ⟨launch, hlaunch, horigin, launch.complete_iff⟩

/-! ## Samples -/

/-- The identity with this digit in each limb, under the name `KEY`. -/
def identityText (digit : String) : String :=
  "[\x7b\"chain\":1,\"identity_address\":\"0x" ++
    String.join (List.replicate 40 "0") ++ "\",\"identity_id\":\"0x" ++
    digit ++ "000000000000000" ++ digit ++ "000000000000000" ++ digit ++
    "000000000000000" ++ digit ++ "\"\x7d,\"KEY\"]"

def manifestText (identities : String) : String :=
  "\x7b\"bundle\":\x7b\"source\":\"https://example.com/bundle\"," ++
    "\"hash\":null\x7d,\"identities\":[" ++ identities ++
    "],\"userdata\":\x7b\x7d\x7d"

def orderText (identities : String) : String :=
  "\x7b\"id\":\"order\",\"worker\":" ++ manifestText identities ++
    ",\"events\":[]\x7d"

/-- A work order with its base64. -/
structure SampleOrder where
  identities : List (SecretId × String)
  text : String
  base64 : String

def SampleOrder.envelope (order : SampleOrder) : String :=
  "\x7b\"payload\":\"" ++ order.base64 ++ "\",\"payloadType\":\"" ++
    dsseWorkOrderPayloadType ++ "\",\"signatures\":[\x7b\"sig\":\"\"\x7d]\x7d"

def oneSecret : SampleOrder where
  identities := [(sampleSecretId 7, "KEY")]
  text := identityText "7"
  base64 :=
    "eyJpZCI6Im9yZGVyIiwid29ya2VyIjp7ImJ1bmRsZSI6eyJzb3VyY2UiOiJodHRwcz" ++
      "ovL2V4YW1wbGUuY29tL2J1bmRsZSIsImhhc2giOm51bGx9LCJpZGVudGl0aWVzIjpb" ++
      "W3siY2hhaW4iOjEsImlkZW50aXR5X2FkZHJlc3MiOiIweDAwMDAwMDAwMDAwMDAwMD" ++
      "AwMDAwMDAwMDAwMDAwMDAwMDAwMDAwMDAiLCJpZGVudGl0eV9pZCI6IjB4NzAwMDAw" ++
      "MDAwMDAwMDAwMDcwMDAwMDAwMDAwMDAwMDA3MDAwMDAwMDAwMDAwMDAwNyJ9LCJLRV" ++
      "kiXV0sInVzZXJkYXRhIjp7fX0sImV2ZW50cyI6W119"

/-- Two identities under one name. -/
def sharedName : SampleOrder where
  identities := [(sampleSecretId 7, "KEY"), (sampleSecretId 8, "KEY")]
  text := identityText "7" ++ "," ++ identityText "8"
  base64 :=
    "eyJpZCI6Im9yZGVyIiwid29ya2VyIjp7ImJ1bmRsZSI6eyJzb3VyY2UiOiJodHRwcz" ++
      "ovL2V4YW1wbGUuY29tL2J1bmRsZSIsImhhc2giOm51bGx9LCJpZGVudGl0aWVzIjpb" ++
      "W3siY2hhaW4iOjEsImlkZW50aXR5X2FkZHJlc3MiOiIweDAwMDAwMDAwMDAwMDAwMD" ++
      "AwMDAwMDAwMDAwMDAwMDAwMDAwMDAwMDAiLCJpZGVudGl0eV9pZCI6IjB4NzAwMDAw" ++
      "MDAwMDAwMDAwMDcwMDAwMDAwMDAwMDAwMDA3MDAwMDAwMDAwMDAwMDAwNyJ9LCJLRV" ++
      "kiXSxbeyJjaGFpbiI6MSwiaWRlbnRpdHlfYWRkcmVzcyI6IjB4MDAwMDAwMDAwMDAw" ++
      "MDAwMDAwMDAwMDAwMDAwMDAwMDAwMDAwMDAwMCIsImlkZW50aXR5X2lkIjoiMHg4MD" ++
      "AwMDAwMDAwMDAwMDAwODAwMDAwMDAwMDAwMDAwMDgwMDAwMDAwMDAwMDAwMDA4In0s" ++
      "IktFWSJdXSwidXNlcmRhdGEiOnt9fSwiZXZlbnRzIjpbXX0="

def SampleOrder.manifest (order : SampleOrder) : WorkerManifest where
  bundle := { source := "https://example.com/bundle", hash := none }
  identities := order.identities
  userdata := "\x7b\x7d"

def SampleOrder.orderCodecs (order : SampleOrder) : Codecs :=
  { oneKeyCodecs with
    parseEnvelope := fun bytes =>
      if bytes = utf8 order.envelope then
        .ok {
          payload := order.base64
          payloadType := dsseWorkOrderPayloadType
          signatures := [{ keyId := none, sig := "" }] }
      else oneKeyCodecs.parseEnvelope bytes
    base64Decode := fun encoded =>
      if encoded = order.base64 then .ok (utf8 (orderText order.text))
      else oneKeyCodecs.base64Decode encoded }

def SampleOrder.manifests (order : SampleOrder) : ManifestJson where
  toVec := fun manifest =>
    if manifest = order.manifest then .ok (utf8 (manifestText order.text))
    else .error "not the manifest"
  fromSlice := fun bytes =>
    if bytes = utf8 (manifestText order.text) then .ok order.manifest
    else .error "not the manifest"
  roundTrip := by
    intro manifest bytes hbytes
    split_ifs at hbytes with hmanifest
    rw [← Except.ok.inj hbytes, if_pos rfl, hmanifest]

def startPlatform : Platform Bytes := symbolicPlatform [padKey [1]] []

/-- A node whose enclave starts the worker at a clock reading. -/
def SampleOrder.nodeAt (order : SampleOrder) (now : ℕ) :
    Node startPlatform Unit order.orderCodecs where
  hashWorkOrder := fun _ => "order"
  parseWorkOrder := fun bytes =>
    if bytes = utf8 (orderText order.text) then
      .ok { worker := order.manifest, events := [] }
    else .error "not the payload"
  manifests := order.manifests
  fetchWorkerBundle := fun _ =>
    .ok { bytes := utf8 (envelopeText oneKeyBase64) }
  debugIdentityId := fun _ => "identity"
  debugError := displayAppError
  statusText := fun _ => "status"
  vmAttached := fun vmId => vmId = "nxcc/workerd"
  authorizing := sampleEnv [1] 5 9
  checking := sampleEnv [1] 6 9
  fetching := sampleEnv [1] 6 9
  authorizingOrder := listedOrder
  checkingOrder := listedOrder
  beforeCheck := id
  beforeFetch := id
  awaited := .ok ()
  beforeRun := id
  runWorkerRpc := .answered
  runner := {
    clock := .still now
    report := .ok (symbolicReport (padKey [1])).attestation
    iteration := listedOrder
    vms := fun vmId =>
      if vmId = "nxcc/workerd" then some fun request => .ok request.workerId
      else none }
  events := openWorld

/-- An enclave that stores the identities 7 and 8. -/
def startEnclave : Secrets startPlatform where
  ephemeralKxKeypair := symbolicKeyPair _ _ [1]
  secretsStorage := fun secretId =>
    if secretId = sampleSecretId 7 then
      some { data := [1], expiry := 0, generationTimestamp := 1 }
    else if secretId = sampleSecretId 8 then
      some { data := [2], expiry := 0, generationTimestamp := 1 }
    else none
  authorizations := fun _ => none

def SampleOrder.outcome (order : SampleOrder) (now : ℕ) :
    Outcome startPlatform order.orderCodecs :=
  submitWorkOrder (order.nodeAt now) none .new startEnclave
    (utf8 order.envelope)

/-- One stored secret, authorized and in time. -/
theorem started_complete_sample :
    ∃ launch, (oneSecret.outcome 7).launch = some launch ∧
      launch.Complete := by
  have hruns : ((oneSecret.outcome 7).result,
      (oneSecret.outcome 7).launch.map fun launch =>
        (launch.identities,
          (launch.readable (sampleSecretId 7)).isSome)) =
      (.ok "order", some ([(sampleSecretId 7, "KEY")], true)) := by
    decide +kernel
  obtain ⟨hok, hfields⟩ := Prod.mk.inj hruns
  obtain ⟨launch, hlaunch, -, hiff⟩ := started_complete_iff
    (oneSecret.nodeAt 7) none .new startEnclave hok
  have hlaunch : (oneSecret.outcome 7).launch = some launch := hlaunch
  rw [hlaunch] at hfields
  obtain ⟨hidentities, hread⟩ := Prod.mk.inj (Option.some.inj hfields)
  have hone : launch.identities = [(sampleSecretId 7, "KEY")] := hidentities
  refine ⟨launch, hlaunch,
    hiff.mpr ((Launch.served_iff_of_nodup (by simp [hone])).mpr ?_)⟩
  intro secretId name hmem
  rw [hone, List.mem_singleton] at hmem
  rw [(Prod.mk.inj hmem).1]
  exact hread

/-- The identity 7 is stored with `[1]` and named `KEY`. -/
theorem SampleOrder.incomplete {order : SampleOrder} {now : ℕ}
    {bound : Option Bytes} (hbound : bound ≠ some [1])
    (hruns : ((order.outcome now).result,
      (order.outcome now).launch.map fun launch =>
        (launch.identities.contains (sampleSecretId 7, "KEY"),
          (launch.enclave.secretsStorage (sampleSecretId 7)).map
            StoredSecret.data,
          launch.request.secrets "KEY")) =
      (.ok "order", some (true, some [1], bound))) :
    (order.outcome now).result = .ok "order" ∧
      ∃ launch, (order.outcome now).launch = some launch ∧
        launch.request.secrets "KEY" = bound ∧ ¬launch.Complete := by
  obtain ⟨hok, hlaunch⟩ := Prod.mk.inj hruns
  obtain ⟨launch, hsome, hfields⟩ := Option.map_eq_some_iff.mp hlaunch
  obtain ⟨hidentities, hrest⟩ := Prod.mk.inj hfields
  obtain ⟨hstored, hkey⟩ := Prod.mk.inj hrest
  refine ⟨hok, launch, hsome, hkey, fun hcomplete => hbound ?_⟩
  obtain ⟨stored, hfound, hcarried⟩ := hcomplete (sampleSecretId 7) "KEY"
    (List.contains_iff_mem.mp hidentities)
  rw [hfound, Option.map_some, Option.some.injEq] at hstored
  rw [← hkey, hcarried, hstored]

/-- Two submissions that return `Ok`: a worker with one of two secrets of one name,
and a worker without its secret, started after its authorization expired. -/
theorem started_incomplete :
    ((sharedName.outcome 7).result = .ok "order" ∧
      ∃ launch, (sharedName.outcome 7).launch = some launch ∧
        launch.request.secrets "KEY" = some [2] ∧ ¬launch.Complete) ∧
    (oneSecret.outcome 4000).result = .ok "order" ∧
      ∃ launch, (oneSecret.outcome 4000).launch = some launch ∧
        launch.request.secrets "KEY" = none ∧ ¬launch.Complete :=
  ⟨SampleOrder.incomplete (by decide) (by decide +kernel),
    SampleOrder.incomplete (by decide) (by decide +kernel)⟩

end NxccBridge.WorkerStart
