import NxccBridge.Enclave.Secrets

/-!
# The daemon's secrets service

`node/daemon/src/services/secrets.rs`, function by function.  A call takes what
its environment answers and threads the state of the enclave, which it changes
through the policies it runs and the secrets it stores.  The handlers that hold
the lock on the pending map run to their end in one step.  Hash maps and sets
are lists in the order of their iteration; the request counter does not wrap.
-/

namespace NxccBridge.DaemonSecrets

open Function
open NxccBridge.Framing
open NxccBridge.Interface
open NxccBridge.Crypto
open NxccBridge.EnclaveSecrets

inductive AppError
  | io (message : String)
  | network (message : String)
  | identity (message : String)
  | service (message : String)
  | internal (message : String)
  | validation (message : String)
  | authorization (message : String)
  deriving DecidableEq

/-- Threshold for number of valid responses needed per secret (currently
request-level). -/
def responseThreshold : ℕ := 1

/-- A request that waits for responses.  A consumer is registered for exactly
the requested identifiers. -/
structure PendingRequest where
  requestedIds : List SecretId
  consumersById : SecretId → Option ConsumerInfo
  collectedBundles : List (SecretsBox × EnvReport)
  responseCount : ℕ
  threshold : ℕ
  registered : ∀ secretId,
    secretId ∈ requestedIds ↔ (consumersById secretId).isSome = true

abbrev Pending := ℕ → Option PendingRequest

structure SecretsService where
  pending : Pending
  requestCounter : ℕ

/-- `SecretsService::new`. -/
def SecretsService.new : SecretsService where
  pending := fun _ => none
  requestCounter := 0

/-! ## The environment of a call -/

/-- How a call to the enclave ends: answered, or with the reply lost after the
enclave acted, or before. -/
inductive Rpc
  | answered
  | lost (message : String)
  | failed (message : String)

/-- One call to the enclave, with the clock as the enclave reads it. -/
structure EnclaveCall where
  rpc : Rpc
  clock : CallClock

/-- How the execution of a policy ends.  The enclave may have stored the
authorization of an execution that the daemon sees fail. -/
inductive PolicyRun
  | satisfied (timestamp : ℕ)
  | denied
  | failed (error : AppError) (stored : Option ℕ)

/-- What one call of the daemon meets: the policy manager, the runner, the own
report, the clocks and the fate of the calls to the enclave. -/
structure Env (Policy : Type*) where
  debug : SecretId → String
  getPolicy : SecretId → Except AppError Policy
  execute : Policy → EnvReport → SecretId → ConsumerInfo → PolicyRun
  ownEnvReport : Except AppError EnvReport
  now : ℕ
  checkSecrets : EnclaveCall
  getSecrets : EnclaveCall
  putSecrets : EnclaveCall
  generateSecrets : EnclaveCall
  attestation : AttestationOracle
  nonce : Nonce
  enclaveReport : Except String AttestationBundle
  entropy : SecretId → Except String Bytes

variable {Digest : Type*} [DecidableEq Digest] {platform : Platform Digest}
variable {Policy : Type*}

/-- The state and the reply of a call that would do `outcome`. -/
def Rpc.reply {A : Type*} (rpc : Rpc) (enclave : Secrets platform)
    (outcome : Secrets platform × Except String A) :
    Secrets platform × Except String A :=
  match rpc with
  | .answered => outcome
  | .lost message => (outcome.1, .error message)
  | .failed message => (enclave, .error message)

/-- `EnclaveClient::check_secrets`. -/
def Env.enclaveCheckSecrets (env : Env Policy) (enclave : Secrets platform)
    (ids : List SecretId) : Except String (List (SecretId × Bool × ℕ)) :=
  (env.checkSecrets.rpc.reply enclave
    (enclave, .ok (enclave.checkSecrets env.checkSecrets.clock.now ids))).2

/-- `EnclaveClient::get_secrets`. -/
def Env.enclaveGetSecrets (env : Env Policy) (enclave : Secrets platform)
    (requests : List (SecretId × ConsumerInfo)) (requester : EnvReport) :
    Except String SecretsBox :=
  (env.getSecrets.rpc.reply enclave
    (enclave, enclave.getSecrets env.getSecrets.clock env.attestation env.nonce
      requests requester)).2

/-- `EnclaveClient::put_secrets`. -/
def Env.enclavePutSecrets (env : Env Policy) (enclave : Secrets platform)
    (bundles : List SecretsBundle) : Secrets platform × Except String Bool :=
  env.putSecrets.rpc.reply enclave
    (enclave.putSecrets env.putSecrets.clock env.attestation bundles)

/-- `EnclaveClient::generate_secrets`. -/
def Env.enclaveGenerateSecrets (env : Env Policy) (enclave : Secrets platform)
    (requests : List (SecretId × ConsumerInfo)) :
    Secrets platform × Except String Unit :=
  let outcome := enclave.generateSecrets env.generateSecrets.clock
    env.enclaveReport (requests.map fun (secretId, consumer) =>
      (secretId, consumer, env.entropy secretId))
  env.generateSecrets.rpc.reply enclave
    (outcome.1, outcome.2.mapError (GenerateError.display env.debug))

/-- The report that the enclave files for a satisfied policy. -/
def policyReport (envReport : EnvReport) (secretId : SecretId)
    (consumer : ConsumerInfo) (timestamp : ℕ) : PolicyExecutionReport where
  request := {
    secretIds := [secretId]
    consumer := consumer
    envReport := envReport }
  decision := true
  timestamp := timestamp

/-- `RunnerService::check_policy_for_env` of the daemon. -/
def Env.checkPolicyForEnv (env : Env Policy) (enclave : Secrets platform)
    (policy : Policy) (envReport : EnvReport) (secretId : SecretId)
    (consumer : ConsumerInfo) : Secrets platform × Except AppError Bool :=
  let store := fun timestamp => enclave.storeAuthorization
    (policyReport envReport secretId consumer timestamp)
  match env.execute policy envReport secretId consumer with
  | .satisfied timestamp => (store timestamp, .ok true)
  | .denied => (enclave, .ok false)
  | .failed error none => (enclave, .error error)
  | .failed error (some timestamp) => (store timestamp, .error error)

/-- A satisfied policy leaves its report with the enclave. -/
theorem checkPolicyForEnv_ok_true {env : Env Policy}
    {enclave : Secrets platform} {policy : Policy} {envReport : EnvReport}
    {secretId : SecretId} {consumer : ConsumerInfo} {after : Secrets platform}
    (hallowed : env.checkPolicyForEnv enclave policy envReport secretId
      consumer = (after, .ok true)) :
    ∃ timestamp,
      env.execute policy envReport secretId consumer = .satisfied timestamp ∧
      after = enclave.storeAuthorization
        (policyReport envReport secretId consumer timestamp) := by
  unfold Env.checkPolicyForEnv at hallowed
  cases hrun : env.execute policy envReport secretId consumer with
  | satisfied timestamp =>
      simp only [hrun, Prod.mk.injEq] at hallowed
      exact ⟨timestamp, rfl, hallowed.1.symm⟩
  | denied => simp [hrun] at hallowed
  | failed error stored => cases stored <;> simp [hrun] at hallowed

/-- `Debug` of a `Vec<u8>`. -/
def debugBytes (bytes : Bytes) : String :=
  "[" ++ String.intercalate ", " (bytes.map fun byte => toString byte.val) ++ "]"

abbrev Requests := List (SecretId × List SecretRequest)

/-- The identifiers that a status list reports found and unexpired. -/
def foundSet (now : ℕ) (statuses : List (SecretId × Bool × ℕ)) :
    List SecretId :=
  statuses.filterMap fun (secretId, found, expiry) =>
    if found && unexpired expiry now then some secretId else none

/-- Check which secrets are locally available in the enclave: the identifiers
that are, and the requests for the others. -/
def checkLocal (env : Env Policy) (enclave : Secrets platform)
    (requests : Requests) : Except AppError (List SecretId × Requests) :=
  if requests.isEmpty then .ok ([], [])
  else
    match env.enclaveCheckSecrets enclave (requests.map Prod.fst) with
    | .error e => .error (.service ("check_secrets failed: " ++ e))
    | .ok statuses =>
        let localSet := foundSet env.now statuses
        .ok
          ((requests.filter fun request => request.1 ∈ localSet).map Prod.fst,
            requests.filter fun request => request.1 ∉ localSet)

/-- Gather local secrets for an inbound request from a peer. -/
def gatherLocal (env : Env Policy) (enclave : Secrets platform)
    (requests : Requests) : List SecretId :=
  if requests.isEmpty then []
  else
    match env.enclaveCheckSecrets enclave (requests.map Prod.fst) with
    | .error _ => []
    | .ok statuses => foundSet env.now statuses

/-! ## Requesting -/

/-- The consumer of the first request for an identifier. -/
def firstConsumer (requests : Requests) (secretId : SecretId) :
    Option ConsumerInfo :=
  (requests.find? fun request => request.1 = secretId).bind fun request =>
    request.2.head?.map SecretRequest.consumer

theorem firstConsumer_isSome_iff {requests : Requests}
    (hnonempty : requests.find? (fun request => request.2.isEmpty) = none)
    (secretId : SecretId) :
    secretId ∈ requests.map Prod.fst ↔
      (firstConsumer requests secretId).isSome = true := by
  rw [List.find?_eq_none] at hnonempty
  unfold firstConsumer
  cases hfind : requests.find? fun request => request.1 = secretId with
  | none =>
      rw [List.find?_eq_none] at hfind
      simp only [Option.bind_none, Option.isSome_none, Bool.false_eq_true,
        iff_false, List.mem_map, not_exists, not_and]
      exact fun request hmem => by simpa using hfind request hmem
  | some request =>
      have hmem := List.mem_of_find?_eq_some hfind
      have hid : request.1 = secretId := by
        simpa using List.find?_some hfind
      have hvec := hnonempty request hmem
      refine iff_of_true (List.mem_map.mpr ⟨request, hmem, hid⟩) ?_
      cases hhead : request.2 with
      | nil => simp [hhead] at hvec
      | cons first rest => simp [hhead]

/-- The pending entry for the missing requests. -/
def newPending (debug : SecretId → String) (missing : Requests) :
    Except AppError PendingRequest :=
  match hempty : missing.find? fun request => request.2.isEmpty with
  | some request =>
      .error (.internal
        ("No consumer info found for secret ID: " ++ debug request.1))
  | none =>
      .ok {
        requestedIds := missing.map Prod.fst
        consumersById := firstConsumer missing
        collectedBundles := []
        responseCount := 0
        threshold := responseThreshold
        registered := firstConsumer_isSome_iff hempty }

/-- The loop that checks, for every missing secret, that this node may request
it for the registered consumer. -/
def authorizeSelf (env : Env Policy) (selfEnvReport : EnvReport)
    (consumersById : SecretId → Option ConsumerInfo) :
    List SecretId → Secrets platform → Secrets platform × Except AppError Unit
  | [], enclave => (enclave, .ok ())
  | secretId :: secretIds, enclave =>
      match env.getPolicy secretId with
      | .error e => (enclave, .error e)
      | .ok policy =>
          match consumersById secretId with
          | none =>
              (enclave, .error (.internal
                ("ConsumerInfo missing for secret " ++ env.debug secretId)))
          | some consumer =>
              match env.checkPolicyForEnv enclave policy selfEnvReport secretId
                  consumer with
              | (enclave, .error e) => (enclave, .error e)
              | (enclave, .ok false) =>
                  (enclave, .error (.service
                    ("Policy denied for self to request secret " ++
                      env.debug secretId ++ " for consumer bundle_hash " ++
                      debugBytes consumer.bundleHash)))
              | (enclave, .ok true) =>
                  authorizeSelf env selfEnvReport consumersById secretIds
                    enclave

inductive GossipMessage
  | secretBatchRequest (requestId : ℕ) (secretRequests : Requests)
      (envReport : EnvReport)
  | secretBatchResponse (requestId : ℕ) (secretsBox : SecretsBox)
      (responderEnvReport : EnvReport)
  deriving DecidableEq

/-- A request entered in the pending map under the next identifier. -/
def SecretsService.insertPending (self : SecretsService)
    (entry : PendingRequest) : SecretsService where
  pending := update self.pending (self.requestCounter + 1) (some entry)
  requestCounter := self.requestCounter + 1

/-- `get_secrets` up to the point where it waits for its responder: an error, or
nothing to do, or a pending request with the message to publish. -/
def SecretsService.getSecrets (self : SecretsService) (env : Env Policy)
    (enclave : Secrets platform) (secretRequests : Requests)
    (callerEnvReport : EnvReport) :
    SecretsService × Secrets platform ×
      Except AppError (Option GossipMessage) :=
  match checkLocal env enclave secretRequests with
  | .error e => (self, enclave, .error e)
  | .ok (_, missing) =>
      if missing.isEmpty then (self, enclave, .ok none)
      else
        match newPending env.debug missing with
        | .error e => (self, enclave, .error e)
        | .ok entry =>
            match env.ownEnvReport with
            | .error e => (self, enclave, .error e)
            | .ok selfEnvReport =>
                match authorizeSelf env selfEnvReport entry.consumersById
                    entry.requestedIds enclave with
                | (enclave, .error e) => (self, enclave, .error e)
                | (enclave, .ok ()) =>
                    (self.insertPending entry, enclave,
                      .ok (some (.secretBatchRequest (self.requestCounter + 1)
                        missing callerEnvReport)))

/-- A fresh entry has collected nothing. -/
theorem newPending_ok {debug : SecretId → String} {missing : Requests}
    {entry : PendingRequest} (hentry : newPending debug missing = .ok entry) :
    entry.requestedIds = missing.map Prod.fst ∧
      entry.consumersById = firstConsumer missing ∧
      entry.collectedBundles = [] ∧ entry.responseCount = 0 ∧
      entry.threshold = responseThreshold := by
  unfold newPending at hentry
  split at hentry
  · cases hentry
  · obtain rfl := Except.ok.inj hentry
    exact ⟨rfl, rfl, rfl, rfl, rfl⟩

/-- Either nothing becomes of a call, or every check in it passes and it enters
a pending request and publishes it under the identifier of the entry. -/
theorem getSecrets_cases (self : SecretsService) (env : Env Policy)
    (enclave : Secrets platform) (secretRequests : Requests)
    (callerEnvReport : EnvReport) :
    (∃ after outcome,
      self.getSecrets env enclave secretRequests callerEnvReport =
        (self, after, outcome) ∧ ∀ message, outcome ≠ .ok (some message)) ∨
    ∃ localIds missing entry selfEnvReport after,
      checkLocal env enclave secretRequests = .ok (localIds, missing) ∧
      missing.isEmpty = false ∧
      newPending env.debug missing = .ok entry ∧
      env.ownEnvReport = .ok selfEnvReport ∧
      authorizeSelf env selfEnvReport entry.consumersById entry.requestedIds
        enclave = (after, .ok ()) ∧
      self.getSecrets env enclave secretRequests callerEnvReport =
        (self.insertPending entry, after,
          .ok (some (.secretBatchRequest (self.requestCounter + 1) missing
            callerEnvReport))) := by
  unfold SecretsService.getSecrets
  cases checkLocal env enclave secretRequests with
  | error e => exact Or.inl ⟨enclave, _, rfl, by simp⟩
  | ok split =>
      obtain ⟨localIds, missing⟩ := split
      dsimp only
      split_ifs with hempty
      · exact Or.inl ⟨enclave, _, rfl, by simp⟩
      · cases hentry : newPending env.debug missing with
        | error e => exact Or.inl ⟨enclave, _, rfl, by simp⟩
        | ok entry =>
            cases env.ownEnvReport with
            | error e => exact Or.inl ⟨enclave, _, rfl, by simp⟩
            | ok selfEnvReport =>
                dsimp only
                cases hallowed : authorizeSelf env selfEnvReport
                    entry.consumersById entry.requestedIds enclave with
                | mk after outcome =>
                    cases outcome with
                    | error e => exact Or.inl ⟨after, _, rfl, by simp⟩
                    | ok allowed =>
                        exact Or.inr ⟨localIds, missing, entry, selfEnvReport,
                          after, rfl, Bool.eq_false_iff.mpr hempty, hentry,
                          rfl, hallowed, rfl⟩

/-! ## Responses -/

/-- The policy loop over a response: `ok true` for a valid one, `ok false` where
the loop breaks, an error where it returns early. -/
def checkResponse (env : Env Policy) (requestId : ℕ) (entry : PendingRequest)
    (envReport : EnvReport) :
    List SecretId → Secrets platform → Secrets platform × Except AppError Bool
  | [], enclave => (enclave, .ok true)
  | secretId :: secretIds, enclave =>
      match env.getPolicy secretId with
      | .error e => (enclave, .error e)
      | .ok policy =>
          match entry.consumersById secretId with
          | none =>
              (enclave, .error (.internal
                ("ConsumerInfo missing for secret " ++ env.debug secretId ++
                  " in pending request " ++ toString requestId)))
          | some consumer =>
              match env.checkPolicyForEnv enclave policy envReport secretId
                  consumer with
              | (enclave, .ok false) => (enclave, .ok false)
              | (enclave, .error _) => (enclave, .ok false)
              | (enclave, .ok true) =>
                  checkResponse env requestId entry envReport secretIds enclave

/-- A valid response is stored with the report of its sender. -/
def PendingRequest.collect (entry : PendingRequest) (secretsBox : SecretsBox)
    (envReport : EnvReport) : PendingRequest :=
  { entry with
    collectedBundles := entry.collectedBundles ++ [(secretsBox, envReport)]
    responseCount := entry.responseCount + 1 }

/-- Called when we receive a p2p secrets response: the new map, the request
handed to `finalize_request_threshold` if this response met its threshold, and
what the call returns. -/
def handleIncomingSecretBatchResponse (env : Env Policy)
    (enclave : Secrets platform) (pending : Pending) (requestId : ℕ)
    (secretsBox : SecretsBox) (envReport : EnvReport) :
    Secrets platform × Pending × Option PendingRequest × Except AppError Unit :=
  match pending requestId with
  | none => (enclave, pending, none, .ok ())
  | some entry =>
      match checkResponse env requestId entry envReport
          secretsBox.containedSecretIds enclave with
      | (enclave, .error e) => (enclave, pending, none, .error e)
      | (enclave, .ok false) => (enclave, pending, none, .ok ())
      | (enclave, .ok true) =>
          let collected := entry.collect secretsBox envReport
          if collected.responseCount ≥ collected.threshold then
            (enclave, update pending requestId none, some collected, .ok ())
          else
            (enclave, update pending requestId (some collected), none, .ok ())

/-- What the timeout task of a request does to the map, and the request it hands
to `finalize_request_timeout`. -/
def timeoutReached (pending : Pending) (requestId : ℕ) :
    Pending × Option PendingRequest :=
  match pending requestId with
  | none => (pending, none)
  | some entry =>
      if entry.responseCount < entry.threshold then
        (update pending requestId none, some entry)
      else (pending, none)

/-! ## Answering -/

/-- The loop that finds the consumers for which the policies let the requester
have the secrets. -/
def authorizeRequester (env : Env Policy) (requesterEnvReport : EnvReport)
    (requests : Requests) :
    List SecretId → Secrets platform →
      Secrets platform × List (SecretId × ConsumerInfo)
  | [], enclave => (enclave, [])
  | secretId :: secretIds, enclave =>
      match firstConsumer requests secretId with
      | none =>
          authorizeRequester env requesterEnvReport requests secretIds enclave
      | some consumer =>
          match env.getPolicy secretId with
          | .error _ =>
              authorizeRequester env requesterEnvReport requests secretIds
                enclave
          | .ok policy =>
              match env.checkPolicyForEnv enclave policy requesterEnvReport
                  secretId consumer with
              | (enclave, .ok true) =>
                  let rest := authorizeRequester env requesterEnvReport requests
                    secretIds enclave
                  (rest.1, (secretId, consumer) :: rest.2)
              | (enclave, _) =>
                  authorizeRequester env requesterEnvReport requests secretIds
                    enclave

/-- Called when we receive a p2p secrets request: a box and our report if local
secrets are found. -/
def handleIncomingSecretBatchRequest (env : Env Policy)
    (enclave : Secrets platform) (requests : Requests)
    (requesterEnvReport : EnvReport) :
    Secrets platform × Option (SecretsBox × EnvReport) :=
  let found := gatherLocal env enclave requests
  if found.isEmpty then (enclave, none)
  else
    match authorizeRequester env requesterEnvReport requests found enclave with
    | (enclave, authorized) =>
        if authorized.isEmpty then (enclave, none)
        else
          match env.enclaveGetSecrets enclave authorized requesterEnvReport with
          | .error _ => (enclave, none)
          | .ok secretsBox =>
              match env.ownEnvReport with
              | .ok report => (enclave, some (secretsBox, report))
              | .error _ => (enclave, none)

/-! ## Finalization -/

/-- Checks if all requested secrets are present in the enclave; the result goes
to the responder. -/
def checkAndRespond (env : Env Policy) (enclave : Secrets platform)
    (requestId : ℕ) (requestedIds : List SecretId) : Except AppError Unit :=
  match env.enclaveCheckSecrets enclave requestedIds with
  | .error e =>
      .error (.service
        ("Failed final check_secrets for request " ++ toString requestId ++
          ": " ++ e))
  | .ok statuses =>
      let found := foundSet env.now statuses
      if requestedIds.all fun secretId => secretId ∈ found then .ok ()
      else
        .error (.service
          ("Failed to confirm all secrets in enclave for request " ++
            toString requestId))

/-- The bundles for `put_secrets`: the consumer is that of the first identifier
listed on the box. -/
def bundlesForEnclave (entry : PendingRequest) : List SecretsBundle :=
  entry.collectedBundles.filterMap fun (secretsBox, envReport) =>
    match secretsBox.containedSecretIds.head? with
    | none => none
    | some first =>
        (entry.consumersById first).map fun consumer =>
          (secretsBox, envReport, consumer)

/-- Processes collected bundles, puts them into the enclave, checks the final
status; the result is what goes to the responder. -/
def finalizeRequestThreshold (env : Env Policy) (enclave : Secrets platform)
    (requestId : ℕ) (entry : PendingRequest) :
    Secrets platform × Except AppError Unit :=
  if entry.collectedBundles.isEmpty then
    (enclave, .error (.service
      ("No bundles collected for request " ++ toString requestId)))
  else
    match env.enclavePutSecrets enclave (bundlesForEnclave entry) with
    | (enclave, .ok true) =>
        (enclave, checkAndRespond env enclave requestId entry.requestedIds)
    | (enclave, .ok false) =>
        (enclave, .error (.service
          ("Enclave failed to store secrets for request " ++
            toString requestId)))
    | (enclave, .error e) =>
        (enclave, .error (.service
          ("Enclave put_secrets failed for request " ++ toString requestId ++
            ": " ++ e)))

/-- The pairs that the timeout generates. -/
def idsToGenerate (entry : PendingRequest) : List (SecretId × ConsumerInfo) :=
  entry.requestedIds.filterMap fun secretId =>
    (entry.consumersById secretId).map fun consumer => (secretId, consumer)

/-- The self-authorization loop of `generate_secrets_flow`; a denial goes on, an
error returns. -/
def selfAuthorize (env : Env Policy) (selfEnvReport : EnvReport) :
    List (SecretId × ConsumerInfo) → Secrets platform →
      Secrets platform × Except AppError Unit
  | [], enclave => (enclave, .ok ())
  | (secretId, consumer) :: requests, enclave =>
      match env.getPolicy secretId with
      | .error e => (enclave, .error e)
      | .ok policy =>
          match env.checkPolicyForEnv enclave policy selfEnvReport secretId
              consumer with
          | (enclave, .error e) => (enclave, .error e)
          | (enclave, .ok _) =>
              selfAuthorize env selfEnvReport requests enclave

/-- Orchestrates the secret generation flow for a list of pairs. -/
def generateSecretsFlow (env : Env Policy) (enclave : Secrets platform)
    (requests : List (SecretId × ConsumerInfo)) :
    Secrets platform × Except AppError Unit :=
  if requests.isEmpty then (enclave, .ok ())
  else
    match env.ownEnvReport with
    | .error e => (enclave, .error e)
    | .ok selfEnvReport =>
        match selfAuthorize env selfEnvReport requests enclave with
        | (enclave, .error e) => (enclave, .error e)
        | (enclave, .ok ()) =>
            match env.enclaveGenerateSecrets enclave requests with
            | (enclave, .ok ()) => (enclave, .ok ())
            | (enclave, .error e) =>
                (enclave,
                  .error (.service ("Enclave generate_secrets failed: " ++ e)))

/-- Finalizes a request after timeout, attempting generation; the result is what
goes to the responder. -/
def finalizeRequestTimeout (env : Env Policy) (enclave : Secrets platform)
    (requestId : ℕ) (entry : PendingRequest) :
    Secrets platform × Except AppError Unit :=
  let requests := idsToGenerate entry
  if requests.isEmpty && !entry.requestedIds.isEmpty then
    (enclave, .error (.internal "No valid consumers for generation"))
  else
    match generateSecretsFlow env enclave requests with
    | (enclave, .ok ()) =>
        (enclave, checkAndRespond env enclave requestId entry.requestedIds)
    | (enclave, .error e) => (enclave, .error e)

end NxccBridge.DaemonSecrets
