import NxccBridge.Core.Services
import NxccBridge.Enclave.Release
import NxccBridge.Interface.Proto
import NxccBridge.Vm.StopWorker

/-!
# Calls of the secrets service

The secrets half of `node/enclave/src/grpc.rs` and of
`node/daemon/src/grpc/enclave_client.rs`: the messages of a call, the service
that reads them and the client that writes them.  Calls reach the enclave as if
it were called directly, but for two values that have no message of their own: an
empty list of gateways is refused, and an empty list of certificates is read as
none.
-/

namespace NxccBridge.SecretsRpc

open NxccBridge.Framing
open NxccBridge.Interface
open NxccBridge.Crypto
open NxccBridge.EnclaveSecrets
open NxccBridge.RoundTrip
open NxccBridge.Services
open NxccBridge.StopWorker (Status)

variable {Digest : Type*} {platform : Platform Digest}

/-! ## Messages -/

structure SecretsBundleMessage where
  secretsBox : Option Proto.SecretsBox
  envReport : Option Proto.EnvReport
  consumerInfo : Option Proto.ConsumerInfo

structure PutSecretsRequest where
  secretsBundles : List SecretsBundleMessage

structure PutSecretsResponse where
  success : Bool

structure GetSecretsRequest where
  requests : List Proto.SecretRequest
  requesterEnvReport : Option Proto.EnvReport

structure GetSecretsResponse where
  secretsBox : Option Proto.SecretsBox

structure CheckSecretsRequest where
  ids : List Proto.SecretIdentifier

structure SecretStatus where
  id : Option Proto.SecretIdentifier
  found : Bool
  expiry : ℕ

structure CheckSecretsResponse where
  statuses : List SecretStatus

structure GenerateSecretsRequest where
  requests : List Proto.SecretRequest

/-! ## Direct calls -/

/-- What the enclave meets when a call reaches it: its clock, the attestation
service, its own report and its source of entropy. -/
structure Moment where
  clock : CallClock
  attestation : AttestationOracle
  nonce : Nonce
  report : Except String AttestationBundle
  entropy : SecretId → Except String Bytes

inductive SecretsCall
  | getReport
  | putSecrets (bundles : List SecretsBundle)
  | getSecrets (requests : List (SecretId × ConsumerInfo))
      (requester : EnvReport)
  | checkSecrets (ids : List SecretId)
  | generateSecrets (requests : List (SecretId × ConsumerInfo))

inductive SecretsAnswer
  | report (bundle : AttestationBundle)
  | success (added : Bool)
  | secretsBox (secretsBox : SecretsBox)
  | statuses (statuses : List (SecretId × Bool × ℕ))
  | generated
  deriving DecidableEq

section Direct

variable (debug : SecretId → String)

def generate (moment : Moment) (self : Secrets platform)
    (requests : List (SecretId × ConsumerInfo)) :
    Secrets platform × Except String Unit :=
  let generated := self.generateSecrets moment.clock moment.report
    (requests.map fun request =>
      (request.1, request.2, moment.entropy request.1))
  (generated.1, generated.2.mapError (GenerateError.display debug))

/-- The methods of `Secrets`. -/
def execute (self : Secrets platform) (call : Moment × SecretsCall) :
    Secrets platform × Except String SecretsAnswer :=
  match call.2 with
  | .getReport => (self, call.1.report.map .report)
  | .putSecrets bundles =>
      let put := self.putSecrets call.1.clock call.1.attestation bundles
      (put.1, put.2.map .success)
  | .getSecrets requests requester =>
      (self, (self.getSecrets call.1.clock call.1.attestation call.1.nonce
        requests requester).map .secretsBox)
  | .checkSecrets ids =>
      (self, .ok (.statuses (self.checkSecrets call.1.clock.now ids)))
  | .generateSecrets requests =>
      let generated := generate debug call.1 self requests
      (generated.1, generated.2.map fun _ => .generated)

end Direct

/-! ## The service -/

def invalidArgument {Value : Type} (message : String) : Except Status Value :=
  .error ⟨.invalidArgument, message⟩

/-- A field that has to be there. -/
def required {Value : Type} (message : String) :
    Option Value → Except Status Value
  | some value => .ok value
  | none => invalidArgument message

/-- A field that has to be read. -/
def converted {Value : Type} (name : String) :
    Except ConversionError Value → Except Status Value
  | .ok value => .ok value
  | .error e => invalidArgument ("Invalid " ++ name ++ ": " ++ e.display)

namespace SecretsGrpcService

section Service

variable (text : TextForms) (debug : SecretId → String)
variable (moment : Moment) (self : Secrets platform)

def getReport : Secrets platform × Except Status Proto.AttestationBundle :=
  (self, match moment.report with
    | .ok report => .ok report.intoProto
    | .error e => .error ⟨.internal, "Failed to get report: " ++ e⟩)

/-- The body of the loop of `put_secrets`. -/
def readBundle (bundle : SecretsBundleMessage) :
    Except Status SecretsBundle := do
  let secretsBox ← required "Missing SecretsBox in bundle" bundle.secretsBox
  let secretsBox ← converted "SecretsBox"
    (SecretsBox.tryFromProto text secretsBox)
  let envReport ← required "Missing EnvReport in bundle" bundle.envReport
  let envReport ← converted "EnvReport" (EnvReport.tryFromProto envReport)
  let consumerInfo ← required "Missing ConsumerInfo in bundle"
    (bundle.consumerInfo.map ConsumerInfo.fromProto)
  .ok (secretsBox, envReport, consumerInfo)

def putSecrets (request : PutSecretsRequest) :
    Secrets platform × Except Status PutSecretsResponse :=
  match request.secretsBundles.mapM (readBundle text) with
  | .error status => (self, .error status)
  | .ok bundles =>
      let put := self.putSecrets moment.clock moment.attestation bundles
      (put.1, match put.2 with
        | .ok success => .ok ⟨success⟩
        | .error e => .error ⟨.internal, "Failed to put secrets: " ++ e⟩)

def readRequests (requests : List Proto.SecretRequest) :
    Except Status (List (SecretId × ConsumerInfo)) := do
  let requests ← requests.mapM fun request =>
    converted "SecretRequest" (SecretRequest.tryFromProto text request)
  .ok (requests.map fun request => (request.secretId, request.consumer))

def getSecrets (request : GetSecretsRequest) :
    Secrets platform × Except Status GetSecretsResponse :=
  let read : Except Status (List (SecretId × ConsumerInfo) × EnvReport) := do
    let requests ← readRequests text request.requests
    let requester ← required "Missing requester_env_report"
      request.requesterEnvReport
    let requester ← converted "EnvReport" (EnvReport.tryFromProto requester)
    .ok (requests, requester)
  match read with
  | .error status => (self, .error status)
  | .ok (requests, requester) =>
      (self, match self.getSecrets moment.clock moment.attestation moment.nonce
          requests requester with
        | .ok secretsBox => .ok ⟨some (secretsBox.intoProto text)⟩
        | .error e => .error ⟨.internal, "Failed to get secrets: " ++ e⟩)

def checkSecrets (request : CheckSecretsRequest) :
    Secrets platform × Except Status CheckSecretsResponse :=
  match request.ids.mapM fun id =>
      converted "SecretIdentifier" (SecretId.tryFromProto text id) with
  | .error status => (self, .error status)
  | .ok ids =>
      (self, .ok ⟨(self.checkSecrets moment.clock.now ids).map fun status =>
        ⟨some (status.1.intoProto text), status.2.1, status.2.2⟩⟩)

def generateSecrets (request : GenerateSecretsRequest) :
    Secrets platform × Except Status Unit :=
  match readRequests text request.requests with
  | .error status => (self, .error status)
  | .ok requests =>
      let generated := generate debug moment self requests
      (generated.1, match generated.2 with
        | .ok () => .ok ()
        | .error e =>
            .error ⟨.alreadyExists, "Failed to generate secrets: " ++ e⟩)

end Service

end SecretsGrpcService

/-! ## The client -/

namespace EnclaveClient

section Client

variable (text : TextForms) (debug : SecretId → String)
  -- How `tonic::Status` is displayed.
  (statusText : Status → String)
variable (fate : Fate Status) (moment : Moment) (self : Secrets platform)

def getReport : Secrets platform × Except String AttestationBundle :=
  let sent := fate.carry (fun self (_ : Unit) =>
    SecretsGrpcService.getReport moment self) self ()
  (sent.1, match sent.2 with
    | .error status => .error (statusText status)
    | .ok report => .ok (AttestationBundle.fromProto report))

def putSecrets (bundles : List SecretsBundle) :
    Secrets platform × Except String Bool :=
  let sent := fate.carry (SecretsGrpcService.putSecrets text moment) self
    ⟨bundles.map fun bundle => {
      secretsBox := some (bundle.1.intoProto text)
      envReport := some bundle.2.1.intoProto
      consumerInfo := some bundle.2.2.intoProto }⟩
  (sent.1, match sent.2 with
    | .error status => .error (statusText status)
    | .ok response => .ok response.success)

def requestMessage (request : SecretId × ConsumerInfo) :
    Proto.SecretRequest where
  secretId := some (request.1.intoProto text)
  consumer := some request.2.intoProto

def getSecrets (requests : List (SecretId × ConsumerInfo))
    (envReport : EnvReport) : Secrets platform × Except String SecretsBox :=
  let sent := fate.carry (SecretsGrpcService.getSecrets text moment) self
    { requests := requests.map (requestMessage text)
      requesterEnvReport := some envReport.intoProto }
  (sent.1, match sent.2 with
    | .error status => .error (statusText status)
    | .ok ⟨some secretsBox⟩ =>
        (SecretsBox.tryFromProto text secretsBox).mapError fun e =>
          "Invalid SecretsBox from enclave: " ++ e.display
    | .ok ⟨none⟩ => .error "Enclave returned no SecretsBox")

/-- One status of the response; one without an identifier is passed over. -/
def readStatus (status : SecretStatus) :
    Except String (Option (SecretId × Bool × ℕ)) :=
  match status.id with
  | none => .ok none
  | some id =>
      match SecretId.tryFromProto text id with
      | .ok id => .ok (some (id, status.found, status.expiry))
      | .error e =>
          .error ("Invalid SecretIdentifier from enclave: " ++ e.display)

def checkSecrets (ids : List SecretId) :
    Secrets platform × Except String (List (SecretId × Bool × ℕ)) :=
  let sent := fate.carry (SecretsGrpcService.checkSecrets text moment) self
    ⟨ids.map (SecretId.intoProto text)⟩
  (sent.1, match sent.2 with
    | .error status => .error (statusText status)
    | .ok response => do
        let statuses ← response.statuses.mapM (readStatus text)
        .ok (statuses.filterMap id))

def generateSecrets (requests : List (SecretId × ConsumerInfo)) :
    Secrets platform × Except String Unit :=
  let sent := fate.carry
    (SecretsGrpcService.generateSecrets text debug moment) self
    ⟨requests.map (requestMessage text)⟩
  (sent.1, match sent.2 with
    | .error status => .error (statusText status)
    | .ok () => .ok ())

/-- The methods of `EnclaveClient` for the secrets. -/
def send (call : SecretsCall) :
    Secrets platform × Except String SecretsAnswer :=
  match call with
  | .getReport =>
      let sent := getReport statusText fate moment self
      (sent.1, sent.2.map .report)
  | .putSecrets bundles =>
      let sent := putSecrets text statusText fate moment self bundles
      (sent.1, sent.2.map .success)
  | .getSecrets requests requester =>
      let sent := getSecrets text statusText fate moment self requests requester
      (sent.1, sent.2.map .secretsBox)
  | .checkSecrets ids =>
      let sent := checkSecrets text statusText fate moment self ids
      (sent.1, sent.2.map .statuses)
  | .generateSecrets requests =>
      let sent := generateSecrets text debug statusText fate moment self
        requests
      (sent.1, sent.2.map fun _ => .generated)

end Client

end EnclaveClient

/-! ## Calls as they arrive -/

/-- The chain of the identifier is an empty list of gateways, which has no
message. -/
def gatewayless (secretId : SecretId) : Bool :=
  secretId.chain = .gatewayUrls []

def SecretsCall.secretIds : SecretsCall → List SecretId
  | .getReport => []
  | .putSecrets bundles =>
      bundles.flatMap fun bundle => bundle.1.containedSecretIds
  | .getSecrets requests _ | .generateSecrets requests =>
      requests.map Prod.fst
  | .checkSecrets ids => ids

/-- The service answers for the first identifier that it cannot read. -/
def refusal (name : String) : Status :=
  ⟨.invalidArgument, "Invalid " ++ name ++ ": " ++
    (ConversionError.missingField "identifier").display⟩

def SecretsCall.refusal : SecretsCall → Status
  | .getReport | .putSecrets _ => SecretsRpc.refusal "SecretsBox"
  | .getSecrets _ _ | .generateSecrets _ => SecretsRpc.refusal "SecretRequest"
  | .checkSecrets _ => SecretsRpc.refusal "SecretIdentifier"

/-- An empty list of certificates is read as none. -/
def uncertified (bundle : AttestationBundle) : AttestationBundle :=
  { bundle with rawAttestation := { bundle.rawAttestation with
      certificates := bundle.rawAttestation.certificates.filter
        fun certificates => !certificates.isEmpty } }

def arrivedReport (envReport : EnvReport) : EnvReport :=
  { envReport with attestation := uncertified envReport.attestation }

def SecretsCall.arrived : SecretsCall → SecretsCall
  | .putSecrets bundles => .putSecrets (bundles.map fun bundle =>
      (bundle.1, arrivedReport bundle.2.1, bundle.2.2))
  | .getSecrets requests requester =>
      .getSecrets requests (arrivedReport requester)
  | call => call

def SecretsAnswer.heard : SecretsAnswer → SecretsAnswer
  | .report bundle => .report (uncertified bundle)
  | answer => answer

/-- The status of a call that fails inside the enclave. -/
def SecretsCall.failure (call : SecretsCall) (e : String) : Status :=
  match call with
  | .getReport => ⟨.internal, "Failed to get report: " ++ e⟩
  | .putSecrets _ => ⟨.internal, "Failed to put secrets: " ++ e⟩
  | .getSecrets _ _ => ⟨.internal, "Failed to get secrets: " ++ e⟩
  | .checkSecrets _ => ⟨.internal, "Failed to check secrets: " ++ e⟩
  | .generateSecrets _ => ⟨.alreadyExists, "Failed to generate secrets: " ++ e⟩

/-- The call made on the enclave itself. -/
def direct (debug : SecretId → String) (self : Secrets platform)
    (call : Moment × SecretsCall) :
    Secrets platform × Except Status SecretsAnswer :=
  if call.2.secretIds.any gatewayless then (self, .error call.2.refusal)
  else
    let executed := execute debug self (call.1, call.2.arrived)
    (executed.1, executed.2.mapError call.2.failure)

section Direct

variable (debug : SecretId → String) (self : Secrets platform)
  {moment : Moment} {call : SecretsCall}

theorem direct_refused (hgateways : call.secretIds.any gatewayless = true) :
    direct debug self (moment, call) = (self, .error call.refusal) :=
  if_pos hgateways

theorem direct_executed (hgateways : ¬call.secretIds.any gatewayless = true) :
    direct debug self (moment, call) =
      ((execute debug self (moment, call.arrived)).1,
        (execute debug self (moment, call.arrived)).2.mapError
          call.failure) :=
  if_neg hgateways

end Direct

section Reading

variable {text : TextForms}

theorem fromProto_intoProto (bundle : AttestationBundle) :
    AttestationBundle.fromProto bundle.intoProto = uncertified bundle := by
  obtain ⟨⟨platformType, evidence, certificates⟩, detachedUserdata⟩ := bundle
  cases certificates with
  | none => rfl
  | some certificates =>
      cases certificates with
      | nil => rfl
      | cons certificate rest => rfl

theorem envReport_tryFromProto (envReport : EnvReport) :
    EnvReport.tryFromProto envReport.intoProto =
      .ok (arrivedReport envReport) := by
  obtain ⟨attestation, operatorSignature⟩ := envReport
  simp only [EnvReport.tryFromProto, EnvReport.intoProto, Option.map_some,
    okOr_some, ok_bind, fromProto_intoProto]
  cases operatorSignature with
  | none => rfl
  | some signature => rfl

theorem secretId_tryFromProto {secretId : SecretId}
    (hreads : text.Reads secretId) :
    SecretId.tryFromProto text (secretId.intoProto text) =
      if gatewayless secretId then .error (.missingField "identifier")
      else .ok secretId := by
  by_cases hgatewayless : secretId.chain = .gatewayUrls []
  · simp only [gatewayless, hgatewayless, decide_true, if_true]
    simp [SecretId.tryFromProto, SecretId.intoProto, hgatewayless,
      ChainIdentifier.gatewayUrls_nil_missing]
  · simp only [gatewayless, hgatewayless, decide_false, Bool.false_eq_true,
      if_false]
    exact (SecretId.survives_iff hreads).mpr hgatewayless

theorem secretsBox_tryFromProto {secretsBox : SecretsBox}
    (hreads : ∀ secretId ∈ secretsBox.containedSecretIds,
      text.Reads secretId) :
    SecretsBox.tryFromProto text (secretsBox.intoProto text) =
      if secretsBox.containedSecretIds.any gatewayless then
        .error (.missingField "identifier")
      else .ok secretsBox := by
  have hread := mapM_map_eq (fun secretId hmem =>
    secretId_tryFromProto (hreads secretId hmem))
  simp only [SecretsBox.tryFromProto, SecretsBox.intoProto]
  rw [hread]
  split
  · rfl
  · rw [List.map_id']
    rfl

theorem readRequests_requestMessage
    {requests : List (SecretId × ConsumerInfo)}
    (hreads : ∀ request ∈ requests, text.Reads request.1) :
    SecretsGrpcService.readRequests text
        (requests.map (EnclaveClient.requestMessage text)) =
      if (requests.map Prod.fst).any gatewayless then
        .error (refusal "SecretRequest")
      else .ok requests := by
  have hread : (requests.map (EnclaveClient.requestMessage text)).mapM
      (fun request =>
        converted "SecretRequest" (SecretRequest.tryFromProto text request)) =
      if requests.any fun request => gatewayless request.1 then
        .error (refusal "SecretRequest")
      else .ok (requests.map fun request => ⟨request.1, request.2⟩) := by
    apply mapM_map_eq
    intro request hmem
    have hsecretId := secretId_tryFromProto (hreads request hmem)
    simp only [EnclaveClient.requestMessage, SecretRequest.tryFromProto,
      okOr_some, ok_bind, hsecretId]
    split <;> rfl
  rw [SecretsGrpcService.readRequests, hread, List.any_map, Function.comp_def]
  split
  · rfl
  · rw [ok_bind, List.map_map]
    exact congrArg Except.ok (List.map_id requests)

end Reading

section Steps

variable {text : TextForms} (debug : SecretId → String)
variable (statusText : Status → String)
variable (moment : Moment) (self : Secrets platform)

theorem getReport_delivered :
    EnclaveClient.getReport statusText .delivered moment self =
      (self, match moment.report with
        | .ok report => .ok (uncertified report)
        | .error e =>
            .error (statusText ⟨.internal, "Failed to get report: " ++ e⟩)) := by
  simp only [EnclaveClient.getReport, Fate.carry, SecretsGrpcService.getReport]
  cases moment.report with
  | error e => rfl
  | ok report => simp only [fromProto_intoProto]

theorem readBundle_message {bundles : List SecretsBundle}
    (hreads : ∀ bundle ∈ bundles,
      ∀ secretId ∈ bundle.1.containedSecretIds, text.Reads secretId) :
    (bundles.map fun bundle => ({
      secretsBox := some (bundle.1.intoProto text)
      envReport := some bundle.2.1.intoProto
      consumerInfo := some bundle.2.2.intoProto } : SecretsBundleMessage)).mapM
        (SecretsGrpcService.readBundle text) =
      if (SecretsCall.putSecrets bundles).secretIds.any gatewayless then
        .error (refusal "SecretsBox")
      else .ok (bundles.map fun bundle =>
        (bundle.1, arrivedReport bundle.2.1, bundle.2.2)) := by
  rw [SecretsCall.secretIds, List.any_flatMap]
  apply mapM_map_eq
  intro bundle hmem
  have hbox := secretsBox_tryFromProto (hreads bundle hmem)
  simp only [SecretsGrpcService.readBundle, required, ok_bind, hbox]
  split
  · rfl
  · simp [converted, envReport_tryFromProto, ConsumerInfo.fromProto,
      ConsumerInfo.intoProto]

theorem putSecrets_delivered {bundles : List SecretsBundle}
    (hreads : ∀ bundle ∈ bundles,
      ∀ secretId ∈ bundle.1.containedSecretIds, text.Reads secretId) :
    EnclaveClient.putSecrets text statusText .delivered moment self bundles =
      if (SecretsCall.putSecrets bundles).secretIds.any gatewayless then
        (self, .error (statusText (refusal "SecretsBox")))
      else
        let put := self.putSecrets moment.clock moment.attestation
          (bundles.map fun bundle =>
            (bundle.1, arrivedReport bundle.2.1, bundle.2.2))
        (put.1, put.2.mapError fun e =>
          statusText ⟨.internal, "Failed to put secrets: " ++ e⟩) := by
  have hbundles := readBundle_message hreads
  by_cases hgateways :
      (SecretsCall.putSecrets bundles).secretIds.any gatewayless = true
  · rw [if_pos hgateways] at hbundles ⊢
    simp only [EnclaveClient.putSecrets, Fate.carry,
      SecretsGrpcService.putSecrets, hbundles]
  · rw [if_neg hgateways] at hbundles ⊢
    simp only [EnclaveClient.putSecrets, Fate.carry,
      SecretsGrpcService.putSecrets, hbundles]
    cases (self.putSecrets moment.clock moment.attestation _).2 with
    | error e => rfl
    | ok success => rfl

/-- A box lists identifiers that were asked for. -/
theorem getSecrets_ids {requests : List (SecretId × ConsumerInfo)}
    {requester : EnvReport} {secretsBox : SecretsBox}
    (hbox : self.getSecrets moment.clock moment.attestation moment.nonce
      requests requester = .ok secretsBox) :
    ∀ secretId ∈ secretsBox.containedSecretIds,
      ∃ request ∈ requests, request.1 = secretId := by
  intro secretId hmem
  obtain ⟨_, _, _, hsealed⟩ := getSecrets_ok hbox
  obtain ⟨_, _, _, _, rfl⟩ := encryptSecretsBox_ok hsealed
  rw [secretsToPack_eq] at hmem
  have hasked := (packed_ids_sublist _ requests).mem hmem
  exact List.mem_map.mp hasked

theorem getSecrets_delivered {requests : List (SecretId × ConsumerInfo)}
    {requester : EnvReport}
    (hreads : ∀ request ∈ requests, text.Reads request.1) :
    EnclaveClient.getSecrets text statusText .delivered moment self requests
        requester =
      if (SecretsCall.getSecrets requests requester).secretIds.any
          gatewayless then
        (self, .error (statusText (refusal "SecretRequest")))
      else
        (self, (self.getSecrets moment.clock moment.attestation moment.nonce
          requests (arrivedReport requester)).mapError fun e =>
            statusText ⟨.internal, "Failed to get secrets: " ++ e⟩) := by
  have hrequests := readRequests_requestMessage hreads
  by_cases hgateways : (SecretsCall.getSecrets requests requester).secretIds.any
      gatewayless = true
  · rw [if_pos hgateways]
    rw [SecretsCall.secretIds] at hgateways
    rw [if_pos hgateways] at hrequests
    simp only [EnclaveClient.getSecrets, Fate.carry,
      SecretsGrpcService.getSecrets, hrequests, error_bind]
  rw [if_neg hgateways]
  rw [SecretsCall.secretIds] at hgateways
  rw [if_neg hgateways] at hrequests
  simp only [EnclaveClient.getSecrets, Fate.carry,
    SecretsGrpcService.getSecrets, hrequests, ok_bind, required,
    envReport_tryFromProto, converted]
  cases hbox : self.getSecrets moment.clock moment.attestation moment.nonce
      requests (arrivedReport requester) with
  | error e => rfl
  | ok secretsBox =>
      have hasked := getSecrets_ids moment self hbox
      have hback : SecretsBox.tryFromProto text (secretsBox.intoProto text) =
          .ok secretsBox := by
        rw [secretsBox_tryFromProto, if_neg]
        · rw [List.any_eq_true]
          rintro ⟨secretId, hmem, hnone⟩
          obtain ⟨request, hrequest, rfl⟩ := hasked secretId hmem
          exact hgateways (List.any_eq_true.mpr
            ⟨request.1, List.mem_map_of_mem hrequest, hnone⟩)
        · intro secretId hmem
          obtain ⟨request, hrequest, rfl⟩ := hasked secretId hmem
          exact hreads request hrequest
      simp only [hback]
      rfl

theorem readStatus_message {ids : List SecretId}
    (hreads : ∀ secretId ∈ ids, text.Reads secretId)
    (hgateways : ids.any gatewayless = false) :
    ((self.checkSecrets moment.clock.now ids).map fun status =>
        (⟨some (status.1.intoProto text), status.2.1, status.2.2⟩ :
          SecretStatus)).mapM (EnclaveClient.readStatus text) =
      .ok ((self.checkSecrets moment.clock.now ids).map some) := by
  apply mapM_eq_ok_iff.mpr
  rw [List.forall₂_map_left_iff, List.forall₂_map_right_iff,
    List.forall₂_same]
  intro status hmem
  obtain ⟨secretId, hid, rfl⟩ := List.mem_map.mp hmem
  have hgateway : gatewayless secretId = false :=
    Bool.eq_false_iff.mpr (List.any_eq_false.mp hgateways secretId hid)
  have hread := secretId_tryFromProto (hreads secretId hid)
  rw [hgateway, if_neg Bool.false_ne_true] at hread
  cases self.secretsStorage secretId with
  | none => simp [EnclaveClient.readStatus, hread]
  | some stored => simp [EnclaveClient.readStatus, hread]

theorem checkSecrets_delivered {ids : List SecretId}
    (hreads : ∀ secretId ∈ ids, text.Reads secretId) :
    EnclaveClient.checkSecrets text statusText .delivered moment self ids =
      if (SecretsCall.checkSecrets ids).secretIds.any gatewayless then
        (self, .error (statusText (refusal "SecretIdentifier")))
      else (self, .ok (self.checkSecrets moment.clock.now ids)) := by
  have hids : (ids.map (SecretId.intoProto text)).mapM (fun id =>
      converted "SecretIdentifier" (SecretId.tryFromProto text id)) =
      if ids.any gatewayless then .error (refusal "SecretIdentifier")
      else .ok (ids.map id) := by
    apply mapM_map_eq
    intro secretId hmem
    rw [secretId_tryFromProto (hreads secretId hmem)]
    split <;> rfl
  by_cases hgateways :
      (SecretsCall.checkSecrets ids).secretIds.any gatewayless = true
  · rw [if_pos hgateways]
    rw [SecretsCall.secretIds] at hgateways
    rw [if_pos hgateways] at hids
    simp only [EnclaveClient.checkSecrets, Fate.carry,
      SecretsGrpcService.checkSecrets, hids]
  · rw [if_neg hgateways]
    rw [SecretsCall.secretIds] at hgateways
    rw [if_neg hgateways, List.map_id] at hids
    have hstatuses := readStatus_message moment self hreads
      (Bool.eq_false_iff.mpr hgateways)
    simp only [EnclaveClient.checkSecrets, Fate.carry,
      SecretsGrpcService.checkSecrets, hids, hstatuses, ok_bind]
    simp [List.filterMap_map]

theorem generateSecrets_delivered
    {requests : List (SecretId × ConsumerInfo)}
    (hreads : ∀ request ∈ requests, text.Reads request.1) :
    EnclaveClient.generateSecrets text debug statusText .delivered moment self
        requests =
      if (SecretsCall.generateSecrets requests).secretIds.any gatewayless then
        (self, .error (statusText (refusal "SecretRequest")))
      else
        ((generate debug moment self requests).1,
          (generate debug moment self requests).2.mapError fun e =>
            statusText ⟨.alreadyExists,
              "Failed to generate secrets: " ++ e⟩) := by
  have hrequests := readRequests_requestMessage hreads
  by_cases hgateways :
      (SecretsCall.generateSecrets requests).secretIds.any gatewayless = true
  · rw [if_pos hgateways]
    rw [SecretsCall.secretIds] at hgateways
    rw [if_pos hgateways] at hrequests
    simp only [EnclaveClient.generateSecrets, Fate.carry,
      SecretsGrpcService.generateSecrets, hrequests]
  · rw [if_neg hgateways]
    rw [SecretsCall.secretIds] at hgateways
    rw [if_neg hgateways] at hrequests
    simp only [EnclaveClient.generateSecrets, Fate.carry,
      SecretsGrpcService.generateSecrets, hrequests]
    cases (generate debug moment self requests).2 with
    | error e => rfl
    | ok value => rfl

end Steps

/-! ## Runs -/

section Runs

variable (text : TextForms) (debug : SecretId → String)
variable (statusText : Status → String)

def throughClient (self : Secrets platform)
    (attempt : Fate Status × Moment × SecretsCall) :
    Secrets platform × Except String SecretsAnswer :=
  EnclaveClient.send text debug statusText attempt.1 attempt.2.1 self
    attempt.2.2

def readReply (_ : Moment × SecretsCall)
    (reply : Except Status SecretsAnswer) : Except String SecretsAnswer :=
  (reply.map SecretsAnswer.heard).mapError statusText

def lostReply (status : Status) : Except String SecretsAnswer :=
  .error (statusText status)

/-- The identifiers of the call come back from their texts, as those of the
`url` and `alloy_primitives` crates do. -/
def ReadsBack (call : Moment × SecretsCall) : Prop :=
  ∀ secretId ∈ call.2.secretIds, text.Reads secretId

variable {text}

theorem throughClient_delivered (self : Secrets platform)
    {call : Moment × SecretsCall} (hreads : ReadsBack text call) :
    throughClient text debug statusText self (.delivered, call) =
      ((direct debug self call).1,
        readReply statusText call (direct debug self call).2) := by
  obtain ⟨moment, call⟩ := call
  cases call with
  | getReport =>
      have hgateways :
          ¬SecretsCall.getReport.secretIds.any gatewayless = true :=
        Bool.false_ne_true
      rw [throughClient, EnclaveClient.send, getReport_delivered,
        direct_executed debug self hgateways]
      simp only [SecretsCall.arrived, execute]
      cases moment.report with
      | error e => rfl
      | ok report => rfl
  | putSecrets bundles =>
      rw [throughClient, EnclaveClient.send, putSecrets_delivered]
      · by_cases hgateways :
            (SecretsCall.putSecrets bundles).secretIds.any gatewayless = true
        · rw [direct_refused debug self hgateways, if_pos hgateways]
          rfl
        · rw [direct_executed debug self hgateways, if_neg hgateways]
          simp only [SecretsCall.arrived, execute]
          cases (self.putSecrets moment.clock moment.attestation _).2 with
          | error e => rfl
          | ok success => rfl
      · intro bundle hbundle secretId hmem
        exact hreads secretId (List.mem_flatMap.mpr ⟨bundle, hbundle, hmem⟩)
  | getSecrets requests requester =>
      rw [throughClient, EnclaveClient.send, getSecrets_delivered]
      · by_cases hgateways : (SecretsCall.getSecrets requests
            requester).secretIds.any gatewayless = true
        · rw [direct_refused debug self hgateways, if_pos hgateways]
          rfl
        · rw [direct_executed debug self hgateways, if_neg hgateways]
          simp only [SecretsCall.arrived, execute]
          cases self.getSecrets moment.clock moment.attestation moment.nonce
              requests (arrivedReport requester) with
          | error e => rfl
          | ok secretsBox => rfl
      · intro request hmem
        exact hreads request.1 (List.mem_map_of_mem hmem)
  | checkSecrets ids =>
      rw [throughClient, EnclaveClient.send, checkSecrets_delivered]
      · by_cases hgateways :
            (SecretsCall.checkSecrets ids).secretIds.any gatewayless = true
        · rw [direct_refused debug self hgateways, if_pos hgateways]
          rfl
        · rw [direct_executed debug self hgateways, if_neg hgateways]
          rfl
      · exact hreads
  | generateSecrets requests =>
      rw [throughClient, EnclaveClient.send, generateSecrets_delivered]
      · by_cases hgateways : (SecretsCall.generateSecrets
            requests).secretIds.any gatewayless = true
        · rw [direct_refused debug self hgateways, if_pos hgateways]
          rfl
        · rw [direct_executed debug self hgateways, if_neg hgateways]
          simp only [SecretsCall.arrived, execute]
          cases (generate debug moment self requests).2 with
          | error e => rfl
          | ok value => rfl
      · intro request hmem
        exact hreads request.1 (List.mem_map_of_mem hmem)

theorem throughClient_stub :
    Stub (ReadsBack text)
      (fun self : Secrets platform => direct debug self)
      (lostReply statusText) (readReply statusText)
      (throughClient text debug statusText) where
  delivered := fun self _ => throughClient_delivered debug statusText self
  requestLost := by
    intro self call loss
    obtain ⟨moment, call⟩ := call
    cases call <;> rfl
  replyLost := by
    intro self call loss hreads
    have hstate : (throughClient text debug statusText self
        (.replyLost loss, call)).1 =
        (throughClient text debug statusText self (.delivered, call)).1 := by
      obtain ⟨moment, call⟩ := call
      cases call <;> rfl
    have hreply : (throughClient text debug statusText self
        (.replyLost loss, call)).2 = lostReply statusText loss := by
      obtain ⟨moment, call⟩ := call
      cases call <;> rfl
    apply Prod.ext
    · rw [hstate, throughClient_delivered debug statusText self hreads]
    · exact hreply

/-- Whatever the link loses, the enclave runs the calls that arrive as if they
were made directly, and the daemon hears their results. -/
theorem client_transparent (self : Secrets platform)
    {attempts : List (Fate Status × Moment × SecretsCall)}
    (hreads : ∀ attempt ∈ attempts, ReadsBack text attempt.2) :
    serve (throughClient text debug statusText) self attempts =
      ((serve (direct debug) self (arriving attempts)).1,
        hear (lostReply statusText) (readReply statusText) attempts
          (serve (direct debug) self (arriving attempts)).2) :=
  (throughClient_stub debug statusText).serve_eq self hreads

end Runs

/-! ### A run with a loss and a refusal -/

def grantedPlatform : Platform Bytes :=
  symbolicPlatform [padKey [1]] []

/-- An enclave that may generate the secret of the identity zero. -/
def grantedEnclave : Secrets grantedPlatform :=
  (Secrets.newWithKeypair (symbolicKeyPair _ _ [1])).run
    [.storeAuthorization { sampleGrant (padKey [1]) with
        request := { (sampleGrant (padKey [1])).request with
          secretIds := [zeroSecretId (.chainId 1)] } }]

theorem length_grantedNonce :
    (List.replicate 12 0 : Bytes).length = aesNonceSize := rfl

def grantedMoment : Moment where
  clock := ⟨20, 21⟩
  attestation := fun _ => .error "no service"
  nonce := ⟨List.replicate 12 0, length_grantedNonce⟩
  report := .ok (symbolicReport (padKey [1])).attestation
  entropy := fun _ => .ok [5]

/-- The secret is generated although the reply is lost, so that a second call
fails; an empty list of gateways is refused. -/
def grantedAttempts : List (Fate Status × Moment × SecretsCall) :=
  [(.replyLost ⟨.unavailable, "broken pipe"⟩, grantedMoment,
      .generateSecrets [(zeroSecretId (.chainId 1), sampleConsumer 0)]),
    (.delivered, grantedMoment,
      .generateSecrets [(zeroSecretId (.chainId 1), sampleConsumer 0)]),
    (.delivered, grantedMoment,
      .checkSecrets [zeroSecretId (.gatewayUrls []),
        zeroSecretId (.chainId 1)]),
    (.delivered, grantedMoment, .checkSecrets [zeroSecretId (.chainId 1)])]

theorem client_transparent_granted :
    (serve (throughClient zeroText (fun _ => "zero") Status.message)
        grantedEnclave grantedAttempts).2 =
      [.error "broken pipe",
        .error "Failed to generate secrets: Secret zero already exists",
        .error ("Invalid SecretIdentifier: Missing field in protobuf " ++
          "message: identifier"),
        .ok (.statuses [(zeroSecretId (.chainId 1), true, 0)])] := by
  have hreads : ∀ attempt ∈ grantedAttempts,
      ReadsBack zeroText attempt.2 := by
    simp only [grantedAttempts, ReadsBack, SecretsCall.secretIds,
      List.forall_mem_cons, List.map_cons, List.map_nil]
    simp [zeroText_reads]
  rw [client_transparent (fun _ => "zero") Status.message grantedEnclave hreads]
  decide +kernel

end NxccBridge.SecretsRpc
