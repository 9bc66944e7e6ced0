import NxccBridge.Enclave.EventLoop
import NxccBridge.Sdk.Policy
import NxccBridge.Vm.Invocation

/-!
# Policies from the enclave to the handler

`RunnerService::execute_policy` with the client of the VM, the workerd runtime
and a policy of the SDK behind it.  What the enclave files against its table is
what the handler decided; whatever goes wrong on the way files nothing.
-/

namespace NxccBridge.PolicyWorker

open Function
open NxccBridge.BooleanJson
open NxccBridge.EnclaveSecrets
open NxccBridge.Framing
open NxccBridge.Http
open NxccBridge.Interface
open NxccBridge.Js
open NxccBridge.PolicyExecution
open NxccBridge.SdkPolicy
open NxccBridge.Services
open NxccBridge.Utf16
open NxccBridge.Invocation (Sockets WorkerData WorkerdVmm eventRequest
  httpHandlerPath invokeWorker withInvocations)
open NxccBridge.StopWorker (ClientError Status)
open NxccBridge.VmService (VmRuntime VmServiceClient.invokeWorker)

section Policies

variable {chars : UriChars} {World Claims : Type}
  (platform : SdkPolicy.Platform chars)
  -- The policy that listens on a socket.
  (policies : String → Option PolicyHandler)
  (panicked : Status) (others : VmRuntime (WorkerdVmm World))
  (displayError : ClientError → String) (readError : Bytes → String)

def policySockets : Sockets chars World := fun world udsPath request =>
  match policies udsPath with
  | none => (world, .error "client error (Connect)")
  | some handler => (world, .ok (SdkPolicy.fetch platform handler request))

/-- `invoke_worker` of the client that is connected to a VM. -/
def invokeVm (fate : Fate Status) (vmm : WorkerdVmm World)
    (workerId handlerName : String) (payload : Bytes) : Except String Bytes :=
  (VmServiceClient.invokeWorker
    (withInvocations (policySockets platform policies) panicked others) fate vmm
    workerId handlerName payload).2.mapError displayError

/-- The environment of an execution whose clients are connected to such VMs. -/
def connected (env : RunnerEnvironment Claims)
    (vms : String → Option (WorkerdVmm World)) (fate : Fate Status) :
    RunnerEnvironment Claims :=
  { env with
    vms := fun vmId => (vms vmId).map
      (invokeVm platform policies panicked others displayError fate)
    resultsFromSlice := fun bytes =>
      match BooleanJson.fromSlice bytes with
      | some results => .ok results
      | none => .error (readError bytes) }

/-- The clients have no part in the verification of the reports. -/
theorem enhance_connected (env : RunnerEnvironment Claims)
    (vms : String → Option (WorkerdVmm World)) (fate : Fate Status) (call : ℕ)
    (contexts : List (ClaimedPolicyRequest Claims)) :
    (connected platform policies panicked others displayError readError env vms
        fate).enhance call contexts = env.enhance call contexts := by
  induction contexts generalizing call with
  | nil => rfl
  | cons context rest ih =>
      rw [RunnerEnvironment.enhance, RunnerEnvironment.enhance, ih]
      rfl

/-- The payload for the policy worker. -/
def payloadOf (env : RunnerEnvironment Claims)
    (contexts : List (ClaimedPolicyRequest Claims)) : Bytes :=
  env.toVec ((env.enhance 0 contexts).map fun context =>
    forPolicyWorker context context.envReport.attestation.detachedUserdata)

/-- The policy of a running worker, and what the platform makes of the request
for it: the path is one, and its name and the contexts are found in the
request. -/
structure Deployed (env : RunnerEnvironment Claims)
    (vms : String → Option (WorkerdVmm World)) (workerId : String)
    (contexts : List (ClaimedPolicyRequest Claims)) where
  vmId : String
  vmm : WorkerdVmm World
  worker : WorkerData
  handler : PolicyHandler
  target : Target chars
  values : List JsValue
  mapped : env.workerMap workerId = some vmId
  attached : vms vmId = some vmm
  known : vmm.workers workerId = some worker
  running : worker.status = .running
  listens : policies worker.udsPath = some handler
  path : Target.parse
    (httpHandlerPath RunnerEnvironment.policyHandlerName).toList = some target
  name : handlerName (platform.pathname target) = units "_policy"
  parsed : platform.parseJson (payloadOf env contexts) = .ok (.array values)
  length_values : values.length = contexts.length

variable {platform policies} {env : RunnerEnvironment Claims}
  {vms : String → Option (WorkerdVmm World)} {workerId : String}
  {contexts : List (ClaimedPolicyRequest Claims)}
  (deployed : Deployed platform policies env vms workerId contexts)

/-- The request that the policy is sent. -/
def Deployed.request : Request (Target chars) where
  method := Invocation.post
  target := deployed.target
  headers := Multimaps.MultiMap.empty.append
    (HeaderName.contentType, Invocation.octetStream)
  body := payloadOf env contexts

/-- The runtime returns the body of the policy's response. -/
theorem Deployed.invokeWorker_eq :
    (invokeWorker (policySockets platform policies) panicked deployed.vmm
        workerId RunnerEnvironment.policyHandlerName
        (payloadOf env contexts)).2 =
      .ok (SdkPolicy.fetch platform deployed.handler
        deployed.request).body := by
  have hinvoked := Invocation.invoke_running
    (policySockets platform policies) panicked deployed.known deployed.running
    (eventRequest RunnerEnvironment.policyHandlerName (payloadOf env contexts))
  rw [Invocation.invokeViaUds_eventRequest, deployed.path] at hinvoked
  simp only [policySockets, deployed.listens] at hinvoked
  rw [invokeWorker]
  exact congrArg (fun invoked => Except.map _ (Prod.snd invoked)) hinvoked

/-- The client returns it too, unless something is lost. -/
theorem Deployed.invokeVm_ok_iff (fate : Fate Status) (body : Bytes) :
    invokeVm platform policies panicked others displayError fate deployed.vmm
        workerId RunnerEnvironment.policyHandlerName (payloadOf env contexts) =
      .ok body ↔
      fate.returns = true ∧
        body = (SdkPolicy.fetch platform deployed.handler
          deployed.request).body := by
  have hinvoked : ((withInvocations (policySockets platform policies) panicked
      others).invokeWorker deployed.vmm workerId
        RunnerEnvironment.policyHandlerName (payloadOf env contexts)).2 = _ :=
    deployed.invokeWorker_eq panicked
  rw [invokeVm]
  cases fate with
  | requestLost status =>
      simp [VmServiceClient.invokeWorker, Fate.carry, Fate.returns,
        Except.mapError]
  | replyLost status =>
      simp [VmServiceClient.invokeWorker, Fate.carry, Fate.returns,
        Except.mapError]
  | delivered =>
      simp only [VmServiceClient.invokeWorker, Fate.carry,
        VmService.VmServiceGrpc.invokeWorker, VmService.settle, hinvoked]
      simp [VmService.checked, Except.mapError, Fate.returns, eq_comm]

theorem Deployed.invokePolicy_eq (fate : Fate Status) :
    (connected platform policies panicked others displayError readError env vms
        fate).invokePolicy workerId (env.enhance 0 contexts) =
      match invokeVm platform policies panicked others displayError fate
          deployed.vmm workerId RunnerEnvironment.policyHandlerName
          (payloadOf env contexts) with
      | .error message => .error (RunnerError.vmConnection message)
      | .ok resultPayload =>
          match BooleanJson.fromSlice resultPayload with
          | some results => .ok results
          | none => .error (.deserialization (readError resultPayload)) := by
  rw [RunnerEnvironment.invokePolicy]
  simp only [connected, deployed.mapped, deployed.attached, Option.map_some,
    payloadOf]
  generalize invokeVm platform policies panicked others displayError fate
    deployed.vmm workerId RunnerEnvironment.policyHandlerName _ = outcome
  cases outcome with
  | error message => rfl
  | ok resultPayload =>
      dsimp only
      cases BooleanJson.fromSlice resultPayload <;> rfl

/-- The enclave reads what the handler decided. -/
theorem Deployed.invokePolicy_ok_iff (fate : Fate Status)
    (results : List Bool) :
    (connected platform policies panicked others displayError readError env vms
        fate).invokePolicy workerId (env.enhance 0 contexts) = .ok results ↔
      fate.returns = true ∧
        Decides deployed.handler deployed.values results := by
  have hparsed : platform.parseJson deployed.request.body =
      .ok (.array deployed.values) := deployed.parsed
  have hread := fromSlice_fetch_iff platform deployed.handler deployed.name
    hparsed results
  have hinvoked := deployed.invokeVm_ok_iff panicked others displayError fate
  rw [deployed.invokePolicy_eq]
  cases hpayload : invokeVm platform policies panicked others displayError fate
      deployed.vmm workerId RunnerEnvironment.policyHandlerName
      (payloadOf env contexts) with
  | error message =>
      have hlost : fate.returns ≠ true := fun hreturns => by
        have hok := (hinvoked _).mpr ⟨hreturns, rfl⟩
        rw [hpayload] at hok
        cases hok
      simp [hlost]
  | ok resultPayload =>
      obtain ⟨hreturns, rfl⟩ := (hinvoked resultPayload).mp hpayload
      rw [← hread, and_iff_right hreturns]
      dsimp only
      cases BooleanJson.fromSlice (SdkPolicy.fetch platform deployed.handler
        deployed.request).body <;> simp

/-- The handler decided, and it decided `true` on a context that covers the
triple. -/
def Deployed.Grants {Digest : Type*} (enclave : Crypto.Platform Digest)
    (fate : Fate Status) (key : Bytes) (secretId : SecretId)
    (consumer : ConsumerInfo) : Prop :=
  fate.returns = true ∧ ∃ decisions,
    Decides deployed.handler deployed.values decisions ∧
      Satisfied enclave env.currentTime contexts decisions key secretId consumer

section Filing

variable {Digest : Type*} [DecidableEq Digest]
  {enclave : Crypto.Platform Digest}

theorem executePolicy_of_results {env : RunnerEnvironment Claims}
    (secrets : Secrets enclave) {results : List Bool}
    (hinvoked : env.invokePolicy workerId (env.enhance 0 contexts) =
      .ok results)
    (hlength : results.length = contexts.length) :
    (executePolicy env secrets workerId contexts).1 =
      (storeSatisfied env.currentTime ((env.enhance 0 contexts).zip results)
        secrets).1 := by
  have henhanced : (env.enhance 0 contexts).length = contexts.length := by
    simpa using congrArg List.length (map_enhance env 0 contexts)
  rw [executePolicy, hinvoked]
  simp only [henhanced, hlength, ne_eq, not_true_eq_false, if_false]

theorem executePolicy_of_none {env : RunnerEnvironment Claims}
    (secrets : Secrets enclave)
    (hnone : ∀ results,
      env.invokePolicy workerId (env.enhance 0 contexts) ≠ .ok results) :
    (executePolicy env secrets workerId contexts).1 = secrets := by
  rw [executePolicy]
  cases hinvoked : env.invokePolicy workerId (env.enhance 0 contexts) with
  | error error => rfl
  | ok results => exact absurd hinvoked (hnone results)

/-- An execution files a grant for what the handler decided `true` on, if the
handler returned a truth value for every context and nothing was lost, and
files nothing else. -/
theorem policy_files_decisions (hsha256 : Injective enclave.sha256)
    (fate : Fate Status) (secrets : Secrets enclave) (key : Bytes)
    (secretId : SecretId) (consumer : ConsumerInfo) :
    let executed := executePolicy (connected platform policies panicked others
      displayError readError env vms fate) secrets workerId contexts
    (deployed.Grants enclave fate key secretId consumer →
        executed.1.authorizations (grantId enclave key secretId consumer) =
          some (expiryTime env.currentTime)) ∧
      (¬deployed.Grants enclave fate key secretId consumer →
        executed.1.authorizations (grantId enclave key secretId consumer) =
          secrets.authorizations (grantId enclave key secretId consumer)) := by
  intro executed
  have hinvoked := deployed.invokePolicy_ok_iff panicked others displayError
    readError fate
  have henhance := enhance_connected platform policies panicked others
    displayError readError env vms fate 0 contexts
  rw [← henhance] at hinvoked
  by_cases hdecided : ∃ decisions, fate.returns = true ∧
      Decides deployed.handler deployed.values decisions
  · obtain ⟨decisions, hreturns, hdecides⟩ := hdecided
    have hexecuted : executed.1 =
        (storeSatisfied env.currentTime
          ((env.enhance 0 contexts).zip decisions) secrets).1 := by
      rw [← henhance]
      exact executePolicy_of_results secrets
        ((hinvoked decisions).mpr ⟨hreturns, hdecides⟩)
        (hdecides.2.trans deployed.length_values)
    have hgrants : deployed.Grants enclave fate key secretId consumer ↔
        Satisfied enclave env.currentTime contexts decisions key secretId
          consumer := by
      constructor
      · rintro ⟨-, others, hothers, hsatisfied⟩
        have hsame : others = decisions := by
          have hok := (hinvoked others).mpr ⟨hreturns, hothers⟩
          rw [(hinvoked decisions).mpr ⟨hreturns, hdecides⟩] at hok
          exact (Except.ok.inj hok).symm
        exact hsame ▸ hsatisfied
      · exact fun hsatisfied => ⟨hreturns, decisions, hdecides, hsatisfied⟩
    rw [hexecuted, hgrants, ← satisfied_zip_iff (map_enhance env 0 contexts)]
    exact storeSatisfied_apply hsha256 env.currentTime _ secrets key secretId
      consumer
  · have hexecuted : executed.1 = secrets :=
      executePolicy_of_none secrets fun results hok =>
        hdecided ⟨results, (hinvoked results).mp hok⟩
    rw [hexecuted]
    refine ⟨?_, fun _ => rfl⟩
    rintro ⟨hreturns, decisions, hdecides, -⟩
    exact absurd ⟨decisions, hreturns, hdecides⟩ hdecided

end Filing

end Policies

/-! ## A policy that allows everything -/

def allowAll : PolicyHandler
  | .array contexts => .ok (.array (contexts.map fun _ => .bool true))
  | _ => .ok .other

/-- A platform that finds one context in every request, and `/_policy` as its
path. -/
def samplePlatform : SdkPolicy.Platform EventLoop.markedChars where
  parseJson := fun _ => .ok (.array [.null])
  pathname := fun _ => units "/_policy"
  propertyOfNull := []
  display := fun _ => .ok []
  isNumber := fun _ _ => false
  quote := fun _ => "\"\""

/-- An execution in the first second. -/
def sampleEnvironment : RunnerEnvironment Unit where
  verifyAndExtractClaims := fun _ _ => .error "no verifier"
  workerMap := fun _ => some "vm-1"
  vms := fun _ => none
  toVec := fun _ => []
  resultsFromSlice := fun _ => .error "expected value"
  currentTime := 1

def sampleVmm : WorkerdVmm Unit where
  workers := fun _ => some { status := .running, udsPath := "/run/1.sock" }
  world := ()

def sampleContext : ClaimedPolicyRequest Unit :=
  { (Crypto.sampleGrant (Crypto.padKey [2])).request with
    attestationClaims := none }

/-- The target `/_policy`. -/
def policyTarget : Target EventLoop.markedChars :=
  .ofSegments "_policy".toList (by decide)

def sampleDeployed : Deployed samplePlatform (fun _ => some allowAll)
    sampleEnvironment (fun _ => some sampleVmm) "policy-1" [sampleContext] where
  vmId := "vm-1"
  vmm := sampleVmm
  worker := { status := .running, udsPath := "/run/1.sock" }
  handler := allowAll
  target := policyTarget
  values := [.null]
  mapped := rfl
  attached := rfl
  known := rfl
  running := rfl
  listens := rfl
  path := by
    rw [show httpHandlerPath RunnerEnvironment.policyHandlerName =
      String.ofList policyTarget.text from by decide, String.toList_ofList,
      Target.parse_text]
  name := by decide
  parsed := rfl
  length_values := rfl

theorem allowAll_files :
    (executePolicy (connected samplePlatform (fun _ => some allowAll)
        EventLoop.panicked (EventLoop.panicking _) (fun _ => "") (fun _ => "")
        sampleEnvironment (fun _ => some sampleVmm) .delivered)
      (enclaveAfter 0) "policy-1" [sampleContext]).1.authorizations
        (grantId samplePolicyPlatform (Crypto.padKey [2])
          (Crypto.sampleSecretId 7) (Crypto.sampleConsumer 0)) =
      some (expiryTime 1) := by
  have hsha256 : Injective samplePolicyPlatform.sha256 := injective_id
  have hgrants : sampleDeployed.Grants samplePolicyPlatform .delivered
      (Crypto.padKey [2]) (Crypto.sampleSecretId 7)
      (Crypto.sampleConsumer 0) := by
    refine ⟨rfl, [true], ⟨rfl, rfl⟩, 0, sampleContext, rfl, rfl, ?_⟩
    exact grantAt_covers 1
  exact (policy_files_decisions EventLoop.panicked (EventLoop.panicking _)
    (fun _ => "") (fun _ => "") sampleDeployed hsha256 .delivered
    (enclaveAfter 0) _ _ _).1 hgrants

end NxccBridge.PolicyWorker
