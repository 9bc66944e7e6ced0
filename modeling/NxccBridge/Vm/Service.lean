import NxccBridge.Core.Services
import NxccBridge.Interface.Proto
import NxccBridge.Vm.Envelope
import NxccBridge.Vm.StopWorker

/-!
# The VM service

`VmServiceGrpc` of `node/vm/base/src/server/mod.rs` over any runtime, and
`VmServiceClient` of `node/vm/base/src/client/mod.rs` in front of it.  A call of
the client is a gRPC message to the service, whose answer it reads.
-/

namespace NxccBridge.VmService

open NxccBridge.Framing
open NxccBridge.Interface
open NxccBridge.Services
open NxccBridge.Envelope (HttpRequest HttpResponse)
open NxccBridge.StopWorker (ClientError Status StopWorkerResponse VmError
  WorkerStatus clientStopWorker serverStopWorker)

/-! ## Messages -/

structure UntrustedConfig where
  userdataJson : String
  advancedVmConfig : String → Option String

structure Limits where
  memoryMb : UInt64
  cpuCount : UInt32
  maxRuntimeSeconds : UInt64

structure TrustedConfig where
  secrets : String → Option Bytes
  limits : Option Limits

/-- `unwrap_or_default` of an absent message. -/
def UntrustedConfig.default : UntrustedConfig := ⟨"", fun _ => none⟩

def TrustedConfig.default : TrustedConfig := ⟨fun _ => none, none⟩

structure StartWorkerRequest where
  workerId : String
  workerCode : Bytes
  untrustedConfig : Option UntrustedConfig
  trustedConfig : Option TrustedConfig

structure StartWorkerResponse where
  id : String
  success : Bool
  errorMessage : String

structure InvokeWorkerRequest where
  id : String
  payload : Bytes
  handlerName : String

structure InvokeWorkerResponse where
  result : Bytes
  success : Bool
  errorMessage : String

structure InvokeHttpRequest where
  workerId : String
  request : Option HttpRequest

structure GetWorkerStatusResponse where
  id : String
  status : Int32
  success : Bool
  errorMessage : String

structure GetWorkerLogsResponse where
  logs : String
  success : Bool
  errorMessage : String

structure StreamWorkerLogsRequest where
  id : String
  tailLines : UInt32
  follow : Bool

structure StreamWorkerLogsResponse where
  logLine : String
  timestampMs : UInt64
  isHistorical : Bool
  deriving DecidableEq

structure ProbeWorkerResponse where
  status : Int32
  statusMessage : String

/-- What a log stream yields. -/
abbrev LogStream := List (Except Status StreamWorkerLogsResponse)

def statusToI32 : WorkerStatus → Int32
  | .unspecified => 0
  | .starting => 1
  | .running => 2
  | .stopping => 3
  | .stopped => 4
  | .error => 5

/-- `WorkerStatus::try_from`. -/
def statusFromI32 (value : Int32) : Option WorkerStatus :=
  if value = 0 then some .unspecified
  else if value = 1 then some .starting
  else if value = 2 then some .running
  else if value = 3 then some .stopping
  else if value = 4 then some .stopped
  else if value = 5 then some .error
  else none

@[simp]
theorem statusFromI32_toI32 (status : WorkerStatus) :
    statusFromI32 (statusToI32 status) = some status := by
  cases status <;> rfl

def Status.internal (message : String) : Status := ⟨.internal, message⟩

def Status.invalidArgument (message : String) : Status :=
  ⟨.invalidArgument, message⟩

/-! ## The runtime -/

/-- A method fails with an error, or panics.  The task of the call ends with a
panic, and `status` is what its client hears of that. -/
inductive Failure
  | error (e : VmError)
  | panic (status : Status)
  deriving DecidableEq

/-- The trait `VmRuntime`. -/
structure VmRuntime (State : Type) where
  startWorker : State → String → Bytes → UntrustedConfig → TrustedConfig →
    State × Except Failure String
  stopWorker : State → String → State × Except Failure Unit
  invokeWorker : State → String → String → Bytes → State × Except Failure Bytes
  invokeHttp : State → String → HttpRequest →
    State × Except Failure HttpResponse
  getAttestation : State → Bytes → State × Except Failure AttestationBundle
  getWorkerStatus : State → String → State × Except Failure WorkerStatus
  listRunningWorkers : State → State × Except Failure (List String)
  getWorkerLogs : State → String → State × Except Failure String
  streamWorkerLogs : State → String → UInt32 → Bool →
    State × Except Failure LogStream
  probeWorker : State → String → State × Except Failure (WorkerStatus × String)

/-! ## The server -/

section Server

variable {State : Type} (runtime : VmRuntime State)

/-- The response to what a method returns. -/
def settle {Result Response : Type} (returned : State × Except Failure Result)
    (respond : Except VmError Result → Except Status Response) :
    State × Except Status Response :=
  (returned.1, match returned.2 with
    | .ok result => respond (.ok result)
    | .error (.error e) => respond (.error e)
    | .error (.panic status) => .error status)

namespace VmServiceGrpc

def startWorker (state : State) (req : StartWorkerRequest) :
    State × Except Status StartWorkerResponse :=
  settle (runtime.startWorker state req.workerId req.workerCode
      (req.untrustedConfig.getD .default) (req.trustedConfig.getD .default))
    fun
    | .ok id => .ok { id, success := true, errorMessage := "" }
    | .error e => .ok { id := "", success := false, errorMessage := e.display }

def stopWorker (state : State) (id : String) :
    State × Except Status StopWorkerResponse :=
  settle (runtime.stopWorker state id) fun stopped =>
    .ok (serverStopWorker stopped)

def invokeWorker (state : State) (req : InvokeWorkerRequest) :
    State × Except Status InvokeWorkerResponse :=
  settle (runtime.invokeWorker state req.id req.handlerName req.payload) fun
    | .ok result => .ok { result, success := true, errorMessage := "" }
    | .error e =>
        .ok { result := [], success := false, errorMessage := e.display }

/-- The response is an optional field of its message. -/
def invokeHttp (state : State) (req : InvokeHttpRequest) :
    State × Except Status (Option HttpResponse) :=
  match req.request with
  | none =>
      (state, .error
        (Status.invalidArgument "Missing HttpRequest in InvokeHttpRequest"))
  | some request =>
      settle (runtime.invokeHttp state req.workerId request) fun
        | .ok response => .ok (some response)
        | .error e => .error
            (Status.internal ("HTTP invocation failed: " ++ e.display))

def getAttestation (state : State) (userData : Bytes) :
    State × Except Status (Option Proto.AttestationBundle) :=
  settle (runtime.getAttestation state userData) fun
    | .ok bundle => .ok (some bundle.intoProto)
    | .error e => .error
        (Status.internal ("Failed to get attestation: " ++ e.display))

def getWorkerStatus (state : State) (id : String) :
    State × Except Status GetWorkerStatusResponse :=
  settle (runtime.getWorkerStatus state id) fun
    | .ok status => .ok
        { id, status := statusToI32 status, success := true
          errorMessage := "" }
    | .error e => .ok
        { id, status := statusToI32 .unspecified, success := false
          errorMessage := e.display }

def listRunningWorkers (state : State) : State × Except Status (List String) :=
  settle (runtime.listRunningWorkers state) fun
    | .ok ids => .ok ids
    | .error e => .error
        (Status.internal ("Failed to list running workers: " ++ e.display))

def getWorkerLogs (state : State) (id : String) :
    State × Except Status GetWorkerLogsResponse :=
  settle (runtime.getWorkerLogs state id) fun
    | .ok logs => .ok { logs, success := true, errorMessage := "" }
    | .error e =>
        .ok { logs := "", success := false, errorMessage := e.display }

def streamWorkerLogs (state : State) (req : StreamWorkerLogsRequest) :
    State × Except Status LogStream :=
  settle (runtime.streamWorkerLogs state req.id req.tailLines req.follow) fun
    | .ok stream => .ok stream
    | .error e => .error
        (Status.internal ("Failed to stream worker logs: " ++ e.display))

def probeWorker (state : State) (id : String) :
    State × Except Status ProbeWorkerResponse :=
  settle (runtime.probeWorker state id) fun
    | .ok (status, statusMessage) => .ok
        { status := statusToI32 status, statusMessage }
    | .error e => .error
        (Status.internal ("Failed to probe worker: " ++ e.display))

end VmServiceGrpc

end Server

/-! ## The client -/

/-- The value of a response that tells of success itself. -/
def checked {Value : Type} (success : Bool) (value : Value)
    (errorMessage : String) : Except ClientError Value :=
  if success then .ok value
  else .error (.grpc (StopWorker.Status.unknown errorMessage))

section Client

variable {State : Type} (runtime : VmRuntime State) (fate : Fate Status)

namespace VmServiceClient

def startWorker (state : State) (workerId : String) (workerCode : Bytes)
    (untrustedConfig : UntrustedConfig) (trustedConfig : TrustedConfig) :
    State × Except ClientError String :=
  let sent := fate.carry (VmServiceGrpc.startWorker runtime) state
    { workerId, workerCode, untrustedConfig := some untrustedConfig
      trustedConfig := some trustedConfig }
  (sent.1, match sent.2 with
    | .error status => .error (.grpc status)
    | .ok response =>
        checked response.success response.id response.errorMessage)

def stopWorker (state : State) (id : String) :
    State × Except ClientError Unit :=
  let sent := fate.carry (VmServiceGrpc.stopWorker runtime) state id
  (sent.1, clientStopWorker sent.2)

def invokeWorker (state : State) (id handlerName : String) (payload : Bytes) :
    State × Except ClientError Bytes :=
  let sent := fate.carry (VmServiceGrpc.invokeWorker runtime) state
    { id, payload, handlerName }
  (sent.1, match sent.2 with
    | .error status => .error (.grpc status)
    | .ok response =>
        checked response.success response.result response.errorMessage)

def invokeHttp (state : State) (id : String) (request : HttpRequest) :
    State × Except ClientError HttpResponse :=
  let sent := fate.carry (VmServiceGrpc.invokeHttp runtime) state
    { workerId := id, request := some request }
  (sent.1, match sent.2 with
    | .error status => .error (.grpc status)
    | .ok none => .error
        (.grpc (Status.internal "No HttpResponse received from VM"))
    | .ok (some response) => .ok response)

def getAttestation (state : State) (userData : Bytes) :
    State × Except ClientError AttestationBundle :=
  let sent := fate.carry (VmServiceGrpc.getAttestation runtime) state userData
  (sent.1, match sent.2 with
    | .error status => .error (.grpc status)
    | .ok (some bundle) => .ok (AttestationBundle.fromProto bundle)
    | .ok none => .error
        (.grpc (Status.internal "No attestation bundle received")))

def workerStatus (value : Int32) : Except ClientError WorkerStatus :=
  match statusFromI32 value with
  | some status => .ok status
  | none => .error (.grpc (Status.internal "Invalid worker status received"))

def getWorkerStatus (state : State) (id : String) :
    State × Except ClientError WorkerStatus :=
  let sent := fate.carry (VmServiceGrpc.getWorkerStatus runtime) state id
  (sent.1, match sent.2 with
    | .error status => .error (.grpc status)
    | .ok response =>
        if response.success then workerStatus response.status
        else .error
          (.grpc (StopWorker.Status.unknown response.errorMessage)))

def listRunningWorkers (state : State) :
    State × Except ClientError (List String) :=
  let sent := fate.carry
    (fun state (_ : Unit) => VmServiceGrpc.listRunningWorkers runtime state)
    state ()
  (sent.1, match sent.2 with
    | .error status => .error (.grpc status)
    | .ok ids => .ok ids)

def getWorkerLogs (state : State) (id : String) :
    State × Except ClientError String :=
  let sent := fate.carry (VmServiceGrpc.getWorkerLogs runtime) state id
  (sent.1, match sent.2 with
    | .error status => .error (.grpc status)
    | .ok response =>
        checked response.success response.logs response.errorMessage)

/-- The items of the response stream are handed on through a channel.  The reply
is the whole stream: one that breaks off after the call has returned is no fate
of the call, and its client reads a first part of the items and a status. -/
def streamWorkerLogs (state : State) (id : String) (tailLines : UInt32)
    (follow : Bool) : State × Except ClientError LogStream :=
  let sent := fate.carry (VmServiceGrpc.streamWorkerLogs runtime) state
    { id, tailLines, follow }
  (sent.1, match sent.2 with
    | .error status => .error (.grpc status)
    | .ok stream => .ok stream)

def probeWorker (state : State) (id : String) :
    State × Except ClientError (WorkerStatus × String) :=
  let sent := fate.carry (VmServiceGrpc.probeWorker runtime) state id
  (sent.1, match sent.2 with
    | .error status => .error (.grpc status)
    | .ok response => do
        let status ← workerStatus response.status
        .ok (status, response.statusMessage))

end VmServiceClient

end Client

/-! ## Calls of the client and calls of the runtime -/

inductive Call
  | startWorker (workerId : String) (workerCode : Bytes)
      (untrustedConfig : UntrustedConfig) (trustedConfig : TrustedConfig)
  | stopWorker (id : String)
  | invokeWorker (id handlerName : String) (payload : Bytes)
  | invokeHttp (id : String) (request : HttpRequest)
  | getAttestation (userData : Bytes)
  | getWorkerStatus (id : String)
  | listRunningWorkers
  | getWorkerLogs (id : String)
  | streamWorkerLogs (id : String) (tailLines : UInt32) (follow : Bool)
  | probeWorker (id : String)

/-- What a call returns if it does not fail. -/
inductive Value
  | started (id : String)
  | stopped
  | invoked (result : Bytes)
  | responded (response : HttpResponse)
  | attested (bundle : AttestationBundle)
  | inStatus (status : WorkerStatus)
  | running (ids : List String)
  | logs (logs : String)
  | streaming (stream : LogStream)
  | probed (status : WorkerStatus) (statusMessage : String)

section Calls

variable {State : Type} (runtime : VmRuntime State)

def answerAs {Error Result : Type} (value : Result → Value)
    (returned : State × Except Error Result) : State × Except Error Value :=
  (returned.1, returned.2.map value)

def VmRuntime.answer (state : State) : Call → State × Except Failure Value
  | .startWorker workerId workerCode untrustedConfig trustedConfig =>
      answerAs .started (runtime.startWorker state workerId workerCode
        untrustedConfig trustedConfig)
  | .stopWorker id => answerAs (fun _ => .stopped) (runtime.stopWorker state id)
  | .invokeWorker id handlerName payload =>
      answerAs .invoked (runtime.invokeWorker state id handlerName payload)
  | .invokeHttp id request =>
      answerAs .responded (runtime.invokeHttp state id request)
  | .getAttestation userData =>
      answerAs .attested (runtime.getAttestation state userData)
  | .getWorkerStatus id =>
      answerAs .inStatus (runtime.getWorkerStatus state id)
  | .listRunningWorkers => answerAs .running (runtime.listRunningWorkers state)
  | .getWorkerLogs id => answerAs .logs (runtime.getWorkerLogs state id)
  | .streamWorkerLogs id tailLines follow =>
      answerAs .streaming (runtime.streamWorkerLogs state id tailLines follow)
  | .probeWorker id =>
      answerAs (fun probe => .probed probe.1 probe.2)
        (runtime.probeWorker state id)

def VmServiceClient.answer (state : State) (attempt : Fate Status × Call) :
    State × Except ClientError Value :=
  let fate := attempt.1
  match attempt.2 with
  | .startWorker workerId workerCode untrustedConfig trustedConfig =>
      answerAs .started (startWorker runtime fate state workerId workerCode
        untrustedConfig trustedConfig)
  | .stopWorker id =>
      answerAs (fun _ => .stopped) (stopWorker runtime fate state id)
  | .invokeWorker id handlerName payload =>
      answerAs .invoked (invokeWorker runtime fate state id handlerName payload)
  | .invokeHttp id request =>
      answerAs .responded (invokeHttp runtime fate state id request)
  | .getAttestation userData =>
      answerAs .attested (getAttestation runtime fate state userData)
  | .getWorkerStatus id =>
      answerAs .inStatus (getWorkerStatus runtime fate state id)
  | .listRunningWorkers =>
      answerAs .running (listRunningWorkers runtime fate state)
  | .getWorkerLogs id => answerAs .logs (getWorkerLogs runtime fate state id)
  | .streamWorkerLogs id tailLines follow =>
      answerAs .streaming
        (streamWorkerLogs runtime fate state id tailLines follow)
  | .probeWorker id =>
      answerAs (fun probe => .probed probe.1 probe.2)
        (probeWorker runtime fate state id)

/-- The status that stands for a failure of the runtime. -/
def Call.failure (e : VmError) : Call → Status
  | .startWorker .. | .stopWorker .. | .invokeWorker .. | .getWorkerStatus ..
  | .getWorkerLogs .. => StopWorker.Status.unknown e.display
  | .invokeHttp .. => Status.internal ("HTTP invocation failed: " ++ e.display)
  | .getAttestation .. =>
      Status.internal ("Failed to get attestation: " ++ e.display)
  | .listRunningWorkers =>
      Status.internal ("Failed to list running workers: " ++ e.display)
  | .streamWorkerLogs .. =>
      Status.internal ("Failed to stream worker logs: " ++ e.display)
  | .probeWorker .. => Status.internal ("Failed to probe worker: " ++ e.display)

/-- A bundle goes through its message, which has no empty list of
certificates. -/
def Value.received : Value → Value
  | .attested bundle => .attested (AttestationBundle.fromProto bundle.intoProto)
  | value => value

def Call.read (call : Call) :
    Except Failure Value → Except ClientError Value
  | .ok value => .ok value.received
  | .error (.error e) => .error (.grpc (call.failure e))
  | .error (.panic status) => .error (.grpc status)

def lost (status : Status) : Except ClientError Value := .error (.grpc status)

theorem workerStatus_toI32 (status : WorkerStatus) :
    VmServiceClient.workerStatus (statusToI32 status) = .ok status := by
  rw [VmServiceClient.workerStatus, statusFromI32_toI32]

/-- The reply that comes back is the runtime's, read as the call reads it. -/
theorem client_delivered (state : State) (call : Call) :
    VmServiceClient.answer runtime state (.delivered, call) =
      ((runtime.answer state call).1,
        call.read (runtime.answer state call).2) := by
  cases call with
  | startWorker workerId workerCode untrustedConfig trustedConfig =>
      simp only [VmServiceClient.answer, VmServiceClient.startWorker,
        VmRuntime.answer, answerAs, Fate.carry, settle,
        VmServiceGrpc.startWorker,
        Option.getD_some]
      cases (runtime.startWorker state workerId workerCode untrustedConfig
        trustedConfig).2 with
      | ok result => rfl
      | error failure => cases failure <;> rfl
  | stopWorker id =>
      simp only [VmServiceClient.answer, VmServiceClient.stopWorker,
        VmRuntime.answer, answerAs, Fate.carry, settle,
        VmServiceGrpc.stopWorker]
      cases (runtime.stopWorker state id).2 with
      | ok result => rfl
      | error failure => cases failure <;> rfl
  | invokeWorker id handlerName payload =>
      simp only [VmServiceClient.answer, VmServiceClient.invokeWorker,
        VmRuntime.answer, answerAs, Fate.carry, settle,
        VmServiceGrpc.invokeWorker]
      cases (runtime.invokeWorker state id handlerName payload).2 with
      | ok result => rfl
      | error failure => cases failure <;> rfl
  | invokeHttp id request =>
      simp only [VmServiceClient.answer, VmServiceClient.invokeHttp,
        VmRuntime.answer, answerAs, Fate.carry, settle,
        VmServiceGrpc.invokeHttp]
      cases (runtime.invokeHttp state id request).2 with
      | ok result => rfl
      | error failure => cases failure <;> rfl
  | getAttestation userData =>
      simp only [VmServiceClient.answer, VmServiceClient.getAttestation,
        VmRuntime.answer, answerAs, Fate.carry, settle,
        VmServiceGrpc.getAttestation]
      cases (runtime.getAttestation state userData).2 with
      | ok result => rfl
      | error failure => cases failure <;> rfl
  | getWorkerStatus id =>
      simp only [VmServiceClient.answer, VmServiceClient.getWorkerStatus,
        VmRuntime.answer, answerAs, Fate.carry, settle,
        VmServiceGrpc.getWorkerStatus]
      cases (runtime.getWorkerStatus state id).2 with
      | ok status =>
          simp only [if_true, workerStatus_toI32]
          rfl
      | error failure => cases failure <;> rfl
  | listRunningWorkers =>
      simp only [VmServiceClient.answer, VmServiceClient.listRunningWorkers,
        VmRuntime.answer, answerAs, Fate.carry, settle,
        VmServiceGrpc.listRunningWorkers]
      cases (runtime.listRunningWorkers state).2 with
      | ok result => rfl
      | error failure => cases failure <;> rfl
  | getWorkerLogs id =>
      simp only [VmServiceClient.answer, VmServiceClient.getWorkerLogs,
        VmRuntime.answer, answerAs, Fate.carry, settle,
        VmServiceGrpc.getWorkerLogs]
      cases (runtime.getWorkerLogs state id).2 with
      | ok result => rfl
      | error failure => cases failure <;> rfl
  | streamWorkerLogs id tailLines follow =>
      simp only [VmServiceClient.answer, VmServiceClient.streamWorkerLogs,
        VmRuntime.answer, answerAs, Fate.carry, settle,
        VmServiceGrpc.streamWorkerLogs]
      cases (runtime.streamWorkerLogs state id tailLines follow).2 with
      | ok result => rfl
      | error failure => cases failure <;> rfl
  | probeWorker id =>
      simp only [VmServiceClient.answer, VmServiceClient.probeWorker,
        VmRuntime.answer, answerAs, Fate.carry, settle,
        VmServiceGrpc.probeWorker]
      cases (runtime.probeWorker state id).2 with
      | ok probe =>
          simp only [workerStatus_toI32]
          rfl
      | error failure => cases failure <;> rfl

/-- A call whose request is lost leaves the runtime alone. -/
theorem client_requestLost (state : State) (call : Call) (status : Status) :
    VmServiceClient.answer runtime state (.requestLost status, call) =
      (state, lost status) := by
  cases call <;> rfl

/-- A call whose reply is lost has been made all the same. -/
theorem client_replyLost (state : State) (call : Call) (status : Status) :
    VmServiceClient.answer runtime state (.replyLost status, call) =
      ((runtime.answer state call).1, lost status) := by
  cases call <;> rfl

theorem client_stub :
    Stub (fun _ => True) runtime.answer lost Call.read
      (VmServiceClient.answer runtime) where
  delivered := fun state call _ => client_delivered runtime state call
  requestLost := client_requestLost runtime
  replyLost := fun state call status _ =>
    client_replyLost runtime state call status

/-- Over any run of the client the runtime is called exactly as the client
was, as far as the calls arrive, and each reply that comes back is the one that
the runtime gave. -/
theorem client_simulates (state : State)
    (attempts : List (Fate Status × Call)) :
    serve (VmServiceClient.answer runtime) state attempts =
      ((serve runtime.answer state (arriving attempts)).1,
        hear lost Call.read attempts
          (serve runtime.answer state (arriving attempts)).2) :=
  (client_stub runtime).serve_eq state fun _ _ => trivial

end Calls

end NxccBridge.VmService
