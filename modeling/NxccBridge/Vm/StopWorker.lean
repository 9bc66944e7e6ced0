/-!
# Stopping a worker through the VM service

The error of `VmRuntime::stop_worker` on its way to the enclave: the error type
of the runtime, the `VmError` that it becomes, the reply of the gRPC server, and
the status that the client makes of it (`node/vm/base/src/server/mod.rs` and
`node/vm/base/src/client/mod.rs`).
-/

namespace NxccBridge.StopWorker

/-! ## The runtimes -/

inductive WorkerStatus
  | unspecified
  | starting
  | running
  | stopping
  | stopped
  | error
  deriving DecidableEq

def WorkerStatus.debug : WorkerStatus → String
  | .unspecified => "Unspecified"
  | .starting => "Starting"
  | .running => "Running"
  | .stopping => "Stopping"
  | .stopped => "Stopped"
  | .error => "Error"

/-- The errors with which `stop_worker` of the Zenroom runtime fails. -/
inductive ZenroomVmError
  | workerNotFound (id : String)
  deriving DecidableEq

def ZenroomVmError.display : ZenroomVmError → String
  | .workerNotFound id => "Worker not found: " ++ id

/-- The errors with which `stop_worker` of the workerd runtime fails. -/
inductive WorkerdVmError
  | workerNotFound (id : String)
  | internal (message : String)
  | workerNotRunnable (status : WorkerStatus)
  deriving DecidableEq

def WorkerdVmError.display : WorkerdVmError → String
  | .workerNotFound id => "Worker instance not found: " ++ id
  | .internal message => "Internal error: " ++ message
  | .workerNotRunnable status =>
      "Worker is not in a runnable state: " ++ status.debug

/-- `source` is the display of the underlying error. -/
structure VmError where
  message : String
  source : Option String
  deriving DecidableEq

namespace VmError

def new (message : String) : VmError := ⟨message, none⟩

def withSource (message source : String) : VmError := ⟨message, some source⟩

def display (self : VmError) : String :=
  match self.source with
  | some source => self.message ++ ": " ++ source
  | none => self.message

end VmError

def ZenroomVmError.toVmError (self : ZenroomVmError) : VmError :=
  .new self.display

def WorkerdVmError.toVmError (self : WorkerdVmError) : VmError :=
  .withSource self.display self.display

inductive RuntimeError
  | zenroom (error : ZenroomVmError)
  | workerd (error : WorkerdVmError)
  deriving DecidableEq

def RuntimeError.toVmError : RuntimeError → VmError
  | .zenroom error => error.toVmError
  | .workerd error => error.toVmError

def RuntimeError.isWorkerNotFound : RuntimeError → Bool
  | .zenroom (.workerNotFound _) => true
  | .workerd (.workerNotFound _) => true
  | .workerd _ => false

/-! ## The service -/

structure StopWorkerResponse where
  success : Bool
  errorMessage : String
  deriving DecidableEq

/-- `VmServiceGrpc::stop_worker` with the runtime's answer. -/
def serverStopWorker : Except VmError Unit → StopWorkerResponse
  | .ok () => { success := true, errorMessage := "" }
  | .error e => { success := false, errorMessage := e.display }

/-- `tonic::Code`. -/
inductive Code
  | ok
  | cancelled
  | unknown
  | invalidArgument
  | deadlineExceeded
  | notFound
  | alreadyExists
  | permissionDenied
  | resourceExhausted
  | failedPrecondition
  | aborted
  | outOfRange
  | unimplemented
  | internal
  | unavailable
  | dataLoss
  | unauthenticated
  deriving DecidableEq

/-- `tonic::Status`. -/
structure Status where
  code : Code
  message : String
  deriving DecidableEq

def Status.unknown (message : String) : Status := ⟨.unknown, message⟩

inductive ClientError
  | transport (message : String)
  | grpc (status : Status)
  | tlsConfig (message : String)
  | io (message : String)
  | connect (message : String)
  | uri (message : String)
  deriving DecidableEq

/-- The code that a client error carries. -/
def ClientError.code : ClientError → Option Code
  | .grpc status => some status.code
  | _ => none

/-- `VmServiceClient::stop_worker` with what the gRPC call returns. -/
def clientStopWorker (response : Except Status StopWorkerResponse) :
    Except ClientError Unit :=
  match response with
  | .error status => .error (.grpc status)
  | .ok response =>
      if response.success then .ok ()
      else .error (.grpc (.unknown response.errorMessage))

/-- A call of `stop_worker` through the service: the gRPC call fails, or the
runtime answers. -/
abbrev StopCall := Except Status (Except RuntimeError Unit)

def stopThroughService (call : StopCall) : Except ClientError Unit :=
  clientStopWorker
    (call.map fun answer => serverStopWorker (answer.mapError (·.toVmError)))

/-- The runtime answers that it does not know the worker. -/
def AnswersNotFound (call : StopCall) : Prop :=
  ∃ error : RuntimeError, call = .ok (.error error) ∧
    error.isWorkerNotFound = true

def ReportsNotFound (result : Except ClientError Unit) : Prop :=
  ∃ error, result = .error error ∧ error.code = some .notFound

theorem stopThroughService_answered (error : RuntimeError) :
    stopThroughService (.ok (.error error)) =
      .error (.grpc (.unknown error.toVmError.display)) := rfl

/-- Whatever the runtime answers, the client does not report `NotFound`. -/
theorem not_reportsNotFound {call : StopCall}
    (hcall : ∀ status, call = .error status → status.code ≠ .notFound) :
    ¬ReportsNotFound (stopThroughService call) := by
  rintro ⟨error, hresult, hcode⟩
  match call with
  | .error status =>
      obtain rfl : ClientError.grpc status = error := Except.error.inj hresult
      exact hcall status rfl (Option.some.inj hcode)
  | .ok (.ok ()) => cases hresult
  | .ok (.error e) =>
      rw [stopThroughService_answered] at hresult
      obtain rfl := Except.error.inj hresult
      cases hcode

end NxccBridge.StopWorker
