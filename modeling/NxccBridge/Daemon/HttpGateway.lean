import NxccBridge.Daemon.EventQueue
import NxccBridge.Enclave.EventLoop

/-!
# The HTTP gateway

`universal_http_handler` of `node/daemon/src/http_server.rs` and
`invoke_http_worker` on its way through the daemon's client, the enclave and the
client of the VM.  The request and the response are taken apart and put together
again at every stage; on the whole they pass as through a proxy.
-/

namespace NxccBridge.HttpGateway

open NxccBridge.Framing
open NxccBridge.Http
open NxccBridge.Invocation
open NxccBridge.Multimaps
open NxccBridge.Services
open NxccBridge.Envelope (HttpRequest HttpResponse)
open NxccBridge.EventQueue (mapRunnerError)
open NxccBridge.PolicyExecution (RunnerError)
open NxccBridge.StopWorker (ClientError Status)
open NxccBridge.VmService (VmRuntime VmServiceClient.invokeHttp)

/-! ## The enclave -/

/-- The maps of the runner; a client stands for the VM that it is connected
to. -/
structure Enclave (State : Type) where
  workerMap : String → Option String
  vms : String → Option State

/-- What becomes of a call on its way to the enclave, and from there to the
VM. -/
structure Fates where
  toEnclave : Fate Status
  toVm : Fate Status

/-- The message `InvokeHttpWorkerRequest`. -/
structure InvokeHttpWorkerRequest where
  workerId : String
  request : Option HttpRequest

def tonicStatus : EventQueue.Status → Status
  | .invalidArgument message => ⟨.invalidArgument, message⟩
  | .failedPrecondition message => ⟨.failedPrecondition, message⟩
  | .notFound message => ⟨.notFound, message⟩
  | .internal message => ⟨.internal, message⟩

section Enclave

variable {State : Type} (runtimes : String → VmRuntime State)
  -- How `tonic::Status` is displayed.
  (statusText : Status → String)

def displayClientError : ClientError → String
  | .transport message => "Transport error: " ++ message
  | .grpc status => "gRPC error: " ++ statusText status
  | .tlsConfig message => "TLS configuration error: " ++ message
  | .io message => "I/O error: " ++ message
  | .connect message => "Failed to connect to VM service: " ++ message
  | .uri message => "Invalid URI: " ++ message

/-- `RunnerService::invoke_http_worker`. -/
def runnerInvokeHttpWorker (fate : Fate Status) (enclave : Enclave State)
    (workerId : String) (request : HttpRequest) :
    Enclave State × Except RunnerError HttpResponse :=
  match enclave.workerMap workerId with
  | none => (enclave, .error (.workerNotFound workerId))
  | some vmId =>
      match enclave.vms vmId with
      | none => (enclave, .error (.vmNotAttached vmId))
      | some vm =>
          let invoked := VmServiceClient.invokeHttp (runtimes vmId) fate vm
            workerId request
          ({ enclave with
              vms := Function.update enclave.vms vmId (some invoked.1) },
            invoked.2.mapError fun e =>
              .vmConnection (displayClientError statusText e))

/-- `EnclaveRunnerGrpcService::invoke_http_worker`. -/
def grpcInvokeHttpWorker (fate : Fate Status) (enclave : Enclave State)
    (req : InvokeHttpWorkerRequest) :
    Enclave State × Except Status (Option HttpResponse) :=
  match req.request with
  | none => (enclave, .error ⟨.invalidArgument,
      "Missing HttpRequest in InvokeHttpWorkerRequest"⟩)
  | some request =>
      let invoked := runnerInvokeHttpWorker runtimes statusText fate enclave
        req.workerId request
      (invoked.1, match invoked.2 with
        | .ok response => .ok (some response)
        | .error e => .error (tonicStatus (mapRunnerError e)))

/-- `EnclaveClient::invoke_http_worker`. -/
def clientInvokeHttpWorker (fates : Fates) (enclave : Enclave State)
    (workerId : String) (request : HttpRequest) :
    Enclave State × Except String HttpResponse :=
  let sent := fates.toEnclave.carry
    (grpcInvokeHttpWorker runtimes statusText fates.toVm) enclave
    { workerId, request := some request }
  (sent.1, match sent.2 with
    | .error status => .error (statusText status)
    | .ok none => .error "Enclave returned no HttpResponse"
    | .ok (some response) => .ok response)

end Enclave

/-! ## The handler -/

/-- `trim_start_matches('/')`. -/
def trimStart (path : List Char) : List Char := path.dropWhile (· == '/')

/-- `split_once('/')`, or all of the path before it. -/
def splitOnce (path : List Char) : List Char × List Char :=
  (path.takeWhile (· != '/'), (path.dropWhile (· != '/')).drop 1)

def status404 : StatusCode := .notFound

def internalServerError : StatusCode := .internalServerError

/-- The type of a response that is made of a text. -/
def plainText : HeaderValue := ⟨utf8 "text/plain; charset=utf-8", by decide⟩

def textHeaders : Headers :=
  MultiMap.empty.append (HeaderName.contentType, plainText)

def textResponse (status : StatusCode) (text : String) : Response where
  status := status
  headers := textHeaders
  body := utf8 text

/-- A header that cannot be parsed is left out. -/
def addHeader (headers : Headers) (header : String × Bytes) : Headers :=
  match HeaderName.fromText header.1, HeaderValue.fromBytes header.2 with
  | some name, some value => headers.append (name, value)
  | _, _ => headers

/-- The response to the client of the gateway. -/
def buildResponse (response : HttpResponse) : Response where
  status :=
    (StatusCode.fromNumber (response.statusCode % 65536)).getD
      internalServerError
  headers := response.headers.foldl addHeader .empty
  body := response.body

/-- The response to an invocation. -/
def respond : Except String HttpResponse → Response
  | .ok response => buildResponse response
  | .error e => textResponse internalServerError
      ("Error processing request: " ++ e)

/-- A request, or the error with which the reading of its body ends. -/
structure Incoming (chars : UriChars) where
  request : Request (Target chars)
  unread : Option String

section Handler

variable {chars : UriChars}

def workerUri (workerPath : List Char) (query : Option (List Char)) : String :=
  String.ofList ('/' :: workerPath ++ (match query with
    | none => []
    | some query => '?' :: query))

variable {State : Type} (runtimes : String → VmRuntime State)
  (statusText : Status → String)

def universalHttpHandler (mounts : String → Option String) (fates : Fates)
    (enclave : Enclave State) (incoming : Incoming chars) :
    Enclave State × Response :=
  let request := incoming.request
  let (mountSegment, workerPath) := splitOnce (trimStart request.target.path)
  if mountSegment = [] then (enclave, textResponse status404 "Not Found")
  else
    match mounts (String.ofList mountSegment) with
    | none => (enclave, textResponse status404
        ("No worker mounted at segment: " ++ String.ofList mountSegment))
    | some enclaveWorkerId =>
        match incoming.unread with
        | some _ => (enclave,
            textResponse internalServerError "Failed to read request body")
        | none =>
            let invoked := clientInvokeHttpWorker runtimes statusText fates
              enclave enclaveWorkerId
              { method := request.method.asStr
                uri := workerUri workerPath request.target.query
                headers := headersProto request.headers
                body := request.body }
            (invoked.1, respond invoked.2)

end Handler

/-! ## The proxy -/

section Proxy

variable {chars : UriChars} {World : Type}

/-- The gateway with the VMs behind it. -/
structure Gateway (World : Type) where
  mounts : String → Option String
  enclave : Enclave (WorkerdVmm World)

/-- Requests come, and anything else may change the tables and the workers. -/
inductive Act (chars : UriChars) (World : Type)
  | request (fates : Fates) (incoming : Incoming chars)
  | change (gateway : Gateway World)

/-- A reply is the response of a worker, or a page of the gateway itself. -/
inductive Reply
  | worker (response : Response)
  | own (status : StatusCode)

def Reply.ofResponse : Option Response → Reply
  | some response => .worker response
  | none => .own internalServerError

def mountOf (target : Target chars) : List Char :=
  (splitOnce (trimStart target.path)).1

theorem mem_path_of_mem_split {target : Target chars} {char : Char}
    (hchar : char ∈ (splitOnce (trimStart target.path)).2) :
    char ∈ target.segments := by
  have htrim : trimStart target.path = trimStart target.segments := rfl
  rw [htrim] at hchar
  have hrest := List.mem_of_mem_drop hchar
  have htrimmed := (List.dropWhile_sublist _).mem hrest
  exact (List.dropWhile_sublist _).mem htrimmed

/-- The target without its mount. -/
def forwarded (target : Target chars) : Target chars where
  segments := (splitOnce (trimStart target.path)).2
  query := target.query
  segments_path := by
    rw [List.all_eq_true]
    intro char hchar
    exact List.all_eq_true.mp target.segments_path char
      (mem_path_of_mem_split hchar)
  query_query := target.query_query

/-- The worker of the target's mount. -/
def Gateway.mounted (gateway : Gateway World) (target : Target chars) :
    Option String :=
  if mountOf target = [] then none
  else gateway.mounts (String.ofList (mountOf target))

/-- The VM of a running worker, with the socket of the worker. -/
def Enclave.socketOf (enclave : Enclave (WorkerdVmm World))
    (workerId : String) : Option (String × WorkerdVmm World × String) :=
  match enclave.workerMap workerId with
  | none => none
  | some vmId =>
      match enclave.vms vmId with
      | none => none
      | some vmm =>
          match vmm.workers workerId with
          | none => none
          | some worker =>
              if worker.status = .running then
                some (vmId, vmm, worker.udsPath)
              else none

def Enclave.setWorld (enclave : Enclave (WorkerdVmm World)) (vmId : String)
    (vmm : WorkerdVmm World) (world : World) : Enclave (WorkerdVmm World) :=
  { enclave with
    vms := Function.update enclave.vms vmId (some { vmm with world }) }

def Fates.arrive (fates : Fates) : Bool :=
  fates.toEnclave.arrives && fates.toVm.arrives

def Fates.return (fates : Fates) : Bool :=
  fates.toEnclave.returns && fates.toVm.returns

variable (sockets : String → Sockets chars World)

/-- A running worker is sent the request, and its response is the reply. -/
def proxyTo (gateway : Gateway World) (fates : Fates) (workerId : String)
    (request : Request (Target chars)) : Gateway World × Reply :=
  match gateway.enclave.socketOf workerId with
  | none => (gateway, .own internalServerError)
  | some (vmId, vmm, udsPath) =>
      let answered := sockets vmId vmm.world udsPath request
      (if fates.arrive then
          { gateway with
            enclave := gateway.enclave.setWorld vmId vmm answered.1 }
        else gateway,
        .ofResponse (if fates.return then answered.2.toOption else none))

/-- The worker of the mount is sent the request as it is, but for the mount. -/
def proxy (gateway : Gateway World) :
    Act chars World → Gateway World × Option Reply
  | .change later => (later, none)
  | .request fates incoming =>
      match gateway.mounted incoming.request.target, incoming.unread with
      | none, _ => (gateway, some (.own status404))
      | some _, some _ => (gateway, some (.own internalServerError))
      | some workerId, none =>
          let proxied := proxyTo sockets gateway fates workerId
            { incoming.request with
              target := forwarded incoming.request.target }
          (proxied.1, some proxied.2)

variable (panicked : Status)
  (others : String → VmRuntime (WorkerdVmm World))
  (statusText : Status → String)

def runtimes (vmId : String) : VmRuntime (WorkerdVmm World) :=
  withInvocations (sockets vmId) panicked (others vmId)

def serveAct (gateway : Gateway World) :
    Act chars World → Gateway World × Option Response
  | .change later => (later, none)
  | .request fates incoming =>
      let handled := universalHttpHandler
        (runtimes sockets panicked others) statusText gateway.mounts fates
        gateway.enclave incoming
      ({ gateway with enclave := handled.1 }, some handled.2)

/-- The response of a worker comes as it is; a page of the gateway is plain
text. -/
def Shown : Option Reply → Option Response → Prop
  | some (.worker response), shown => shown = some response
  | some (.own status), some shown =>
      shown.status = status ∧ shown.headers = textHeaders
  | none, none => True
  | _, _ => False

/-! ## The gateway is a proxy -/

omit chars World in
/-- The headers that a worker sent are all read. -/
theorem foldl_addHeader (items : List (HeaderName × HeaderValue))
    (headers : Headers) :
    (items.map fun header => (header.1.asStr, header.2.bytes)).foldl addHeader
        headers =
      items.foldl MultiMap.append headers := by
  induction items generalizing headers with
  | nil => rfl
  | cons item rest ih =>
      have hitem : addHeader headers (item.1.asStr, item.2.bytes) =
          headers.append item := by
        rw [addHeader, HeaderName.fromText_asStr, HeaderValue.fromBytes_bytes]
      rw [List.map_cons, List.foldl_cons, List.foldl_cons, hitem]
      exact ih _

omit chars World in
theorem buildResponse_responseProto (response : Response) :
    buildResponse (responseProto response) = response := by
  have hcode : response.status.code % 65536 = response.status.code :=
    Nat.mod_eq_of_lt (by have := response.status.wellFormed; omega)
  have hheaders : (headersProto response.headers).foldl addHeader .empty =
      response.headers :=
    (foldl_addHeader response.headers.iter .empty).trans
      (MultiMap.ofItems_iter response.headers)
  rw [buildResponse, responseProto, hcode, StatusCode.fromNumber_code,
    hheaders, Option.getD_some]

omit World in
/-- The request that is put together is the one for the worker. -/
theorem request_eq (request : Request (Target chars)) :
    ({ method := request.method.asStr
       uri := workerUri (splitOnce (trimStart request.target.path)).2
         request.target.query
       headers := headersProto request.headers
       body := request.body } : HttpRequest) =
      requestProto { request with target := forwarded request.target } := rfl

/-- What comes of a request to a worker: the enclave that it leaves, and the
response of the worker, if there is one. -/
def Answers {State Error : Type} (later : State) (response : Option Response)
    (result : State × Except Error HttpResponse) : Prop :=
  result.1 = later ∧
    match response with
    | some response => result.2 = .ok (responseProto response)
    | none => ∃ e, result.2 = .error e

omit chars in
theorem setWorld_eq {enclave : Enclave (WorkerdVmm World)} {vmId : String}
    {vmm : WorkerdVmm World} (hvmm : enclave.vms vmId = some vmm) :
    { enclave with vms := Function.update enclave.vms vmId (some vmm) } =
      enclave := by
  rw [← hvmm, Function.update_eq_self]

theorem vm_of_socketOf {enclave : Enclave (WorkerdVmm World)}
    {workerId vmId udsPath : String} {vmm : WorkerdVmm World}
    (hsocket : enclave.socketOf workerId = some (vmId, vmm, udsPath)) :
    enclave.workerMap workerId = some vmId ∧ enclave.vms vmId = some vmm ∧
      ∃ worker, vmm.workers workerId = some worker ∧
        worker.status = .running ∧ worker.udsPath = udsPath := by
  rw [Enclave.socketOf] at hsocket
  cases hvmId : enclave.workerMap workerId with
  | none => simp [hvmId] at hsocket
  | some id =>
      cases hvm : enclave.vms id with
      | none => simp [hvmId, hvm] at hsocket
      | some vm =>
          cases hworker : vm.workers workerId with
          | none => simp [hvmId, hvm, hworker] at hsocket
          | some worker =>
              simp only [hvmId, hvm, hworker, Option.ite_none_right_eq_some,
                Option.some.injEq, Prod.mk.injEq] at hsocket
              obtain ⟨hrunning, rfl, rfl, hpath⟩ := hsocket
              exact ⟨rfl, hvm, worker, hworker, hrunning, hpath⟩

/-- The VM sends the request to the socket of a running worker. -/
theorem vm_answers (vmId : String) {workerId : String} {vmm : WorkerdVmm World}
    {worker : WorkerData} (hworker : vmm.workers workerId = some worker)
    (hrunning : worker.status = .running) (fate : Fate Status)
    (request : Request (Target chars)) :
    Answers
      (if fate.arrives then
        { vmm with
          world := (sockets vmId vmm.world worker.udsPath request).1 }
      else vmm)
      (if fate.returns then
        (sockets vmId vmm.world worker.udsPath request).2.toOption
      else none)
      (VmServiceClient.invokeHttp (runtimes sockets panicked others vmId) fate
        vmm workerId (requestProto request)) := by
  have hinvoked : (runtimes sockets panicked others vmId).invokeHttp vmm
      workerId (requestProto request) = _ :=
    invoke_running (sockets vmId) panicked hworker hrunning
      (requestProto request)
  rw [invokeViaUds_requestProto] at hinvoked
  cases fate with
  | requestLost status => exact ⟨rfl, _, rfl⟩
  | replyLost status => exact ⟨congrArg Prod.fst hinvoked, _, rfl⟩
  | delivered =>
      simp only [VmServiceClient.invokeHttp, Fate.carry,
        VmService.VmServiceGrpc.invokeHttp, VmService.settle, hinvoked]
      cases (sockets vmId vmm.world worker.udsPath request).2 with
      | error source => exact ⟨rfl, _, rfl⟩
      | ok response => exact ⟨rfl, rfl⟩

/-- The runner sends the request to the VM of the worker. -/
theorem runner_answers {enclave : Enclave (WorkerdVmm World)}
    {workerId vmId udsPath : String} {vmm : WorkerdVmm World}
    (hsocket : enclave.socketOf workerId = some (vmId, vmm, udsPath))
    (fate : Fate Status) (request : Request (Target chars)) :
    Answers
      (if fate.arrives then
        enclave.setWorld vmId vmm (sockets vmId vmm.world udsPath request).1
      else enclave)
      (if fate.returns then
        (sockets vmId vmm.world udsPath request).2.toOption
      else none)
      (runnerInvokeHttpWorker (runtimes sockets panicked others) statusText fate
        enclave workerId (requestProto request)) := by
  obtain ⟨hvmId, hvm, worker, hworker, hrunning, rfl⟩ := vm_of_socketOf hsocket
  obtain ⟨hstate, hreply⟩ := vm_answers sockets panicked others vmId hworker
    hrunning fate request
  simp only [runnerInvokeHttpWorker, hvmId, hvm]
  constructor
  · rw [hstate]
    cases fate.arrives with
    | true => rfl
    | false => exact setWorld_eq hvm
  · split at hreply
    · rw [hreply]
      rfl
    · obtain ⟨e, he⟩ := hreply
      rw [he]
      exact ⟨_, rfl⟩

/-- Without a running worker the VM answers with an error. -/
theorem vm_fails (vmId : String) {workerId : String} {vmm : WorkerdVmm World}
    (hstopped : ∀ worker, vmm.workers workerId = some worker →
      worker.status ≠ .running)
    (fate : Fate Status) (request : HttpRequest) :
    Answers vmm none
      (VmServiceClient.invokeHttp (runtimes sockets panicked others vmId) fate
        vmm workerId request) := by
  have hinvoked : ∃ e, (runtimes sockets panicked others vmId).invokeHttp vmm
      workerId request = (vmm, .error (.error e)) := by
    change ∃ e, invoke (sockets vmId) panicked vmm workerId request =
      (vmm, .error (.error e))
    rw [invoke]
    cases hworker : vmm.workers workerId with
    | none => exact ⟨_, rfl⟩
    | some worker =>
        simp only [ne_eq, hstopped worker hworker, not_false_eq_true, if_true]
        exact ⟨_, rfl⟩
  obtain ⟨e, hinvoked⟩ := hinvoked
  cases fate with
  | requestLost status => exact ⟨rfl, _, rfl⟩
  | replyLost status => exact ⟨congrArg Prod.fst hinvoked, _, rfl⟩
  | delivered =>
      simp only [VmServiceClient.invokeHttp, Fate.carry,
        VmService.VmServiceGrpc.invokeHttp, VmService.settle, hinvoked]
      exact ⟨rfl, _, rfl⟩

theorem stopped_of_socketOf {enclave : Enclave (WorkerdVmm World)}
    {workerId vmId : String} {vmm : WorkerdVmm World}
    (hsocket : enclave.socketOf workerId = none)
    (hvmId : enclave.workerMap workerId = some vmId)
    (hvm : enclave.vms vmId = some vmm) (worker : WorkerData)
    (hworker : vmm.workers workerId = some worker) :
    worker.status ≠ .running := by
  intro hrunning
  simp [Enclave.socketOf, hvmId, hvm, hworker, hrunning] at hsocket

theorem runner_fails {enclave : Enclave (WorkerdVmm World)} {workerId : String}
    (hsocket : enclave.socketOf workerId = none) (fate : Fate Status)
    (request : HttpRequest) :
    Answers enclave none
      (runnerInvokeHttpWorker (runtimes sockets panicked others) statusText fate
        enclave workerId request) := by
  rw [runnerInvokeHttpWorker]
  cases hvmId : enclave.workerMap workerId with
  | none => exact ⟨rfl, _, rfl⟩
  | some vmId =>
      cases hvm : enclave.vms vmId with
      | none => simp only [hvm]; exact ⟨rfl, _, rfl⟩
      | some vmm =>
          obtain ⟨hstate, e, he⟩ := vm_fails sockets panicked others vmId
            (stopped_of_socketOf hsocket hvmId hvm) fate request
          simp only [hvm, hstate, he]
          exact ⟨setWorld_eq hvm, _, rfl⟩

/-- The client of the enclave passes on what the runner answers. -/
theorem client_answers {fates : Fates}
    {enclave later : Enclave (WorkerdVmm World)} {workerId : String}
    {request : HttpRequest} {response : Option Response}
    (hrunner : Answers later response
      (runnerInvokeHttpWorker (runtimes sockets panicked others) statusText
        fates.toVm enclave workerId request)) :
    Answers (if fates.toEnclave.arrives then later else enclave)
      (if fates.toEnclave.returns then response else none)
      (clientInvokeHttpWorker (runtimes sockets panicked others) statusText
        fates enclave workerId request) := by
  obtain ⟨hstate, hreply⟩ := hrunner
  obtain ⟨toEnclave, toVm⟩ := fates
  cases toEnclave with
  | requestLost status => exact ⟨rfl, _, rfl⟩
  | replyLost status => exact ⟨hstate, _, rfl⟩
  | delivered =>
      refine ⟨hstate, ?_⟩
      simp only [clientInvokeHttpWorker, Fate.carry, grpcInvokeHttpWorker,
        Fate.returns, if_true]
      cases response with
      | none =>
          obtain ⟨e, he⟩ := hreply
          rw [he]
          exact ⟨_, rfl⟩
      | some response =>
          rw [show _ = _ from hreply]

omit chars World in
/-- The page or the response that the client of the gateway is shown. -/
theorem shown_of_answers {State : Type} {later : State}
    {response : Option Response} {result : State × Except String HttpResponse}
    (hanswers : Answers later response result) :
    Shown (some (.ofResponse response)) (some (respond result.2)) := by
  obtain ⟨-, hreply⟩ := hanswers
  cases response with
  | none =>
      obtain ⟨e, he⟩ := hreply
      rw [he]
      exact ⟨rfl, rfl⟩
  | some response =>
      have hok : result.2 = .ok (responseProto response) := hreply
      rw [hok]
      exact congrArg some (buildResponse_responseProto response)

/-- A request for a mount without worker. -/
theorem handler_unmounted {gateway : Gateway World} {incoming : Incoming chars}
    (hmounted : gateway.mounted incoming.request.target = none)
    (fates : Fates) :
    ∃ text, universalHttpHandler (runtimes sockets panicked others) statusText
        gateway.mounts fates gateway.enclave incoming =
      (gateway.enclave, textResponse status404 text) := by
  rw [Gateway.mounted, mountOf] at hmounted
  rw [universalHttpHandler]
  by_cases hmount : (splitOnce (trimStart incoming.request.target.path)).1 = []
  · simp only [hmount, if_true]
    exact ⟨_, rfl⟩
  · simp only [hmount, if_false] at hmounted
    simp only [hmount, if_false, hmounted]
    exact ⟨_, rfl⟩

/-- A request for a mounted worker, which the client of the enclave is asked to
invoke if the body can be read. -/
theorem handler_mounted {gateway : Gateway World} {incoming : Incoming chars}
    {workerId : String}
    (hmounted : gateway.mounted incoming.request.target = some workerId)
    (fates : Fates) :
    universalHttpHandler (runtimes sockets panicked others) statusText
        gateway.mounts fates gateway.enclave incoming =
      match incoming.unread with
      | some _ => (gateway.enclave,
          textResponse internalServerError "Failed to read request body")
      | none =>
          let invoked := clientInvokeHttpWorker
            (runtimes sockets panicked others) statusText fates gateway.enclave
            workerId (requestProto { incoming.request with
              target := forwarded incoming.request.target })
          (invoked.1, respond invoked.2) := by
  rw [Gateway.mounted, mountOf] at hmounted
  rw [universalHttpHandler]
  by_cases hmount : (splitOnce (trimStart incoming.request.target.path)).1 = []
  · simp [hmount] at hmounted
  · simp only [hmount, if_false] at hmounted
    simp only [hmount, if_false, hmounted, request_eq]

/-- An invocation through the client does what the proxy does at the socket. -/
theorem invocation_proxy (gateway : Gateway World) (fates : Fates)
    (workerId : String) (request : Request (Target chars)) :
    let invoked := clientInvokeHttpWorker (runtimes sockets panicked others)
      statusText fates gateway.enclave workerId (requestProto request)
    let proxied := proxyTo sockets gateway fates workerId request
    { gateway with enclave := invoked.1 } = proxied.1 ∧
      Shown (some proxied.2) (some (respond invoked.2)) := by
  rw [proxyTo]
  cases hsocket : gateway.enclave.socketOf workerId with
  | none =>
      have hanswers := client_answers sockets panicked others statusText
        (runner_fails sockets panicked others statusText hsocket fates.toVm
          (requestProto request))
      rw [ite_self, ite_self] at hanswers
      exact ⟨congrArg (fun enclave => { gateway with enclave }) hanswers.1,
        shown_of_answers hanswers⟩
  | some socket =>
      obtain ⟨vmId, vmm, udsPath⟩ := socket
      have hanswers := client_answers sockets panicked others statusText
        (runner_answers sockets panicked others statusText hsocket fates.toVm
          request)
      constructor
      · have hstate := hanswers.1
        simp only [hstate, Fates.arrive]
        by_cases henclave : fates.toEnclave.arrives = true
        · by_cases hvm : fates.toVm.arrives = true
          · simp [henclave, hvm]
          · simp [hvm]
        · simp [henclave]
      · have hshown := shown_of_answers hanswers
        rw [← ite_and] at hshown
        simpa only [Fates.return, Bool.and_eq_true] using hshown

/-- One act at the gateway is one act of the proxy. -/
theorem serveAct_proxy (gateway : Gateway World) (act : Act chars World) :
    (serveAct sockets panicked others statusText gateway act).1 =
        (proxy sockets gateway act).1 ∧
      Shown (proxy sockets gateway act).2
        (serveAct sockets panicked others statusText gateway act).2 := by
  cases act with
  | change later => exact ⟨rfl, trivial⟩
  | request fates incoming =>
      cases hmounted : gateway.mounted incoming.request.target with
      | none =>
          obtain ⟨text, hpage⟩ := handler_unmounted sockets panicked others
            statusText hmounted fates
          simp only [serveAct, proxy, hmounted, hpage, true_and]
          exact ⟨rfl, rfl⟩
      | some workerId =>
          have hhandler := handler_mounted sockets panicked others statusText
            hmounted fates
          simp only [serveAct, proxy, hmounted, hhandler]
          cases incoming.unread with
          | some message => exact ⟨rfl, rfl, rfl⟩
          | none =>
              apply invocation_proxy

/-- Through any run the gateway does what the proxy does: the workers are sent
the requests for their mounts, each once and as it is, and their responses come
back as they are. -/
theorem gateway_refines_proxy (gateway : Gateway World)
    (acts : List (Act chars World)) :
    (serve (serveAct sockets panicked others statusText) gateway acts).1 =
        (serve (proxy sockets) gateway acts).1 ∧
      List.Forall₂ Shown (serve (proxy sockets) gateway acts).2
        (serve (serveAct sockets panicked others statusText) gateway acts).2 :=
  serve_refines
    (fun state act =>
      (serveAct_proxy sockets panicked others statusText state act).1)
    (fun state act =>
      (serveAct_proxy sockets panicked others statusText state act).2)
    gateway acts

end Proxy

/-! ## Events from the outside -/

section Forging

open NxccBridge.EventDelivery (BatchEvent Codecs QueuedEvent Serializes)
open NxccBridge.EventLoop (HasPath Parsed Scripts Seen heard sdkSockets)
open NxccBridge.SdkWorker (Platform)

variable {chars : UriChars} {Env : Type} (codecs : Codecs)
  (platform : Platform chars Env) (scripts : Scripts chars Env)
  (panicked : Status) (others : String → VmRuntime (WorkerdVmm (Seen chars)))
  (statusText : Status → String) (toDouble : ℤ → UInt64)

/-- A client posts a text to a target of the gateway. -/
def postTo (target : Target chars) (headers : Headers) (body : Bytes) :
    Act chars (Seen chars) :=
  .request ⟨.delivered, .delivered⟩
    { request := { method := post, target, headers, body }, unread := none }

/-- A target leads to a running worker of a VM. -/
structure Leads (gateway : Gateway (Seen chars)) (vmId : String)
    (workers : String → Option WorkerData) (target : Target chars)
    (workerId : String) : Prop where
  mounted : gateway.mounted target = some workerId
  mapped : gateway.enclave.workerMap workerId = some vmId
  running : ∃ worker, workers workerId = some worker ∧
    worker.status = .running

/-- An event as the enclave would send it, and a target that leads to its
worker. -/
structure Reachable (gateway : Gateway (Seen chars)) (vmId : String)
    (workers : String → Option WorkerData) (event : BatchEvent)
    (message : QueuedEvent) (target : Target chars) : Prop where
  serializes : Serializes codecs event message
  parsed : Parsed codecs platform toDouble event
  path : HasPath chars event.handlerName
  leads : Leads gateway vmId workers target event.workerId

/-- The script calls its handler as for an event from the enclave. -/
theorem sdkSockets_post {event : BatchEvent} {payload : Bytes}
    (hparsed : Parsed codecs platform toDouble event)
    (htext : codecs.toVec (event.invocation.toJson codecs) = .ok payload)
    (hpath : HasPath chars event.handlerName)
    {workers : String → Option WorkerData} {worker : WorkerData}
    (hworker : workers event.workerId = some worker)
    (hrunning : worker.status = .running) (seen : Seen chars)
    (target : Target chars) (headers : Headers) :
    (sdkSockets platform scripts seen worker.udsPath
        { method := post, target, headers, body := payload }).1 =
      seen ++ heard codecs platform scripts toDouble workers event := by
  simp only [sdkSockets, heard, hworker, hrunning, hpath, and_self, if_true]
  cases hscript : scripts worker.udsPath with
  | none => simp
  | some script =>
      obtain ⟨config, env⟩ := script
      have hfetch := EventLoop.fetch_event codecs platform toDouble hparsed
        htext { method := post, target, headers, body := payload } rfl rfl
        config env
      simp only [hfetch]
      split <;> simp

theorem socketOf_of_leads {gateway : Gateway (Seen chars)} {vmId : String}
    {vmm : WorkerdVmm (Seen chars)} {target : Target chars} {workerId : String}
    (hleads : Leads gateway vmId vmm.workers target workerId)
    (hvm : gateway.enclave.vms vmId = some vmm) :
    ∃ worker, vmm.workers workerId = some worker ∧
      worker.status = .running ∧
      gateway.enclave.socketOf workerId =
        some (vmId, vmm, worker.udsPath) := by
  obtain ⟨worker, hworker, hrunning⟩ := hleads.running
  refine ⟨worker, hworker, hrunning, ?_⟩
  simp only [Enclave.socketOf, hleads.mapped, hvm, hworker, hrunning, if_true]

/-- The enclave's way of an event to a VM. -/
def invokeEvent (vmm : WorkerdVmm (Seen chars)) (message : QueuedEvent) :
    WorkerdVmm (Seen chars) :=
  (invokeWorker (sdkSockets platform scripts) panicked vmm message.workerId
    message.handlerName message.payload).1

/-- Posting the payload of an event does to the VM what the enclave does. -/
theorem post_acts_as_event {gateway : Gateway (Seen chars)} {vmId : String}
    {vmm : WorkerdVmm (Seen chars)} {event : BatchEvent} {message : QueuedEvent}
    {target : Target chars}
    (hreach : Reachable codecs platform toDouble gateway vmId vmm.workers event
      message target)
    (hvm : gateway.enclave.vms vmId = some vmm) (headers : Headers) :
    (serveAct (fun _ => sdkSockets platform scripts) panicked others statusText
        gateway (postTo target headers message.payload)).1 =
      { gateway with
        enclave := { gateway.enclave with
          vms := Function.update gateway.enclave.vms vmId
            (some (invokeEvent platform scripts panicked vmm message)) } } := by
  obtain ⟨hserializes, hparsed, hpath, hleads⟩ := hreach
  obtain ⟨worker, hworker, hrunning, hsocket⟩ := socketOf_of_leads hleads hvm
  rw [(serveAct_proxy _ panicked others statusText gateway _).1, postTo]
  simp only [proxy, hleads.mounted, proxyTo, hsocket, Fates.arrive,
    Fate.arrives, Bool.and_self, if_true, Enclave.setWorld]
  rw [invokeEvent, EventLoop.invokeWorker_heard codecs platform scripts panicked
    toDouble hserializes hparsed, sdkSockets_post codecs platform scripts
    toDouble hparsed hserializes.payload hpath hworker hrunning]

/-- An event that a client forges. -/
structure Forgery (chars : UriChars) where
  event : BatchEvent
  message : QueuedEvent
  target : Target chars
  headers : Headers

def Forgery.act (forgery : Forgery chars) : Act chars (Seen chars) :=
  postTo forgery.target forgery.headers forgery.message.payload

theorem invokeEvent_workers {event : BatchEvent} {message : QueuedEvent}
    (hserializes : Serializes codecs event message)
    (hparsed : Parsed codecs platform toDouble event)
    (vmm : WorkerdVmm (Seen chars)) :
    (invokeEvent platform scripts panicked vmm message).workers =
      vmm.workers := by
  rw [invokeEvent, EventLoop.invokeWorker_heard codecs platform scripts panicked
    toDouble hserializes hparsed]

/-- To the workers of a VM, a client of the gateway that posts the payloads of
any events does the same as the enclave that delivers these events. -/
theorem events_forged {gateway : Gateway (Seen chars)} {vmId : String}
    {vmm : WorkerdVmm (Seen chars)} (hvm : gateway.enclave.vms vmId = some vmm)
    (forgeries : List (Forgery chars))
    (hreach : ∀ forgery ∈ forgeries, Reachable codecs platform toDouble gateway
      vmId vmm.workers forgery.event forgery.message forgery.target) :
    (serve (serveAct (fun _ => sdkSockets platform scripts) panicked others
        statusText) gateway (forgeries.map Forgery.act)).1.enclave.vms vmId =
      some ((forgeries.map Forgery.message).foldl
        (invokeEvent platform scripts panicked) vmm) := by
  induction forgeries generalizing gateway vmm with
  | nil => exact hvm
  | cons first rest ih =>
      have hfirst := hreach first List.mem_cons_self
      have hpost := post_acts_as_event codecs platform scripts panicked others
        statusText toDouble hfirst hvm first.headers
      have hworkers := invokeEvent_workers codecs platform scripts panicked
        toDouble hfirst.serializes hfirst.parsed vmm
      rw [List.map_cons, List.map_cons, serve_cons, List.foldl_cons,
        Forgery.act, hpost]
      apply ih (Function.update_self ..)
      intro forgery hmem
      obtain ⟨hserializes, hparsed, hpath, hmounted, hmapped, hrunning⟩ :=
        hreach forgery (List.mem_cons_of_mem _ hmem)
      rw [hworkers]
      exact ⟨hserializes, hparsed, hpath, hmounted, hmapped, hrunning⟩

end Forging

/-- A gateway with one worker, mounted at `app`. -/
def appGateway : Gateway (EventLoop.Seen EventLoop.markedChars) where
  mounts := fun segment => if segment = "app" then some "instance-1" else none
  enclave :=
    { workerMap := fun _ => some "vm-1"
      vms := fun _ => some EventLoop.tickVmm }

/-- The target `/app`. -/
def appTarget : Target EventLoop.markedChars :=
  .ofSegments "app".toList (by decide)

def tickMessage : EventDelivery.QueuedEvent :=
  EventLoop.tickEvent.message EventLoop.tickText

def tickForgery : Forgery EventLoop.markedChars where
  event := EventLoop.tickEvent
  message := tickMessage
  target := appTarget
  headers := .empty

theorem tick_forged :
    ((serve (serveAct (fun _ => EventLoop.sdkSockets EventLoop.tickPlatform
          EventLoop.tickScripts) EventLoop.panicked
          (fun _ => EventLoop.panicking _) (fun status => status.message))
        appGateway ([tickForgery].map Forgery.act)).1.enclave.vms "vm-1").map
          WorkerdVmm.world =
      some [("/run/1.sock", EventLoop.callOf EventLoop.tickCodecs (fun _ => 0)
        EventLoop.tickEvent)] := by
  have hparsed : EventLoop.Parsed EventLoop.tickCodecs EventLoop.tickPlatform
      (fun _ => 0) EventLoop.tickEvent := by
    intro payload hpayload
    rw [← Except.ok.inj hpayload]
    simp [EventLoop.tickPlatform]
  have hreach : ∀ forgery ∈ [tickForgery],
      Reachable EventLoop.tickCodecs EventLoop.tickPlatform (fun _ => 0)
        appGateway "vm-1" EventLoop.tickVmm.workers forgery.event
        forgery.message forgery.target := by
    intro forgery hmem
    obtain rfl := List.mem_singleton.mp hmem
    refine ⟨⟨rfl, rfl, rfl⟩, hparsed, by decide, rfl, rfl, _, rfl, rfl⟩
  have hforged := events_forged EventLoop.tickCodecs EventLoop.tickPlatform
    EventLoop.tickScripts EventLoop.panicked (fun _ => EventLoop.panicking _)
    (fun status => status.message) (fun _ => 0) rfl [tickForgery] hreach
  rw [hforged]
  rfl

end NxccBridge.HttpGateway
