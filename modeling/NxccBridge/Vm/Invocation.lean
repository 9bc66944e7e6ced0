import NxccBridge.Core.Http
import NxccBridge.Vm.Service

/-!
# Invoking a worker of the workerd runtime

`invoke_worker`, `invoke_http` and `invoke_via_uds` of
`node/vm/workerd/src/vmm/mod.rs`.  Both kinds of invocation end as an HTTP
request on the socket of the worker; the first always posts to the path of the
handler.
-/

namespace NxccBridge.Invocation

open NxccBridge.Framing
open NxccBridge.Http
open NxccBridge.Multimaps
open NxccBridge.Envelope (HttpRequest HttpResponse)
open NxccBridge.StopWorker (Status VmError WorkerStatus)
open NxccBridge.VmService (Failure VmRuntime)

/-! ## Errors -/

/-- The errors with which an invocation fails. -/
inductive WorkerdVmError
  | workerNotFound (id : String)
  | workerNotRunnable (status : WorkerStatus)
  | invalidHttpRequest (message : String)
  | udsCommunicationFailed (path source : String)
  deriving DecidableEq

def WorkerdVmError.display : WorkerdVmError → String
  | .workerNotFound id => "Worker instance not found: " ++ id
  | .workerNotRunnable status =>
      "Worker is not in a runnable state: " ++ status.debug
  | .invalidHttpRequest message =>
      "Invalid HTTP request structure: " ++ message
  | .udsCommunicationFailed path source =>
      "Failed to communicate with worker via UDS " ++ path ++ ": " ++ source

def WorkerdVmError.toVmError (self : WorkerdVmError) : VmError :=
  .withSource self.display self.display

/-! ## HTTP messages as protobuf messages -/

def headersProto (headers : Headers) : List (String × Bytes) :=
  headers.iter.map fun header => (header.1.asStr, header.2.bytes)

def requestProto {chars : UriChars} (request : Request (Target chars)) :
    HttpRequest where
  method := request.method.asStr
  uri := String.ofList request.target.text
  headers := headersProto request.headers
  body := request.body

def responseProto (response : Response) : HttpResponse where
  statusCode := response.status.code
  headers := headersProto response.headers
  body := response.body

/-- The headers of a request, up to the first that is none. -/
def readHeaders : Headers → List (String × Bytes) →
    Except WorkerdVmError Headers
  | headers, [] => .ok headers
  | headers, (key, value) :: rest =>
      match HeaderName.fromText key with
      | none => .error (.invalidHttpRequest
          "Invalid header name: invalid HTTP header name")
      | some name =>
          match HeaderValue.fromBytes value with
          | none => .error (.invalidHttpRequest
              "Invalid header value: failed to parse header value")
          | some value => readHeaders (headers.append (name, value)) rest

/-! ## The runtime -/

structure WorkerData where
  status : WorkerStatus
  udsPath : String

/-- The workers of the runtime, and what their processes live in. -/
structure WorkerdVmm (World : Type) where
  workers : String → Option WorkerData
  world : World

section Invoke

variable {chars : UriChars} {World : Type}

/-- What answers on a socket. -/
abbrev Sockets (chars : UriChars) (World : Type) :=
  World → String → Request (Target chars) → World × Except String Response

variable (sockets : Sockets chars World) (panicked : Status)

/-- A text that is no URI makes `hyperlocal::Uri::new` panic. -/
def invokeViaUds (world : World) (udsPath : String) (request : HttpRequest) :
    World × Except Failure HttpResponse :=
  match Method.fromText request.method with
  | none => (world, .error (.error (WorkerdVmError.invalidHttpRequest
      "Invalid method: invalid HTTP method").toVmError))
  | some method =>
      match Target.parse request.uri.toList with
      | none => (world, .error (.panic panicked))
      | some target =>
          match readHeaders .empty request.headers with
          | .error e => (world, .error (.error e.toVmError))
          | .ok headers =>
              let answered := sockets world udsPath
                { method, target, headers, body := request.body }
              (answered.1, match answered.2 with
                | .error source => .error (.error
                    (WorkerdVmError.udsCommunicationFailed udsPath
                      source).toVmError)
                | .ok response => .ok (responseProto response))

/-- The common part of the invocations. -/
def invoke (vmm : WorkerdVmm World) (id : String) (request : HttpRequest) :
    WorkerdVmm World × Except Failure HttpResponse :=
  match vmm.workers id with
  | none => (vmm, .error (.error (WorkerdVmError.workerNotFound id).toVmError))
  | some worker =>
      if worker.status ≠ .running then
        (vmm, .error (.error
          (WorkerdVmError.workerNotRunnable worker.status).toVmError))
      else
        let invoked :=
          invokeViaUds sockets panicked vmm.world worker.udsPath request
        ({ vmm with world := invoked.1 }, invoked.2)

/-- The path of a handler. -/
def httpHandlerPath (handlerName : String) : String :=
  if handlerName.toList.head? = some '/' then handlerName
  else "/" ++ handlerName

def octetStream : HeaderValue :=
  ⟨utf8 "application/octet-stream", by decide⟩

def eventRequest (handlerName : String) (payload : Bytes) : HttpRequest where
  method := "POST"
  uri := httpHandlerPath handlerName
  headers := [("content-type", octetStream.bytes)]
  body := payload

/-- Of the response only the body is returned. -/
def invokeWorker (vmm : WorkerdVmm World) (id handlerName : String)
    (payload : Bytes) : WorkerdVmm World × Except Failure Bytes :=
  let invoked :=
    invoke sockets panicked vmm id (eventRequest handlerName payload)
  (invoked.1, invoked.2.map HttpResponse.body)

def invokeHttp (vmm : WorkerdVmm World) (id : String) (request : HttpRequest) :
    WorkerdVmm World × Except Failure HttpResponse :=
  invoke sockets panicked vmm id request

/-- The runtime with these invocations. -/
def withInvocations (others : VmRuntime (WorkerdVmm World)) :
    VmRuntime (WorkerdVmm World) :=
  { others with
    invokeWorker := invokeWorker sockets panicked
    invokeHttp := invokeHttp sockets panicked }

end Invoke

/-! ## What the worker is sent -/

theorem readHeaders_append (headers : Headers)
    (items : List (HeaderName × HeaderValue)) :
    readHeaders headers
        (items.map fun header => (header.1.asStr, header.2.bytes)) =
      .ok (items.foldl MultiMap.append headers) := by
  induction items generalizing headers with
  | nil => rfl
  | cons item rest ih =>
      rw [List.map_cons, readHeaders, HeaderName.fromText_asStr,
        HeaderValue.fromBytes_bytes]
      exact ih _

theorem readHeaders_headersProto (headers : Headers) :
    readHeaders .empty (headersProto headers) = .ok headers := by
  rw [headersProto, readHeaders_append]
  exact congrArg _ (MultiMap.ofItems_iter headers)

section Spec

variable {chars : UriChars} {World : Type} (sockets : Sockets chars World)
  (panicked : Status)

/-- A request in its protobuf form reaches the socket as it was. -/
theorem invokeViaUds_requestProto (world : World) (udsPath : String)
    (request : Request (Target chars)) :
    invokeViaUds sockets panicked world udsPath (requestProto request) =
      ((sockets world udsPath request).1,
        match (sockets world udsPath request).2 with
        | .error source => .error (.error
            (WorkerdVmError.udsCommunicationFailed udsPath source).toVmError)
        | .ok response => .ok (responseProto response)) := by
  rw [invokeViaUds, requestProto, Method.fromText_asStr]
  simp only [String.toList_ofList, Target.parse_text, readHeaders_headersProto]

def post : Method := ⟨"POST".toList, by decide⟩

/-- An event is posted to the path of its handler; a handler name that makes
no path panics. -/
theorem invokeViaUds_eventRequest (world : World) (udsPath handlerName : String)
    (payload : Bytes) :
    invokeViaUds sockets panicked world udsPath
        (eventRequest handlerName payload) =
      match Target.parse (httpHandlerPath handlerName).toList with
      | none => (world, .error (.panic panicked))
      | some target =>
          let answered := sockets world udsPath
            { method := post, target
              headers :=
                MultiMap.empty.append (HeaderName.contentType, octetStream)
              body := payload }
          (answered.1, match answered.2 with
            | .error source => .error (.error
                (WorkerdVmError.udsCommunicationFailed udsPath
                  source).toVmError)
            | .ok response => .ok (responseProto response)) := by
  have hmethod : Method.fromText "POST" = some post := by decide
  have hname : HeaderName.fromText "content-type" = some .contentType := by
    decide
  have hheaders : readHeaders .empty [("content-type", octetStream.bytes)] =
      .ok (MultiMap.empty.append (HeaderName.contentType, octetStream)) := by
    rw [readHeaders, hname, HeaderValue.fromBytes_bytes]
    rfl
  rw [invokeViaUds, eventRequest, hmethod]
  cases hparse : (Target.parse
      (httpHandlerPath handlerName).toList : Option (Target chars)) with
  | none => rfl
  | some target => simp only [hheaders]

theorem invoke_running {vmm : WorkerdVmm World} {id : String}
    {worker : WorkerData} (hworker : vmm.workers id = some worker)
    (hrunning : worker.status = .running) (request : HttpRequest) :
    invoke sockets panicked vmm id request =
      ({ vmm with world := (invokeViaUds sockets panicked vmm.world
          worker.udsPath request).1 },
        (invokeViaUds sockets panicked vmm.world worker.udsPath
          request).2) := by
  rw [invoke, hworker]
  simp only [hrunning, ne_eq, not_true_eq_false, if_false]

end Spec

end NxccBridge.Invocation
