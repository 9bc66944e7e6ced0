import NxccBridge.Core.Http
import NxccBridge.Core.JsValue

/-!
# Workers of the SDK

`worker` of `sdk/lib/src/worker/index.ts`.  The runtime has one way into a
worker, `fetch`; a POST whose body names a handler is taken for an event, and
everything else for an HTTP request.
-/

namespace NxccBridge.SdkWorker

open NxccBridge.Framing
open NxccBridge.Http
open NxccBridge.Js
open NxccBridge.Multimaps
open NxccBridge.Utf16

/-! ## Responses -/

/-- What a handler returns or throws, as `convertToResponse` tells it apart. -/
inductive Outcome
  | response (response : Response)
  -- `undefined` and `null`
  | nothing
  | error (message : Units)
  -- the result of `JSON.stringify` if it does not throw, and that of `String`
  | other (json : Option (Option Units)) (text : Units)

def contentHeaders (value : HeaderValue) : Headers :=
  MultiMap.empty.append (HeaderName.contentType, value)

/-- The type that a response gets from a text. -/
def plainText : HeaderValue := ⟨utf8 "text/plain;charset=UTF-8", by decide⟩

def applicationJson : HeaderValue := ⟨utf8 "application/json", by decide⟩

def textResponse (status : StatusCode) (text : Units) : Response where
  status := status
  headers := contentHeaders plainText
  body := textBytes text

def status200 : StatusCode := ⟨200, by decide⟩
def status204 : StatusCode := ⟨204, by decide⟩
def status404 : StatusCode := .notFound
def status500 : StatusCode := .internalServerError
def status501 : StatusCode := ⟨501, by decide⟩

/-- Converts what a handler returns to a response. -/
def convertToResponse : Outcome → Response
  | .response response => response
  | .nothing => { status := status204, headers := .empty, body := [] }
  | .error message => textResponse status500 message
  | .other (some json) _ =>
      { status := status200, headers := contentHeaders applicationJson
        body := (json.map textBytes).getD [] }
  | .other none text => textResponse status200 text

/-! ## Workers -/

section Worker

variable {chars : UriChars} {Env : Type}

structure WorkerContext (Env : Type) where
  userdata : JsValue
  env : Env

/-- A handler is passed an event payload, which may be `undefined`, or a
request. -/
inductive Argument (chars : UriChars)
  | payload (value : Option JsValue)
  | request (request : Request (Target chars))

/-- A function returns or throws. -/
abbrev JsFunction (chars : UriChars) (Env : Type) :=
  Argument chars → WorkerContext Env → Except Outcome Outcome

/-- The entries of the object that is passed to `worker`; a property may be
`undefined`. -/
structure WorkerConfig (chars : UriChars) (Env : Type) where
  entries : List (Units × Option (JsFunction chars Env))
  nodup : (entries.map Prod.fst).Nodup

/-- What the platform supplies. -/
structure Platform (chars : UriChars) (Env : Type) where
  /-- `request.clone().json()`, unless it throws. -/
  parseJson : Bytes → Option JsValue
  /-- What an object without own property of the name inherits.  Calling a
  property that is no function throws. -/
  objectPrototype : Units → Option (JsFunction chars Env)
  /-- `env.USER_CONFIG || {}`. -/
  userConfig : Env → JsValue

def WorkerConfig.get (config : WorkerConfig chars Env) (name : String) :
    Option (JsFunction chars Env) :=
  (config.entries.lookup (units name)).join

/-- The handlers object of `worker`. -/
def WorkerConfig.handlers (config : WorkerConfig chars Env) :
    List (Units × JsFunction chars Env) :=
  let launch := match config.get "launch" with
    | some handler => [(units "launch", handler)]
    | none => []
  launch ++ config.entries.filterMap fun entry =>
    if entry.1 ≠ units "fetch" ∧ entry.1 ≠ units "launch" then
      entry.2.map fun handler => (entry.1, handler)
    else none

/-- A call that a worker makes of the functions of its configuration. -/
inductive Invocation (chars : UriChars)
  | event (handler : Units) (payload : Option JsValue)
  | http (request : Request (Target chars))

variable (platform : Platform chars Env)

def WorkerConfig.handler (config : WorkerConfig chars Env) (name : Units) :
    Option (JsFunction chars Env) :=
  (config.handlers.lookup name).or (platform.objectPrototype name)

/-- The handler name and the payload of a VM event invocation. -/
def vmInvocation (request : Request (Target chars)) :
    Option (Units × Option JsValue) :=
  if request.method.asStr = "POST" then
    match platform.parseJson request.body with
    | none => none
    | some value =>
        match value.property "handler" with
        | some (.string name) => some (name, value.property "event_payload")
        | _ => none
  else none

/-- The response to a call, whether it returns or throws. -/
def settled : Except Outcome Outcome → Response
  | .ok result => convertToResponse result
  | .error thrown => convertToResponse thrown

/-- `fetch` of the object that `worker` returns, with the calls that it
makes. -/
def WorkerConfig.fetch (config : WorkerConfig chars Env)
    (request : Request (Target chars)) (env : Env) :
    List (Invocation chars) × Response :=
  let context : WorkerContext Env :=
    { userdata := platform.userConfig env, env }
  match vmInvocation platform request with
  | some (name, payload) =>
      match config.handler platform name with
      | some handler =>
          ([.event name payload], settled (handler (.payload payload) context))
      | none =>
          ([], textResponse status404 (units "No handler for " ++ name))
  | none =>
      match config.get "fetch" with
      | some fetch =>
          ([.http request], settled (fetch (.request request) context))
      | none =>
          ([], textResponse status501 (units "HTTP handler not implemented"))

end Worker

end NxccBridge.SdkWorker
