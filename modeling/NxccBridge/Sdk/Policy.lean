import NxccBridge.Core.BooleanJson
import NxccBridge.Sdk.Worker

/-!
# Policies of the SDK

`policy` of `sdk/lib/src/policy/index.ts`.  The worker that it returns answers
requests for `/_policy` with the decisions of its handler, and with an error
object whenever the handler does not decide every request.
-/

namespace NxccBridge.SdkPolicy

open NxccBridge.BooleanJson
open NxccBridge.Framing
open NxccBridge.Http
open NxccBridge.Js
open NxccBridge.Multimaps
open NxccBridge.Utf16
open NxccBridge.SdkWorker (status200 status500 textResponse)

/-- What the property `length` of a value is: a count, or whatever the property
of an object is. -/
inductive Length
  | count (value : ℕ)
  | property (value : Option JsValue)

/-- What the platform supplies. -/
structure Platform (chars : UriChars) where
  /-- `request.json()`, or the message of what it throws. -/
  parseJson : Bytes → Except Units JsValue
  /-- `new URL(request.url).pathname`. -/
  pathname : Target chars → Units
  /-- The message for the property of `null`. -/
  propertyOfNull : Units
  /-- A property in a template, or the message of what its conversion throws. -/
  display : Option JsValue → Except Units Units
  /-- Whether a double is the number. -/
  isNumber : UInt64 → ℕ → Bool
  /-- `JSON.stringify` of a string. -/
  quote : Units → String

/-- What a policy handler returns. -/
inductive Decisions
  | array (elements : List Element)
  -- an array that `JSON.stringify` does not take, with the message
  | unserializable (count : ℕ) (message : Units)
  -- a value that is no array
  | other

/-- A handler returns, or throws something with a message. -/
abbrev PolicyHandler := JsValue → Except Units Decisions

section Policy

variable {chars : UriChars} (platform : Platform chars)

/-- `contextsArray.length`. -/
def lengthOf : JsValue → Except Units Length
  | .null => .error platform.propertyOfNull
  | .array elements => .ok (.count elements.length)
  | .string text => .ok (.count text.length)
  | value => .ok (.property (value.property "length"))

def displayLength : Length → Except Units Units
  | .count value => .ok (units (toString value))
  | .property value => platform.display value

/-- The comparison of the number of decisions with a length. -/
def sameLength (count : ℕ) : Length → Bool
  | .count value => decide (count = value)
  | .property (some (.number bits)) => platform.isNumber bits count
  | .property _ => false

/-- The error for a handler that does not return as many decisions. -/
def countError (length : Length) : Except Units String := do
  let text ← displayLength platform length
  .error (units "Policy handler must return an array of " ++ text ++
    units " boolean decisions")

/-- The text of the response, or the message of what is thrown on the way. -/
def execute (handler : PolicyHandler) (body : Bytes) : Except Units String := do
  let contextsArray ← platform.parseJson body
  let length ← lengthOf platform contextsArray
  let _ ← displayLength platform length
  match ← handler contextsArray with
  | .array elements =>
      if sameLength platform elements.length length then
        .ok (stringify elements)
      else countError platform length
  | .unserializable count message =>
      if sameLength platform count length then .error message
      else countError platform length
  | .other => countError platform length

def jsonType : HeaderValue :=
  ⟨utf8 "application/json; charset=utf-8", by decide⟩

def status400 : StatusCode := ⟨400, by decide⟩

def jsonResponse (status : StatusCode) (text : String) : Response where
  status := status
  headers := MultiMap.empty.append (HeaderName.contentType, jsonType)
  body := utf8 text

def errorText (message : Units) : String :=
  "\x7b" ++ "\"error\":\"Policy worker execution failed\",\"message\":" ++
    platform.quote message ++ "\x7d"

/-- The path without its first slash. -/
def handlerName (pathname : Units) : Units :=
  match pathname with
  | [] => []
  | first :: rest => if [first] = units "/" then rest else pathname

/-- `fetch` of the object that `policy` returns. -/
def fetch (handler : PolicyHandler) (request : Request (Target chars)) :
    Response :=
  let name := handlerName (platform.pathname request.target)
  if name ≠ units "_policy" then
    textResponse status400
      (units "Policy worker: unexpected handler " ++ name)
  else
    match execute platform handler request.body with
    | .ok text => jsonResponse status200 text
    | .error message => jsonResponse status500 (errorText platform message)

/-! ## What is read of a response -/

/-- The handler decides every one of the contexts. -/
def Decides (handler : PolicyHandler) (contexts : List JsValue)
    (decisions : List Bool) : Prop :=
  handler (.array contexts) = .ok (.array (decisions.map .bool)) ∧
    decisions.length = contexts.length

theorem utf8_append (left right : String) :
    utf8 (left ++ right) = utf8 left ++ utf8 right := by
  simp only [Text.utf8_eq_flatMap, String.toList_append, List.flatMap_append]

theorem fromSlice_errorText (message : Units) :
    fromSlice (utf8 (errorText platform message)) = none := by
  have hbrace : utf8 "\x7b" = [123] := by decide
  rw [errorText, utf8_append, utf8_append, utf8_append, hbrace,
    List.append_assoc, List.append_assoc, List.singleton_append, fromSlice,
    skipSpace_of_head (by decide)]
  rfl

theorem countError_ne_ok (length : Length) (text : String) :
    countError platform length ≠ .ok text := by
  intro hok
  rw [countError] at hok
  cases hshown : displayLength platform length with
  | error message => rw [hshown] at hok; cases hok
  | ok shown => rw [hshown] at hok; cases hok

/-- Of an array of contexts the text is that of the decisions, if the handler
returns as many. -/
theorem execute_eq_ok_iff (handler : PolicyHandler) {body : Bytes}
    {contexts : List JsValue}
    (hparse : platform.parseJson body = .ok (.array contexts)) (text : String) :
    execute platform handler body = .ok text ↔
      ∃ elements, handler (.array contexts) = .ok (.array elements) ∧
        elements.length = contexts.length ∧ text = stringify elements := by
  rw [execute, hparse]
  simp only [bind, Except.bind, lengthOf, displayLength, sameLength,
    decide_eq_true_eq]
  cases handler (.array contexts) with
  | error message => simp
  | ok decisions =>
      cases decisions with
      | other => simp [countError_ne_ok]
      | unserializable count message =>
          by_cases hcount : count = contexts.length
          · simp [hcount]
          · simp [hcount, countError_ne_ok]
      | array elements =>
          by_cases hlength : elements.length = contexts.length
          · simp [hlength, eq_comm]
          · simp [hlength, countError_ne_ok]

/-- The enclave reads decisions from the response exactly if the handler decided
every context, and it reads these. -/
theorem fromSlice_fetch_iff (handler : PolicyHandler)
    {request : Request (Target chars)} {contexts : List JsValue}
    (hname : handlerName (platform.pathname request.target) = units "_policy")
    (hparse : platform.parseJson request.body = .ok (.array contexts))
    (decisions : List Bool) :
    fromSlice (fetch platform handler request).body = some decisions ↔
      Decides handler contexts decisions := by
  have hexecute := execute_eq_ok_iff platform handler hparse
  rw [fetch, hname]
  simp only [ne_eq, not_true_eq_false, if_false]
  cases htext : execute platform handler request.body with
  | error message =>
      have hnone : ¬Decides handler contexts decisions := by
        rintro ⟨hdecided, hlength⟩
        have hok := (hexecute (stringify (decisions.map .bool))).mpr
          ⟨_, hdecided, by rw [List.length_map, hlength], rfl⟩
        rw [htext] at hok
        cases hok
      simp [jsonResponse, fromSlice_errorText, hnone]
  | ok text =>
      obtain ⟨elements, hhandler, hlength, rfl⟩ := (hexecute text).mp htext
      simp only [jsonResponse, fromSlice_eq_some_iff, Decides, hhandler,
        Except.ok.injEq, Decisions.array.injEq]
      constructor
      · rintro rfl
        exact ⟨rfl, by rw [← hlength, List.length_map]⟩
      · exact And.left

end Policy

end NxccBridge.SdkPolicy
