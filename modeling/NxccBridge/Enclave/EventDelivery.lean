import NxccBridge.Enclave.PolicyExecution
import NxccBridge.Interface.EventJson

/-!
# Event delivery

`RunnerService::deliver_batch_events` serializes each event of a batch for the
VM and puts it into the internal queue; the VM reads the event from the same
bytes.
-/

namespace NxccBridge.EventDelivery

open NxccBridge.Framing
open NxccBridge.Interface
open NxccBridge.PolicyExecution
open NxccBridge.RoundTrip
open NxccBridge.Serde

/-- The third-party serializers on the way to the VM. -/
structure Codecs where
  hex : HexForms
  /-- `serde_json::to_vec`. -/
  toVec : JsonValue → Except String Bytes
  /-- The JSON value under `serde_json::from_slice`. -/
  fromSlice : Bytes → Except SerdeError JsonValue

/-- Payload of `VmClient::invoke_worker` for event delivery. -/
structure VmEventInvocation where
  handler : String
  eventPayload : EventPayload
  deriving DecidableEq

/-- The structure that the VM reads. -/
structure VmEventInvocationRequest where
  handler : String
  eventPayload : EventPayload
  deriving DecidableEq

/-- A message of the internal event queue. -/
structure QueuedEvent where
  workerId : String
  handlerName : String
  payload : Bytes
  deriving DecidableEq

/-- An event of a batch. -/
structure BatchEvent where
  workerId : String
  handlerName : String
  eventPayload : EventPayload
  deriving DecidableEq

variable (codecs : Codecs)

def VmEventInvocation.toJson (invocation : VmEventInvocation) : JsonValue :=
  .object [
    ("handler", .string invocation.handler),
    ("event_payload", invocation.eventPayload.toJson codecs.hex)]

def VmEventInvocationRequest.fromJson (value : JsonValue) :
    Except SerdeError VmEventInvocationRequest := do
  let fields ← structFields ["handler", "event_payload"] value
  let handler ← required fields "handler" readString
  let eventPayload ←
    required fields "event_payload" (EventPayload.fromJson codecs.hex)
  .ok { handler, eventPayload }

def VmEventInvocationRequest.fromSlice (payload : Bytes) :
    Except SerdeError VmEventInvocationRequest := do
  let value ← codecs.fromSlice payload
  VmEventInvocationRequest.fromJson codecs value

def BatchEvent.invocation (event : BatchEvent) : VmEventInvocation where
  handler := event.handlerName
  eventPayload := event.eventPayload

def BatchEvent.message (event : BatchEvent) (payload : Bytes) :
    QueuedEvent where
  workerId := event.workerId
  handlerName := event.handlerName
  payload := payload

/-- Delivers a batch into the queue, up to the first failure.  `accepts` tells
for each send whether the receiver is still there. -/
def deliverBatchEvents (accepts : ℕ → Bool) :
    ℕ → List QueuedEvent → List BatchEvent →
      List QueuedEvent × Except RunnerError Unit
  | _, queue, [] => (queue, .ok ())
  | call, queue, event :: rest =>
      match codecs.toVec (event.invocation.toJson codecs) with
      | .error message =>
          (queue, .error (.internal
            ("Failed to serialize VmEventInvocation: " ++ message)))
      | .ok payload =>
          if accepts call then
            deliverBatchEvents accepts (call + 1)
              (queue ++ [event.message payload]) rest
          else (queue, .error (.eventSendError "channel closed"))

/-! ## What the VM reads -/

/-- The serializers are undone on the event. -/
structure Codecs.Reads (event : BatchEvent) : Prop where
  text : ∀ payload,
    codecs.toVec (event.invocation.toJson codecs) = .ok payload →
      codecs.fromSlice payload = .ok (event.invocation.toJson codecs)
  log : ∀ log, event.eventPayload = .web3Log log → codecs.hex.Reads log

/-- The queued message of an event. -/
structure Serializes (event : BatchEvent) (message : QueuedEvent) : Prop where
  workerId : message.workerId = event.workerId
  handlerName : message.handlerName = event.handlerName
  payload : codecs.toVec (event.invocation.toJson codecs) = .ok message.payload

/-- The messages of a batch follow the queue, one for each event up to the
first failure. -/
theorem deliverBatchEvents_serializes (accepts : ℕ → Bool) (call : ℕ)
    (queue : List QueuedEvent) (events : List BatchEvent) :
    ∃ messages,
      (deliverBatchEvents codecs accepts call queue events).1 =
        queue ++ messages ∧
      List.Forall₂ (Serializes codecs) (events.take messages.length)
        messages ∧
      ((deliverBatchEvents codecs accepts call queue events).2 = .ok () →
        messages.length = events.length) := by
  induction events generalizing call queue with
  | nil => exact ⟨[], by simp [deliverBatchEvents]⟩
  | cons event rest ih =>
      rw [deliverBatchEvents]
      cases htext : codecs.toVec (event.invocation.toJson codecs) with
      | error message => exact ⟨[], by simp⟩
      | ok payload =>
          cases haccepts : accepts call with
          | false => exact ⟨[], by simp⟩
          | true =>
              obtain ⟨messages, hqueue, hmessages, hall⟩ := ih (call + 1)
                (queue ++ [event.message payload])
              simp only [if_true]
              refine ⟨event.message payload :: messages, ?_, ?_, ?_⟩
              · rw [hqueue, List.append_assoc, List.singleton_append]
              · exact List.Forall₂.cons ⟨rfl, rfl, htext⟩ hmessages
              · intro hok
                rw [List.length_cons, List.length_cons, hall hok]

/-- The VM reads the handler and the payload up to the confusion of the
variants without content. -/
theorem fromSlice_of_serializes {event : BatchEvent} {message : QueuedEvent}
    (hreads : codecs.Reads event) (hmessage : Serializes codecs event message) :
    VmEventInvocationRequest.fromSlice codecs message.payload =
      .ok { handler := event.handlerName
            eventPayload := event.eventPayload.received } := by
  have hnodup : ["handler", "event_payload"].Nodup := by decide
  rw [VmEventInvocationRequest.fromSlice,
    hreads.text message.payload hmessage.payload, ok_bind,
    VmEventInvocationRequest.fromJson, VmEventInvocation.toJson,
    structFields_object hnodup rfl, ok_bind, required_of_lookup _ rfl,
    readString, ok_bind, required_of_lookup _ rfl]
  simp only [BatchEvent.invocation, EventPayload.fromJson_toJson hreads.log,
    ok_bind]

/-- A payload with a variant of its own in JSON. -/
def Distinguished (payload : EventPayload) : Prop :=
  payload = .launch ∨ ∃ log, payload = .web3Log log

theorem received_eq_iff (payload : EventPayload) :
    payload.received = payload ↔ Distinguished payload := by
  cases payload with
  | web3Log log => simp [EventPayload.received, Distinguished]
  | launch => simp [EventPayload.received, Distinguished]
  | httpRequest => simp [EventPayload.received, Distinguished]
  | scheduled => simp [EventPayload.received, Distinguished]
  | phantom => simp [EventPayload.received, Distinguished]

/-- The VM reads the event that was sent. -/
def Preserved (event : BatchEvent) (message : QueuedEvent) : Prop :=
  VmEventInvocationRequest.fromSlice codecs message.payload =
    .ok { handler := event.handlerName, eventPayload := event.eventPayload }

/-- Every message of a batch goes to the worker and handler of its event, and
the VM reads that event from it exactly when its payload is a log or a
launch. -/
theorem eventDelivery_preserves_iff (accepts : ℕ → Bool) (call : ℕ)
    (queue : List QueuedEvent) (events : List BatchEvent)
    (hreads : ∀ event ∈ events, codecs.Reads event) :
    ∃ messages,
      (deliverBatchEvents codecs accepts call queue events).1 =
        queue ++ messages ∧
      List.Forall₂ (fun event message =>
          message.workerId = event.workerId ∧
          message.handlerName = event.handlerName ∧
          (Preserved codecs event message ↔
            Distinguished event.eventPayload))
        (events.take messages.length) messages ∧
      ((deliverBatchEvents codecs accepts call queue events).2 = .ok () →
        messages.length = events.length) := by
  obtain ⟨messages, hqueue, hmessages, hall⟩ :=
    deliverBatchEvents_serializes codecs accepts call queue events
  refine ⟨messages, hqueue, ?_, hall⟩
  have hsent : ∀ event ∈ events.take messages.length, codecs.Reads event :=
    fun event hmem => hreads event (List.mem_of_mem_take hmem)
  have hboth := (List.forall₂_and_left _ _).mpr ⟨hsent, hmessages⟩
  apply hboth.imp
  rintro event message ⟨hread, hserializes⟩
  refine ⟨hserializes.workerId, hserializes.handlerName, ?_⟩
  rw [Preserved, fromSlice_of_serializes codecs hread hserializes,
    ← received_eq_iff]
  simp

/-! ## A scheduled event -/

def fetchText : Bytes :=
  utf8 "\x7b\"handler\":\"fetch\",\"event_payload\":null\x7d"

/-- The serializers at the handler `fetch` and a payload without content. -/
def fetchCodecs : Codecs where
  hex :=
    { formatAddress := fun _ => "0x"
      readAddress := fun _ => .error (.invalidType "hex string")
      formatB256 := fun _ => "0x"
      readB256 := fun _ => .error (.invalidType "hex string")
      formatBytes := fun _ => "0x"
      readBytes := fun _ => .error (.invalidType "hex string") }
  toVec := fun _ => .ok fetchText
  fromSlice := fun bytes =>
    if bytes = fetchText then
      .ok (.object [("handler", .string "fetch"), ("event_payload", .null)])
    else .error (.syntaxError "expected value")

def fetchEvent (eventPayload : EventPayload) : BatchEvent where
  workerId := "instance-1"
  handlerName := "fetch"
  eventPayload := eventPayload

theorem fetchCodecs_reads {eventPayload : EventPayload}
    (hplain : ∀ log, eventPayload ≠ .web3Log log) :
    fetchCodecs.Reads (fetchEvent eventPayload) where
  text := by
    intro payload hpayload
    have htext : fetchCodecs.fromSlice fetchText = .ok (.object
        [("handler", .string "fetch"), ("event_payload", .null)]) := by
      simp [fetchCodecs]
    rw [← Except.ok.inj hpayload, htext]
    cases eventPayload with
    | web3Log log => exact absurd rfl (hplain log)
    | _ => rfl
  log := fun log hlog => absurd hlog (hplain log)

/-- A scheduled event is delivered and the VM reads a launch. -/
theorem scheduled_read_as_launch :
    fetchCodecs.Reads (fetchEvent .scheduled) ∧
    deliverBatchEvents fetchCodecs (fun _ => true) 0 []
        [fetchEvent .scheduled] =
      ([(fetchEvent .scheduled).message fetchText], .ok ()) ∧
    VmEventInvocationRequest.fromSlice fetchCodecs fetchText =
      .ok { handler := "fetch", eventPayload := .launch } ∧
    ¬Preserved fetchCodecs (fetchEvent .scheduled)
      ((fetchEvent .scheduled).message fetchText) := by
  have hserializes : Serializes fetchCodecs (fetchEvent .scheduled)
      ((fetchEvent .scheduled).message fetchText) :=
    ⟨rfl, rfl, rfl⟩
  have hread := fromSlice_of_serializes fetchCodecs
    (fetchCodecs_reads fun _ => EventPayload.noConfusion) hserializes
  refine ⟨fetchCodecs_reads fun _ => EventPayload.noConfusion, rfl, hread, ?_⟩
  intro hpreserved
  have heq := Except.ok.inj (hread.symm.trans hpreserved)
  cases congrArg VmEventInvocationRequest.eventPayload heq

/-- A launch is delivered as one message, from which the VM reads it. -/
theorem launch_preserved :
    ∃ message, (deliverBatchEvents fetchCodecs (fun _ => true) 0 []
        [fetchEvent .launch]).1 = [message] ∧
      Preserved fetchCodecs (fetchEvent .launch) message := by
  obtain ⟨messages, hqueue, hmessages, hall⟩ :=
    eventDelivery_preserves_iff fetchCodecs (fun _ => true) 0 []
      [fetchEvent .launch] (by
        intro event hmem
        rw [List.mem_singleton.mp hmem]
        exact fetchCodecs_reads fun _ => EventPayload.noConfusion)
  obtain ⟨message, rfl⟩ := List.length_eq_one_iff.mp (hall rfl)
  obtain ⟨-, -, hpreserved⟩ := (List.forall₂_cons.mp hmessages).1
  exact ⟨message, hqueue, hpreserved.mpr (Or.inl rfl)⟩

end NxccBridge.EventDelivery
