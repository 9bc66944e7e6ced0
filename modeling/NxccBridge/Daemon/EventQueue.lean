import NxccBridge.Core.Runs
import NxccBridge.Enclave.EventDelivery

/-!
# From the daemon's event queue to the VM

The batching task of `node/daemon/src/main.rs` takes events from a bounded queue
and sends them to the enclave in batches; the event processing task of
`node/enclave/src/runner/mod.rs` takes them from the enclave's queue and invokes
the workers.  Senders, both tasks and the tables of the enclave step in any
order.
-/

namespace NxccBridge.EventQueue

open NxccBridge.EventDelivery
open NxccBridge.Interface
open NxccBridge.PolicyExecution
open NxccBridge.RoundTrip
open NxccBridge.Runs

def daemonEventQueueCapacity : ℕ := 1024

def eventBatchSize : ℕ := 100

/-- The message `enclave_proto::EventDelivery`. -/
structure EventDelivery where
  workerId : String
  handlerName : String
  eventPayload : Option Proto.EventPayload
  deriving DecidableEq

inductive Status
  | invalidArgument (message : String)
  | failedPrecondition (message : String)
  | notFound (message : String)
  | internal (message : String)
  deriving DecidableEq

def mapRunnerError : RunnerError → Status
  | .vmNotAttached vmId => .failedPrecondition ("VM not attached: " ++ vmId)
  | .workerNotFound workerId => .notFound ("Worker not found: " ++ workerId)
  | .vmConnection message => .internal ("VM connection error: " ++ message)
  | .deserialization message => .internal ("Data format error: " ++ message)
  | .policyExecutionFailed message =>
      .internal ("Policy execution failed: " ++ message)
  | .internal message => .internal message
  | .eventSendError message => .internal ("Event send error: " ++ message)

/-- How the enclave's service reads one event of the request. -/
def EventDelivery.toBatchEvent (event : EventDelivery) :
    Except Status BatchEvent :=
  match event.eventPayload with
  | none => .error (.invalidArgument "EventDelivery missing event_payload")
  | some payload =>
      match EventPayload.tryFromProto payload with
      | .error e =>
          .error (.invalidArgument ("Invalid EventPayload: " ++ e.display))
      | .ok eventPayload =>
          .ok {
            workerId := event.workerId
            handlerName := event.handlerName
            eventPayload }

/-! ## The tasks -/

/-- Where the batching task is: in its `select!`, behind it, in a call of
`deliver_batch_events` before or after the enclave has read the request, or at
its end.  After the `last` call the task ends. -/
inductive Task
  | select
  | check
  | calling (last : Bool) (batch : List EventDelivery)
  | queueing (last : Bool) (batch : List EventDelivery)
      (rest : List BatchEvent)
  | stopped

/-- The batch of the current call. -/
def Task.inFlight : Task → List (List EventDelivery)
  | calling _ batch => [batch]
  | queueing _ batch _ => [batch]
  | _ => []

/-- An event that the enclave's task is done with: the VM that was invoked, or
none if the worker was not found. -/
structure Handled where
  message : QueuedEvent
  vmId : Option String
  deriving DecidableEq

/-- `sent`, `delivered`, `failed` and `handled` are histories: the events that
were sent, the batches of the calls that succeeded and of those that failed, and
what the enclave's task has done. -/
structure State where
  /-- Some sender of the daemon's queue is left. -/
  connected : Bool
  queue : List EventDelivery
  batch : List EventDelivery
  task : Task
  internalQueue : List QueuedEvent
  /-- The event that the enclave's task has received and not looked up yet. -/
  received : Option QueuedEvent
  /-- The enclave's task waits for the answer of a VM. -/
  invoking : Bool
  workerMap : String → Option String
  vms : String → Bool
  sent : List EventDelivery
  delivered : List (List EventDelivery)
  failed : List (List EventDelivery)
  handled : List Handled

def State.new : State where
  connected := true
  queue := []
  batch := []
  task := .select
  internalQueue := []
  received := none
  invoking := false
  workerMap := fun _ => none
  vms := fun _ => false
  sent := []
  delivered := []
  failed := []
  handled := []

inductive Action
  | send (event : EventDelivery)
  | disconnect
  | shutdown
  | receive
  | tick
  | check
  | accept
  | enqueue (accepts : Bool)
  | callFailed
  | pop
  | lookup
  | answer
  | tables (workerMap : String → Option String) (vms : String → Bool)

namespace State

/-- A send waits until the queue has room. -/
def send (self : State) (event : EventDelivery) : State :=
  if self.connected ∧ self.queue.length < daemonEventQueueCapacity then
    { self with
      queue := self.queue ++ [event]
      sent := self.sent ++ [event] }
  else self

def shutdown (self : State) : State :=
  match self.task with
  | .select =>
      if self.batch = [] then { self with task := .stopped }
      else { self with task := .calling true self.batch, batch := [] }
  | _ => self

def receive (self : State) : State :=
  match self.task, self.queue with
  | .select, event :: rest =>
      { self with
        queue := rest
        batch := self.batch ++ [event]
        task := .check }
  | .select, [] =>
      if self.connected then self else { self with task := .stopped }
  | _, _ => self

/-- `recv` is polled before the ticker, but an event may come in between. -/
def tick (self : State) : State :=
  match self.task with
  | .select => if self.batch = [] then self else { self with task := .check }
  | _ => self

/-- Sends the batch if it is full or the queue is empty. -/
def check (self : State) : State :=
  match self.task with
  | .check =>
      if eventBatchSize ≤ self.batch.length ∨
          self.batch ≠ [] ∧ self.queue = [] then
        { self with task := .calling false self.batch, batch := [] }
      else { self with task := .select }
  | _ => self

/-- The call returned an error; its batch is not sent again. -/
def callFailed (self : State) : State :=
  match self.task with
  | .calling last batch | .queueing last batch _ =>
      { self with
        task := if last then .stopped else .select
        failed := self.failed ++ [batch] }
  | _ => self

/-- The enclave reads the whole request before it queues an event. -/
def accept (self : State) : State :=
  match self.task with
  | .calling last batch =>
      match batch.mapM EventDelivery.toBatchEvent with
      | .error _ => self.callFailed
      | .ok events => { self with task := .queueing last batch events }
  | _ => self

/-- One round of the loop of `deliver_batch_events`, or its end. -/
def enqueue (codecs : Codecs) (self : State) (accepts : Bool) : State :=
  match self.task with
  | .queueing last batch [] =>
      { self with
        task := if last then .stopped else .select
        delivered := self.delivered ++ [batch] }
  | .queueing last batch (event :: rest) =>
      match deliverBatchEvents codecs (fun _ => accepts) 0 self.internalQueue
        [event] with
      | (_, .error _) => self.callFailed
      | (internalQueue, .ok ()) =>
          { self with
            task := .queueing last batch rest
            internalQueue := internalQueue }
  | _ => self

def pop (self : State) : State :=
  match self.received, self.invoking, self.internalQueue with
  | none, false, message :: rest =>
      { self with received := some message, internalQueue := rest }
  | _, _, _ => self

/-- The worker's VM, if both tables know it. -/
def vmOf (self : State) (workerId : String) : Option String :=
  (self.workerMap workerId).filter self.vms

def lookup (self : State) : State :=
  match self.received with
  | some message =>
      let vmId := self.vmOf message.workerId
      { self with
        received := none
        invoking := vmId.isSome
        handled := self.handled ++ [{ message, vmId }] }
  | none => self

def step (codecs : Codecs) (self : State) : Action → State
  | .send event => self.send event
  | .disconnect => { self with connected := false }
  | .shutdown => self.shutdown
  | .receive => self.receive
  | .tick => self.tick
  | .check => self.check
  | .accept => self.accept
  | .enqueue accepts => self.enqueue codecs accepts
  | .callFailed => self.callFailed
  | .pop => self.pop
  | .lookup => self.lookup
  | .answer => { self with invoking := false }
  | .tables workerMap vms => { self with workerMap, vms }

/-- The messages that the enclave's queue was given, in their order. -/
def messages (self : State) : List QueuedEvent :=
  self.handled.map Handled.message ++ self.received.toList ++
    self.internalQueue

/-- The messages that were handed to a VM for the worker. -/
def invocations (self : State) (workerId : String) : List QueuedEvent :=
  ((self.handled.filter fun handled => handled.vmId.isSome).map
    Handled.message).filter fun message => message.workerId = workerId

end State

/-! ## The invariant -/

/-- The message carries the event as the enclave reads it. -/
def Carries (codecs : Codecs) (event : EventDelivery)
    (message : QueuedEvent) : Prop :=
  ∃ batchEvent, event.toBatchEvent = .ok batchEvent ∧
    Serializes codecs batchEvent message

/-- What is left of the batch while the task is where it is. -/
def Task.Pending (batch queue : List EventDelivery) : Task → Prop
  | select => batch.length < eventBatchSize ∧ (queue = [] → batch = [])
  | check => 0 < batch.length ∧ batch.length ≤ eventBatchSize
  | _ => batch = []

/-- The enclave's queue was given the events that were delivered, and those of
the current call in front of the rest. -/
def Task.Queued (codecs : Codecs) (delivered : List EventDelivery)
    (messages : List QueuedEvent) : Task → Prop
  | queueing _ batch rest =>
      ∃ done todo, batch = done ++ todo ∧
        List.Forall₂ (fun event batchEvent =>
          event.toBatchEvent = .ok batchEvent) todo rest ∧
        List.Forall₂ (Carries codecs) (delivered ++ done) messages
  | _ => List.Forall₂ (Carries codecs) delivered messages

/-- Every event that was sent is in a batch, pending or in the queue, and the
enclave's queue was given the events of the calls. -/
structure Ordered (codecs : Codecs) (state : State) : Prop where
  conserved : (state.delivered ++ state.task.inFlight).flatten ++
    state.batch ++ state.queue = state.sent
  sizes : ∀ batch ∈ state.delivered ++ state.task.inFlight,
    0 < batch.length ∧ batch.length ≤ eventBatchSize
  pending : state.task.Pending state.batch state.queue
  queued : state.task.Queued codecs state.delivered.flatten state.messages

theorem ordered_new (codecs : Codecs) : Ordered codecs .new where
  conserved := rfl
  sizes := by simp [State.new, Task.inFlight]
  pending := ⟨by decide, fun _ => rfl⟩
  queued := List.Forall₂.nil

variable {codecs : Codecs} {self : State}

theorem Task.Pending.send {task : Task} {batch queue : List EventDelivery}
    (hpending : task.Pending batch queue) (event : EventDelivery) :
    task.Pending batch (queue ++ [event]) := by
  cases task with
  | select => exact ⟨hpending.1, fun hempty => by simp at hempty⟩
  | check => exact hpending
  | calling last batch => exact hpending
  | queueing last batch rest => exact hpending
  | stopped => exact hpending

namespace Ordered

theorem send (hordered : Ordered codecs self) (event : EventDelivery) :
    Ordered codecs (self.send event) := by
  unfold State.send
  split_ifs with hroom
  · refine ⟨?_, hordered.sizes, hordered.pending.send event, hordered.queued⟩
    simp only
    rw [← hordered.conserved, List.append_assoc _ _ [event]]
  · exact hordered

/-- A batch that is not empty and not too long is sent. -/
theorem call (hordered : Ordered codecs self) (last : Bool)
    (hidle : self.task.inFlight = [])
    (hqueued : List.Forall₂ (Carries codecs) self.delivered.flatten
      self.messages)
    (hpositive : 0 < self.batch.length)
    (hle : self.batch.length ≤ eventBatchSize) :
    Ordered codecs
      { self with task := .calling last self.batch, batch := [] } := by
  obtain ⟨hconserved, hsizes, -, -⟩ := hordered
  rw [hidle, List.append_nil] at hconserved hsizes
  refine ⟨?_, ?_, rfl, hqueued⟩
  · simpa [Task.inFlight] using hconserved
  · simp only [Task.inFlight, List.forall_mem_append,
      List.forall_mem_singleton]
    exact ⟨hsizes, hpositive, hle⟩

theorem shutdown (hordered : Ordered codecs self) :
    Ordered codecs self.shutdown := by
  unfold State.shutdown
  split
  next htask =>
    have hcall := hordered.call true (by rw [htask]; rfl)
    obtain ⟨hconserved, hsizes, hpending, hqueued⟩ := hordered
    rw [htask] at hconserved hsizes hpending hqueued
    split_ifs with hempty
    · exact ⟨hconserved, hsizes, hempty, hqueued⟩
    · exact hcall hqueued (List.length_pos_iff.mpr hempty) hpending.1.le
  next => exact hordered

theorem receive (hordered : Ordered codecs self) :
    Ordered codecs self.receive := by
  unfold State.receive
  split
  next event rest htask hqueue =>
    obtain ⟨hconserved, hsizes, hpending, hqueued⟩ := hordered
    rw [htask] at hconserved hsizes hpending hqueued
    rw [hqueue] at hconserved
    refine ⟨?_, hsizes, ?_, hqueued⟩
    · simpa [Task.inFlight] using hconserved
    · have hroom := hpending.1
      constructor
      · simp
      · simpa using hroom
  next htask hqueue =>
    split_ifs
    · exact hordered
    · obtain ⟨hconserved, hsizes, hpending, hqueued⟩ := hordered
      rw [htask] at hconserved hsizes hpending hqueued
      exact ⟨hconserved, hsizes, hpending.2 hqueue, hqueued⟩
  next => exact hordered

theorem tick (hordered : Ordered codecs self) : Ordered codecs self.tick := by
  unfold State.tick
  split
  next htask =>
    split_ifs with hempty
    · exact hordered
    · obtain ⟨hconserved, hsizes, hpending, hqueued⟩ := hordered
      rw [htask] at hconserved hsizes hpending hqueued
      exact ⟨hconserved, hsizes,
        ⟨List.length_pos_iff.mpr hempty, hpending.1.le⟩, hqueued⟩
  next => exact hordered

theorem check (hordered : Ordered codecs self) :
    Ordered codecs self.check := by
  unfold State.check
  split
  next htask =>
    have hcall := hordered.call false (by rw [htask]; rfl)
    obtain ⟨hconserved, hsizes, hpending, hqueued⟩ := hordered
    rw [htask] at hconserved hsizes hpending hqueued
    split_ifs with hflush
    · exact hcall hqueued hpending.1 hpending.2
    · rw [not_or, not_le] at hflush
      refine ⟨hconserved, hsizes, ⟨hflush.1, fun hempty => ?_⟩, hqueued⟩
      by_contra hbatch
      exact hflush.2 ⟨hbatch, hempty⟩
  next => exact hordered

theorem accept (hordered : Ordered codecs self)
    (hsucceeds : self.accept.failed = []) : Ordered codecs self.accept := by
  revert hsucceeds
  unfold State.accept
  split
  next last batch htask =>
    split
    next e hread =>
      intro hsucceeds
      simp [State.callFailed, htask] at hsucceeds
    next events hread =>
      intro _
      obtain ⟨hconserved, hsizes, hpending, hqueued⟩ := hordered
      rw [htask] at hconserved hsizes hpending hqueued
      refine ⟨hconserved, hsizes, hpending, [], batch, rfl,
        mapM_eq_ok_iff.mp hread, ?_⟩
      rw [List.append_nil]
      exact hqueued
  next => exact fun _ => hordered

theorem enqueue (hordered : Ordered codecs self) (accepts : Bool)
    (hsucceeds : (self.enqueue codecs accepts).failed = []) :
    Ordered codecs (self.enqueue codecs accepts) := by
  revert hsucceeds
  unfold State.enqueue
  split
  next last batch htask =>
    intro _
    obtain ⟨hconserved, hsizes, hpending, hqueued⟩ := hordered
    rw [htask] at hconserved hsizes hpending hqueued
    obtain ⟨done, todo, hsplit, htodo, hmessages⟩ := hqueued
    obtain rfl := List.forall₂_nil_right_iff.mp htodo
    rw [List.append_nil] at hsplit
    rw [← hsplit] at hmessages
    have hempty : self.batch = [] := hpending
    have hflight : Task.inFlight (.queueing last batch []) = [batch] := rfl
    have hidle : Task.inFlight (if last then .stopped else .select) = [] := by
      cases last <;> rfl
    rw [hflight] at hconserved hsizes
    refine ⟨?_, ?_, ?_, ?_⟩
    · simpa [hidle] using hconserved
    · simpa [hidle] using hsizes
    · simp only [hempty]
      cases last with
      | true => rfl
      | false => exact ⟨by decide, fun _ => rfl⟩
    · rw [List.flatten_append, List.flatten_singleton]
      cases last <;> exact hmessages
  next last batch event rest htask =>
    have hloop := deliverBatchEvents_serializes codecs (fun _ => accepts) 0
      self.internalQueue [event]
    split
    next queue e hdeliver =>
      intro hsucceeds
      simp [State.callFailed, htask] at hsucceeds
    next internalQueue hdeliver =>
      intro _
      rw [hdeliver] at hloop
      obtain ⟨messages, hqueue, hserializes, hall⟩ := hloop
      obtain ⟨message, rfl⟩ := List.length_eq_one_iff.mp (hall rfl)
      have hmessage := (List.forall₂_cons.mp hserializes).1
      obtain rfl : internalQueue = self.internalQueue ++ [message] := hqueue
      obtain ⟨hconserved, hsizes, hpending, hqueued⟩ := hordered
      rw [htask] at hconserved hsizes hpending hqueued
      obtain ⟨done, todo, hsplit, htodo, hmessages⟩ := hqueued
      obtain ⟨first, others, hfirst, hothers, rfl⟩ :=
        List.forall₂_cons_right_iff.mp htodo
      refine ⟨hconserved, hsizes, hpending, done ++ [first], others, ?_,
        hothers, ?_⟩
      · rw [hsplit, List.append_assoc, List.singleton_append]
      · have hgrown : State.messages { self with
            task := .queueing last batch rest
            internalQueue := self.internalQueue ++ [message] } =
            self.messages ++ [message] := by
          simp [State.messages]
        rw [hgrown, ← List.append_assoc]
        exact List.rel_append hmessages
          (List.Forall₂.cons ⟨event, hfirst, hmessage⟩ List.Forall₂.nil)
  next => exact fun _ => hordered

theorem pop (hordered : Ordered codecs self) : Ordered codecs self.pop := by
  unfold State.pop
  split
  next message rest hreceived _ hinternal =>
    obtain ⟨hconserved, hsizes, hpending, hqueued⟩ := hordered
    refine ⟨hconserved, hsizes, hpending, ?_⟩
    simpa [State.messages, hreceived, hinternal] using hqueued
  next => exact hordered

theorem lookup (hordered : Ordered codecs self) :
    Ordered codecs self.lookup := by
  unfold State.lookup
  split
  next message hreceived =>
    obtain ⟨hconserved, hsizes, hpending, hqueued⟩ := hordered
    refine ⟨hconserved, hsizes, hpending, ?_⟩
    simpa [State.messages, hreceived] using hqueued
  next => exact hordered

end Ordered

/-! ## Runs -/

theorem failed_prefix (codecs : Codecs) (self : State) (action : Action) :
    self.failed <+: (self.step codecs action).failed := by
  have hcall : self.failed <+: self.callFailed.failed := by
    unfold State.callFailed
    split <;> simp
  cases action with
  | send event =>
      simp only [State.step, State.send]
      split <;> exact List.prefix_refl _
  | disconnect => exact List.prefix_refl _
  | shutdown =>
      simp only [State.step, State.shutdown]
      split
      · split <;> exact List.prefix_refl _
      · exact List.prefix_refl _
  | receive =>
      simp only [State.step, State.receive]
      split
      · exact List.prefix_refl _
      · split <;> exact List.prefix_refl _
      · exact List.prefix_refl _
  | tick =>
      simp only [State.step, State.tick]
      split
      · split <;> exact List.prefix_refl _
      · exact List.prefix_refl _
  | check =>
      simp only [State.step, State.check]
      split
      · split <;> exact List.prefix_refl _
      · exact List.prefix_refl _
  | accept =>
      simp only [State.step, State.accept]
      split
      · split
        · exact hcall
        · exact List.prefix_refl _
      · exact List.prefix_refl _
  | enqueue accepts =>
      simp only [State.step, State.enqueue]
      split
      · exact List.prefix_refl _
      · split
        · exact hcall
        · exact List.prefix_refl _
      · exact List.prefix_refl _
  | callFailed => exact hcall
  | pop =>
      simp only [State.step, State.pop]
      split <;> exact List.prefix_refl _
  | lookup =>
      simp only [State.step, State.lookup]
      split <;> exact List.prefix_refl _
  | answer => exact List.prefix_refl _
  | tables workerMap vms => exact List.prefix_refl _

theorem callFailed_eq_self (hsucceeds : self.callFailed.failed = []) :
    self.callFailed = self := by
  unfold State.callFailed at hsucceeds ⊢
  split at hsucceeds
  · simp at hsucceeds
  · simp at hsucceeds
  · rfl

/-- As long as no call fails, every step keeps the order. -/
theorem Ordered.step (hordered : Ordered codecs self) (action : Action)
    (hsucceeds : (self.step codecs action).failed = []) :
    Ordered codecs (self.step codecs action) := by
  cases action with
  | send event => exact hordered.send event
  | disconnect =>
      exact ⟨hordered.conserved, hordered.sizes, hordered.pending,
        hordered.queued⟩
  | shutdown => exact hordered.shutdown
  | receive => exact hordered.receive
  | tick => exact hordered.tick
  | check => exact hordered.check
  | accept => exact hordered.accept hsucceeds
  | enqueue accepts => exact hordered.enqueue accepts hsucceeds
  | callFailed =>
      change Ordered codecs self.callFailed
      rw [callFailed_eq_self hsucceeds]
      exact hordered
  | pop => exact hordered.pop
  | lookup => exact hordered.lookup
  | answer =>
      exact ⟨hordered.conserved, hordered.sizes, hordered.pending,
        hordered.queued⟩
  | tables workerMap vms =>
      exact ⟨hordered.conserved, hordered.sizes, hordered.pending,
        hordered.queued⟩

/-- The states of the system, from its start. -/
abbrev State.after (codecs : Codecs) (actions : List Action) : State :=
  run (State.step codecs) State.new actions

theorem after_ordered (codecs : Codecs) (actions : List Action)
    (hsucceeds : (State.after codecs actions).failed = []) :
    Ordered codecs (State.after codecs actions) := by
  refine run_always (fun self : State =>
    self.failed = [] → Ordered codecs self) actions
    (fun _ => ordered_new codecs) ?_ hsucceeds
  intro self action hordered hnone
  have hprefix := failed_prefix codecs self action
  rw [hnone, List.prefix_nil] at hprefix
  exact (hordered hprefix).step action hnone

/-! ## Order -/

theorem forall₂_sublist {Event Message : Type}
    {carries : Event → Message → Prop} {events : List Event}
    {messages handed : List Message}
    (hcarries : List.Forall₂ carries events messages)
    (hsublist : handed.Sublist messages) :
    ∃ origins, origins.Sublist events ∧
      List.Forall₂ carries origins handed := by
  induction hsublist generalizing events with
  | slnil => exact ⟨[], List.nil_sublist _, List.Forall₂.nil⟩
  | cons message _ ih =>
      obtain ⟨event, rest, -, hrest, rfl⟩ :=
        List.forall₂_cons_right_iff.mp hcarries
      obtain ⟨origins, horigins, hhanded⟩ := ih hrest
      exact ⟨origins, horigins.cons event, hhanded⟩
  | cons_cons message _ ih =>
      obtain ⟨event, rest, hevent, hrest, rfl⟩ :=
        List.forall₂_cons_right_iff.mp hcarries
      obtain ⟨origins, horigins, hhanded⟩ := ih hrest
      exact ⟨event :: origins, horigins.cons_cons event,
        List.Forall₂.cons hevent hhanded⟩

theorem Carries.workerId {event : EventDelivery} {message : QueuedEvent}
    (hcarries : Carries codecs event message) :
    message.workerId = event.workerId := by
  obtain ⟨batchEvent, hread, hserializes⟩ := hcarries
  rw [hserializes.workerId]
  rw [EventDelivery.toBatchEvent] at hread
  split at hread
  · cases hread
  · split at hread
    · cases hread
    · rw [← Except.ok.inj hread]

/-- The enclave's queue was given the first events of the calls, and those that
were delivered among them. -/
theorem Task.Queued.exists_done {task : Task}
    {delivered : List EventDelivery} {messages : List QueuedEvent}
    (hqueued : task.Queued codecs delivered messages) :
    ∃ done, delivered <+: done ∧
      done <+: delivered ++ task.inFlight.flatten ∧
      List.Forall₂ (Carries codecs) done messages := by
  have hidle : delivered <+: delivered ++ task.inFlight.flatten :=
    List.prefix_append _ _
  have hself : delivered <+: delivered := List.prefix_refl _
  cases task with
  | queueing last batch rest =>
      obtain ⟨done, todo, rfl, -, hmessages⟩ := hqueued
      refine ⟨delivered ++ done, List.prefix_append _ _, ⟨todo, ?_⟩, hmessages⟩
      simp [Task.inFlight]
  | select => exact ⟨delivered, hself, hidle, hqueued⟩
  | check => exact ⟨delivered, hself, hidle, hqueued⟩
  | calling last batch => exact ⟨delivered, hself, hidle, hqueued⟩
  | stopped => exact ⟨delivered, hself, hidle, hqueued⟩

/-- The enclave's task has handled, received or queued every event that was
delivered, in the order in which they were sent. -/
def Accounted (codecs : Codecs) (state : State) : Prop :=
  ∃ done, state.delivered.flatten <+: done ∧ done <+: state.sent ∧
    List.Forall₂ (Carries codecs) done state.messages

theorem Ordered.accounted (hordered : Ordered codecs self) :
    Accounted codecs self := by
  obtain ⟨done, hdelivered, hprefix, hmessages⟩ :=
    hordered.queued.exists_done
  refine ⟨done, hdelivered, ?_, hmessages⟩
  rw [← hordered.conserved, List.flatten_append, List.append_assoc _ _
    self.queue]
  exact hprefix.trans (List.prefix_append _ _)

/-- The VMs got events of the worker in the order in which they were sent, each
at most once. -/
def HandedInOrder (codecs : Codecs) (state : State) (workerId : String) :
    Prop :=
  ∃ events : List EventDelivery,
    events.Sublist (state.sent.filter fun event =>
      event.workerId = workerId) ∧
    List.Forall₂ (Carries codecs) events (state.invocations workerId)

theorem Ordered.handed (hordered : Ordered codecs self) (workerId : String) :
    HandedInOrder codecs self workerId := by
  obtain ⟨done, -, hsent, hmessages⟩ := hordered.accounted
  have hworker : List.Forall₂ (Carries codecs)
      (done.filter fun event => event.workerId = workerId)
      (self.messages.filter fun message => message.workerId = workerId) := by
    refine List.rel_filter ?_ hmessages
    intro event message hcarries
    simp only [hcarries.workerId]
  have hinvoked : (self.invocations workerId).Sublist
      (self.messages.filter fun message => message.workerId = workerId) := by
    refine List.Sublist.filter _ ?_
    rw [State.messages, List.append_assoc]
    exact (List.filter_sublist.map _).trans (List.sublist_append_left _ _)
  obtain ⟨events, hevents, hcarries⟩ := forall₂_sublist hworker hinvoked
  exact ⟨events, hevents.trans (hsent.sublist.filter _), hcarries⟩

/-- Over every run in which no call fails, the delivered batches, the one of the
current call, the pending batch and the queue are what was sent, batches are
neither empty nor too long, none waits while the queue is empty, nothing is lost
in the enclave's queue, and each worker gets its events in order. -/
theorem events_in_order (codecs : Codecs) (actions : List Action)
    (hsucceeds : (State.after codecs actions).failed = []) :
    let state := State.after codecs actions
    state.delivered.flatten ++ state.task.inFlight.flatten ++ state.batch ++
        state.queue = state.sent ∧
      (∀ batch ∈ state.delivered,
        1 ≤ batch.length ∧ batch.length ≤ eventBatchSize) ∧
      (state.task = .select → state.queue = [] → state.batch = []) ∧
      Accounted codecs state ∧
      ∀ workerId, HandedInOrder codecs state workerId := by
  have hordered := after_ordered codecs actions hsucceeds
  refine ⟨?_, ?_, ?_, hordered.accounted, hordered.handed⟩
  · rw [← List.flatten_append]
    exact hordered.conserved
  · intro batch hmem
    exact hordered.sizes batch (List.mem_append_left _ hmem)
  · intro htask
    have hpending := hordered.pending
    rw [htask] at hpending
    exact hpending.2

/-- A launch, sent and received while a second event comes. -/
def launchDelivery (workerId : String) : EventDelivery where
  workerId := workerId
  handlerName := "fetch"
  eventPayload := some { payload := some .launchEvent }

def sampleActions : List Action :=
  [.send (launchDelivery "instance-1"), .receive,
    .send (launchDelivery "instance-2"), .check, .receive, .check, .accept,
    .enqueue true, .enqueue true, .enqueue true,
    .tables (fun _ => some "vm") (fun _ => true),
    .pop, .lookup, .answer, .pop]

theorem events_in_order_sample :
    (State.after fetchCodecs sampleActions).delivered =
        [[launchDelivery "instance-1", launchDelivery "instance-2"]] ∧
      ((State.after fetchCodecs sampleActions).invocations
        "instance-1").length = 1 ∧
      HandedInOrder fetchCodecs (State.after fetchCodecs sampleActions)
        "instance-1" :=
  ⟨rfl, rfl, (events_in_order fetchCodecs sampleActions rfl).2.2.2.2
    "instance-1"⟩

end NxccBridge.EventQueue
