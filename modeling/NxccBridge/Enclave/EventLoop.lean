import NxccBridge.Core.Runs
import NxccBridge.Enclave.EventDelivery
import NxccBridge.Sdk.Worker
import NxccBridge.Vm.Invocation

/-!
# The way of an event

From `deliver_batch_events` through the event processing task of
`node/enclave/src/runner/mod.rs`, the VM service and the socket of the worker to
the handler that the SDK picks.  The whole way refines a bus that keeps the
events and hands each of them to the handler of its name.
-/

namespace NxccBridge.EventLoop

open NxccBridge.Framing
open NxccBridge.Http
open NxccBridge.Interface
open NxccBridge.Js
open NxccBridge.Runs
open NxccBridge.Serde
open NxccBridge.Services
open NxccBridge.Utf16
open NxccBridge.EventDelivery (BatchEvent Codecs QueuedEvent Serializes
  deliverBatchEvents)
open NxccBridge.Invocation (Sockets WorkerData WorkerdVmm httpHandlerPath)
open NxccBridge.SdkWorker (Invocation Platform WorkerConfig)
open NxccBridge.StopWorker (Status)
open NxccBridge.VmService (VmRuntime VmServiceClient.invokeWorker)

/-! ## The enclave, the VM and the scripts -/

section Loop

variable {chars : UriChars} {Env : Type}

/-- The calls of scripts that were made, each with the socket of its worker. -/
abbrev Seen (chars : UriChars) := List (String × Invocation chars)

/-- The script that listens on a socket, with its environment. -/
abbrev Scripts (chars : UriChars) (Env : Type) :=
  String → Option (WorkerConfig chars Env × Env)

/-- The maps of the runner when an event is processed. -/
structure RunnerMaps where
  workerMap : String → Option String
  vms : String → Bool

/-- There is a client for the worker, and it is one of this VM. -/
def RunnerMaps.reaches (maps : RunnerMaps) (vmId workerId : String) : Bool :=
  match maps.workerMap workerId with
  | none => false
  | some id => decide (id = vmId) && maps.vms id

structure World (chars : UriChars) where
  queue : List QueuedEvent
  vmm : WorkerdVmm (Seen chars)

/-- What happens in the enclave and the VM, in any order.  Whatever starts,
stops or probes workers changes the table of the VM. -/
inductive Act
  | deliver (accepts : ℕ → Bool) (batch : List BatchEvent)
  | process (maps : RunnerMaps) (fate : Fate Status)
  | change (workers : String → Option WorkerData)

variable (codecs : Codecs) (platform : Platform chars Env)
  (scripts : Scripts chars Env) (panicked : Status)
  (others : VmRuntime (WorkerdVmm (Seen chars))) (vmId : String)

def sdkSockets : Sockets chars (Seen chars) := fun seen udsPath request =>
  match scripts udsPath with
  | none => (seen, .error "client error (Connect)")
  | some (config, env) =>
      let fetched := config.fetch platform request env
      (seen ++ fetched.1.map fun call => (udsPath, call), .ok fetched.2)

def runtime : VmRuntime (WorkerdVmm (Seen chars)) :=
  Invocation.withInvocations (sdkSockets platform scripts) panicked others

/-- One turn of the event processing task.  Failures are logged, and the event
is gone. -/
def World.process (world : World chars) (maps : RunnerMaps)
    (fate : Fate Status) : World chars :=
  match world.queue with
  | [] => world
  | message :: rest =>
      { queue := rest
        vmm :=
          if maps.reaches vmId message.workerId then
            (VmServiceClient.invokeWorker
              (runtime platform scripts panicked others) fate world.vmm
              message.workerId message.handlerName message.payload).1
          else world.vmm }

def World.step (world : World chars) : Act → World chars
  | .deliver accepts batch =>
      { world with
        queue := (deliverBatchEvents codecs accepts 0 world.queue batch).1 }
  | .process maps fate =>
      world.process platform scripts panicked others vmId maps fate
  | .change workers => { world with vmm := { world.vmm with workers } }

/-! ## The bus -/

structure Bus (chars : UriChars) where
  pending : List BatchEvent
  workers : String → Option WorkerData
  seen : Seen chars

/-- The events of a batch up to the first that is not serialized or finds the
queue closed. -/
def accepted (accepts : ℕ → Bool) : ℕ → List BatchEvent → List BatchEvent
  | _, [] => []
  | call, event :: rest =>
      if (codecs.toVec (event.invocation.toJson codecs)).toBool &&
          accepts call then
        event :: accepted accepts (call + 1) rest
      else []

/-- The path of a handler can be requested. -/
def HasPath (chars : UriChars) (handlerName : String) : Prop :=
  (Target.parse (httpHandlerPath handlerName).toList :
    Option (Target chars)).isSome = true

instance (chars : UriChars) (handlerName : String) :
    Decidable (HasPath chars handlerName) :=
  inferInstanceAs (Decidable (_ = true))

variable (toDouble : ℤ → UInt64)

/-- The call that an event makes: its handler is passed its payload, if the
worker is running, the path of the handler is one, and the script has it. -/
def heard (workers : String → Option WorkerData) (event : BatchEvent) :
    Seen chars :=
  match workers event.workerId with
  | none => []
  | some worker =>
      if worker.status = .running ∧
          HasPath chars event.handlerName then
        match scripts worker.udsPath with
        | none => []
        | some (config, _) =>
            if (config.handler platform (units event.handlerName)).isSome then
              [(worker.udsPath, .event (units event.handlerName)
                (some (ofJson toDouble
                  (event.eventPayload.toJson codecs.hex))))]
            else []
      else []

def Bus.step (bus : Bus chars) : Act → Bus chars
  | .deliver accepts batch =>
      { bus with pending := bus.pending ++ accepted codecs accepts 0 batch }
  | .process maps fate =>
      match bus.pending with
      | [] => bus
      | event :: rest =>
          { bus with
            pending := rest
            seen :=
              if maps.reaches vmId event.workerId && fate.arrives then
                bus.seen ++
                  heard codecs platform scripts toDouble bus.workers event
              else bus.seen }
  | .change workers => { bus with workers }

/-! ## The way refines the bus -/

/-- The serialized event is parsed as the value that it is. -/
def Parsed (event : BatchEvent) : Prop :=
  ∀ payload, codecs.toVec (event.invocation.toJson codecs) = .ok payload →
    platform.parseJson payload =
      some (ofJson toDouble (event.invocation.toJson codecs))

/-- The queue holds the pending events. -/
structure Follows (bus : Bus chars) (world : World chars) : Prop where
  queue : List.Forall₂ (Serializes codecs) bus.pending world.queue
  parsed : ∀ event ∈ bus.pending, Parsed codecs platform toDouble event
  workers : world.vmm.workers = bus.workers
  seen : world.vmm.world = bus.seen

theorem accepted_serializes (accepts : ℕ → Bool) (call : ℕ)
    (queue : List QueuedEvent) (batch : List BatchEvent) :
    ∃ messages,
      (deliverBatchEvents codecs accepts call queue batch).1 =
        queue ++ messages ∧
      List.Forall₂ (Serializes codecs) (accepted codecs accepts call batch)
        messages := by
  induction batch generalizing call queue with
  | nil => exact ⟨[], by simp [deliverBatchEvents], List.Forall₂.nil⟩
  | cons event rest ih =>
      rw [deliverBatchEvents, accepted]
      cases htext : codecs.toVec (event.invocation.toJson codecs) with
      | error message => exact ⟨[], by simp, List.Forall₂.nil⟩
      | ok payload =>
          cases haccepts : accepts call with
          | false => exact ⟨[], by simp, by simp⟩
          | true =>
              obtain ⟨messages, hqueue, hmessages⟩ := ih (call + 1)
                (queue ++ [event.message payload])
              refine ⟨event.message payload :: messages, ?_, ?_⟩
              · simp only [if_true]
                rw [hqueue, List.append_assoc, List.singleton_append]
              · have hserializes :
                    Serializes codecs event (event.message payload) :=
                  ⟨rfl, rfl, htext⟩
                simpa [Except.toBool] using
                  List.Forall₂.cons hserializes hmessages

theorem mem_of_mem_accepted {accepts : ℕ → Bool} {call : ℕ}
    {batch : List BatchEvent} {event : BatchEvent}
    (hevent : event ∈ accepted codecs accepts call batch) : event ∈ batch := by
  induction batch generalizing call with
  | nil => simp [accepted] at hevent
  | cons first rest ih =>
      rw [accepted] at hevent
      split at hevent
      · rcases List.mem_cons.mp hevent with rfl | hrest
        · exact List.mem_cons_self
        · exact List.mem_cons_of_mem _ (ih hrest)
      · cases hevent

/-- A lost request leaves the VM alone; otherwise the runtime is called. -/
theorem invokeWorker_fst (fate : Fate Status)
    (vmm : WorkerdVmm (Seen chars)) (id handlerName : String)
    (payload : Bytes) :
    (VmServiceClient.invokeWorker (runtime platform scripts panicked others)
        fate vmm id handlerName payload).1 =
      if fate.arrives then
        (Invocation.invokeWorker (sdkSockets platform scripts) panicked vmm id
          handlerName payload).1
      else vmm := by
  cases fate <;> rfl

/-- The handler name and the payload are found in the body of an event. -/
theorem vmInvocation_of_parsed {event : BatchEvent} {payload : Bytes}
    (hparsed : Parsed codecs platform toDouble event)
    (htext : codecs.toVec (event.invocation.toJson codecs) = .ok payload)
    {request : Request (Target chars)} (hmethod : request.method.asStr = "POST")
    (hbody : request.body = payload) :
    SdkWorker.vmInvocation platform request =
      some (units event.handlerName,
        some (ofJson toDouble (event.eventPayload.toJson codecs.hex))) := by
  have hnodup : (["handler", "event_payload"] : List String).Nodup := by
    decide
  have hproperty : ∀ name,
      (ofJson toDouble (event.invocation.toJson codecs)).property name =
        ([("handler", .string event.handlerName),
          ("event_payload", event.eventPayload.toJson codecs.hex)].lookup
            name).map (ofJson toDouble) := by
    intro name
    refine property_ofJson toDouble ?_ name
    exact hnodup
  rw [SdkWorker.vmInvocation, if_pos hmethod, hbody, hparsed payload htext]
  simp only [hproperty]
  rfl

/-- A script that is posted an event calls the handler, if it has it. -/
theorem fetch_event {event : BatchEvent} {payload : Bytes}
    (hparsed : Parsed codecs platform toDouble event)
    (htext : codecs.toVec (event.invocation.toJson codecs) = .ok payload)
    (request : Request (Target chars)) (hmethod : request.method.asStr = "POST")
    (hbody : request.body = payload) (config : WorkerConfig chars Env)
    (env : Env) :
    (config.fetch platform request env).1 =
      if (config.handler platform (units event.handlerName)).isSome then
        [.event (units event.handlerName)
          (some (ofJson toDouble (event.eventPayload.toJson codecs.hex)))]
      else [] := by
  rw [WorkerConfig.fetch, vmInvocation_of_parsed codecs platform toDouble
    hparsed htext hmethod hbody]
  cases hhandler : config.handler platform (units event.handlerName) with
  | none => simp only [hhandler]; rfl
  | some handler => simp only [hhandler]; rfl

/-- What the socket of a worker does with an event. -/
theorem invokeViaUds_event {event : BatchEvent} {payload : Bytes}
    (hparsed : Parsed codecs platform toDouble event)
    (htext : codecs.toVec (event.invocation.toJson codecs) = .ok payload)
    (seen : Seen chars) (udsPath : String) :
    (Invocation.invokeViaUds (sdkSockets platform scripts) panicked seen udsPath
        (Invocation.eventRequest event.handlerName payload)).1 =
      seen ++
        if HasPath chars event.handlerName then
          match scripts udsPath with
          | none => []
          | some (config, _) =>
              if (config.handler platform
                  (units event.handlerName)).isSome then
                [(udsPath, .event (units event.handlerName)
                  (some (ofJson toDouble
                    (event.eventPayload.toJson codecs.hex))))]
              else []
          else [] := by
  rw [Invocation.invokeViaUds_eventRequest]
  by_cases hpath : HasPath chars event.handlerName
  · obtain ⟨target, hparse⟩ := Option.isSome_iff_exists.mp hpath
    simp only [hparse, hpath, if_true, sdkSockets]
    cases hscript : scripts udsPath with
    | none => simp
    | some script =>
        obtain ⟨config, env⟩ := script
        have hfetch := fetch_event codecs platform toDouble hparsed htext
          { method := Invocation.post, target
            headers := Multimaps.MultiMap.empty.append
              (HeaderName.contentType, Invocation.octetStream)
            body := payload } rfl rfl config env
        simp only [hfetch]
        split <;> simp
  · have hparse : (Target.parse (httpHandlerPath event.handlerName).toList :
        Option (Target chars)) = none := Option.not_isSome_iff_eq_none.mp hpath
    simp [hparse, hpath]

/-- The runtime makes the call that the bus makes. -/
theorem invokeWorker_heard {event : BatchEvent} {message : QueuedEvent}
    (hmessage : Serializes codecs event message)
    (hparsed : Parsed codecs platform toDouble event)
    (vmm : WorkerdVmm (Seen chars)) :
    (Invocation.invokeWorker (sdkSockets platform scripts) panicked vmm
        message.workerId message.handlerName message.payload).1 =
      { vmm with
        world := vmm.world ++
          heard codecs platform scripts toDouble vmm.workers event } := by
  obtain ⟨hworkerId, hhandlerName, htext⟩ := hmessage
  rw [hworkerId, hhandlerName, Invocation.invokeWorker, Invocation.invoke,
    heard]
  cases hworker : vmm.workers event.workerId with
  | none => simp
  | some worker =>
      by_cases hrunning : worker.status = .running
      · simp only [hrunning, ne_eq, not_true_eq_false, if_false, true_and,
          invokeViaUds_event codecs platform scripts panicked toDouble hparsed
            htext]
      · simp [hrunning]

/-- One step of the way is one step of the bus. -/
theorem follows_step {bus : Bus chars} {world : World chars}
    (hfollows : Follows codecs platform toDouble bus world) (act : Act)
    (hparsed : ∀ accepts batch, act = .deliver accepts batch →
      ∀ event ∈ batch, Parsed codecs platform toDouble event) :
    Follows codecs platform toDouble
      (bus.step codecs platform scripts vmId toDouble act)
      (world.step codecs platform scripts panicked others vmId act) := by
  obtain ⟨hqueue, hpending, hworkers, hseen⟩ := hfollows
  cases act with
  | deliver accepts batch =>
      obtain ⟨messages, hdelivered, hmessages⟩ :=
        accepted_serializes codecs accepts 0 world.queue batch
      refine ⟨?_, ?_, hworkers, hseen⟩
      · simp only [Bus.step, World.step, hdelivered]
        exact List.rel_append hqueue hmessages
      · intro event hevent
        rcases List.mem_append.mp hevent with hold | hnew
        · exact hpending event hold
        · exact hparsed accepts batch rfl event
            (mem_of_mem_accepted codecs hnew)
  | change workers => exact ⟨hqueue, hpending, rfl, hseen⟩
  | process maps fate =>
      obtain ⟨pending, workers, seen⟩ := bus
      obtain ⟨queue, vmm⟩ := world
      obtain rfl : vmm.workers = workers := hworkers
      obtain rfl : vmm.world = seen := hseen
      cases hqueue with
      | nil => exact ⟨List.Forall₂.nil, hpending, rfl, rfl⟩
      | @cons event message pending queue hmessage hqueue =>
          have hevent := hpending event List.mem_cons_self
          have hrest : ∀ event ∈ pending,
              Parsed codecs platform toDouble event :=
            fun event hmem => hpending event (List.mem_cons_of_mem _ hmem)
          simp only [Bus.step, World.step, World.process, hmessage.workerId,
            invokeWorker_fst]
          rw [← hmessage.workerId, invokeWorker_heard codecs platform scripts
            panicked toDouble hmessage hevent]
          cases maps.reaches vmId message.workerId with
          | false => exact ⟨hqueue, hrest, rfl, rfl⟩
          | true =>
              cases fate.arrives with
              | false => exact ⟨hqueue, hrest, rfl, rfl⟩
              | true => exact ⟨hqueue, hrest, rfl, rfl⟩

/-- The call that an event is for. -/
def callOf (event : BatchEvent) : Invocation chars :=
  .event (units event.handlerName)
    (some (ofJson toDouble (event.eventPayload.toJson codecs.hex)))

/-- The events that entered the queue. -/
def entered : List Act → List BatchEvent :=
  List.flatMap fun
    | .deliver accepts batch => accepted codecs accepts 0 batch
    | _ => []

theorem heard_sublist (workers : String → Option WorkerData)
    (event : BatchEvent) :
    ((heard codecs platform scripts toDouble workers event).map
      Prod.snd).Sublist [callOf codecs toDouble event] := by
  rw [heard]
  split
  · exact List.nil_sublist _
  · split
    · split
      · exact List.nil_sublist _
      · split
        · exact List.Sublist.refl _
        · exact List.nil_sublist _
    · exact List.nil_sublist _

/-- The calls that were made are for some of the events that left the queue, in
their order. -/
structure InOrder (before : Seen chars) (events : List BatchEvent)
    (bus : Bus chars) : Prop where
  calls : ∃ gone calls, gone ++ bus.pending = events ∧
    bus.seen = before ++ calls ∧
    (calls.map Prod.snd).Sublist (gone.map (callOf codecs toDouble))

theorem entered_append (before after : List Act) :
    entered codecs (before ++ after) =
      entered codecs before ++ entered codecs after :=
  List.flatMap_append

theorem inOrder_step {before : Seen chars} {events : List BatchEvent}
    {bus : Bus chars} (horder : InOrder codecs toDouble before events bus)
    (act : Act) :
    InOrder codecs toDouble before (events ++ entered codecs [act])
      (bus.step codecs platform scripts vmId toDouble act) := by
  obtain ⟨gone, calls, rfl, hseen, hcalls⟩ := horder
  cases act with
  | deliver accepts batch =>
      exact ⟨gone, calls, by simp [Bus.step, entered], hseen, hcalls⟩
  | change workers => exact ⟨gone, calls, by simp [Bus.step, entered], hseen,
      hcalls⟩
  | process maps fate =>
      obtain ⟨pending, workers, seen⟩ := bus
      cases pending with
      | nil => exact ⟨gone, calls, by simp [Bus.step, entered], hseen, hcalls⟩
      | cons event rest =>
          have hgone : gone ++ [event] ++ rest =
              gone ++ event :: rest ++ entered codecs [.process maps fate] := by
            simp [entered]
          simp only [Bus.step] at hseen ⊢
          split
          · refine ⟨gone ++ [event], calls ++ heard codecs platform scripts
              toDouble workers event, hgone, ?_, ?_⟩
            · rw [hseen, List.append_assoc]
            · rw [List.map_append, List.map_append]
              exact hcalls.append (heard_sublist codecs platform scripts
                toDouble workers event)
          · refine ⟨gone ++ [event], calls, hgone, hseen, ?_⟩
            rw [List.map_append]
            exact hcalls.trans (List.sublist_append_left _ _)

/-! ## Runs -/

/-- The bus that nothing was put on yet, beside a VM. -/
def Bus.beside (vmm : WorkerdVmm (Seen chars)) : Bus chars where
  pending := []
  workers := vmm.workers
  seen := vmm.world

theorem follows_run {bus : Bus chars} {world : World chars}
    (hfollows : Follows codecs platform toDouble bus world) (acts : List Act)
    (hparsed : ∀ accepts batch, .deliver accepts batch ∈ acts →
      ∀ event ∈ batch, Parsed codecs platform toDouble event) :
    Follows codecs platform toDouble
      (run (Bus.step codecs platform scripts vmId toDouble) bus acts)
      (run (World.step codecs platform scripts panicked others vmId) world
        acts) := by
  induction acts generalizing bus world with
  | nil => exact hfollows
  | cons act rest ih =>
      refine ih (follows_step codecs platform scripts panicked others vmId
        toDouble hfollows act ?_) ?_
      · rintro accepts batch rfl
        exact hparsed accepts batch List.mem_cons_self
      · intro accepts batch hmem
        exact hparsed accepts batch (List.mem_cons_of_mem _ hmem)

theorem inOrder_run (vmm : WorkerdVmm (Seen chars)) (acts : List Act) :
    InOrder codecs toDouble vmm.world (entered codecs acts)
      (run (Bus.step codecs platform scripts vmId toDouble) (Bus.beside vmm)
        acts) := by
  induction acts using List.reverseRecOn with
  | nil =>
      exact ⟨[], [], rfl, (List.append_nil _).symm, List.Sublist.refl _⟩
  | append_singleton before act ih =>
      rw [run_concat, entered_append]
      exact inOrder_step codecs platform scripts vmId toDouble ih act

/-- The enclave starts with an empty queue.  However deliveries, turns of the
processing task and changes of the VM interleave, the handlers are called
exactly as by the bus: each for events that were delivered, with their payloads,
in their order and at most once. -/
theorem events_reach_handlers (vmm : WorkerdVmm (Seen chars)) (acts : List Act)
    (hparsed : ∀ accepts batch, .deliver accepts batch ∈ acts →
      ∀ event ∈ batch, Parsed codecs platform toDouble event) :
    let bus := run (Bus.step codecs platform scripts vmId toDouble)
      (Bus.beside vmm) acts
    let world := run (World.step codecs platform scripts panicked others vmId)
      { queue := [], vmm } acts
    world.vmm.world = bus.seen ∧
      List.Forall₂ (Serializes codecs) bus.pending world.queue ∧
      InOrder codecs toDouble vmm.world (entered codecs acts) bus := by
  have hinit : Follows codecs platform toDouble (Bus.beside vmm)
      { queue := [], vmm } :=
    ⟨List.Forall₂.nil, fun _ hmem => absurd hmem List.not_mem_nil, rfl, rfl⟩
  have hfollows := follows_run codecs platform scripts panicked others vmId
    toDouble hinit acts hparsed
  exact ⟨hfollows.seen, hfollows.queue,
    inOrder_run codecs platform scripts vmId toDouble vmm acts⟩

end Loop

/-! ## A scheduled event -/

def tickText : Bytes :=
  utf8 "\x7b\"handler\":\"tick\",\"event_payload\":null\x7d"

def tickEvent : BatchEvent where
  workerId := "instance-1"
  handlerName := "tick"
  eventPayload := .scheduled

def tickCodecs : Codecs :=
  { EventDelivery.fetchCodecs with toVec := fun _ => .ok tickText }

def markedChars : UriChars where
  path := fun char => char != '?' && char != '#'
  query := fun char => char != '#'
  path_slash := by decide
  path_question := by decide
  path_hash := by decide
  query_hash := by decide

def tickPlatform : Platform markedChars Unit where
  parseJson := fun body =>
    if body = tickText then
      some (ofJson (fun _ => 0) (tickEvent.invocation.toJson tickCodecs))
    else none
  objectPrototype := fun _ => none
  userConfig := fun _ => .null

/-- A script with the handler `tick`. -/
def tickScripts : Scripts markedChars Unit := fun _ =>
  some ({ entries := [(units "tick", some fun _ _ => .ok .nothing)]
          nodup := List.nodup_singleton _ }, ())

def tickVmm : WorkerdVmm (Seen markedChars) where
  workers := fun _ => some { status := .running, udsPath := "/run/1.sock" }
  world := []

/-- The status that a client makes of a request that panicked. -/
def panicked : Status := .unknown "h2 protocol error: http2 error"

/-- A runtime of which every method panics. -/
def panicking (State : Type) : VmRuntime State where
  startWorker := fun state _ _ _ _ => (state, .error (.panic panicked))
  stopWorker := fun state _ => (state, .error (.panic panicked))
  invokeWorker := fun state _ _ _ => (state, .error (.panic panicked))
  invokeHttp := fun state _ _ => (state, .error (.panic panicked))
  getAttestation := fun state _ => (state, .error (.panic panicked))
  getWorkerStatus := fun state _ => (state, .error (.panic panicked))
  listRunningWorkers := fun state => (state, .error (.panic panicked))
  getWorkerLogs := fun state _ => (state, .error (.panic panicked))
  streamWorkerLogs := fun state _ _ _ => (state, .error (.panic panicked))
  probeWorker := fun state _ => (state, .error (.panic panicked))

/-- An event is delivered, then processed. -/
def tickActs : List Act :=
  [.deliver (fun _ => true) [tickEvent],
    .process { workerMap := fun _ => some "vm-1", vms := fun _ => true }
      .delivered]

theorem tick_reaches_handler :
    (run (World.step tickCodecs tickPlatform tickScripts panicked
        (panicking _) "vm-1") { queue := [], vmm := tickVmm }
      tickActs).vmm.world =
      [("/run/1.sock", callOf tickCodecs (fun _ => 0) tickEvent)] := by
  have hparsed : ∀ accepts batch, .deliver accepts batch ∈ tickActs →
      ∀ event ∈ batch,
        Parsed tickCodecs tickPlatform (fun _ => 0) event := by
    intro accepts batch hact event hevent payload hpayload
    rw [tickActs, List.mem_cons, List.mem_singleton] at hact
    rcases hact with hdeliver | hprocess
    · obtain ⟨-, rfl⟩ := Act.deliver.inj hdeliver
      obtain rfl := List.mem_singleton.mp hevent
      rw [← Except.ok.inj hpayload]
      simp [tickPlatform]
    · cases hprocess
  have hreach := events_reach_handlers tickCodecs tickPlatform tickScripts
    panicked (panicking _) "vm-1" (fun _ => 0) tickVmm tickActs hparsed
  exact hreach.1.trans rfl

end NxccBridge.EventLoop
