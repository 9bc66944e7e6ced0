import NxccBridge.Daemon.EventQueue
import NxccBridge.Daemon.SchedulerCommands
import NxccBridge.Daemon.SecretsService

/-!
# Installing the events of a work order

The end of `submit_work_order`, behind the start of the worker: launch events go
to the daemon's queue, the worker is mounted for HTTP, each web3 event gets a
listener task and each schedule is sent to the scheduler, which looks at it
later.
-/

namespace NxccBridge.Installation

open NxccBridge.DaemonSecrets (AppError)
open NxccBridge.EventQueue (EventDelivery)
open NxccBridge.Interface
open NxccBridge.Runs
open NxccBridge.Scheduler

/-- A web3 listener task. -/
structure Listener where
  workOrderId : String
  enclaveWorkerId : String
  handlerName : String
  config : Web3Event
  deriving DecidableEq

/-- What an installation does, one entry for each effect. -/
inductive Effect
  | launchQueued (delivery : EventDelivery)
  | mounted (segment enclaveWorkerId : String)
  | listening (listener : Listener)
  | scheduleSent (handler : String) (schedule : Schedule)
  deriving DecidableEq

/-- Whether the send of the launch event at a position of the payload and of a
schedule finds a receiver, and the first websocket URL in the chain list. -/
structure World where
  launchSent : ℕ → Bool
  schedulerOpen : ℕ → Bool
  wssRpc : UInt64 → Option String

/-! ## The loop over the events -/

structure Collected where
  launchEventDefined : Bool
  launchEventQueuedSuccessfully : Bool
  web3EventConfigs : List Web3Event
  httpRequested : Bool
  scheduledEvents : List (String × Schedule)
  effects : List Effect

def Collected.new : Collected where
  launchEventDefined := false
  launchEventQueuedSuccessfully := false
  web3EventConfigs := []
  httpRequested := false
  scheduledEvents := []
  effects := []

def launchDelivery (enclaveWorkerId handler : String) : EventDelivery where
  workerId := enclaveWorkerId
  handlerName := handler
  eventPayload := some { payload := some .launchEvent }

/-- One event of the payload; the failed send of a launch event is only
logged. -/
def collectEvent (world : World) (enclaveWorkerId : String) (index : ℕ)
    (collected : Collected) (event : WorkerEvent) : Collected :=
  match event.kind with
  | .launch =>
      if world.launchSent index then
        { collected with
          launchEventDefined := true
          launchEventQueuedSuccessfully := true
          effects := collected.effects ++
            [.launchQueued (launchDelivery enclaveWorkerId event.handler)] }
      else { collected with launchEventDefined := true }
  | .web3Event config =>
      { collected with
        web3EventConfigs := collected.web3EventConfigs ++ [config] }
  | .httpRequest => { collected with httpRequested := true }
  | .scheduled schedule =>
      { collected with
        scheduledEvents :=
          collected.scheduledEvents ++ [(event.handler, schedule)] }

def collect (world : World) (enclaveWorkerId : String) :
    ℕ → Collected → List WorkerEvent → Collected
  | _, collected, [] => collected
  | index, collected, event :: rest =>
      collect world enclaveWorkerId (index + 1)
        (collectEvent world enclaveWorkerId index collected event) rest

/-! ## The installation -/

/-- The listeners of the configurations, with the handler of the first event of
the payload that has the configuration. -/
def listen (workOrderHash enclaveWorkerId : String)
    (events : List WorkerEvent) :
    List Web3Event → List Effect × Except AppError Unit
  | [] => ([], .ok ())
  | config :: rest =>
      match events.find? fun event => event.kind = .web3Event config with
      | none =>
          ([], .error (.internal "Could not find original Web3Event config"))
      | some original =>
          let later := listen workOrderHash enclaveWorkerId events rest
          (.listening
              { workOrderId := workOrderHash
                enclaveWorkerId := enclaveWorkerId
                handlerName := original.handler
                config := config } :: later.1,
            later.2)

/-- The schedules are sent up to the first failure. -/
def sendSchedules (world : World) :
    ℕ → List (String × Schedule) → List Effect × Except AppError Unit
  | _, [] => ([], .ok ())
  | index, (handler, schedule) :: rest =>
      if world.schedulerOpen index then
        let later := sendSchedules world (index + 1) rest
        (.scheduleSent handler schedule :: later.1, later.2)
      else
        ([], .error (.service
          ("Failed to schedule event for handler " ++ handler ++
            ": Failed to send add command: channel closed")))

def installEvents (world : World) (workOrderHash enclaveWorkerId : String)
    (events : List WorkerEvent) : List Effect × Except AppError String :=
  let collected := collect world enclaveWorkerId 0 .new events
  let shouldSetupWeb3Listeners :=
    if collected.launchEventDefined then
      collected.launchEventQueuedSuccessfully
    else true
  let mounts :=
    if collected.httpRequested then
      [Effect.mounted workOrderHash enclaveWorkerId]
    else []
  let listeners :=
    if shouldSetupWeb3Listeners then
      listen workOrderHash enclaveWorkerId events collected.web3EventConfigs
    else ([], .ok ())
  match listeners.2 with
  | .error e => (collected.effects ++ mounts ++ listeners.1, .error e)
  | .ok () =>
      let schedules := sendSchedules world 0 collected.scheduledEvents
      (collected.effects ++ mounts ++ listeners.1 ++ schedules.1,
        schedules.2.map fun _ => workOrderHash)

/-- `submit_work_order` on a first submission, from what its preparation came to:
an error, or the worker that the enclave started. -/
def submitWorkOrder (world : World) (workOrderHash : String)
    (events : List WorkerEvent) (prepared : Except AppError String) :
    List Effect × Except AppError String :=
  match prepared with
  | .error e => ([], .error e)
  | .ok enclaveWorkerId =>
      installEvents world workOrderHash enclaveWorkerId events

/-! ## Gateways -/

def getRpcUrlsForChainId (world : World) (chainId : UInt64) :
    Except AppError (List String) :=
  if chainId = 0 then .ok ["mock://gateway.example.com"]
  else if chainId = 1337 ∨ chainId = 31337 then .ok ["ws://127.0.0.1:8545"]
  else
    match world.wssRpc chainId with
    | some url => .ok [url]
    | none =>
        .error (.service
          ("No RPC URL configured for chain ID " ++ toString chainId))

def getGateway (world : World) : ChainIdentifier →
    Except AppError (List String)
  | .gatewayUrl url => .ok [url.serialization]
  | .gatewayUrls urls => .ok (urls.map Url.serialization)
  | .chainId chainId => getRpcUrlsForChainId world chainId

def gatewaysForEvent (world : World) (config : Web3Event) :
    Except AppError (List String) :=
  if config.gateways.isEmpty then getGateway world config.chain
  else .ok config.gateways

/-- A listener without gateway returns at once; the others try to subscribe until
they succeed. -/
def Listener.stays (world : World) (listener : Listener) : Bool :=
  match gatewaysForEvent world listener.config with
  | .ok _ => true
  | .error _ => false

/-! ## What the payload asks for -/

/-- The handler of a launch event. -/
def launchHandler (event : WorkerEvent) : Option String :=
  match event.kind with
  | .launch => some event.handler
  | _ => none

def web3Handler (event : WorkerEvent) : Option (String × Web3Event) :=
  match event.kind with
  | .web3Event config => some (event.handler, config)
  | _ => none

def scheduleHandler (event : WorkerEvent) : Option (String × Schedule) :=
  match event.kind with
  | .scheduled schedule => some (event.handler, schedule)
  | _ => none

def isHttp (event : WorkerEvent) : Bool :=
  event.kind = .httpRequest

def Effect.launchQueued? : Effect → Option EventDelivery
  | launchQueued delivery => some delivery
  | _ => none

def Effect.mounted? : Effect → Option (String × String)
  | mounted segment enclaveWorkerId => some (segment, enclaveWorkerId)
  | _ => none

def Effect.listening? : Effect → Option Listener
  | listening listener => some listener
  | _ => none

def Effect.scheduleSent? : Effect → Option (String × Schedule)
  | scheduleSent handler schedule => some (handler, schedule)
  | _ => none

/-- The handlers of the launch events that found a receiver, from a position of
the payload. -/
def sentHandlers (world : World) (index : ℕ) (events : List WorkerEvent) :
    List String :=
  (events.zipIdx index).filterMap fun entry =>
    (launchHandler entry.1).filter fun _ => world.launchSent entry.2

/-- Listeners are set up unless there are launch events and none was sent. -/
def setsUpListeners (world : World) (events : List WorkerEvent) : Bool :=
  !(events.any fun event => (launchHandler event).isSome) ||
    !(sentHandlers world 0 events).isEmpty

/-- The listener that is started for a configuration. -/
def firstListener (workOrderHash enclaveWorkerId : String)
    (events : List WorkerEvent) (config : Web3Event) : Listener where
  workOrderId := workOrderHash
  enclaveWorkerId := enclaveWorkerId
  handlerName := ((events.find? fun event =>
    event.kind = .web3Event config).map WorkerEvent.handler).getD ""
  config := config

/-! ## The loop -/

theorem collect_eq (world : World) (enclaveWorkerId : String) (index : ℕ)
    (collected : Collected) (events : List WorkerEvent) :
    collect world enclaveWorkerId index collected events =
      { launchEventDefined := collected.launchEventDefined ||
          events.any fun event => (launchHandler event).isSome
        launchEventQueuedSuccessfully :=
          collected.launchEventQueuedSuccessfully ||
            !(sentHandlers world index events).isEmpty
        web3EventConfigs := collected.web3EventConfigs ++
          (events.filterMap web3Handler).map Prod.snd
        httpRequested := collected.httpRequested || events.any isHttp
        scheduledEvents :=
          collected.scheduledEvents ++ events.filterMap scheduleHandler
        effects := collected.effects ++
          (sentHandlers world index events).map fun handler =>
            .launchQueued (launchDelivery enclaveWorkerId handler) } := by
  induction events generalizing index collected with
  | nil => simp [collect, sentHandlers]
  | cons event rest ih =>
      obtain ⟨handler, kind⟩ := event
      rw [collect, ih]
      cases kind with
      | launch =>
          cases hsent : world.launchSent index <;>
            simp [collectEvent, sentHandlers, launchHandler, web3Handler,
              isHttp, scheduleHandler, List.filterMap_cons, hsent]
      | web3Event config =>
          simp [collectEvent, sentHandlers, launchHandler, web3Handler,
            isHttp, scheduleHandler, List.filterMap_cons]
      | httpRequest =>
          simp [collectEvent, sentHandlers, launchHandler, web3Handler,
            isHttp, scheduleHandler, List.filterMap_cons]
      | scheduled schedule =>
          simp [collectEvent, sentHandlers, launchHandler, web3Handler,
            isHttp, scheduleHandler, List.filterMap_cons]

/-! ## The other parts -/

theorem mem_web3Handler {events : List WorkerEvent} {handler : String}
    {config : Web3Event} :
    (handler, config) ∈ events.filterMap web3Handler ↔
      { handler, kind := .web3Event config } ∈ events := by
  rw [List.mem_filterMap]
  constructor
  · rintro ⟨⟨other, kind⟩, hmem, hsome⟩
    cases kind with
    | web3Event found =>
        obtain ⟨rfl, rfl⟩ := Prod.mk.inj (Option.some.inj hsome)
        exact hmem
    | launch => cases hsome
    | httpRequest => cases hsome
    | scheduled schedule => cases hsome
  · exact fun hmem => ⟨_, hmem, rfl⟩

theorem listen_eq (workOrderHash enclaveWorkerId : String)
    {events : List WorkerEvent} {configs : List Web3Event}
    (hfound : ∀ config ∈ configs, ∃ handler,
      { handler, kind := .web3Event config } ∈ events) :
    listen workOrderHash enclaveWorkerId events configs =
      (configs.map fun config => .listening
        (firstListener workOrderHash enclaveWorkerId events config),
        .ok ()) := by
  induction configs with
  | nil => rfl
  | cons config rest ih =>
      rw [List.forall_mem_cons] at hfound
      obtain ⟨⟨handler, hmem⟩, hrest⟩ := hfound
      rw [listen]
      cases hfind : events.find? fun event =>
          event.kind = .web3Event config with
      | none =>
          have hnone := List.find?_eq_none.mp hfind _ hmem
          simp at hnone
      | some original =>
          simp only [ih hrest, List.map_cons, firstListener, hfind]
          rfl

/-- Every schedule finds the scheduler. -/
def SchedulesSent (world : World) (index : ℕ)
    (schedules : List (String × Schedule)) : Prop :=
  ∀ k < schedules.length, world.schedulerOpen (index + k) = true

theorem schedulesSent_cons {world : World} {index : ℕ}
    {schedule : String × Schedule} {rest : List (String × Schedule)} :
    SchedulesSent world index (schedule :: rest) ↔
      world.schedulerOpen index = true ∧
        SchedulesSent world (index + 1) rest := by
  constructor
  · intro hsent
    refine ⟨hsent 0 (by simp), fun k hk => ?_⟩
    have hnext := hsent (k + 1) (by simpa using hk)
    rwa [← Nat.add_assoc, Nat.add_right_comm] at hnext
  · rintro ⟨hfirst, hrest⟩ k hk
    cases k with
    | zero => exact hfirst
    | succ k =>
        have hnext := hrest k (by simpa using hk)
        rwa [Nat.add_right_comm, Nat.add_assoc] at hnext

/-- The schedules are all sent, or the result is an error. -/
theorem sendSchedules_spec (world : World) (index : ℕ)
    (schedules : List (String × Schedule)) :
    SchedulesSent world index schedules ∧
        sendSchedules world index schedules =
          (schedules.map fun entry => .scheduleSent entry.1 entry.2,
            .ok ()) ∨
      ¬SchedulesSent world index schedules ∧
        ∃ e, (sendSchedules world index schedules).2 = .error e := by
  induction schedules generalizing index with
  | nil =>
      exact Or.inl ⟨fun k hk => absurd hk (Nat.not_lt_zero k), rfl⟩
  | cons schedule rest ih =>
      rw [schedulesSent_cons, sendSchedules]
      cases hopen : world.schedulerOpen index with
      | false => simp
      | true =>
          rcases ih (index + 1) with ⟨hsent, heq⟩ | ⟨hnot, e, herror⟩
          · left
            simp [hsent, heq]
          · right
            simp [hnot, herror]

theorem sendSchedules_of_sent {world : World} {index : ℕ}
    {schedules : List (String × Schedule)}
    (hsent : SchedulesSent world index schedules) :
    (sendSchedules world index schedules).1 =
      schedules.map fun entry => .scheduleSent entry.1 entry.2 := by
  rcases sendSchedules_spec world index schedules with
    ⟨-, heq⟩ | ⟨hnot, -⟩
  · rw [heq]
  · exact absurd hsent hnot

/-- The whole installation, by the kinds of events. -/
theorem installEvents_eq (world : World)
    (workOrderHash enclaveWorkerId : String) (events : List WorkerEvent) :
    installEvents world workOrderHash enclaveWorkerId events =
      (((sentHandlers world 0 events).map fun handler =>
          .launchQueued (launchDelivery enclaveWorkerId handler)) ++
        (if events.any isHttp then [.mounted workOrderHash enclaveWorkerId]
          else []) ++
        (if setsUpListeners world events then
          (events.filterMap web3Handler).map fun entry => .listening
            (firstListener workOrderHash enclaveWorkerId events entry.2)
          else []) ++
        (sendSchedules world 0 (events.filterMap scheduleHandler)).1,
        (sendSchedules world 0 (events.filterMap scheduleHandler)).2.map
          fun _ => workOrderHash) := by
  have hfound : ∀ config ∈ (events.filterMap web3Handler).map Prod.snd,
      ∃ handler, { handler, kind := .web3Event config } ∈ events := by
    intro config hmem
    obtain ⟨⟨handler, found⟩, hfound, rfl⟩ := List.mem_map.mp hmem
    exact ⟨handler, mem_web3Handler.mp hfound⟩
  rw [installEvents, collect_eq]
  have hsetup : (if (events.any fun event => (launchHandler event).isSome) then
      !(sentHandlers world 0 events).isEmpty else true) =
        setsUpListeners world events := by
    rw [setsUpListeners]
    cases events.any fun event => (launchHandler event).isSome <;> rfl
  simp only [Collected.new, Bool.false_or, List.nil_append, hsetup,
    listen_eq workOrderHash enclaveWorkerId hfound, List.map_map]
  cases setsUpListeners world events <;> rfl

/-! ## What the installation comes to -/

theorem filterMap_filter_eq_iff {Item Value : Type*}
    {value : Item → Option Value} {kept : Item → Bool} {items : List Item} :
    items.filterMap (fun item => (value item).filter fun _ => kept item) =
        items.filterMap value ↔
      ∀ item ∈ items, (value item).isSome → kept item = true := by
  have hle : ∀ items : List Item, (items.filterMap fun item =>
      (value item).filter fun _ => kept item).length ≤
        (items.filterMap value).length := by
    intro items
    induction items with
    | nil => simp
    | cons item rest ih =>
        cases hvalue : value item with
        | none => simpa [hvalue] using ih
        | some result =>
            cases hkept : kept item with
            | false => simp [hvalue, hkept]; omega
            | true => simpa [hvalue, hkept] using ih
  induction items with
  | nil => simp
  | cons item rest ih =>
      cases hvalue : value item with
      | none => simpa [hvalue] using ih
      | some result =>
          cases hkept : kept item with
          | true => simpa [hvalue, hkept] using ih
          | false =>
              simp only [List.filterMap_cons, hvalue, hkept,
                List.forall_mem_cons]
              refine iff_of_false ?_ ?_
              · intro heq
                have hlength := congrArg List.length heq
                have hrest := hle rest
                simp at hlength
                omega
              · simp

/-- Every launch event finds a receiver. -/
def LaunchesSent (world : World) (events : List WorkerEvent) : Prop :=
  ∀ entry ∈ events.zipIdx, (launchHandler entry.1).isSome →
    world.launchSent entry.2 = true

theorem sentHandlers_eq_iff (world : World) (events : List WorkerEvent) :
    sentHandlers world 0 events = events.filterMap launchHandler ↔
      LaunchesSent world events := by
  have hall : events.filterMap launchHandler =
      events.zipIdx.filterMap fun entry => launchHandler entry.1 := by
    conv_lhs => rw [← List.zipIdx_map_fst 0 events]
    rw [List.filterMap_map]
    rfl
  rw [hall, sentHandlers]
  exact filterMap_filter_eq_iff

/-- Events with one configuration have one handler. -/
def HandlersAgree (events : List WorkerEvent) : Prop :=
  ∀ left ∈ events.filterMap web3Handler,
    ∀ right ∈ events.filterMap web3Handler,
      left.2 = right.2 → left.1 = right.1

/-- Every web3 event has a gateway. -/
def GatewaysResolve (world : World) (events : List WorkerEvent) : Prop :=
  ∀ entry ∈ events.filterMap web3Handler, ∃ urls,
    gatewaysForEvent world entry.2 = .ok urls

/-- The listener that a web3 event asks for. -/
def ownListener (workOrderHash enclaveWorkerId : String)
    (entry : String × Web3Event) : Listener where
  workOrderId := workOrderHash
  enclaveWorkerId := enclaveWorkerId
  handlerName := entry.1
  config := entry.2

theorem firstListener_eq_own_iff (workOrderHash enclaveWorkerId : String)
    (events : List WorkerEvent) :
    (events.filterMap web3Handler).map (fun entry =>
        firstListener workOrderHash enclaveWorkerId events entry.2) =
      (events.filterMap web3Handler).map
        (ownListener workOrderHash enclaveWorkerId) ↔
      HandlersAgree events := by
  rw [List.map_inj_left]
  have hfirst : ∀ entry ∈ events.filterMap web3Handler, ∃ handler,
      (handler, entry.2) ∈ events.filterMap web3Handler ∧
        (firstListener workOrderHash enclaveWorkerId events
          entry.2).handlerName = handler := by
    intro entry hmem
    cases hfind : events.find? fun event =>
        event.kind = .web3Event entry.2 with
    | none =>
        have hnone := List.find?_eq_none.mp hfind _ (mem_web3Handler.mp hmem)
        simp at hnone
    | some original =>
        have hkind : original.kind = .web3Event entry.2 := by
          simpa using List.find?_some hfind
        have hevent : original =
            { handler := original.handler, kind := .web3Event entry.2 } := by
          rw [← hkind]
        refine ⟨original.handler, ?_, by rw [firstListener, hfind]; rfl⟩
        rw [mem_web3Handler, ← hevent]
        exact List.mem_of_find?_eq_some hfind
  constructor
  · intro hown left hleft right hright hconfig
    have hl := congrArg Listener.handlerName (hown left hleft)
    have hr := congrArg Listener.handlerName (hown right hright)
    rw [hconfig] at hl
    exact hl.symm.trans hr
  · intro hagree entry hmem
    obtain ⟨handler, hfound, hname⟩ := hfirst entry hmem
    have hsame : handler = entry.1 :=
      hagree (handler, entry.2) hfound entry hmem rfl
    rw [ownListener, ← hsame, ← hname]
    rfl

/-! ## The scheduler's side -/

/-- The addition that a command asks for, if it is for the work order. -/
def requestFor (workOrderHash : String) : LoopEvent → Option Addition
  | .command clock (.addScheduledEvent workOrderId handler schedule) =>
      if workOrderId = workOrderHash then
        some { clock, workOrderId, handler, schedule }
      else none
  | _ => none

/-- The schedule passes the validation when it is handled. -/
def accepted (config : SchedulerConfig) (addition : Addition) : Bool :=
  match validateSchedule config addition.clock.validated addition.schedule with
  | .ok _ => true
  | .error _ => false

/-- What a step puts into the heap. -/
def pushed (self : Loop) (event : LoopEvent) : List ScheduledEvent :=
  (self.step event).service.scheduledEvents.diff self.service.scheduledEvents

/-- What the heap gets for each request of the work order, when the scheduler
handles it. -/
def pushes (workOrderHash : String) : Loop → List LoopEvent →
    List (List ScheduledEvent)
  | _, [] => []
  | self, event :: rest =>
      (requestFor workOrderHash event).toList.map (fun _ => pushed self event) ++
        pushes workOrderHash (self.step event) rest

/-- Whose event the heap holds, and for which schedule. -/
def identity (event : ScheduledEvent) : String × String × Schedule :=
  (event.workOrderId, event.handler, event.schedule)

theorem diff_self_eq (scheduledEvents : List ScheduledEvent) :
    scheduledEvents.diff scheduledEvents = [] := by
  rw [← List.perm_nil, ← Multiset.coe_eq_coe, ← Multiset.coe_sub,
    tsub_self]
  rfl

theorem append_singleton_diff_eq (scheduledEvents : List ScheduledEvent)
    (event : ScheduledEvent) :
    (scheduledEvents ++ [event]).diff scheduledEvents = [event] := by
  rw [← List.perm_singleton, ← Multiset.coe_eq_coe, ← Multiset.coe_sub,
    ← Multiset.coe_add, add_tsub_cancel_left]

/-- An accepted request puts its event into the heap, and a rejected one
nothing. -/
theorem pushed_request {self : Loop} (hrunning : self.running = true)
    {workOrderHash : String} {event : LoopEvent} {request : Addition}
    (hrequest : requestFor workOrderHash event = some request) :
    (pushed self event).map identity =
      if accepted self.service.config request then
        [(workOrderHash, request.handler, request.schedule)]
      else [] := by
  cases event with
  | closed => cases hrequest
  | timeout clock ties => cases hrequest
  | command clock command =>
      cases command with
      | removeWorkOrder workOrderId => cases hrequest
      | stop => cases hrequest
      | addScheduledEvent workOrderId handler schedule =>
          rw [requestFor] at hrequest
          split_ifs at hrequest with hid
          subst hid
          obtain rfl := Option.some.inj hrequest
          rw [pushed, step_command hrunning]
          cases hvalid : validateSchedule self.service.config
              clock.validated schedule with
          | error e =>
              simp only [Loop.handleCommand, hvalid, accepted, diff_self_eq]
              rfl
          | ok _ =>
              simp only [Loop.handleCommand, hvalid, accepted,
                SchedulerService.addScheduledEvent, append_singleton_diff_eq]
              rfl

theorem run_config (config : SchedulerConfig) (events : List LoopEvent) :
    ((Loop.new config).run events).service.config = config := by
  have hboth := run_always
    (fun self : Loop => self.service.Coupled ∧ self.service.config = config)
    events ⟨Loop.run_coupled config [], rfl⟩ (by
      rintro self event ⟨hcoupled, hconfig⟩
      have hchange := self.step_change event
      exact ⟨hchange.coupled hcoupled,
        (hchange.config hcoupled).trans hconfig⟩)
  exact hboth.2

/-- While the loop runs, each accepted request of the work order gets its event
into the heap. -/
theorem pushes_eq {self : Loop} (hrunning : self.running = true)
    (hcoupled : self.service.Coupled) (workOrderHash : String)
    {events : List LoopEvent} (hopen : ∀ event ∈ events, event.isClosed = false) :
    (pushes workOrderHash self events).map (List.map identity) =
      (events.filterMap (requestFor workOrderHash)).map fun request =>
        if accepted self.service.config request then
          [(workOrderHash, request.handler, request.schedule)]
        else [] := by
  induction events generalizing self with
  | nil => rfl
  | cons event rest ih =>
      rw [List.forall_mem_cons] at hopen
      have hchange := self.step_change event
      have hgoes : (self.step event).running = true := by
        rw [running_step hrunning, hopen.1]
        rfl
      have hrest := ih hgoes (hchange.coupled hcoupled) hopen.2
      rw [hchange.config hcoupled] at hrest
      rw [pushes, List.map_append, hrest]
      cases hrequest : requestFor workOrderHash event with
      | none => simp [hrequest]
      | some request =>
          simp [hrequest, pushed_request hrunning hrequest]

/-! ## When a submission installs its events -/

/-- Every event of the payload is installed once, with its own handler; for each
schedule the heap gets one event. -/
structure Installed (world : World) (workOrderHash enclaveWorkerId : String)
    (events : List WorkerEvent) (effects : List Effect)
    (heap : List (List ScheduledEvent)) : Prop where
  launches : effects.filterMap Effect.launchQueued? =
    (events.filterMap launchHandler).map (launchDelivery enclaveWorkerId)
  listeners : (effects.filterMap Effect.listening?).filter
      (Listener.stays world) =
    (events.filterMap web3Handler).map
      (ownListener workOrderHash enclaveWorkerId)
  mount : effects.filterMap Effect.mounted? =
    if events.any isHttp then [(workOrderHash, enclaveWorkerId)] else []
  schedules : heap.map (List.map identity) =
    (events.filterMap scheduleHandler).map fun entry =>
      [(workOrderHash, entry.1, entry.2)]

/-- What it takes: the launch events find a receiver, each web3 event has a
gateway, web3 events of one configuration have one handler, and the schedules
are valid when the scheduler handles them. -/
structure InstallsAll (config : SchedulerConfig) (world : World)
    (events : List WorkerEvent) (requests : List Addition) : Prop where
  launches : LaunchesSent world events
  gateways : GatewaysResolve world events
  handlers : HandlersAgree events
  schedules : ∀ request ∈ requests, accepted config request = true

/-- The effects of an installation by their kinds, if these schedules are sent. -/
theorem installEvents_kinds {world : World} {events : List WorkerEvent}
    (workOrderHash enclaveWorkerId : String) {sent : List (String × Schedule)}
    (hsent : (sendSchedules world 0 (events.filterMap scheduleHandler)).1 =
      sent.map fun entry => .scheduleSent entry.1 entry.2) :
    let effects :=
      (installEvents world workOrderHash enclaveWorkerId events).1
    effects.filterMap Effect.launchQueued? =
        (sentHandlers world 0 events).map (launchDelivery enclaveWorkerId) ∧
      effects.filterMap Effect.listening? =
        (if setsUpListeners world events then
          (events.filterMap web3Handler).map fun entry =>
            firstListener workOrderHash enclaveWorkerId events entry.2
          else []) ∧
      effects.filterMap Effect.mounted? =
        (if events.any isHttp then [(workOrderHash, enclaveWorkerId)]
          else []) ∧
      effects.filterMap Effect.scheduleSent? = sent := by
  rw [installEvents_eq, hsent]
  have hnone : ∀ (Item Value : Type) (items : List Item),
      items.filterMap (fun _ => (none : Option Value)) = [] := by
    simp
  cases setsUpListeners world events <;> cases events.any isHttp <;>
    simp only [List.filterMap_append, List.filterMap_map, Function.comp_def,
      Effect.launchQueued?, Effect.listening?, Effect.mounted?,
      Effect.scheduleSent?, hnone, List.filterMap_eq_map',
      List.filterMap_cons, List.filterMap_nil, if_true, if_false,
      Bool.false_eq_true, List.append_nil, List.nil_append, Prod.mk.eta,
      List.filterMap_some, and_self]

theorem setsUpListeners_of_sent {world : World} {events : List WorkerEvent}
    (hsent : LaunchesSent world events) :
    setsUpListeners world events = true := by
  have hall := (sentHandlers_eq_iff world events).mpr hsent
  rw [setsUpListeners, hall, Bool.or_eq_true]
  cases hany : events.any fun event => (launchHandler event).isSome with
  | false => exact Or.inl rfl
  | true =>
      right
      obtain ⟨event, hmem, hsome⟩ := List.any_eq_true.mp hany
      obtain ⟨handler, hhandler⟩ := Option.isSome_iff_exists.mp hsome
      have hlaunch : handler ∈ events.filterMap launchHandler :=
        List.mem_filterMap.mpr ⟨event, hmem, hhandler⟩
      cases hlist : events.filterMap launchHandler with
      | nil => rw [hlist] at hlaunch; cases hlaunch
      | cons head rest => rfl

/-- The listeners that stay are those that the payload asks for exactly when each
web3 event has a gateway and configurations tell the handlers. -/
theorem listeners_eq_iff (world : World)
    (workOrderHash enclaveWorkerId : String) (events : List WorkerEvent) :
    ((events.filterMap web3Handler).map fun entry =>
        firstListener workOrderHash enclaveWorkerId events entry.2).filter
          (Listener.stays world) =
      (events.filterMap web3Handler).map
        (ownListener workOrderHash enclaveWorkerId) ↔
      GatewaysResolve world events ∧ HandlersAgree events := by
  have hstays : ∀ entry : String × Web3Event,
      (firstListener workOrderHash enclaveWorkerId events entry.2).stays
          world = true ↔ ∃ urls, gatewaysForEvent world entry.2 = .ok urls := by
    intro entry
    rw [Listener.stays, firstListener]
    cases gatewaysForEvent world entry.2 <;> simp
  rw [← firstListener_eq_own_iff workOrderHash enclaveWorkerId]
  constructor
  · intro heq
    have hlength := congrArg List.length heq
    rw [List.length_map] at hlength
    have hall := List.length_filter_eq_length_iff.mp
      (hlength.trans (List.length_map _).symm)
    refine ⟨?_, ?_⟩
    · intro entry hmem
      exact (hstays entry).mp (hall _ (List.mem_map_of_mem hmem))
    · rwa [List.filter_eq_self.mpr hall] at heq
  · rintro ⟨hresolve, hown⟩
    rw [List.filter_eq_self.mpr, hown]
    intro listener hmem
    obtain ⟨entry, hentry, rfl⟩ := List.mem_map.mp hmem
    exact (hstays entry).mpr (hresolve entry hentry)

/-- What a submission gets that returns without error: all of its events exactly
under the conditions. -/
theorem installed_iff {config : SchedulerConfig} {world : World}
    {workOrderHash enclaveWorkerId : String} {events : List WorkerEvent}
    {heap : List (List ScheduledEvent)} {requests : List Addition}
    (hsent : SchedulesSent world 0 (events.filterMap scheduleHandler))
    (hrequests : requests.map (fun request =>
      (request.handler, request.schedule)) = events.filterMap scheduleHandler)
    (hheap : heap.map (List.map identity) = requests.map fun request =>
      if accepted config request then
        [(workOrderHash, request.handler, request.schedule)]
      else []) :
    Installed world workOrderHash enclaveWorkerId events
        (installEvents world workOrderHash enclaveWorkerId events).1 heap ↔
      InstallsAll config world events requests := by
  obtain ⟨hlaunches, hlisteners, hmount, -⟩ :=
    installEvents_kinds workOrderHash enclaveWorkerId
      (sendSchedules_of_sent hsent)
  have hinjective : Function.Injective (launchDelivery enclaveWorkerId) :=
    fun _ _ hsame => congrArg EventDelivery.handlerName hsame
  have hsentIff : (sentHandlers world 0 events).map
      (launchDelivery enclaveWorkerId) =
        (events.filterMap launchHandler).map (launchDelivery enclaveWorkerId) ↔
      LaunchesSent world events := by
    rw [hinjective.list_map.eq_iff, sentHandlers_eq_iff]
  have hschedules : heap.map (List.map identity) =
        (events.filterMap scheduleHandler).map (fun entry =>
          [(workOrderHash, entry.1, entry.2)]) ↔
      ∀ request ∈ requests, accepted config request = true := by
    rw [hheap, ← hrequests, List.map_map, List.map_inj_left]
    refine forall₂_congr fun request _ => ?_
    cases accepted config request <;> simp
  constructor
  · intro hinstalled
    have hall : LaunchesSent world events :=
      hsentIff.mp (hlaunches.symm.trans hinstalled.launches)
    have hkept := hinstalled.listeners
    rw [hlisteners, setsUpListeners_of_sent hall, if_pos rfl,
      listeners_eq_iff] at hkept
    exact ⟨hall, hkept.1, hkept.2, hschedules.mp hinstalled.schedules⟩
  · intro hinstalls
    refine ⟨?_, ?_, hmount, hschedules.mpr hinstalls.schedules⟩
    · rw [hlaunches]
      exact hsentIff.mpr hinstalls.launches
    · rw [hlisteners, setsUpListeners_of_sent hinstalls.launches, if_pos rfl,
        listeners_eq_iff]
      exact ⟨hinstalls.gateways, hinstalls.handlers⟩

/-- The submission returns an error: it is not prepared, or some schedule finds no
scheduler. -/
def Refused (world : World) (events : List WorkerEvent)
    (prepared : Except AppError String) : Prop :=
  (∃ e, prepared = .error e) ∨
    ¬SchedulesSent world 0 (events.filterMap scheduleHandler)

theorem submitWorkOrder_ok_iff (world : World) (workOrderHash : String)
    (events : List WorkerEvent) (prepared : Except AppError String) :
    (∃ id, (submitWorkOrder world workOrderHash events prepared).2 = .ok id) ↔
      ¬Refused world events prepared := by
  rw [Refused]
  cases prepared with
  | error e => simp [submitWorkOrder]
  | ok enclaveWorkerId =>
      rw [submitWorkOrder, installEvents_eq]
      rcases sendSchedules_spec world 0 (events.filterMap scheduleHandler) with
        ⟨hsent, hschedules⟩ | ⟨hnot, e, herror⟩
      · simp [hsent, hschedules, Except.map]
      · simp [hnot, herror, Except.map]

/-- On a first submission, once the scheduler has handled the schedules that it
was sent, "accepted" means "installed" exactly if the submission is refused or
the conditions hold. -/
theorem submission_installs_iff (config : SchedulerConfig) (world : World)
    (workOrderHash : String) (events : List WorkerEvent)
    (prepared : Except AppError String) (before after : List LoopEvent)
    (hrunning : ((Loop.new config).run before).running = true)
    (hopen : ∀ event ∈ after, event.isClosed = false)
    (hhandled : (after.filterMap (requestFor workOrderHash)).map
        (fun request => (request.handler, request.schedule)) =
      (submitWorkOrder world workOrderHash events prepared).1.filterMap
        Effect.scheduleSent?) :
    (∀ id, (submitWorkOrder world workOrderHash events prepared).2 = .ok id →
      ∃ enclaveWorkerId, prepared = .ok enclaveWorkerId ∧
        Installed world workOrderHash enclaveWorkerId events
          (submitWorkOrder world workOrderHash events prepared).1
          (pushes workOrderHash ((Loop.new config).run before) after)) ↔
      Refused world events prepared ∨
        InstallsAll config world events
          (after.filterMap (requestFor workOrderHash)) := by
  by_cases hrefused : Refused world events prepared
  · refine iff_of_true (fun id hok => ?_) (Or.inl hrefused)
    exact absurd hrefused ((submitWorkOrder_ok_iff world workOrderHash events
      prepared).mp ⟨id, hok⟩)
  · rw [or_iff_right hrefused]
    obtain ⟨id, hok⟩ := (submitWorkOrder_ok_iff world workOrderHash events
      prepared).mpr hrefused
    cases prepared with
    | error e => exact absurd (Or.inl ⟨e, rfl⟩) hrefused
    | ok enclaveWorkerId =>
        rw [Refused, not_or, not_not] at hrefused
        have hconfig : ((Loop.new config).run before).service.config =
            config := run_config config before
        have hheap := pushes_eq hrunning (Loop.run_coupled config before)
          workOrderHash hopen
        rw [hconfig] at hheap
        have hkinds := installEvents_kinds workOrderHash enclaveWorkerId
          (sendSchedules_of_sent hrefused.2)
        rw [submitWorkOrder, hkinds.2.2.2] at hhandled
        have hiff : Installed world workOrderHash enclaveWorkerId events
            (installEvents world workOrderHash enclaveWorkerId events).1
            (pushes workOrderHash ((Loop.new config).run before) after) ↔
              InstallsAll config world events
                (after.filterMap (requestFor workOrderHash)) :=
          installed_iff hrefused.2 hhandled hheap
        constructor
        · intro hinstalls
          obtain ⟨found, hfound, hinstalled⟩ := hinstalls id hok
          rw [← Except.ok.inj hfound] at hinstalled
          exact hiff.mp hinstalled
        · exact fun hinstalls _ _ =>
            ⟨enclaveWorkerId, rfl, hiff.mpr hinstalls⟩

/-! ## Samples -/

/-- Every send finds its receiver. -/
def openWorld : World where
  launchSent := fun _ => true
  schedulerOpen := fun _ => true
  wssRpc := fun _ => none

def localEvent : Web3Event where
  chain := .chainId 31337
  address := []
  topics := []
  gateways := []

def sampleEvents : List WorkerEvent :=
  [{ handler := "boot", kind := .launch },
    { handler := "log", kind := .web3Event localEvent },
    { handler := "fetch", kind := .httpRequest },
    { handler := "tick", kind := .scheduled (.rate (.new 100)) }]

/-- A payload with one event of each kind is installed. -/
theorem submission_installs_sample :
    Installed openWorld "order" "worker" sampleEvents
      (submitWorkOrder openWorld "order" sampleEvents (.ok "worker")).1
      (pushes "order" (Loop.new sampleConfig) [.command (commandAt 0)
        (.addScheduledEvent "order" "tick" (.rate (.new 100)))]) := by
  have hhandled : (([.command (commandAt 0) (.addScheduledEvent "order" "tick"
      (.rate (.new 100)))] : List LoopEvent).filterMap
        (requestFor "order")).map
          (fun request => (request.handler, request.schedule)) =
      (submitWorkOrder openWorld "order" sampleEvents
        (.ok "worker")).1.filterMap Effect.scheduleSent? := by
    decide +kernel
  have hinstalls := (submission_installs_iff sampleConfig openWorld "order"
    sampleEvents (.ok "worker") []
    [.command (commandAt 0)
      (.addScheduledEvent "order" "tick" (.rate (.new 100)))]
    rfl (by decide +kernel) hhandled).mpr (Or.inr ?_)
  · obtain ⟨enclaveWorkerId, hworker, hinstalled⟩ := hinstalls "order" rfl
    rwa [← Except.ok.inj hworker] at hinstalled
  · exact {
      launches := fun _ _ _ => rfl
      gateways := by
        intro entry hmem
        rw [List.mem_singleton.mp hmem]
        exact ⟨_, rfl⟩
      handlers := by
        rw [HandlersAgree]
        decide +kernel
      schedules := by decide +kernel }

/-- Two submissions that return `Ok`: the listener of the second of two equal
filters delivers to the handler of the first, and a schedule that is too fast
never gets into the heap. -/
theorem submission_not_installed :
    ((submitWorkOrder openWorld "order"
        [{ handler := "first", kind := .web3Event localEvent },
          { handler := "second", kind := .web3Event localEvent }]
        (.ok "worker")).2 = .ok "order" ∧
      ¬Installed openWorld "order" "worker"
        [{ handler := "first", kind := .web3Event localEvent },
          { handler := "second", kind := .web3Event localEvent }]
        (submitWorkOrder openWorld "order"
          [{ handler := "first", kind := .web3Event localEvent },
            { handler := "second", kind := .web3Event localEvent }]
          (.ok "worker")).1
        (pushes "order" (Loop.new sampleConfig) [])) ∧
    (submitWorkOrder openWorld "order"
        [{ handler := "tick", kind := .scheduled (.rate (.new 1)) }]
        (.ok "worker")).2 = .ok "order" ∧
      ¬Installed openWorld "order" "worker"
        [{ handler := "tick", kind := .scheduled (.rate (.new 1)) }]
        (submitWorkOrder openWorld "order"
          [{ handler := "tick", kind := .scheduled (.rate (.new 1)) }]
          (.ok "worker")).1
        (pushes "order" (Loop.new sampleConfig) [.command (commandAt 0)
          (.addScheduledEvent "order" "tick" (.rate (.new 1)))]) := by
  refine ⟨⟨by decide +kernel, ?_⟩, by decide +kernel, ?_⟩
  · intro hinstalled
    exact absurd hinstalled.listeners (by decide +kernel)
  · intro hinstalled
    exact absurd hinstalled.schedules (by decide +kernel)

end NxccBridge.Installation
