import NxccBridge.Core.PriorityQueue
import NxccBridge.Core.RoundTrip
import NxccBridge.Core.Runs
import NxccBridge.Interface.WorkerEvents

/-!
# The scheduler

`node/daemon/src/services/scheduler.rs`.  The service keeps the scheduled events
in a heap, takes commands from a channel and fires what is due.  Instants are
nanoseconds of the monotonic clock; each step is given what it reads from the
clocks.
-/

namespace NxccBridge.Scheduler

open Function
open NxccBridge.Interface
open NxccBridge.PriorityQueue
open NxccBridge.RoundTrip
open NxccBridge.Runs

abbrev WorkOrderId := String
abbrev HandlerName := String

/-- `Duration::from_millis`, in nanoseconds. -/
def millis (ms : ℕ) : ℕ := ms * 1000000

/-- A scheduled event that needs to be triggered.  `addition` is the number of
the addition that it comes from: the service has no such field, and no branch
reads it. -/
structure ScheduledEvent where
  workOrderId : WorkOrderId
  handler : HandlerName
  nextFireTime : ℕ
  schedule : Schedule
  occurrenceCount : ℕ
  addition : ℕ
  deriving DecidableEq

/-- Command sent to the scheduler service. -/
inductive SchedulerCommand
  | addScheduledEvent (workOrderId : WorkOrderId) (handler : HandlerName)
      (schedule : Schedule)
  | removeWorkOrder (workOrderId : WorkOrderId)
  | stop
  deriving DecidableEq

/-- Event fired by the scheduler. -/
structure ScheduledEventFired where
  workOrderId : WorkOrderId
  handler : HandlerName
  deriving DecidableEq

def ScheduledEvent.message (event : ScheduledEvent) : ScheduledEventFired where
  workOrderId := event.workOrderId
  handler := event.handler

structure SchedulerConfig where
  minScheduleIntervalMs : ℕ
  deriving DecidableEq

inductive SchedulerError
  | intervalTooFast (requestedMs minimumMs : ℕ)
  | startTimeInPast (startTime : ℤ)
  | endTimeBeforeStart (startTime endTime : ℤ)
  | zeroMaxOccurrences
  deriving DecidableEq

/-! ## Validation -/

def checkInterval (config : SchedulerConfig) (rateMode : RateMode) :
    Except SchedulerError Unit :=
  if rateMode.periodMs < config.minScheduleIntervalMs then
    .error (.intervalTooFast rateMode.periodMs config.minScheduleIntervalMs)
  else .ok ()

def checkStart (utcNow : ℤ) (rateMode : RateMode) :
    Except SchedulerError Unit :=
  match rateMode.startAt with
  | some startAt =>
      if startAt < utcNow then .error (.startTimeInPast startAt) else .ok ()
  | none => .ok ()

def checkEnd (rateMode : RateMode) : Except SchedulerError Unit :=
  match rateMode.startAt, rateMode.endAt with
  | some startAt, some endAt =>
      if endAt ≤ startAt then .error (.endTimeBeforeStart startAt endAt)
      else .ok ()
  | _, _ => .ok ()

def checkOccurrences (rateMode : RateMode) : Except SchedulerError Unit :=
  if rateMode.maxOccurrences = some 0 then .error .zeroMaxOccurrences
  else .ok ()

/-- Validates a schedule against the daemon's configuration. -/
def validateSchedule (config : SchedulerConfig) (utcNow : ℤ) :
    Schedule → Except SchedulerError Unit
  | .rate rateMode => do
      checkInterval config rateMode
      checkStart utcNow rateMode
      checkEnd rateMode
      checkOccurrences rateMode

/-! ## The service -/

structure SchedulerService where
  config : SchedulerConfig
  scheduledEvents : List ScheduledEvent
  workOrderEvents : WorkOrderId → Option (List ℕ)

def SchedulerService.new (config : SchedulerConfig) : SchedulerService where
  config := config
  scheduledEvents := []
  workOrderEvents := fun _ => none

def calculateRateModeNextFireTime (rateMode : RateMode)
    (referenceTime : ℕ) (nowUtc : ℤ) : ℕ :=
  match rateMode.startAt with
  | some startAt =>
      if nowUtc < startAt then
        referenceTime + (startAt - nowUtc).toNat + millis rateMode.phaseMs
      else referenceTime + millis rateMode.periodMs
  | none => referenceTime + millis rateMode.periodMs

def calculateNextFireTime (schedule : Schedule) (referenceTime : ℕ)
    (nowUtc : ℤ) : ℕ :=
  match schedule with
  | .rate rateMode =>
      calculateRateModeNextFireTime rateMode referenceTime nowUtc

/-- How long the loop waits for a command, in nanoseconds, before it looks for
events to fire; `next` is the time of the event that is due first. -/
def waitDuration (next : Option ℕ) (now : ℕ) : ℕ :=
  match next with
  | some nextFireTime =>
      if nextFireTime ≤ now then 0 else nextFireTime - now
  | none => millis 1000

/-- The clocks as one command reads them: `Utc::now()` of the validation, then
`Instant::now()` and `Utc::now()` of the addition. -/
structure CommandClock where
  validated : ℤ
  now : ℕ
  nowUtc : ℤ
  deriving DecidableEq

/-- The clocks as one pass reads them: `Instant::now()` once, and `Utc::now()`
for the end and for the next time of each event. -/
structure PassClock where
  now : ℕ
  endUtc : ℕ → ℤ
  nowUtc : ℕ → ℤ

namespace SchedulerService

/-- The time under `peek`. -/
def nextFireTime (self : SchedulerService) : Option ℕ :=
  (self.scheduledEvents.map ScheduledEvent.nextFireTime).min?

def addScheduledEvent (self : SchedulerService) (addition : ℕ)
    (clock : CommandClock) (workOrderId : WorkOrderId) (handler : HandlerName)
    (schedule : Schedule) : SchedulerService :=
  let event : ScheduledEvent :=
    { workOrderId := workOrderId
      handler := handler
      nextFireTime := calculateNextFireTime schedule clock.now clock.nowUtc
      schedule := schedule
      occurrenceCount := 0
      addition := addition }
  let scheduledEvents := self.scheduledEvents ++ [event]
  { self with
    scheduledEvents := scheduledEvents
    workOrderEvents := update self.workOrderEvents workOrderId
      (some ((self.workOrderEvents workOrderId).getD [] ++
        [scheduledEvents.length - 1])) }

def removeWorkOrder (self : SchedulerService) (workOrderId : WorkOrderId) :
    SchedulerService :=
  { self with
    workOrderEvents := update self.workOrderEvents workOrderId none
    scheduledEvents :=
      self.scheduledEvents.filter fun event => event.workOrderId ≠ workOrderId }

def shouldReschedule (event : ScheduledEvent) (nowUtc : ℤ) : Bool :=
  match event.schedule with
  | .rate rateMode =>
      !(rateMode.maxOccurrences.any fun max => max ≤ event.occurrenceCount) &&
        !(rateMode.endAt.any fun endAt => endAt ≤ nowUtc)

/-- What is left of a popped event: it is counted, and scheduled again unless it
ended. -/
def rescheduled (clock : PassClock) (index : ℕ) (event : ScheduledEvent) :
    Option ScheduledEvent :=
  let event := { event with occurrenceCount := event.occurrenceCount + 1 }
  if shouldReschedule event (clock.endUtc index) then
    some { event with
      nextFireTime := calculateNextFireTime event.schedule clock.now
        (clock.nowUtc index) }
  else none

/-- The events to fire and those to schedule again, of the popped ones.  An event
of a work order that is not in the map is dropped. -/
def processReady (self : SchedulerService) (clock : PassClock) :
    ℕ → List ScheduledEvent → List ScheduledEvent × List ScheduledEvent
  | _, [] => ([], [])
  | index, event :: ready =>
      let (fired, again) := processReady self clock (index + 1) ready
      if (self.workOrderEvents event.workOrderId).isSome then
        (event :: fired, (rescheduled clock index event).toList ++ again)
      else (fired, again)

/-- Fires what is due; `ties` decides the order of events of one time. -/
def fireReadyEvents (self : SchedulerService) (clock : PassClock)
    (ties : ℕ → ℕ) : SchedulerService × List ScheduledEvent :=
  let (ready, rest) := popUntil ScheduledEvent.nextFireTime clock.now ties
    self.scheduledEvents.length 0 self.scheduledEvents
  let (fired, again) := self.processReady clock 0 ready
  ({ self with scheduledEvents := rest ++ again }, fired)

end SchedulerService

/-! ## The loop -/

/-- An accepted addition. -/
structure Addition where
  clock : CommandClock
  workOrderId : WorkOrderId
  handler : HandlerName
  schedule : Schedule
  deriving DecidableEq

structure Firing where
  time : ℕ
  event : ScheduledEvent
  deriving DecidableEq

/-- The loop of `SchedulerService::run`, with the additions that were accepted
and the events that were fired so far. -/
structure Loop where
  service : SchedulerService
  running : Bool
  additions : List Addition
  firings : List Firing

def Loop.new (config : SchedulerConfig) : Loop where
  service := .new config
  running := true
  additions := []
  firings := []

/-- What one round of the loop waits for. -/
inductive LoopEvent
  | command (clock : CommandClock) (command : SchedulerCommand)
  | closed
  | timeout (clock : PassClock) (ties : ℕ → ℕ)

namespace Loop

def handleCommand (self : Loop) (clock : CommandClock) :
    SchedulerCommand → Loop × Except SchedulerError Unit
  | .addScheduledEvent workOrderId handler schedule =>
      match validateSchedule self.service.config clock.validated schedule with
      | .error e => (self, .error e)
      | .ok () =>
          ({ self with
              service := self.service.addScheduledEvent self.additions.length
                clock workOrderId handler schedule
              additions := self.additions ++
                [{ clock, workOrderId, handler, schedule }] },
            .ok ())
  | .removeWorkOrder workOrderId =>
      ({ self with service := self.service.removeWorkOrder workOrderId },
        .ok ())
  | .stop => (self, .ok ())

def pass (self : Loop) (clock : PassClock) (ties : ℕ → ℕ) : Loop :=
  let (service, fired) := self.service.fireReadyEvents clock ties
  { self with
    service := service
    firings := self.firings ++ fired.map fun event => ⟨clock.now, event⟩ }

/-- One round of the loop; after the end of the channel there are none. -/
def step (self : Loop) (event : LoopEvent) : Loop :=
  if self.running then
    match event with
    | .command clock command => (self.handleCommand clock command).1
    | .closed => { self with running := false }
    | .timeout clock ties => self.pass clock ties
  else self

abbrev run (self : Loop) (events : List LoopEvent) : Loop :=
  Runs.run step self events

end Loop

/-! ## What a step does -/

theorem validateSchedule_eq_ok_iff {config : SchedulerConfig}
    {utcNow : ℤ} {schedule : Schedule} :
    validateSchedule config utcNow schedule = .ok () ↔
      config.minScheduleIntervalMs ≤ schedule.rateMode.periodMs ∧
      (∀ startAt, schedule.rateMode.startAt = some startAt →
        utcNow ≤ startAt) ∧
      (∀ startAt endAt, schedule.rateMode.startAt = some startAt →
        schedule.rateMode.endAt = some endAt → startAt < endAt) ∧
      schedule.rateMode.maxOccurrences ≠ some 0 := by
  obtain ⟨rateMode⟩ := schedule
  have hinterval : checkInterval config rateMode = .ok () ↔
      config.minScheduleIntervalMs ≤ rateMode.periodMs := by
    simp [checkInterval]
  have hstart : checkStart utcNow rateMode = .ok () ↔
      ∀ startAt, rateMode.startAt = some startAt → utcNow ≤ startAt := by
    rw [checkStart]
    cases rateMode.startAt <;> simp
  have hend : checkEnd rateMode = .ok () ↔
      ∀ startAt endAt, rateMode.startAt = some startAt →
        rateMode.endAt = some endAt → startAt < endAt := by
    rw [checkEnd]
    cases rateMode.startAt <;> cases rateMode.endAt <;> simp
  have hoccurrences : checkOccurrences rateMode = .ok () ↔
      rateMode.maxOccurrences ≠ some 0 := by
    simp [checkOccurrences]
  rw [validateSchedule, check_bind_eq_ok_iff, check_bind_eq_ok_iff,
    check_bind_eq_ok_iff, hinterval, hstart, hend, hoccurrences]
  rfl

/-- Every event in the heap belongs to a work order of the map. -/
def SchedulerService.Coupled (self : SchedulerService) : Prop :=
  ∀ event ∈ self.scheduledEvents,
    (self.workOrderEvents event.workOrderId).isSome

theorem SchedulerService.rescheduled_eq_some {clock : PassClock} {index : ℕ}
    {event again : ScheduledEvent}
    (hagain : rescheduled clock index event = some again) :
    again = { event with
        occurrenceCount := event.occurrenceCount + 1
        nextFireTime := calculateNextFireTime event.schedule clock.now
          (clock.nowUtc index) } ∧
      (∀ max, event.schedule.rateMode.maxOccurrences = some max →
        event.occurrenceCount + 1 < max) ∧
      ∀ endAt, event.schedule.rateMode.endAt = some endAt →
        clock.endUtc index < endAt := by
  rw [rescheduled] at hagain
  split_ifs at hagain with hshould
  refine ⟨(Option.some.inj hagain).symm, ?_⟩
  cases hschedule : event.schedule with
  | rate rateMode =>
      simp only [shouldReschedule, hschedule, Bool.and_eq_true,
        Bool.not_eq_true'] at hshould
      rw [Schedule.rateMode]
      constructor
      · intro max hmax
        simpa [hmax] using hshould.1
      · intro endAt hend
        simpa [hend] using hshould.2

namespace SchedulerService

/-- Popped events of known work orders are all fired; what is scheduled again
comes from them, in their order. -/
theorem processReady_spec (self : SchedulerService) (clock : PassClock)
    (index : ℕ) {ready : List ScheduledEvent}
    (hknown : ∀ event ∈ ready,
      (self.workOrderEvents event.workOrderId).isSome) :
    (self.processReady clock index ready).1 = ready ∧
      ((self.processReady clock index ready).2.map
        ScheduledEvent.addition).Sublist
          (ready.map ScheduledEvent.addition) ∧
      ∀ again ∈ (self.processReady clock index ready).2,
        ∃ event ∈ ready, ∃ position,
          rescheduled clock position event = some again := by
  induction ready generalizing index with
  | nil => simp [processReady]
  | cons event ready ih =>
      rw [List.forall_mem_cons] at hknown
      obtain ⟨hfired, hsublist, hsource⟩ := ih (index + 1) hknown.2
      rw [processReady]
      generalize self.processReady clock (index + 1) ready = processed
        at hfired hsublist hsource ⊢
      obtain ⟨fired, later⟩ := processed
      simp only [hknown.1, if_true] at hfired hsublist hsource ⊢
      subst hfired
      refine ⟨rfl, ?_, ?_⟩
      · rw [List.map_append, List.map_cons, ← List.singleton_append]
        refine List.Sublist.append ?_ hsublist
        cases hagain : rescheduled clock index event with
        | none => simp
        | some again =>
            have heq := (rescheduled_eq_some hagain).1
            simp [heq]
      · intro again hmem
        rcases List.mem_append.mp hmem with hmem | hmem
        · exact ⟨event, List.mem_cons_self, index,
            Option.mem_toList.mp hmem⟩
        · obtain ⟨other, hother, hposition⟩ := hsource again hmem
          exact ⟨other, List.mem_cons_of_mem event hother, hposition⟩

/-- A pass fires what is due at its start, in the order of the times, and leaves
the rest of the heap next to what it scheduled again. -/
structure Passed (before : SchedulerService) (clock : PassClock)
    (after : SchedulerService) (fired : List ScheduledEvent) : Prop where
  config : after.config = before.config
  workOrderEvents : after.workOrderEvents = before.workOrderEvents
  due : fired.Perm
    (before.scheduledEvents.filter fun event => event.nextFireTime ≤ clock.now)
  sorted : fired.Pairwise fun left right =>
    left.nextFireTime ≤ right.nextFireTime
  heap : ∃ again, after.scheduledEvents.Perm
      ((before.scheduledEvents.filter fun event =>
        clock.now < event.nextFireTime) ++ again) ∧
    (again.map ScheduledEvent.addition).Sublist
      (fired.map ScheduledEvent.addition) ∧
    ∀ event ∈ again, ∃ popped ∈ fired, ∃ position,
      rescheduled clock position popped = some event

theorem fireReadyEvents_passed {self : SchedulerService}
    (hcoupled : self.Coupled) (clock : PassClock) (ties : ℕ → ℕ) :
    Passed self clock (self.fireReadyEvents clock ties).1
      (self.fireReadyEvents clock ties).2 := by
  obtain ⟨hready, hrest, hsorted⟩ :=
    popUntil_spec ScheduledEvent.nextFireTime clock.now ties 0
      (le_refl self.scheduledEvents.length)
  rw [fireReadyEvents]
  generalize popUntil ScheduledEvent.nextFireTime clock.now ties
    self.scheduledEvents.length 0 self.scheduledEvents = popped
    at hready hrest hsorted ⊢
  obtain ⟨ready, rest⟩ := popped
  simp only at hready hrest hsorted ⊢
  have hknown : ∀ event ∈ ready,
      (self.workOrderEvents event.workOrderId).isSome := fun event hmem =>
    hcoupled event (List.mem_of_mem_filter (hready.mem_iff.mp hmem))
  obtain ⟨hfired, hsublist, hsource⟩ :=
    self.processReady_spec clock 0 hknown
  generalize self.processReady clock 0 ready = processed
    at hfired hsublist hsource ⊢
  obtain ⟨fired, again⟩ := processed
  simp only at hfired hsublist hsource ⊢
  subst hfired
  exact {
    config := rfl
    workOrderEvents := rfl
    due := hready
    sorted := hsorted
    heap := ⟨again, hrest.append_right again, hsublist, hsource⟩ }

/-- An event of the heap after a pass was in the heap before it, or comes from
one that was. -/
theorem Passed.mem_heap {self after : SchedulerService} {clock : PassClock}
    {fired : List ScheduledEvent} (hpassed : Passed self clock after fired)
    {event : ScheduledEvent} (hmem : event ∈ after.scheduledEvents) :
    event ∈ self.scheduledEvents ∧ clock.now < event.nextFireTime ∨
      ∃ before ∈ self.scheduledEvents, before.nextFireTime ≤ clock.now ∧
        before ∈ fired ∧
        ∃ position, rescheduled clock position before = some event := by
  obtain ⟨again, hheap, -, hsource⟩ := hpassed.heap
  rcases List.mem_append.mp (hheap.mem_iff.mp hmem) with hmem | hmem
  · obtain ⟨hbefore, hlater⟩ := List.mem_filter.mp hmem
    exact Or.inl ⟨hbefore, by simpa using hlater⟩
  · obtain ⟨before, hfired, hposition⟩ := hsource event hmem
    obtain ⟨hbefore, hdue⟩ :=
      List.mem_filter.mp (hpassed.due.mem_iff.mp hfired)
    exact Or.inr ⟨before, hbefore, by simpa using hdue, hfired, hposition⟩

theorem Passed.coupled {self after : SchedulerService} {clock : PassClock}
    {fired : List ScheduledEvent} (hpassed : Passed self clock after fired)
    (hcoupled : self.Coupled) : after.Coupled := by
  intro event hmem
  rw [hpassed.workOrderEvents]
  rcases hpassed.mem_heap hmem with ⟨hbefore, -⟩ |
    ⟨before, hbefore, -, -, position, hposition⟩
  · exact hcoupled event hbefore
  · rw [(rescheduled_eq_some hposition).1]
    exact hcoupled before hbefore

theorem coupled_addScheduledEvent {self : SchedulerService}
    (hcoupled : self.Coupled) (addition : ℕ) (clock : CommandClock)
    (workOrderId : WorkOrderId) (handler : HandlerName) (schedule : Schedule) :
    (self.addScheduledEvent addition clock workOrderId handler
      schedule).Coupled := by
  intro event hmem
  simp only [addScheduledEvent] at hmem ⊢
  by_cases hid : event.workOrderId = workOrderId
  · simp [hid]
  · rw [update_of_ne hid]
    rcases List.mem_append.mp hmem with hmem | hmem
    · exact hcoupled event hmem
    · rw [List.mem_singleton.mp hmem] at hid
      exact absurd rfl hid

theorem coupled_removeWorkOrder {self : SchedulerService}
    (hcoupled : self.Coupled) (workOrderId : WorkOrderId) :
    (self.removeWorkOrder workOrderId).Coupled := by
  intro event hmem
  obtain ⟨hbefore, hother⟩ := List.mem_filter.mp hmem
  simp only [removeWorkOrder, update_of_ne (of_decide_eq_true hother)]
  exact hcoupled event hbefore

end SchedulerService

namespace Loop

/-- What one round does to the service and to the history. -/
inductive Change (self : Loop) : LoopEvent → Loop → Prop
  | quiet {event : LoopEvent} {after : Loop}
      (hservice : after.service = self.service)
      (hadditions : after.additions = self.additions)
      (hfirings : after.firings = self.firings) : Change self event after
  | added (clock : CommandClock) (workOrderId : WorkOrderId)
      (handler : HandlerName) (schedule : Schedule)
      (hvalid : validateSchedule self.service.config clock.validated schedule =
        .ok ()) :
      Change self
        (.command clock (.addScheduledEvent workOrderId handler schedule))
        { self with
          service := self.service.addScheduledEvent self.additions.length
            clock workOrderId handler schedule
          additions := self.additions ++
            [{ clock, workOrderId, handler, schedule }] }
  | removed (clock : CommandClock) (workOrderId : WorkOrderId) :
      Change self (.command clock (.removeWorkOrder workOrderId))
        { self with service := self.service.removeWorkOrder workOrderId }
  | passed (clock : PassClock) (ties : ℕ → ℕ) :
      Change self (.timeout clock ties) (self.pass clock ties)

theorem step_change (self : Loop) (event : LoopEvent) :
    Change self event (self.step event) := by
  unfold step
  split_ifs with hrunning
  · cases event with
    | command clock command =>
        cases command with
        | addScheduledEvent workOrderId handler schedule =>
            simp only [handleCommand]
            cases hvalid : validateSchedule self.service.config clock.validated
              schedule with
            | error e => exact .quiet rfl rfl rfl
            | ok _ => exact .added clock workOrderId handler schedule hvalid
        | removeWorkOrder workOrderId => exact .removed clock workOrderId
        | stop => exact .quiet rfl rfl rfl
    | closed => exact .quiet rfl rfl rfl
    | timeout clock ties => exact .passed clock ties
  · exact .quiet rfl rfl rfl

theorem Change.coupled {self after : Loop} {event : LoopEvent}
    (hchange : Change self event after) (hcoupled : self.service.Coupled) :
    after.service.Coupled := by
  cases hchange with
  | quiet hservice => exact hservice ▸ hcoupled
  | added clock workOrderId handler schedule =>
      exact SchedulerService.coupled_addScheduledEvent hcoupled _ clock
        workOrderId handler schedule
  | removed clock workOrderId =>
      exact SchedulerService.coupled_removeWorkOrder hcoupled workOrderId
  | passed clock ties =>
      exact (SchedulerService.fireReadyEvents_passed hcoupled clock
        ties).coupled hcoupled

theorem run_coupled (config : SchedulerConfig) (events : List LoopEvent) :
    ((new config).run events).service.Coupled := by
  refine run_always (fun self : Loop => self.service.Coupled) events ?_ ?_
  · intro event hmem
    cases hmem
  · intro self event hcoupled
    exact (step_change self event).coupled hcoupled

/-- What a pass does to the loop. -/
theorem pass_passed {self : Loop} (hcoupled : self.service.Coupled)
    (clock : PassClock) (ties : ℕ → ℕ) :
    ∃ fired,
      self.service.Passed clock (self.pass clock ties).service fired ∧
      (self.pass clock ties).firings =
        self.firings ++ fired.map fun event => ⟨clock.now, event⟩ :=
  ⟨_, SchedulerService.fireReadyEvents_passed hcoupled clock ties, rfl⟩

end Loop

end NxccBridge.Scheduler
