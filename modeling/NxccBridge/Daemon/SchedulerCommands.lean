import NxccBridge.Daemon.SchedulerHistory

/-!
# Removing a work order and stopping the scheduler

A removal takes every event of the work order out of the heap and leaves the
others as they are.  `Stop` is answered without effect: the loop goes on.
-/

namespace NxccBridge.Scheduler

open Function
open NxccBridge.Interface
open NxccBridge.Runs

/-! ## Removal -/

/-- The event comes from an addition of its work order. -/
def Identified (additions : List Addition) (event : ScheduledEvent) : Prop :=
  ∃ addition, additions[event.addition]? = some addition ∧
    addition.workOrderId = event.workOrderId

/-- The event comes from an addition that is not among the first `count`. -/
def AddedSince (count : ℕ) (workOrderId : WorkOrderId)
    (additions : List Addition) (event : ScheduledEvent) : Prop :=
  event.workOrderId = workOrderId →
    count ≤ event.addition ∧ Identified additions event

theorem Identified.append {additions : List Addition} {event : ScheduledEvent}
    (hidentified : Identified additions event) (last : Addition) :
    Identified (additions ++ [last]) event := by
  obtain ⟨addition, haddition, hid⟩ := hidentified
  have hlt := (List.getElem?_eq_some_iff.mp haddition).1
  exact ⟨addition, by rwa [List.getElem?_append_left hlt], hid⟩

theorem AddedSince.append {count : ℕ} {workOrderId : WorkOrderId}
    {additions : List Addition} {event : ScheduledEvent}
    (hsince : AddedSince count workOrderId additions event)
    (last : Addition) :
    AddedSince count workOrderId (additions ++ [last]) event :=
  fun hid => ⟨(hsince hid).1, (hsince hid).2.append last⟩

/-- After a removal, everything about the work order is new. -/
structure OnlyNew (count : ℕ) (workOrderId : WorkOrderId)
    (firings : List Firing) (loop : Loop) : Prop where
  coupled : loop.service.Coupled
  count_le : count ≤ loop.additions.length
  heap : ∀ event ∈ loop.service.scheduledEvents,
    AddedSince count workOrderId loop.additions event
  fired : ∃ later, loop.firings = firings ++ later ∧
    ∀ firing ∈ later,
      AddedSince count workOrderId loop.additions firing.event

theorem OnlyNew.change {count : ℕ} {workOrderId : WorkOrderId}
    {firings : List Firing} {self after : Loop} {event : LoopEvent}
    (honly : OnlyNew count workOrderId firings self)
    (hchange : self.Change event after) :
    OnlyNew count workOrderId firings after := by
  have hcoupled := hchange.coupled honly.coupled
  obtain ⟨later, hlater, hsince⟩ := honly.fired
  cases hchange with
  | quiet hservice hadditions hfirings =>
      refine ⟨hcoupled, hadditions ▸ honly.count_le, ?_, later, ?_, ?_⟩
      · rw [hservice, hadditions]
        exact honly.heap
      · rw [hfirings, hlater]
      · rw [hadditions]
        exact hsince
  | added clock id handler schedule =>
      refine ⟨hcoupled, ?_, ?_, later, hlater,
        fun firing hmem => (hsince firing hmem).append _⟩
      · rw [List.length_append]
        exact honly.count_le.trans (Nat.le_add_right _ _)
      · intro other hmem
        rcases List.mem_append.mp hmem with hmem | hmem
        · exact (honly.heap other hmem).append _
        · rw [List.mem_singleton.mp hmem]
          exact fun _ => ⟨honly.count_le, _, List.getElem?_concat_length, rfl⟩
  | removed clock id =>
      exact ⟨hcoupled, honly.count_le, fun other hmem =>
        honly.heap other (List.mem_of_mem_filter hmem), later, hlater, hsince⟩
  | passed clock ties =>
      obtain ⟨fired, hpassed, hfirings⟩ :=
        Loop.pass_passed honly.coupled clock ties
      refine ⟨hcoupled, honly.count_le, ?_, ?_⟩
      · intro other hmem
        rcases hpassed.mem_heap hmem with ⟨hheap, -⟩ |
          ⟨before, hheap, -, -, position, hagain⟩
        · exact honly.heap other hheap
        · have hbefore := honly.heap before hheap
          rw [(SchedulerService.rescheduled_eq_some hagain).1]
          exact hbefore
      · refine ⟨later ++ fired.map fun event => ⟨clock.now, event⟩, ?_, ?_⟩
        · rw [hfirings, hlater, List.append_assoc]
        · intro firing hmem
          rcases List.mem_append.mp hmem with hmem | hmem
          · exact hsince firing hmem
          · obtain ⟨other, hother, rfl⟩ := List.mem_map.mp hmem
            exact honly.heap other
              (List.mem_of_mem_filter (hpassed.due.mem_iff.mp hother))

/-- What a removal means: what is fired for the work order later was added
later, and the events of other work orders stay as often as they were. -/
structure RemovedWhole (before removed after : Loop)
    (workOrderId : WorkOrderId) : Prop where
  complete : ∃ later, after.firings = before.firings ++ later ∧
    ∀ firing ∈ later, AddedSince before.additions.length workOrderId
      after.additions firing.event
  gone : ∀ event ∈ removed.service.scheduledEvents,
    event.workOrderId ≠ workOrderId
  kept : ∀ event : ScheduledEvent, event.workOrderId ≠ workOrderId →
    removed.service.scheduledEvents.count event =
      before.service.scheduledEvents.count event

def LoopEvent.isClosed : LoopEvent → Bool
  | closed => true
  | _ => false

theorem step_command {self : Loop} (hrunning : self.running = true)
    (clock : CommandClock) (command : SchedulerCommand) :
    self.step (.command clock command) =
      (self.handleCommand clock command).1 := by
  unfold Loop.step
  exact if_pos hrunning

theorem step_timeout {self : Loop} (hrunning : self.running = true)
    (clock : PassClock) (ties : ℕ → ℕ) :
    self.step (.timeout clock ties) = self.pass clock ties := by
  unfold Loop.step
  exact if_pos hrunning

theorem step_of_not_running {self : Loop} (hstopped : self.running = false)
    (event : LoopEvent) : self.step event = self := by
  unfold Loop.step
  simp [hstopped]

theorem running_step {self : Loop} (hrunning : self.running = true)
    (event : LoopEvent) :
    (self.step event).running = !event.isClosed := by
  unfold Loop.step
  rw [if_pos hrunning]
  cases event with
  | command clock command =>
      cases command with
      | addScheduledEvent workOrderId handler schedule =>
          simp only [Loop.handleCommand]
          split <;> exact hrunning
      | removeWorkOrder workOrderId => exact hrunning
      | stop => exact hrunning
  | closed => rfl
  | timeout clock ties => exact hrunning

theorem removedWhole {self : Loop} (hrunning : self.running = true)
    (hcoupled : self.service.Coupled) (clock : CommandClock)
    (workOrderId : WorkOrderId) (after : List LoopEvent) :
    RemovedWhole self
      (self.step (.command clock (.removeWorkOrder workOrderId)))
      ((self.step (.command clock (.removeWorkOrder workOrderId))).run after)
      workOrderId := by
  have hstep := step_command hrunning clock (.removeWorkOrder workOrderId)
  have hgone : ∀ event ∈
      (self.service.removeWorkOrder workOrderId).scheduledEvents,
        event.workOrderId ≠ workOrderId := fun event hmem =>
    of_decide_eq_true (List.mem_filter.mp hmem).2
  have honly : OnlyNew self.additions.length workOrderId self.firings
      ((self.step (.command clock (.removeWorkOrder workOrderId))).run
        after) := by
    refine run_always (OnlyNew self.additions.length workOrderId self.firings)
      after ?_ fun state event honly => honly.change (state.step_change event)
    rw [hstep]
    exact {
      coupled :=
        SchedulerService.coupled_removeWorkOrder hcoupled workOrderId
      count_le := le_rfl
      heap := fun event hmem hid => absurd hid (hgone event hmem)
      fired := ⟨[], (List.append_nil _).symm, by simp⟩ }
  exact {
    complete := honly.fired
    gone := by
      rw [hstep]
      exact hgone
    kept := by
      intro event hother
      rw [hstep]
      exact List.count_filter (by simpa using hother) }

/-- In every reachable state the heap holds events of work orders of the map
only, and a removal is complete and local. -/
theorem removeWorkOrder_complete (config : SchedulerConfig)
    (before : List LoopEvent) :
    ((Loop.new config).run before).service.Coupled ∧
      (((Loop.new config).run before).running = true →
        ∀ (clock : CommandClock) (workOrderId : WorkOrderId)
          (after : List LoopEvent),
          RemovedWhole ((Loop.new config).run before)
            ((Loop.new config).run
              (before ++ [.command clock (.removeWorkOrder workOrderId)]))
            ((Loop.new config).run
              (before ++ .command clock (.removeWorkOrder workOrderId) :: after))
            workOrderId) := by
  have hcoupled := Loop.run_coupled config before
  refine ⟨hcoupled, fun hrunning clock workOrderId after => ?_⟩
  have hremoved : (Loop.new config).run
      (before ++ [.command clock (.removeWorkOrder workOrderId)]) =
      ((Loop.new config).run before).step
        (.command clock (.removeWorkOrder workOrderId)) :=
    run_concat ..
  have hafter : (Loop.new config).run
      (before ++ .command clock (.removeWorkOrder workOrderId) :: after) =
      (((Loop.new config).run before).step
        (.command clock (.removeWorkOrder workOrderId))).run after :=
    run_append ..
  rw [hremoved, hafter]
  exact removedWhole hrunning hcoupled clock workOrderId after

/-- Of two work orders the one that stays keeps its event. -/
theorem removeWorkOrder_complete_two :
    RemovedWhole
      ((Loop.new sampleConfig).run
        [.command (commandAt 0)
            (.addScheduledEvent "first" "tick" (.rate (.new 100))),
          .command (commandAt 1)
            (.addScheduledEvent "second" "tick" (.rate (.new 100)))])
      ((Loop.new sampleConfig).run
        [.command (commandAt 0)
            (.addScheduledEvent "first" "tick" (.rate (.new 100))),
          .command (commandAt 1)
            (.addScheduledEvent "second" "tick" (.rate (.new 100))),
          .command (commandAt 2) (.removeWorkOrder "first")])
      ((Loop.new sampleConfig).run
        [.command (commandAt 0)
            (.addScheduledEvent "first" "tick" (.rate (.new 100))),
          .command (commandAt 1)
            (.addScheduledEvent "second" "tick" (.rate (.new 100))),
          .command (commandAt 2) (.removeWorkOrder "first"),
          .timeout (passAt (millis 200)) fun _ => 0])
      "first" :=
  (removeWorkOrder_complete sampleConfig
    [.command (commandAt 0)
        (.addScheduledEvent "first" "tick" (.rate (.new 100))),
      .command (commandAt 1)
        (.addScheduledEvent "second" "tick" (.rate (.new 100)))]).2
    (by decide +kernel) (commandAt 2) "first"
    [.timeout (passAt (millis 200)) fun _ => 0]

/-! ## Stop -/

/-- A command leaves the scheduled events as they are. -/
def KeepsSchedule (self : Loop) : LoopEvent → Prop
  | .command clock command =>
      (self.step (.command clock command)).service.scheduledEvents.Perm
        self.service.scheduledEvents
  | _ => True

/-- Nothing more is fired, and no command changes the scheduled events. -/
def StopHonoured (stopped : Loop) (later : List LoopEvent) : Prop :=
  (stopped.run later).firings = stopped.firings ∧
    Along Loop.step KeepsSchedule stopped later

/-- The event finds nothing to do: the addition is refused, the work order has no
events, or nothing is due. -/
def Harmless (service : SchedulerService) : LoopEvent → Prop
  | .command clock (.addScheduledEvent _ _ schedule) =>
      validateSchedule service.config clock.validated schedule ≠ .ok ()
  | .command _ (.removeWorkOrder workOrderId) =>
      ∀ event ∈ service.scheduledEvents, event.workOrderId ≠ workOrderId
  | .command _ .stop => True
  | .closed => True
  | .timeout clock _ =>
      ∀ event ∈ service.scheduledEvents, clock.now < event.nextFireTime

/-- What is harmless depends on the scheduled events and the configuration. -/
theorem harmless_congr {left right : SchedulerService}
    (hconfig : left.config = right.config)
    (hheap : left.scheduledEvents.Perm right.scheduledEvents)
    (event : LoopEvent) : Harmless left event ↔ Harmless right event := by
  cases event with
  | command clock command =>
      cases command with
      | addScheduledEvent workOrderId handler schedule =>
          rw [Harmless, Harmless, hconfig]
      | removeWorkOrder workOrderId =>
          simp only [Harmless, hheap.mem_iff]
      | stop => exact Iff.rfl
  | closed => exact Iff.rfl
  | timeout clock ties => simp only [Harmless, hheap.mem_iff]

theorem command_harmless_iff {self : Loop} (hrunning : self.running = true)
    (clock : CommandClock) (command : SchedulerCommand) :
    KeepsSchedule self (.command clock command) ↔
      Harmless self.service (.command clock command) := by
  rw [KeepsSchedule, step_command hrunning]
  cases command with
  | addScheduledEvent workOrderId handler schedule =>
      rw [Loop.handleCommand, Harmless]
      cases hvalid : validateSchedule self.service.config clock.validated
        schedule with
      | error e => simp
      | ok _ =>
          simp only [ne_eq, not_true_eq_false, iff_false]
          intro hperm
          have hlength := hperm.length_eq
          simp [SchedulerService.addScheduledEvent] at hlength
  | removeWorkOrder workOrderId =>
      rw [Loop.handleCommand, Harmless, SchedulerService.removeWorkOrder]
      constructor
      · intro hperm event hmem
        simpa using
          List.length_filter_eq_length_iff.mp hperm.length_eq event hmem
      · intro hnone
        have hall : ∀ event ∈ self.service.scheduledEvents,
            decide (event.workOrderId ≠ workOrderId) = true :=
          fun event hmem => decide_eq_true (hnone event hmem)
        simp only [List.filter_eq_self.mpr hall]
        exact List.Perm.refl _
  | stop => exact iff_of_true (List.Perm.refl _) trivial

theorem fired_eq_nil_iff {self : Loop} (hrunning : self.running = true)
    (hcoupled : self.service.Coupled) (clock : PassClock) (ties : ℕ → ℕ) :
    self.fired (.timeout clock ties) = [] ↔
      Harmless self.service (.timeout clock ties) := by
  rw [List.eq_nil_iff_forall_not_mem, Harmless]
  constructor
  · intro hnone event hmem
    by_contra hdue
    exact hnone ⟨clock.now, event⟩ ((Loop.mem_fired_iff hcoupled).mpr
      ⟨clock, ties, rfl, hrunning, hmem, not_lt.mp hdue, rfl⟩)
  · intro hlater firing hfired
    obtain ⟨_, _, heq, -, hmem, hdue, -⟩ :=
      (Loop.mem_fired_iff hcoupled).mp hfired
    obtain ⟨rfl, rfl⟩ := LoopEvent.timeout.inj heq
    exact absurd (hlater firing.event hmem) (not_lt.mpr hdue)

theorem fired_and_keeps_iff {self : Loop} (hrunning : self.running = true)
    (hcoupled : self.service.Coupled) (event : LoopEvent) :
    self.fired event = [] ∧ KeepsSchedule self event ↔
      Harmless self.service event := by
  cases event with
  | command clock command =>
      rw [← command_harmless_iff hrunning, Loop.fired]
      · simp
      · simp
  | closed => simp [Loop.fired, KeepsSchedule, Harmless]
  | timeout clock ties =>
      rw [fired_eq_nil_iff hrunning hcoupled, KeepsSchedule, and_iff_left]
      · trivial
      · simp

/-- A pass that fires nothing leaves the scheduled events as they are. -/
theorem Passed.heap_perm {before after : SchedulerService} {clock : PassClock}
    (hpassed : before.Passed clock after [])
    (hlater : ∀ event ∈ before.scheduledEvents,
      clock.now < event.nextFireTime) :
    after.scheduledEvents.Perm before.scheduledEvents := by
  obtain ⟨again, hheap, hsublist, -⟩ := hpassed.heap
  have hnil : again = [] := List.map_eq_nil_iff.mp (List.sublist_nil.mp hsublist)
  rwa [hnil, List.append_nil, List.filter_eq_self.mpr fun event hmem =>
    decide_eq_true (hlater event hmem)] at hheap

theorem Loop.Change.config {self after : Loop} {event : LoopEvent}
    (hchange : self.Change event after) (hcoupled : self.service.Coupled) :
    after.service.config = self.service.config := by
  cases hchange with
  | quiet hservice => rw [hservice]
  | added clock workOrderId handler schedule => rfl
  | removed clock workOrderId => rfl
  | passed clock ties =>
      exact (SchedulerService.fireReadyEvents_passed hcoupled clock ties).config

theorem Harmless.heap_perm {self : Loop} {event : LoopEvent}
    (hharmless : Harmless self.service event) (hrunning : self.running = true)
    (hcoupled : self.service.Coupled) (hopen : event.isClosed = false) :
    (self.step event).service.scheduledEvents.Perm
      self.service.scheduledEvents := by
  have hsame := (fired_and_keeps_iff hrunning hcoupled event).mpr hharmless
  cases event with
  | command clock command => exact hsame.2
  | closed => cases hopen
  | timeout clock ties =>
      obtain ⟨fired, hpassed, hfirings⟩ := Loop.pass_passed hcoupled clock ties
      have hnone : fired = [] := by
        have hgrown := self.step_firings (.timeout clock ties)
        rw [hsame.1, List.append_nil, step_timeout hrunning, hfirings] at hgrown
        simpa using hgrown
      rw [step_timeout hrunning]
      exact Passed.heap_perm (hnone ▸ hpassed) hharmless

theorem run_firings_prefix (self : Loop) (events : List LoopEvent) :
    self.firings <+: (self.run events).firings :=
  run_always (fun after : Loop => self.firings <+: after.firings) events
    (List.prefix_refl _) fun state event hprefix => by
      rw [state.step_firings]
      exact hprefix.trans (List.prefix_append _ _)

/-- Stop is honoured step by step. -/
theorem stopHonoured_cons (self : Loop) (first : LoopEvent)
    (rest : List LoopEvent) :
    StopHonoured self (first :: rest) ↔
      (self.fired first = [] ∧ KeepsSchedule self first) ∧
        StopHonoured (self.step first) rest := by
  have hfirst := self.step_firings first
  rw [StopHonoured, StopHonoured, Loop.run, run_cons, Along]
  constructor
  · rintro ⟨hfirings, hkeeps, halong⟩
    have hprefix := run_firings_prefix (self.step first) rest
    have hnone : self.fired first = [] := by
      have hle := hprefix.length_le
      rw [Loop.run, hfirings, hfirst, List.length_append] at hle
      exact List.length_eq_zero_iff.mp (by omega)
    rw [hnone, List.append_nil] at hfirst
    exact ⟨⟨hnone, hkeeps⟩, hfirings.trans hfirst.symm, halong⟩
  · rintro ⟨⟨hnone, hkeeps⟩, hfirings, halong⟩
    rw [hnone, List.append_nil] at hfirst
    exact ⟨hfirings.trans hfirst, hkeeps, halong⟩

theorem stopHonoured_of_not_running {self : Loop}
    (hstopped : self.running = false) (later : List LoopEvent) :
    StopHonoured self later := by
  induction later with
  | nil => exact ⟨rfl, trivial⟩
  | cons first rest ih =>
      have hstep := step_of_not_running hstopped first
      rw [stopHonoured_cons, hstep]
      refine ⟨⟨?_, ?_⟩, ih⟩
      · have hgrown := self.step_firings first
        rw [hstep] at hgrown
        exact List.self_eq_append_right.mp hgrown
      · cases first with
        | command clock command =>
            rw [KeepsSchedule, hstep]
        | closed => trivial
        | timeout clock ties => trivial

/-- Until the channel is closed, each event has to be harmless. -/
theorem stopHonoured_iff {self : Loop} (hrunning : self.running = true)
    (hcoupled : self.service.Coupled) (later : List LoopEvent) :
    StopHonoured self later ↔
      ∀ event ∈ later.takeWhile (fun event => !event.isClosed),
        Harmless self.service event := by
  induction later generalizing self with
  | nil => exact iff_of_true ⟨rfl, trivial⟩ (by simp)
  | cons first rest ih =>
      rw [stopHonoured_cons, fired_and_keeps_iff hrunning hcoupled]
      cases hclosed : first.isClosed with
      | true =>
          rw [List.takeWhile_cons_of_neg (by simp [hclosed])]
          cases first with
          | command clock command => cases hclosed
          | timeout clock ties => cases hclosed
          | closed =>
              refine iff_of_true ⟨trivial, ?_⟩ (by simp)
              exact stopHonoured_of_not_running (running_step hrunning _) rest
      | false =>
          rw [List.takeWhile_cons_of_pos (by simp [hclosed]),
            List.forall_mem_cons]
          refine and_congr_right fun hharmless => ?_
          have hgoes : (self.step first).running = true := by
            rw [running_step hrunning, hclosed]
            rfl
          rw [ih hgoes ((self.step_change first).coupled hcoupled)]
          exact forall₂_congr fun event _ =>
            harmless_congr ((self.step_change first).config hcoupled)
              (hharmless.heap_perm hrunning hcoupled hclosed) event

/-- `Stop` is honoured exactly when nothing is left to do: the loop goes on until
the channel is closed. -/
theorem stop_honoured_iff (config : SchedulerConfig)
    (before later : List LoopEvent) (clock : CommandClock)
    (hrunning : ((Loop.new config).run before).running = true) :
    StopHonoured ((Loop.new config).run (before ++ [.command clock .stop]))
        later ↔
      ∀ event ∈ later.takeWhile (fun event => !event.isClosed),
        Harmless ((Loop.new config).run
          (before ++ [.command clock .stop])).service event := by
  have hstopped : (Loop.new config).run (before ++ [.command clock .stop]) =
      (Loop.new config).run before := by
    rw [Loop.run, run_concat]
    exact step_command hrunning clock .stop
  rw [hstopped]
  exact stopHonoured_iff hrunning (Loop.run_coupled config before) later

/-- The channel is closed before the event is due. -/
theorem stop_honoured_iff_closed :
    StopHonoured
      ((Loop.new sampleConfig).run
        [.command (commandAt 0)
            (.addScheduledEvent "order" "tick" (.rate (.new 100))),
          .command (commandAt 1) .stop])
      [.timeout (passAt (millis 50)) (fun _ => 0), .closed,
        .timeout (passAt (millis 100)) fun _ => 0] := by
  refine (stop_honoured_iff sampleConfig
    [.command (commandAt 0)
      (.addScheduledEvent "order" "tick" (.rate (.new 100)))]
    _ (commandAt 1) (by decide +kernel)).mpr ?_
  intro event hmem
  rw [List.mem_singleton.mp hmem, Harmless]
  decide +kernel

/-- An event is fired and an addition is accepted after `Stop`. -/
theorem stop_not_honoured :
    ¬StopHonoured
        ((Loop.new sampleConfig).run
          [.command (commandAt 0)
              (.addScheduledEvent "order" "tick" (.rate (.new 100))),
            .command (commandAt 1) .stop])
        [.timeout (passAt (millis 101)) fun _ => 0] ∧
      ¬StopHonoured
        ((Loop.new sampleConfig).run [.command (commandAt 1) .stop])
        [.command (commandAt 2)
          (.addScheduledEvent "order" "tick" (.rate (.new 100)))] := by
  constructor
  · rintro ⟨hfirings, -⟩
    exact absurd (congrArg List.length hfirings) (by decide +kernel)
  · rintro ⟨-, hkeeps, -⟩
    exact absurd hkeeps.length_eq (by decide +kernel)

end NxccBridge.Scheduler
