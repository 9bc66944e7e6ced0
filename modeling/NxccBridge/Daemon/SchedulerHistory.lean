import NxccBridge.Daemon.Scheduler

/-!
# What the scheduler fires

The heap tells of each accepted addition how often it fired and when it may fire
next.
-/

namespace NxccBridge.Scheduler

open Function
open NxccBridge.Interface
open NxccBridge.Runs

/-- The clocks agree: UTC runs `offset` ahead of the monotonic clock.  Each step
reads the monotonic clock first.  The delay until a command reads UTC counts as
none; until a pass reads UTC for an event it may be of any length,
`clock.nowUtc index - (offset + clock.now)`. -/
def LoopEvent.Agrees (offset : ℤ) : LoopEvent → Prop
  | command clock _ => clock.nowUtc = offset + clock.now
  | closed => True
  | timeout clock _ => ∀ index, offset + clock.now ≤ clock.nowUtc index

/-- The earliest time for the first firing: the start with its phase, if the
start was ahead when the schedule was added, else one period later. -/
def Addition.firstDue (addition : Addition) : ℤ :=
  match addition.schedule.rateMode.startAt with
  | some startAt =>
      if addition.clock.nowUtc < startAt then
        startAt + millis addition.schedule.rateMode.phaseMs
      else addition.clock.nowUtc + millis addition.schedule.rateMode.periodMs
  | none => addition.clock.nowUtc + millis addition.schedule.rateMode.periodMs

def Addition.period (addition : Addition) : ℕ :=
  millis addition.schedule.rateMode.periodMs

/-- The firings of one addition. -/
def firingsOf (firings : List Firing) (addition : ℕ) : List Firing :=
  firings.filter fun firing => firing.event.addition = addition

/-- What the firings of an accepted addition keep to. -/
structure Disciplined (offset : ℤ) (addition : Addition)
    (firings : List Firing) : Prop where
  identified : ∀ firing ∈ firings,
    firing.event.workOrderId = addition.workOrderId ∧
      firing.event.handler = addition.handler
  bounded : ∀ max, addition.schedule.rateMode.maxOccurrences = some max →
    firings.length ≤ max
  notEarly : ∀ firing ∈ firings, addition.firstDue ≤ offset + firing.time
  spaced : firings.Pairwise fun earlier later =>
    earlier.time + addition.period ≤ later.time

/-- What the heap tells of an addition. -/
structure Tracks (offset : ℤ) (addition : Addition) (firings : List Firing)
    (event : ScheduledEvent) : Prop where
  workOrderId : event.workOrderId = addition.workOrderId
  handler : event.handler = addition.handler
  schedule : event.schedule = addition.schedule
  counted : event.occurrenceCount = firings.length
  below : ∀ max, addition.schedule.rateMode.maxOccurrences = some max →
    event.occurrenceCount < max
  due : addition.firstDue ≤ offset + event.nextFireTime
  started : ∀ startAt, addition.schedule.rateMode.startAt = some startAt →
    startAt ≤ offset + event.nextFireTime
  spaced : ∀ firing ∈ firings,
    firing.time + addition.period ≤ event.nextFireTime

structure History (offset : ℤ) (loop : Loop) : Prop where
  distinct : (loop.service.scheduledEvents.map ScheduledEvent.addition).Nodup
  tracked : ∀ event ∈ loop.service.scheduledEvents, ∃ addition,
    loop.additions[event.addition]? = some addition ∧
      Tracks offset addition (firingsOf loop.firings event.addition) event
  disciplined : ∀ (number : ℕ) (addition : Addition),
    loop.additions[number]? = some addition →
      Disciplined offset addition (firingsOf loop.firings number)
  known : ∀ firing ∈ loop.firings,
    firing.event.addition < loop.additions.length

/-! ## One addition -/

theorem firingsOf_append (before after : List Firing) (number : ℕ) :
    firingsOf (before ++ after) number =
      firingsOf before number ++ firingsOf after number :=
  List.filter_append ..

theorem firingsOf_eq_nil {firings : List Firing} {number : ℕ}
    (hknown : ∀ firing ∈ firings, firing.event.addition < number) :
    firingsOf firings number = [] := by
  rw [firingsOf, List.filter_eq_nil_iff]
  intro firing hmem
  simpa using (hknown firing hmem).ne

/-- Of events from different additions at most one is fired for each. -/
theorem firingsOf_fired {fired : List ScheduledEvent}
    (hdistinct : (fired.map ScheduledEvent.addition).Nodup) (time : ℕ)
    (number : ℕ) :
    (∀ event ∈ fired, event.addition ≠ number) ∧
        firingsOf (fired.map fun event => ⟨time, event⟩) number = [] ∨
      ∃ event ∈ fired, event.addition = number ∧
        firingsOf (fired.map fun event => ⟨time, event⟩) number =
          [⟨time, event⟩] := by
  induction fired with
  | nil => simp [firingsOf]
  | cons first rest ih =>
      rw [List.map_cons, List.nodup_cons] at hdistinct
      have htail := ih hdistinct.2
      by_cases hfirst : first.addition = number
      · have hnone : ∀ event ∈ rest, event.addition ≠ number := by
          intro event hmem heq
          rw [hfirst, ← heq] at hdistinct
          exact hdistinct.1 (List.mem_map_of_mem hmem)
        rcases htail with ⟨-, hnil⟩ | ⟨event, hmem, heq, -⟩
        · rw [firingsOf] at hnil
          exact Or.inr ⟨first, List.mem_cons_self, hfirst, by
            simp [firingsOf, hfirst, hnil]⟩
        · exact absurd heq (hnone event hmem)
      · have hskip : firingsOf ((first :: rest).map fun event =>
            ⟨time, event⟩) number =
            firingsOf (rest.map fun event => ⟨time, event⟩) number := by
          simp [firingsOf, hfirst]
        rw [hskip]
        rcases htail with ⟨hnone, hnil⟩ | ⟨event, hmem, heq, hone⟩
        · exact Or.inl ⟨List.forall_mem_cons.mpr ⟨hfirst, hnone⟩, hnil⟩
        · exact Or.inr ⟨event, List.mem_cons_of_mem first hmem, heq, hone⟩

/-- A new event is due first when its addition says. -/
theorem tracks_added {offset : ℤ} {addition : Addition}
    (hagree : addition.clock.nowUtc = offset + addition.clock.now)
    (hvalid : addition.schedule.rateMode.maxOccurrences ≠ some 0)
    (number : ℕ) :
    Tracks offset addition []
      { workOrderId := addition.workOrderId
        handler := addition.handler
        nextFireTime := calculateNextFireTime addition.schedule
          addition.clock.now addition.clock.nowUtc
        schedule := addition.schedule
        occurrenceCount := 0
        addition := number } := by
  obtain ⟨clock, workOrderId, handler, ⟨rateMode⟩⟩ := addition
  simp only [Schedule.rateMode] at hagree hvalid
  have hnext : ∀ startAt, rateMode.startAt = some startAt →
      startAt ≤ offset + calculateRateModeNextFireTime rateMode clock.now
        clock.nowUtc := by
    intro startAt hstart
    simp only [calculateRateModeNextFireTime, hstart]
    split_ifs with hahead <;> push_cast <;> omega
  have hdue : Addition.firstDue ⟨clock, workOrderId, handler, .rate rateMode⟩ ≤
      offset + calculateRateModeNextFireTime rateMode clock.now
        clock.nowUtc := by
    simp only [Addition.firstDue, Schedule.rateMode,
      calculateRateModeNextFireTime]
    cases hstart : rateMode.startAt with
    | none =>
        push_cast
        omega
    | some startAt =>
        simp only
        split_ifs with hahead <;> push_cast <;> omega
  exact {
    workOrderId := rfl
    handler := rfl
    schedule := rfl
    counted := rfl
    below := fun max hmax => Nat.pos_of_ne_zero fun hzero =>
      hvalid (hmax.trans (congrArg some hzero))
    due := hdue
    started := hnext
    spaced := fun firing hmem => absurd hmem List.not_mem_nil }

/-- The firings of a tracked event that is due stay within their discipline. -/
theorem Disciplined.fired {offset : ℤ} {addition : Addition}
    {firings : List Firing} (hfirings : Disciplined offset addition firings)
    {event : ScheduledEvent} (htracks : Tracks offset addition firings event)
    {now : ℕ} (hdue : event.nextFireTime ≤ now) :
    Disciplined offset addition (firings ++ [⟨now, event⟩]) where
  identified := by
    simp only [List.forall_mem_append, List.forall_mem_singleton]
    exact ⟨hfirings.identified, htracks.workOrderId, htracks.handler⟩
  bounded := by
    intro max hmax
    have hbelow := htracks.below max hmax
    rw [htracks.counted] at hbelow
    rwa [List.length_append, List.length_singleton]
  notEarly := by
    simp only [List.forall_mem_append, List.forall_mem_singleton]
    have hfirst := htracks.due
    exact ⟨hfirings.notEarly, by omega⟩
  spaced := by
    rw [List.pairwise_append]
    refine ⟨hfirings.spaced, List.pairwise_singleton _ _, ?_⟩
    intro earlier hearlier later hlater
    rw [List.mem_singleton.mp hlater]
    exact (htracks.spaced earlier hearlier).trans hdue

/-- The next time of an event that is due lies one period after the pass. -/
theorem Tracks.next_eq {offset : ℤ} {addition : Addition}
    {firings : List Firing} {event : ScheduledEvent}
    (htracks : Tracks offset addition firings event) {clock : PassClock}
    (hagree : ∀ index, offset + clock.now ≤ clock.nowUtc index)
    (hdue : event.nextFireTime ≤ clock.now) (position : ℕ) :
    calculateNextFireTime event.schedule clock.now (clock.nowUtc position) =
      clock.now + addition.period := by
  -- the start lies behind an event that is due
  have hstarted := htracks.started
  have hutc := hagree position
  rw [htracks.schedule, Addition.period]
  obtain ⟨added, workOrderId, handler, ⟨rateMode⟩⟩ := addition
  simp only [Schedule.rateMode] at hstarted ⊢
  simp only [calculateNextFireTime, calculateRateModeNextFireTime]
  cases hstart : rateMode.startAt with
  | none => rfl
  | some startAt =>
      have hle := hstarted startAt hstart
      exact if_neg (by omega)

/-- An event that is scheduled again is due one period after the pass. -/
theorem Tracks.rescheduled {offset : ℤ} {addition : Addition}
    {firings : List Firing} {event again : ScheduledEvent}
    (htracks : Tracks offset addition firings event) {clock : PassClock}
    (hagree : ∀ index, offset + clock.now ≤ clock.nowUtc index)
    (hdue : event.nextFireTime ≤ clock.now) {position : ℕ}
    (hagain : SchedulerService.rescheduled clock position event = some again) :
    Tracks offset addition (firings ++ [⟨clock.now, event⟩]) again := by
  obtain ⟨rfl, hbelow, -⟩ := SchedulerService.rescheduled_eq_some hagain
  have hnext := htracks.next_eq hagree hdue position
  have hfirst := htracks.due
  rw [hnext]
  exact {
    workOrderId := htracks.workOrderId
    handler := htracks.handler
    schedule := htracks.schedule
    counted := by simp [htracks.counted]
    below := by
      rw [htracks.schedule] at hbelow
      exact hbelow
    due := by
      push_cast
      omega
    started := by
      intro startAt hstart
      have hle := htracks.started startAt hstart
      push_cast
      omega
    spaced := by
      simp only [List.forall_mem_append, List.forall_mem_singleton, le_refl,
        and_true]
      intro firing hmem
      have hle := htracks.spaced firing hmem
      omega }

/-! ## The invariant -/

theorem history_new (offset : ℤ) (config : SchedulerConfig) :
    History offset (.new config) where
  distinct := List.nodup_nil
  tracked := fun event hmem => absurd hmem List.not_mem_nil
  disciplined := fun number addition hnone => by simp [Loop.new] at hnone
  known := fun firing hmem => absurd hmem List.not_mem_nil

theorem History.lt_additions {offset : ℤ} {self : Loop}
    (hhistory : History offset self) {event : ScheduledEvent}
    (hmem : event ∈ self.service.scheduledEvents) :
    event.addition < self.additions.length := by
  obtain ⟨addition, haddition, -⟩ := hhistory.tracked event hmem
  exact (List.getElem?_eq_some_iff.mp haddition).1

/-- A heap of fewer events, with the history as it was. -/
theorem History.sublist {offset : ℤ} {self after : Loop}
    (hhistory : History offset self)
    (hheap : after.service.scheduledEvents.Sublist self.service.scheduledEvents)
    (hadditions : after.additions = self.additions)
    (hfirings : after.firings = self.firings) : History offset after where
  distinct := (hheap.map ScheduledEvent.addition).nodup hhistory.distinct
  tracked := by
    rw [hadditions, hfirings]
    exact fun event hmem => hhistory.tracked event (hheap.subset hmem)
  disciplined := by
    rw [hadditions, hfirings]
    exact hhistory.disciplined
  known := by
    rw [hadditions, hfirings]
    exact hhistory.known

theorem History.added {offset : ℤ} {self : Loop}
    (hhistory : History offset self) {clock : CommandClock}
    (hagree : clock.nowUtc = offset + clock.now) (workOrderId : WorkOrderId)
    (handler : HandlerName) {schedule : Schedule}
    (hvalid : validateSchedule self.service.config clock.validated schedule =
      .ok ()) :
    History offset
      { self with
        service := self.service.addScheduledEvent self.additions.length
          clock workOrderId handler schedule
        additions := self.additions ++
          [{ clock, workOrderId, handler, schedule }] } := by
  have hnil := firingsOf_eq_nil hhistory.known
  have hkept : ∀ (number : ℕ) (addition last : Addition),
      self.additions[number]? = some addition →
        (self.additions ++ [last])[number]? = some addition := by
    intro number addition last hsome
    have hlt := (List.getElem?_eq_some_iff.mp hsome).1
    rwa [List.getElem?_append_left hlt]
  constructor
  · rw [SchedulerService.addScheduledEvent, List.map_append, List.nodup_append]
    refine ⟨hhistory.distinct, List.nodup_singleton _, ?_⟩
    intro number hnumber last hlast
    obtain ⟨event, hmem, rfl⟩ := List.mem_map.mp hnumber
    have hlt := hhistory.lt_additions hmem
    simp only [List.map_cons, List.map_nil, List.mem_singleton] at hlast
    omega
  · intro event hmem
    rcases List.mem_append.mp hmem with hmem | hmem
    · obtain ⟨addition, haddition, htracks⟩ := hhistory.tracked event hmem
      exact ⟨addition, hkept _ _ _ haddition, htracks⟩
    · rw [List.mem_singleton.mp hmem]
      refine ⟨_, List.getElem?_concat_length, ?_⟩
      rw [hnil]
      exact tracks_added hagree
        (validateSchedule_eq_ok_iff.mp hvalid).2.2.2 self.additions.length
  · intro number addition haddition
    rcases lt_or_ge number self.additions.length with hlt | hge
    · rw [List.getElem?_append_left hlt] at haddition
      exact hhistory.disciplined number addition haddition
    · have hnone : firingsOf self.firings number = [] :=
        firingsOf_eq_nil fun firing hmem =>
          (hhistory.known firing hmem).trans_le hge
      rw [hnone]
      exact {
        identified := fun firing hmem => absurd hmem List.not_mem_nil
        bounded := fun max _ => Nat.zero_le max
        notEarly := fun firing hmem => absurd hmem List.not_mem_nil
        spaced := List.Pairwise.nil }
  · intro firing hmem
    have hlt := hhistory.known firing hmem
    rw [List.length_append, List.length_singleton]
    omega

theorem History.passed {offset : ℤ} {self after : Loop}
    (hhistory : History offset self) {clock : PassClock}
    (hagree : ∀ index, offset + clock.now ≤ clock.nowUtc index)
    {fired : List ScheduledEvent}
    (hpassed : self.service.Passed clock after.service fired)
    (hadditions : after.additions = self.additions)
    (hfirings : after.firings =
      self.firings ++ fired.map fun event => ⟨clock.now, event⟩) :
    History offset after := by
  have hfired : ∀ event ∈ fired, event ∈ self.service.scheduledEvents ∧
      event.nextFireTime ≤ clock.now := by
    intro event hmem
    obtain ⟨hheap, hdue⟩ := List.mem_filter.mp (hpassed.due.mem_iff.mp hmem)
    exact ⟨hheap, by simpa using hdue⟩
  have hsame : ∀ left ∈ self.service.scheduledEvents,
      ∀ right ∈ self.service.scheduledEvents,
        left.addition = right.addition → left = right :=
    fun left hleft right hright =>
      List.inj_on_of_nodup_map hhistory.distinct hleft hright
  have hdistinct : (fired.map ScheduledEvent.addition).Nodup :=
    (hpassed.due.map _).nodup_iff.mpr
      ((List.filter_sublist.map _).nodup hhistory.distinct)
  have hnew := firingsOf_fired hdistinct clock.now
  constructor
  · obtain ⟨again, hheap, hsublist, -⟩ := hpassed.heap
    have hall : ((self.service.scheduledEvents.filter fun event =>
        clock.now < event.nextFireTime) ++ fired).Perm
          self.service.scheduledEvents := by
      refine (hpassed.due.append_left _).trans ?_
      have hsplit := List.filter_append_perm
        (fun event : ScheduledEvent =>
          decide (clock.now < event.nextFireTime))
        self.service.scheduledEvents
      simpa only [← decide_not, not_lt] using hsplit
    rw [(hheap.map _).nodup_iff, List.map_append]
    refine (hsublist.append_left _).nodup ?_
    rw [← List.map_append, (hall.map _).nodup_iff]
    exact hhistory.distinct
  · intro event hmem
    rw [hadditions, hfirings, firingsOf_append]
    rcases hpassed.mem_heap hmem with ⟨hheap, hlater⟩ |
      ⟨before, hheap, hdue, hbefore, position, hagain⟩
    · obtain ⟨addition, haddition, htracks⟩ := hhistory.tracked event hheap
      refine ⟨addition, haddition, ?_⟩
      rcases hnew event.addition with ⟨-, hnil⟩ | ⟨other, hother, heq, -⟩
      · rwa [hnil, List.append_nil]
      · obtain ⟨hotherHeap, hotherDue⟩ := hfired other hother
        rw [hsame other hotherHeap event hheap heq] at hotherDue
        omega
    · obtain ⟨addition, haddition, htracks⟩ := hhistory.tracked before hheap
      have hnumber : event.addition = before.addition := by
        rw [(SchedulerService.rescheduled_eq_some hagain).1]
      rw [hnumber]
      refine ⟨addition, haddition, ?_⟩
      rcases hnew before.addition with ⟨hnone, -⟩ | ⟨other, hother, heq, hone⟩
      · exact absurd rfl (hnone before hbefore)
      · rw [hsame other (hfired other hother).1 before hheap heq] at hone
        rw [hone]
        exact htracks.rescheduled hagree hdue hagain
  · intro number addition haddition
    rw [hadditions] at haddition
    rw [hfirings, firingsOf_append]
    have hdisciplined := hhistory.disciplined number addition haddition
    rcases hnew number with ⟨-, hnil⟩ | ⟨event, hmem, rfl, hone⟩
    · rwa [hnil, List.append_nil]
    · obtain ⟨hheap, hdue⟩ := hfired event hmem
      obtain ⟨tracked, htracked, htracks⟩ := hhistory.tracked event hheap
      obtain rfl := Option.some.inj (haddition.symm.trans htracked)
      rw [hone]
      exact hdisciplined.fired htracks hdue
  · intro firing hmem
    rw [hfirings] at hmem
    rw [hadditions]
    rcases List.mem_append.mp hmem with hmem | hmem
    · exact hhistory.known firing hmem
    · obtain ⟨event, hevent, rfl⟩ := List.mem_map.mp hmem
      exact hhistory.lt_additions (hfired event hevent).1

theorem Loop.Change.history {offset : ℤ} {self after : Loop}
    {event : LoopEvent} (hchange : self.Change event after)
    (hcoupled : self.service.Coupled) (hhistory : History offset self)
    (hagree : event.Agrees offset) : History offset after := by
  cases hchange with
  | quiet hservice hadditions hfirings =>
      exact hhistory.sublist (hservice ▸ List.Sublist.refl _) hadditions
        hfirings
  | added clock workOrderId handler schedule hvalid =>
      exact hhistory.added hagree workOrderId handler hvalid
  | removed clock workOrderId =>
      exact hhistory.sublist List.filter_sublist rfl rfl
  | passed clock ties =>
      obtain ⟨fired, hpassed, hfirings⟩ := Loop.pass_passed hcoupled clock ties
      exact hhistory.passed hagree hpassed rfl hfirings

theorem run_history {offset : ℤ} (config : SchedulerConfig)
    {events : List LoopEvent} (hagree : ∀ event ∈ events, event.Agrees offset) :
    History offset ((Loop.new config).run events) := by
  have halong : Along Loop.step (fun _ event => event.Agrees offset)
      (Loop.new config) events :=
    along_of_forall fun _ event hmem => hagree event hmem
  have hboth := run_invariant
    (fun self : Loop => self.service.Coupled ∧ History offset self)
    ⟨Loop.run_coupled config [], history_new offset config⟩ halong
    (by
      rintro self event ⟨hcoupled, hhistory⟩ hagrees
      have hchange := self.step_change event
      exact ⟨hchange.coupled hcoupled,
        hchange.history hcoupled hhistory hagrees⟩)
  exact hboth.2

/-! ## The discipline -/

/-- A pass fires each event that is due at its start once, the earliest first. -/
def PassExact (self : Loop) (clock : PassClock) (ties : ℕ → ℕ) : Prop :=
  ∃ fired : List ScheduledEvent, (self.pass clock ties).firings =
      self.firings ++ fired.map (fun event => ⟨clock.now, event⟩) ∧
    fired.Perm (self.service.scheduledEvents.filter fun event =>
      event.nextFireTime ≤ clock.now) ∧
    fired.Nodup ∧
    fired.Pairwise fun left right => left.nextFireTime ≤ right.nextFireTime

/-- Over every run each firing belongs to an accepted addition, the firings of
each addition keep to its schedule, and passes are exact. -/
theorem firing_discipline {offset : ℤ} (config : SchedulerConfig)
    {events : List LoopEvent} (hagree : ∀ event ∈ events, event.Agrees offset) :
    (∀ firing ∈ ((Loop.new config).run events).firings,
      firing.event.addition <
        ((Loop.new config).run events).additions.length) ∧
    (∀ (number : ℕ) (addition : Addition),
      ((Loop.new config).run events).additions[number]? = some addition →
        Disciplined offset addition
          (firingsOf ((Loop.new config).run events).firings number)) ∧
    ∀ (clock : PassClock) (ties : ℕ → ℕ),
      PassExact ((Loop.new config).run events) clock ties := by
  have hhistory := run_history config hagree
  refine ⟨hhistory.known, hhistory.disciplined, ?_⟩
  intro clock ties
  obtain ⟨fired, hpassed, hfirings⟩ :=
    Loop.pass_passed (Loop.run_coupled config events) clock ties
  refine ⟨fired, hfirings, hpassed.due, ?_, hpassed.sorted⟩
  rw [hpassed.due.nodup_iff]
  exact (List.Nodup.of_map _ hhistory.distinct).filter _

/-- A clock that stands still during a step. -/
def commandAt (now : ℕ) : CommandClock where
  validated := now
  now := now
  nowUtc := now

def passAt (now : ℕ) : PassClock where
  now := now
  endUtc := fun _ => now
  nowUtc := fun _ => now

def sampleConfig : SchedulerConfig where
  minScheduleIntervalMs := 10

/-- Twice, every 100 ms from 5 ms after the first second. -/
def sampleSchedule : Schedule :=
  .rate
    { RateMode.new 100 with
      phaseMs := 5
      startAt := some (millis 1000)
      maxOccurrences := some 2 }

def sampleEvents : List LoopEvent :=
  [.command (commandAt 0) (.addScheduledEvent "order" "tick" sampleSchedule),
    .timeout (passAt (millis 1005)) fun _ => 0,
    .timeout (passAt (millis 1100)) fun _ => 0,
    .timeout (passAt (millis 1110)) fun _ => 0,
    .timeout (passAt (millis 2000)) fun _ => 0]

theorem firing_discipline_twice :
    (firingsOf ((Loop.new sampleConfig).run sampleEvents).firings 0).map
        Firing.time = [millis 1005, millis 1110] ∧
      Disciplined 0
        { clock := commandAt 0
          workOrderId := "order"
          handler := "tick"
          schedule := sampleSchedule }
        (firingsOf ((Loop.new sampleConfig).run sampleEvents).firings 0) := by
  have hagree : ∀ event ∈ sampleEvents, event.Agrees 0 := by
    simp [sampleEvents, LoopEvent.Agrees, commandAt, passAt]
  exact ⟨by decide +kernel,
    (firing_discipline sampleConfig hagree).2.1 0 _ (by decide +kernel)⟩

/-! ## Which steps fire -/

/-- What one round adds to the firings. -/
def Loop.fired (self : Loop) : LoopEvent → List Firing
  | .timeout clock ties =>
      if self.running then
        (self.service.fireReadyEvents clock ties).2.map fun event =>
          ⟨clock.now, event⟩
      else []
  | _ => []

theorem Loop.step_firings (self : Loop) (event : LoopEvent) :
    (self.step event).firings = self.firings ++ self.fired event := by
  unfold Loop.step
  split_ifs with hrunning
  · cases event with
    | command clock command =>
        cases command with
        | addScheduledEvent workOrderId handler schedule =>
            simp only [Loop.handleCommand, Loop.fired, List.append_nil]
            cases validateSchedule self.service.config clock.validated
              schedule <;> rfl
        | removeWorkOrder workOrderId => exact (List.append_nil _).symm
        | stop => exact (List.append_nil _).symm
    | closed => exact (List.append_nil _).symm
    | timeout clock ties =>
        simp only [Loop.fired, hrunning, if_true]
        rfl
  · cases event <;> simp [Loop.fired, hrunning]

theorem Loop.mem_fired_iff {self : Loop} (hcoupled : self.service.Coupled)
    {event : LoopEvent} {firing : Firing} :
    firing ∈ self.fired event ↔ ∃ clock ties, event = .timeout clock ties ∧
      self.running = true ∧ firing.event ∈ self.service.scheduledEvents ∧
      firing.event.nextFireTime ≤ clock.now ∧ firing.time = clock.now := by
  cases event with
  | command clock command => simp [Loop.fired]
  | closed => simp [Loop.fired]
  | timeout clock ties =>
      have hdue := (SchedulerService.fireReadyEvents_passed hcoupled clock
        ties).due.mem_iff (a := firing.event)
      obtain ⟨time, event⟩ := firing
      cases hrunning : self.running with
      | false => simp [Loop.fired, hrunning]
      | true =>
          simp only [Loop.fired, hrunning, if_true, List.mem_map]
          simp only [List.mem_filter, decide_eq_true_eq] at hdue
          constructor
          · rintro ⟨other, hother, heq⟩
            obtain ⟨rfl, rfl⟩ := Firing.mk.inj heq
            obtain ⟨hheap, hle⟩ := hdue.mp hother
            exact ⟨clock, ties, rfl, trivial, hheap, hle, rfl⟩
          · rintro ⟨_, _, heq, -, hheap, hle, rfl⟩
            obtain ⟨rfl, rfl⟩ := LoopEvent.timeout.inj heq
            exact ⟨event, hdue.mpr ⟨hheap, hle⟩, rfl⟩

/-- A firing is that of an event that is due in the heap when a pass starts. -/
theorem mem_firings_run_iff {config : SchedulerConfig}
    {events : List LoopEvent} {firing : Firing} :
    firing ∈ ((Loop.new config).run events).firings ↔
      ∃ before clock ties after,
        events = before ++ .timeout clock ties :: after ∧
        ((Loop.new config).run before).running = true ∧
        firing.event ∈
          ((Loop.new config).run before).service.scheduledEvents ∧
        firing.event.nextFireTime ≤ clock.now ∧ firing.time = clock.now := by
  rw [mem_log_iff Loop.step_firings]
  constructor
  · rintro (hnone | ⟨before, event, after, rfl, hfired⟩)
    · exact absurd hnone List.not_mem_nil
    · obtain ⟨clock, ties, rfl, hrest⟩ :=
        (Loop.mem_fired_iff (Loop.run_coupled config before)).mp hfired
      exact ⟨before, clock, ties, after, rfl, hrest⟩
  · rintro ⟨before, clock, ties, after, rfl, hrest⟩
    exact Or.inr ⟨before, _, after, rfl,
      (Loop.mem_fired_iff (Loop.run_coupled config before)).mpr
        ⟨clock, ties, rfl, hrest⟩⟩

end NxccBridge.Scheduler
