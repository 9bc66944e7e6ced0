import NxccBridge.Core.Grid
import NxccBridge.Daemon.SchedulerHistory

/-!
# The grid of a schedule

A schedule with a start has due times a period apart from the start and its phase
on.  The scheduler assigns the first of them by the start and each later one by
the pass before, whenever that came.
-/

namespace NxccBridge.Scheduler

open NxccBridge.Grid
open NxccBridge.Interface
open NxccBridge.PriorityQueue
open NxccBridge.Runs

namespace SchedulerService

/-- The events that a pass takes from the heap, in its order. -/
def popped (self : SchedulerService) (clock : PassClock) (ties : ℕ → ℕ) :
    List ScheduledEvent :=
  (popUntil ScheduledEvent.nextFireTime clock.now ties
    self.scheduledEvents.length 0 self.scheduledEvents).1

theorem mem_processReady_iff (self : SchedulerService) (clock : PassClock)
    (index : ℕ) {ready : List ScheduledEvent}
    (hknown : ∀ event ∈ ready,
      (self.workOrderEvents event.workOrderId).isSome)
    {again : ScheduledEvent} :
    again ∈ (self.processReady clock index ready).2 ↔
      ∃ position event, ready[position]? = some event ∧
        rescheduled clock (index + position) event = some again := by
  induction ready generalizing index with
  | nil => simp [processReady]
  | cons first ready ih =>
      rw [List.forall_mem_cons] at hknown
      have hlater := ih (index + 1) hknown.2
      rw [processReady]
      simp only [hknown.1, if_true, List.mem_append, Option.mem_toList, hlater]
      constructor
      · rintro (hfirst | ⟨position, event, hevent, hagain⟩)
        · exact ⟨0, first, rfl, hfirst⟩
        · refine ⟨position + 1, event, hevent, ?_⟩
          rwa [Nat.add_comm position 1, ← Nat.add_assoc]
      · rintro ⟨position, event, hevent, hagain⟩
        cases position with
        | zero =>
            obtain rfl := Option.some.inj hevent
            exact .inl hagain
        | succ position =>
            refine .inr ⟨position, event, hevent, ?_⟩
            rwa [Nat.add_comm position 1, ← Nat.add_assoc] at hagain

theorem mem_popped_iff {self : SchedulerService} {clock : PassClock}
    {ties : ℕ → ℕ} {event : ScheduledEvent} :
    event ∈ self.popped clock ties ↔
      event ∈ self.scheduledEvents ∧ event.nextFireTime ≤ clock.now := by
  have hready := (popUntil_spec ScheduledEvent.nextFireTime clock.now ties 0
    (le_refl self.scheduledEvents.length)).1
  rw [popped, hready.mem_iff, List.mem_filter, decide_eq_true_eq]

/-- The heap after a pass. -/
theorem mem_fireReadyEvents_iff {self : SchedulerService}
    (hcoupled : self.Coupled) (clock : PassClock) (ties : ℕ → ℕ)
    {event : ScheduledEvent} :
    event ∈ (self.fireReadyEvents clock ties).1.scheduledEvents ↔
      event ∈ self.scheduledEvents ∧ clock.now < event.nextFireTime ∨
        ∃ position before,
          (self.popped clock ties)[position]? = some before ∧
            rescheduled clock position before = some event := by
  have hknown : ∀ before ∈ self.popped clock ties,
      (self.workOrderEvents before.workOrderId).isSome :=
    fun before hmem => hcoupled before (mem_popped_iff.mp hmem).1
  have hagain : event ∈ (self.processReady clock 0
      (self.popped clock ties)).2 ↔ _ :=
    self.mem_processReady_iff clock 0 hknown
  have hrest := (popUntil_spec ScheduledEvent.nextFireTime clock.now ties 0
    (le_refl self.scheduledEvents.length)).2.1.mem_iff (a := event)
  simp only [Nat.zero_add] at hagain
  rw [← hagain]
  simp only [List.mem_filter, decide_eq_true_eq] at hrest
  rw [← hrest]
  exact List.mem_append

end SchedulerService

/-! ## The times assigned to an addition -/

/-- The times of its events in the heap. -/
def heapDue (scheduledEvents : List ScheduledEvent) (number : ℕ) : List ℕ :=
  (scheduledEvents.filter fun event => event.addition = number).map
    ScheduledEvent.nextFireTime

/-- All times that were assigned so far, but for one that was removed. -/
def dueTimes (loop : Loop) (number : ℕ) : List ℕ :=
  (firingsOf loop.firings number).map (fun firing => firing.event.nextFireTime)
    ++ heapDue loop.service.scheduledEvents number

theorem heapDue_eq_nil {scheduledEvents : List ScheduledEvent} {number : ℕ}
    (hnone : ∀ event ∈ scheduledEvents, event.addition ≠ number) :
    heapDue scheduledEvents number = [] := by
  rw [heapDue, List.map_eq_nil_iff, List.filter_eq_nil_iff]
  simpa using hnone

theorem heapDue_eq_singleton {scheduledEvents : List ScheduledEvent}
    (hdistinct : (scheduledEvents.map ScheduledEvent.addition).Nodup)
    {event : ScheduledEvent} (hmem : event ∈ scheduledEvents) :
    heapDue scheduledEvents event.addition = [event.nextFireTime] := by
  obtain ⟨before, after, rfl⟩ := List.append_of_mem hmem
  rw [List.map_append, List.map_cons, List.nodup_middle, List.nodup_cons,
    ← List.map_append] at hdistinct
  have hother : ∀ other ∈ before ++ after,
      other.addition ≠ event.addition := by
    intro other hother heq
    exact hdistinct.1 (heq ▸ List.mem_map_of_mem hother)
  rw [List.forall_mem_append] at hother
  have hbefore := heapDue_eq_nil hother.1
  have hafter := heapDue_eq_nil hother.2
  rw [heapDue] at hbefore hafter ⊢
  rw [List.filter_append, List.map_append, hbefore, List.filter_cons_of_pos
    (by simp), List.map_cons, hafter]
  rfl

/-- What is on the grid of its schedule: the times assigned to an addition, if it
has a start. -/
def OnSchedule (offset : ℤ) (number : ℕ) (loop : Loop) : Prop :=
  ∀ addition startAt, loop.additions[number]? = some addition →
    addition.schedule.rateMode.startAt = some startAt →
      OnGrid (startAt + millis addition.schedule.rateMode.phaseMs)
        addition.period
        ((dueTimes loop number).map fun due : ℕ => offset + (due : ℤ))

/-- Steps that assign the addition a time on the grid.  It is added before its
start or one period before a grid point; a pass that schedules it again starts
at a grid point. -/
def KeepsGrid (offset : ℤ) (number : ℕ) (loop : Loop) : LoopEvent → Prop
  | .command clock (.addScheduledEvent _ _ schedule) =>
      loop.running = true → loop.additions.length = number →
        validateSchedule loop.service.config clock.validated schedule =
          .ok () →
        ∀ startAt, schedule.rateMode.startAt = some startAt →
          clock.nowUtc < startAt ∨ ∃ place : ℕ,
            clock.nowUtc + millis schedule.rateMode.periodMs =
              startAt + millis schedule.rateMode.phaseMs +
                place * millis schedule.rateMode.periodMs
  | .timeout clock ties =>
      loop.running = true → ∀ position event,
        (loop.service.popped clock ties)[position]? = some event →
        event.addition = number →
        SchedulerService.shouldReschedule
          { event with occurrenceCount := event.occurrenceCount + 1 }
          (clock.endUtc position) = true →
        ∀ startAt, event.schedule.rateMode.startAt = some startAt →
          ∃ place : ℕ, offset + clock.now =
            startAt + millis event.schedule.rateMode.phaseMs +
              place * millis event.schedule.rateMode.periodMs
  | _ => True

/-! ## One step -/

theorem OnSchedule.of_sublist {offset : ℤ} {number : ℕ} {self after : Loop}
    (hschedule : OnSchedule offset number self)
    (hadditions : after.additions[number]? = self.additions[number]?)
    (hdue : (dueTimes after number).Sublist (dueTimes self number)) :
    OnSchedule offset number after := by
  intro addition startAt haddition hstart
  rw [hadditions] at haddition
  exact (hschedule addition startAt haddition hstart).sublist (hdue.map _)

theorem heapDue_sublist {scheduledEvents rest : List ScheduledEvent}
    (hrest : rest.Sublist scheduledEvents) (number : ℕ) :
    (heapDue rest number).Sublist (heapDue scheduledEvents number) :=
  (hrest.filter _).map _

/-- The first time of an addition is on its grid exactly if it was added before
its start or one period before a grid point. -/
theorem onGrid_first_iff {offset startAt : ℤ} {clock : CommandClock}
    (hagree : clock.nowUtc = offset + clock.now) {rateMode : RateMode}
    (hstart : rateMode.startAt = some startAt) :
    OnGrid (startAt + millis rateMode.phaseMs) (millis rateMode.periodMs)
        [offset + (calculateRateModeNextFireTime rateMode clock.now
          clock.nowUtc : ℤ)] ↔
      clock.nowUtc < startAt ∨ ∃ place : ℕ,
        clock.nowUtc + millis rateMode.periodMs =
          startAt + millis rateMode.phaseMs +
            place * millis rateMode.periodMs := by
  rw [onGrid_singleton_iff, calculateRateModeNextFireTime, hstart]
  by_cases hahead : clock.nowUtc < startAt
  · refine iff_of_true ⟨0, ?_⟩ (.inl hahead)
    simp only [if_pos hahead]
    push_cast
    omega
  · simp only [hahead, false_or]
    refine exists_congr fun place => ?_
    push_cast
    rw [← add_assoc, ← hagree]

theorem onSchedule_added_iff {offset : ℤ} {number : ℕ} {self : Loop}
    (hhistory : History offset self) (hschedule : OnSchedule offset number self)
    {clock : CommandClock} (hagree : clock.nowUtc = offset + clock.now)
    (workOrderId : WorkOrderId) (handler : HandlerName) (schedule : Schedule) :
    OnSchedule offset number
        { self with
          service := self.service.addScheduledEvent self.additions.length
            clock workOrderId handler schedule
          additions := self.additions ++
            [{ clock, workOrderId, handler, schedule }] } ↔
      (self.additions.length = number →
        ∀ startAt, schedule.rateMode.startAt = some startAt →
          clock.nowUtc < startAt ∨ ∃ place : ℕ,
            clock.nowUtc + millis schedule.rateMode.periodMs =
              startAt + millis schedule.rateMode.phaseMs +
                place * millis schedule.rateMode.periodMs) := by
  obtain ⟨rateMode⟩ := schedule
  by_cases hnumber : self.additions.length = number
  · subst hnumber
    have hdue : dueTimes
        { self with
          service := self.service.addScheduledEvent self.additions.length
            clock workOrderId handler (.rate rateMode)
          additions := self.additions ++
            [{ clock, workOrderId, handler, schedule := .rate rateMode }] }
        self.additions.length =
        [calculateRateModeNextFireTime rateMode clock.now clock.nowUtc] := by
      have hheap := heapDue_eq_nil fun event hmem =>
        (hhistory.lt_additions hmem).ne
      rw [heapDue] at hheap
      rw [dueTimes, firingsOf_eq_nil hhistory.known, heapDue,
        SchedulerService.addScheduledEvent, List.filter_append,
        List.map_append, hheap]
      simp [calculateNextFireTime]
    simp only [true_implies]
    constructor
    · intro hgrid startAt hstart
      have hfirst := hgrid _ startAt List.getElem?_concat_length hstart
      rw [hdue] at hfirst
      exact (onGrid_first_iff hagree hstart).mp hfirst
    · intro hcondition addition startAt haddition hstart
      rw [hdue]
      obtain rfl : _ = addition :=
        Option.some.inj (List.getElem?_concat_length.symm.trans haddition)
      exact (onGrid_first_iff hagree hstart).mpr (hcondition startAt hstart)
  · refine iff_of_true (hschedule.of_sublist ?_ ?_) fun heq =>
      absurd heq hnumber
    · rcases lt_or_gt_of_ne hnumber with hlt | hgt
      · rw [List.getElem?_eq_none (by simp; omega),
          List.getElem?_eq_none (by omega)]
      · exact List.getElem?_append_left hgt
    · have hheap : heapDue (self.service.scheduledEvents ++
          [{ workOrderId := workOrderId
             handler := handler
             nextFireTime := calculateNextFireTime (.rate rateMode) clock.now
               clock.nowUtc
             schedule := .rate rateMode
             occurrenceCount := 0
             addition := self.additions.length }]) number =
          heapDue self.service.scheduledEvents number := by
        simp [heapDue, hnumber]
      rw [dueTimes, SchedulerService.addScheduledEvent, hheap]
      exact List.Sublist.refl _

/-- A pass that finds no due event of the addition assigns it no time. -/
theorem dueTimes_pass_of_not_due {offset : ℤ} {number : ℕ} {self : Loop}
    (hcoupled : self.service.Coupled) (hhistory : History offset self)
    {clock : PassClock} (ties : ℕ → ℕ)
    (hafter : History offset (self.pass clock ties))
    (hnone : ∀ event ∈ self.service.scheduledEvents,
      event.addition = number → clock.now < event.nextFireTime) :
    (dueTimes (self.pass clock ties) number).Sublist
      (dueTimes self number) := by
  obtain ⟨fired, hpassed, hfirings⟩ := Loop.pass_passed hcoupled clock ties
  have hquiet : firingsOf (self.pass clock ties).firings number =
      firingsOf self.firings number := by
    rw [hfirings, firingsOf_append, firingsOf, firingsOf,
      List.append_right_eq_self, List.filter_eq_nil_iff]
    intro firing hmem
    obtain ⟨event, hevent, rfl⟩ := List.mem_map.mp hmem
    obtain ⟨hheap, hdue⟩ := List.mem_filter.mp (hpassed.due.mem_iff.mp hevent)
    simp only [decide_eq_true_eq] at hdue ⊢
    intro hnumber
    have hlater := hnone event hheap hnumber
    omega
  rw [dueTimes, dueTimes, hquiet]
  refine List.Sublist.append_left ?_ _
  by_cases hkept : ∃ event ∈ (self.pass clock ties).service.scheduledEvents,
      event.addition = number
  · obtain ⟨event, hmem, rfl⟩ := hkept
    rcases (SchedulerService.mem_fireReadyEvents_iff hcoupled clock ties).mp
      hmem with ⟨hheap, -⟩ | ⟨position, before, hbefore, hagain⟩
    · rw [heapDue_eq_singleton hafter.distinct hmem,
        heapDue_eq_singleton hhistory.distinct hheap]
    · obtain ⟨hheap, hdue⟩ := SchedulerService.mem_popped_iff.mp
        (List.mem_of_getElem? hbefore)
      have hlater := hnone before hheap (by
        rw [(SchedulerService.rescheduled_eq_some hagain).1])
      omega
  · rw [heapDue_eq_nil fun event hmem hnumber =>
      hkept ⟨event, hmem, hnumber⟩]
    exact List.nil_sublist _

/-- A pass fires a due event at its time and assigns it a new one, if any. -/
theorem dueTimes_pass_of_due {offset : ℤ} {self : Loop}
    (hcoupled : self.service.Coupled) (hhistory : History offset self)
    {clock : PassClock} (ties : ℕ → ℕ) {event : ScheduledEvent}
    (hmem : event ∈ self.service.scheduledEvents)
    (hdue : event.nextFireTime ≤ clock.now) :
    dueTimes (self.pass clock ties) event.addition =
      dueTimes self event.addition ++
        heapDue (self.pass clock ties).service.scheduledEvents
          event.addition := by
  obtain ⟨fired, hpassed, hfirings⟩ := Loop.pass_passed hcoupled clock ties
  have hfired : event ∈ fired :=
    hpassed.due.mem_iff.mpr (List.mem_filter.mpr ⟨hmem, by simpa using hdue⟩)
  have hdistinct : (fired.map ScheduledEvent.addition).Nodup :=
    (hpassed.due.map _).nodup_iff.mpr
      ((List.filter_sublist.map _).nodup hhistory.distinct)
  have hone : firingsOf (fired.map fun event => ⟨clock.now, event⟩)
      event.addition = [⟨clock.now, event⟩] := by
    rcases firingsOf_fired hdistinct clock.now event.addition with
      ⟨hnone, -⟩ | ⟨other, hother, hsame, hone⟩
    · exact absurd rfl (hnone event hfired)
    · rwa [List.inj_on_of_nodup_map hdistinct hother hfired hsame] at hone
  rw [dueTimes, dueTimes, hfirings, firingsOf_append, hone, List.map_append,
    heapDue_eq_singleton hhistory.distinct hmem]
  rfl

theorem onSchedule_pass_iff {offset : ℤ} {number : ℕ} {self : Loop}
    (hcoupled : self.service.Coupled) (hhistory : History offset self)
    (hschedule : OnSchedule offset number self) {clock : PassClock}
    (hagree : ∀ index, offset + clock.now ≤ clock.nowUtc index)
    (ties : ℕ → ℕ) :
    OnSchedule offset number (self.pass clock ties) ↔
      ∀ position event,
        (self.service.popped clock ties)[position]? = some event →
        event.addition = number →
        SchedulerService.shouldReschedule
          { event with occurrenceCount := event.occurrenceCount + 1 }
          (clock.endUtc position) = true →
        ∀ startAt, event.schedule.rateMode.startAt = some startAt →
          ∃ place : ℕ, offset + clock.now =
            startAt + millis event.schedule.rateMode.phaseMs +
              place * millis event.schedule.rateMode.periodMs := by
  have hafter : History offset (self.pass clock ties) := by
    obtain ⟨fired, hpassed, hfirings⟩ := Loop.pass_passed hcoupled clock ties
    exact hhistory.passed hagree hpassed rfl hfirings
  have hpopped : ∀ {position event},
      (self.service.popped clock ties)[position]? = some event →
        event ∈ self.service.scheduledEvents ∧
          event.nextFireTime ≤ clock.now := fun hevent =>
    SchedulerService.mem_popped_iff.mp (List.mem_of_getElem? hevent)
  by_cases hsome : ∃ event ∈ self.service.scheduledEvents,
      event.addition = number ∧ event.nextFireTime ≤ clock.now
  · obtain ⟨event, hmem, rfl, hdue⟩ := hsome
    obtain ⟨addition, haddition, htracks⟩ := hhistory.tracked event hmem
    have htimes := dueTimes_pass_of_due hcoupled hhistory ties hmem hdue
    have hbefore : dueTimes self event.addition =
        (firingsOf self.firings event.addition).map
          (fun firing => firing.event.nextFireTime) ++
            [event.nextFireTime] := by
      rw [dueTimes, heapDue_eq_singleton hhistory.distinct hmem]
    have hsame : ∀ other ∈ self.service.scheduledEvents,
        other.addition = event.addition → other = event :=
      fun other hother =>
        List.inj_on_of_nodup_map hhistory.distinct hother hmem
    -- a time one period after the pass continues the grid or not
    have hnext : ∀ startAt,
        addition.schedule.rateMode.startAt = some startAt →
        (OnGrid (startAt + millis addition.schedule.rateMode.phaseMs)
            addition.period
            ((dueTimes self event.addition ++
              [clock.now + addition.period]).map
                fun due : ℕ => offset + (due : ℤ)) ↔
          ∃ place : ℕ, offset + clock.now =
            startAt + millis event.schedule.rateMode.phaseMs +
              place * millis event.schedule.rateMode.periodMs) := by
      intro startAt hstart
      have hgrid := hschedule addition startAt haddition hstart
      rw [hbefore, List.map_append] at hgrid ⊢
      rw [List.map_append, htracks.schedule]
      have hlater : offset + (event.nextFireTime : ℤ) ≤
          offset + clock.now := by omega
      rw [← Addition.period, ← onGrid_append_next_iff hgrid hlater]
      simp [add_assoc]
    have hassigned : ∀ {position again},
        SchedulerService.rescheduled clock position event = some again →
        again ∈ (self.pass clock ties).service.scheduledEvents →
          heapDue (self.pass clock ties).service.scheduledEvents
            event.addition = [clock.now + addition.period] := by
      intro position again hagain hheap
      have hfields := (SchedulerService.rescheduled_eq_some hagain).1
      have hone := heapDue_eq_singleton hafter.distinct hheap
      rw [hfields] at hone
      rw [← htracks.next_eq hagree hdue position]
      exact hone
    constructor
    · intro hgrid position other hother hnumber hshould startAt hstart
      obtain ⟨hheap, -⟩ := hpopped hother
      obtain rfl := hsame other hheap hnumber
      have hagain : SchedulerService.rescheduled clock position other =
          some _ := if_pos hshould
      have hkept := (SchedulerService.mem_fireReadyEvents_iff hcoupled clock
        ties).mpr (.inr ⟨position, other, hother, hagain⟩)
      rw [htracks.schedule] at hstart
      have hall := hgrid addition startAt haddition hstart
      rw [htimes, hassigned hagain hkept] at hall
      exact (hnext startAt hstart).mp hall
    · intro hcondition other startAt hother hstart
      obtain rfl : addition = other :=
        Option.some.inj (haddition.symm.trans hother)
      rw [htimes]
      by_cases hkept : ∃ again ∈
          (self.pass clock ties).service.scheduledEvents,
            again.addition = event.addition
      · obtain ⟨again, hheap, hnumber⟩ := hkept
        rcases (SchedulerService.mem_fireReadyEvents_iff hcoupled clock
          ties).mp hheap with ⟨hold, hlater⟩ |
            ⟨position, before, hposition, hagain⟩
        · obtain rfl := hsame again hold hnumber
          omega
        · obtain ⟨hold, -⟩ := hpopped hposition
          obtain rfl := hsame before hold (by
            rw [← hnumber, (SchedulerService.rescheduled_eq_some hagain).1])
          have hshould : SchedulerService.shouldReschedule
              { before with occurrenceCount := before.occurrenceCount + 1 }
              (clock.endUtc position) = true := by
            by_contra hended
            rw [SchedulerService.rescheduled, if_neg hended] at hagain
            cases hagain
          rw [hassigned hagain hheap]
          refine (hnext startAt hstart).mpr ?_
          rw [← htracks.schedule] at hstart
          exact hcondition position before hposition rfl hshould startAt hstart
      · rw [heapDue_eq_nil fun again hheap hnumber =>
          hkept ⟨again, hheap, hnumber⟩, List.append_nil]
        exact hschedule addition startAt haddition hstart
  · have hnone : ∀ event ∈ self.service.scheduledEvents,
        event.addition = number → clock.now < event.nextFireTime :=
      fun event hmem hnumber =>
        not_le.mp fun hdue => hsome ⟨event, hmem, hnumber, hdue⟩
    refine iff_of_true (hschedule.of_sublist rfl
      (dueTimes_pass_of_not_due hcoupled hhistory ties hafter hnone)) ?_
    intro position event hevent hnumber
    obtain ⟨hheap, hdue⟩ := hpopped hevent
    exact absurd hdue (not_le.mpr (hnone event hheap hnumber))

theorem onSchedule_step_iff {offset : ℤ} {number : ℕ} {self : Loop}
    {event : LoopEvent} (hcoupled : self.service.Coupled)
    (hhistory : History offset self) (hagree : event.Agrees offset)
    (hschedule : OnSchedule offset number self) :
    OnSchedule offset number (self.step event) ↔
      KeepsGrid offset number self event := by
  unfold Loop.step
  cases hrunning : self.running with
  | false =>
      refine iff_of_true hschedule ?_
      cases event with
      | command clock command =>
          cases command with
          | addScheduledEvent workOrderId handler schedule =>
              intro hgoes
              rw [hrunning] at hgoes
              cases hgoes
          | removeWorkOrder workOrderId => trivial
          | stop => trivial
      | closed => trivial
      | timeout clock ties =>
          intro hgoes
          rw [hrunning] at hgoes
          cases hgoes
  | true =>
      simp only [if_true]
      cases event with
      | command clock command =>
          cases command with
          | addScheduledEvent workOrderId handler schedule =>
              simp only [Loop.handleCommand, KeepsGrid, hrunning, true_implies]
              cases hvalid : validateSchedule self.service.config
                clock.validated schedule with
              | error e =>
                  exact iff_of_true hschedule fun _ hok => by cases hok
              | ok _ =>
                  simp only [true_implies]
                  exact onSchedule_added_iff hhistory hschedule hagree
                    workOrderId handler schedule
          | removeWorkOrder workOrderId =>
              refine iff_of_true (hschedule.of_sublist rfl ?_) trivial
              exact (heapDue_sublist List.filter_sublist number).append_left _
          | stop => exact iff_of_true hschedule trivial
      | closed => exact iff_of_true hschedule trivial
      | timeout clock ties =>
          simp only [KeepsGrid, hrunning, true_implies]
          exact onSchedule_pass_iff hcoupled hhistory hschedule hagree ties

/-! ## Runs -/

theorem onSchedule_new (offset : ℤ) (config : SchedulerConfig) (number : ℕ) :
    OnSchedule offset number (.new config) := by
  intro addition startAt haddition
  cases haddition

/-- The times assigned to an accepted schedule with a start are on its grid
throughout a run exactly when it was added in time and every pass that schedules
it again starts at a grid point. -/
theorem rate_on_grid_iff {offset : ℤ} (config : SchedulerConfig)
    {events : List LoopEvent} (hagree : ∀ event ∈ events, event.Agrees offset)
    (number : ℕ) :
    (∀ before, before <+: events →
        OnSchedule offset number ((Loop.new config).run before)) ↔
      Along Loop.step (KeepsGrid offset number) (Loop.new config) events := by
  have halong : Along Loop.step (fun _ event => event.Agrees offset)
      (Loop.new config) events :=
    along_of_forall fun _ event hmem => hagree event hmem
  refine (along_iff_initial_runs_of
    (fun self : Loop => self.service.Coupled ∧ History offset self)
    (OnSchedule offset number)
    ⟨Loop.run_coupled config [], history_new offset config⟩
    (onSchedule_new offset config number) halong ?_ ?_).symm
  · rintro self event ⟨hcoupled, hhistory⟩ hagrees
    have hchange := self.step_change event
    exact ⟨hchange.coupled hcoupled,
      hchange.history hcoupled hhistory hagrees⟩
  · rintro self event ⟨hcoupled, hhistory⟩ hagrees hschedule
    exact onSchedule_step_iff hcoupled hhistory hagrees hschedule

/-- Every 100 ms from the first second on. -/
def secondSchedule : Schedule :=
  .rate { RateMode.new 100 with startAt := some (millis 1000) }

def secondEvents (delay : ℕ) : List LoopEvent :=
  [.command (commandAt 0) (.addScheduledEvent "order" "tick" secondSchedule),
    .timeout (passAt (millis (1000 + delay))) fun _ => 0]

/-- A pass without delay. -/
theorem rate_on_grid_punctual :
    OnSchedule 0 0 ((Loop.new sampleConfig).run (secondEvents 0)) := by
  have hagree : ∀ event ∈ secondEvents 0, event.Agrees 0 := by
    simp [secondEvents, LoopEvent.Agrees, commandAt, passAt]
  refine (rate_on_grid_iff sampleConfig hagree 0).mpr ⟨?_, ?_, trivial⟩
    (secondEvents 0) List.prefix_rfl
  · intro _ _ _ startAt hstart
    obtain rfl := Option.some.inj hstart
    exact .inl (by decide)
  · intro _ position event hpopped _ _ startAt hstart
    have hschedule : event.schedule = secondSchedule := by
      have hall : ∀ popped ∈ (((Loop.new sampleConfig).step
          (.command (commandAt 0) (.addScheduledEvent "order" "tick"
            secondSchedule))).service.popped (passAt (millis 1000))
              fun _ => 0), popped.schedule = secondSchedule := by
        decide +kernel
      exact hall event (List.mem_of_getElem? hpopped)
    rw [hschedule] at hstart ⊢
    obtain rfl := Option.some.inj hstart
    exact ⟨0, by decide⟩

/-- A pass 5 ms late moves the next time off the grid. -/
theorem rate_off_grid_late :
    (∀ event ∈ secondEvents 5, event.Agrees 0) ∧
    ((Loop.new sampleConfig).run (secondEvents 5)).additions[0]? =
        some ⟨commandAt 0, "order", "tick", secondSchedule⟩ ∧
      ¬ OnSchedule 0 0 ((Loop.new sampleConfig).run (secondEvents 5)) := by
  refine ⟨by simp [secondEvents, LoopEvent.Agrees, commandAt, passAt],
    by decide +kernel, fun hschedule => ?_⟩
  have htimes : dueTimes ((Loop.new sampleConfig).run (secondEvents 5)) 0 =
      [millis 1000, millis 1105] := by decide +kernel
  have hgrid := hschedule ⟨commandAt 0, "order", "tick", secondSchedule⟩
    (millis 1000) (by decide +kernel) rfl
  rw [htimes] at hgrid
  have hlate : (0 : ℤ) + (millis 1105 : ℤ) ∈
      [millis 1000, millis 1105].map fun due : ℕ => (0 : ℤ) + (due : ℤ) := by
    simp
  obtain ⟨place, hplace⟩ := hgrid.exists_place hlate
  simp only [millis, Addition.period, secondSchedule, Schedule.rateMode,
    RateMode.new] at hplace
  push_cast at hplace
  omega

end NxccBridge.Scheduler
