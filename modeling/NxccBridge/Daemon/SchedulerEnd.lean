import NxccBridge.Daemon.SchedulerCommands
import NxccBridge.Daemon.SchedulerGrid

/-!
# The end of a schedule

The end is looked at when an event is scheduled again, not when it fires: a pass
before the end may set a due time after it.  Such a schedule ends in time only
when it is removed before a pass comes to that due time.
-/

namespace NxccBridge.Scheduler

open NxccBridge.Interface
open NxccBridge.Runs

/-- No firing of the addition comes at its end or later. -/
def EndsInTime (offset : ℤ) (number : ℕ) (addition : Addition)
    (loop : Loop) : Prop :=
  ∀ endAt, addition.schedule.rateMode.endAt = some endAt →
    ∀ firing ∈ firingsOf loop.firings number, offset + firing.time < endAt

/-- The due times that a step sets for the addition: the first one when it is
accepted, and one more when a pass takes its event from the heap with
occurrences left and reads a time before its end. -/
inductive Sets (number : ℕ) (addition : Addition) (self : Loop) :
    LoopEvent → ℕ → Prop
  | first (hnumber : self.additions.length = number)
      (hvalid : validateSchedule self.service.config addition.clock.validated
        addition.schedule = .ok ()) :
      Sets number addition self
        (.command addition.clock (.addScheduledEvent addition.workOrderId
          addition.handler addition.schedule))
        (calculateNextFireTime addition.schedule addition.clock.now
          addition.clock.nowUtc)
  | next {clock : PassClock} {ties : ℕ → ℕ} {position : ℕ}
      {event : ScheduledEvent}
      (hpopped : (self.service.popped clock ties)[position]? = some event)
      (hnumber : event.addition = number)
      (hleft : ∀ max,
        addition.schedule.rateMode.maxOccurrences = some max →
          event.occurrenceCount + 1 < max)
      (hahead : ∀ endAt, addition.schedule.rateMode.endAt = some endAt →
        clock.endUtc position < endAt) :
      Sets number addition self (.timeout clock ties)
        (calculateNextFireTime addition.schedule clock.now
          (clock.nowUtc position))

/-- The first pass at the due time or later, if the work order is not removed
before it. -/
def nextPass (workOrderId : WorkOrderId) (due : ℕ) :
    List LoopEvent → Option PassClock
  | [] => none
  | .command _ (.removeWorkOrder removed) :: later =>
      if removed = workOrderId then none else nextPass workOrderId due later
  | .command _ (.addScheduledEvent ..) :: later
  | .command _ .stop :: later => nextPass workOrderId due later
  | .closed :: _ => none
  | .timeout clock _ :: later =>
      if due ≤ clock.now then some clock else nextPass workOrderId due later

/-- A due time at the end or later is never come to, and an earlier one not
too late. -/
structure InTime (offset endAt : ℤ) (workOrderId : WorkOrderId) (due : ℕ)
    (later : List LoopEvent) : Prop where
  after : endAt ≤ offset + due → nextPass workOrderId due later = none
  before : offset + due < endAt → ∀ pass,
    nextPass workOrderId due later = some pass → offset + pass.now < endAt

/-- Every due time that a step of the run sets for the addition is in time for
its end. -/
def DueInTime (offset : ℤ) (number : ℕ) (addition : Addition)
    (config : SchedulerConfig) (events : List LoopEvent) : Prop :=
  ∀ endAt, addition.schedule.rateMode.endAt = some endAt →
    ∀ before event later, events = before ++ event :: later →
      ((Loop.new config).run before).running = true →
        ∀ due, Sets number addition ((Loop.new config).run before) event due →
          InTime offset endAt addition.workOrderId due later

theorem nextPass_due {workOrderId : WorkOrderId} {due : ℕ}
    {later : List LoopEvent} {pass : PassClock}
    (hpass : nextPass workOrderId due later = some pass) : due ≤ pass.now := by
  induction later with
  | nil => cases hpass
  | cons event later ih =>
      cases event with
      | command clock command =>
          cases command with
          | addScheduledEvent => exact ih hpass
          | removeWorkOrder removed =>
              rw [nextPass] at hpass
              split_ifs at hpass
              exact ih hpass
          | stop => exact ih hpass
      | closed => cases hpass
      | timeout clock ties =>
          rw [nextPass] at hpass
          split_ifs at hpass with hdue
          · exact Option.some.inj hpass ▸ hdue
          · exact ih hpass

/-- Both cases speak of the pass that comes to the due time. -/
theorem inTime_iff {offset endAt : ℤ} {workOrderId : WorkOrderId} {due : ℕ}
    {later : List LoopEvent} :
    InTime offset endAt workOrderId due later ↔
      ∀ pass, nextPass workOrderId due later = some pass →
        offset + pass.now < endAt := by
  constructor
  · intro hin pass hpass
    rcases lt_or_ge (offset + (due : ℤ)) endAt with hbefore | hafter
    · exact hin.before hbefore pass hpass
    · rw [hin.after hafter] at hpass
      cases hpass
  · intro hall
    refine ⟨fun hafter => ?_, fun _ => hall⟩
    by_contra hsome
    obtain ⟨pass, hpass⟩ := Option.ne_none_iff_exists'.mp hsome
    have hearly := hall pass hpass
    have hdue := nextPass_due hpass
    omega

/-! ## What the heap waits for -/

/-- The event is that of its addition. -/
def Stems (additions : List Addition) (event : ScheduledEvent) : Prop :=
  ∃ addition, additions[event.addition]? = some addition ∧
    event.workOrderId = addition.workOrderId ∧
    event.schedule = addition.schedule

theorem getElem?_of_prefix {before after : List Addition}
    (hgrows : before <+: after) {number : ℕ} {addition : Addition}
    (haddition : before[number]? = some addition) :
    after[number]? = some addition := by
  obtain ⟨later, rfl⟩ := hgrows
  have hlt := (List.getElem?_eq_some_iff.mp haddition).1
  rwa [List.getElem?_append_left hlt]

theorem Loop.Change.additions_grow {self after : Loop} {event : LoopEvent}
    (hchange : self.Change event after) :
    self.additions <+: after.additions := by
  cases hchange with
  | quiet hservice hadditions => rw [hadditions]
  | added => exact List.prefix_append _ _
  | removed => exact List.prefix_refl _
  | passed => exact List.prefix_refl _

theorem run_additions_grow (self : Loop) (events : List LoopEvent) :
    self.additions <+: (self.run events).additions :=
  run_always (fun after : Loop => self.additions <+: after.additions) events
    (List.prefix_refl _) fun state event hgrows =>
      hgrows.trans (state.step_change event).additions_grow

theorem Loop.Change.stems {self after : Loop} {event : LoopEvent}
    (hchange : self.Change event after) (hcoupled : self.service.Coupled)
    (hstems : ∀ waiting ∈ self.service.scheduledEvents,
      Stems self.additions waiting) :
    ∀ waiting ∈ after.service.scheduledEvents,
      Stems after.additions waiting := by
  have hgrows := hchange.additions_grow
  have hkept : ∀ waiting ∈ self.service.scheduledEvents,
      Stems after.additions waiting := by
    intro waiting hmem
    obtain ⟨addition, haddition, hsame⟩ := hstems waiting hmem
    exact ⟨addition, getElem?_of_prefix hgrows haddition, hsame⟩
  intro waiting hmem
  cases hchange with
  | quiet hservice => exact hkept waiting (hservice ▸ hmem)
  | added clock workOrderId handler schedule hvalid =>
      rcases List.mem_append.mp hmem with hmem | hmem
      · exact hkept waiting hmem
      · obtain rfl := List.mem_singleton.mp hmem
        exact ⟨_, List.getElem?_concat_length, rfl, rfl⟩
  | removed clock workOrderId =>
      exact hkept waiting (List.mem_of_mem_filter hmem)
  | passed clock ties =>
      rcases (SchedulerService.mem_fireReadyEvents_iff hcoupled clock ties).mp
        hmem with ⟨hold, -⟩ | ⟨position, popped, hpopped, hagain⟩
      · exact hkept waiting hold
      · obtain ⟨hold, -⟩ :=
          SchedulerService.mem_popped_iff.mp (List.mem_of_getElem? hpopped)
        obtain ⟨rfl, -⟩ := SchedulerService.rescheduled_eq_some hagain
        exact hkept popped hold

theorem run_stems (config : SchedulerConfig) (events : List LoopEvent) :
    ∀ waiting ∈ ((Loop.new config).run events).service.scheduledEvents,
      Stems ((Loop.new config).run events).additions waiting := by
  have hboth := run_always (fun self : Loop => self.service.Coupled ∧
      ∀ waiting ∈ self.service.scheduledEvents, Stems self.additions waiting)
    events ⟨Loop.run_coupled config [], by simp [Loop.new,
      SchedulerService.new]⟩ (by
      rintro self event ⟨hcoupled, hstems⟩
      have hchange := self.step_change event
      exact ⟨hchange.coupled hcoupled, hchange.stems hcoupled hstems⟩)
  exact hboth.2

/-- An event with occurrences left whose end is ahead is scheduled again. -/
theorem rescheduled_of_ahead {clock : PassClock} {position : ℕ}
    {event : ScheduledEvent}
    (hleft : ∀ max, event.schedule.rateMode.maxOccurrences = some max →
      event.occurrenceCount + 1 < max)
    (hahead : ∀ endAt, event.schedule.rateMode.endAt = some endAt →
      clock.endUtc position < endAt) :
    SchedulerService.rescheduled clock position event = some { event with
      occurrenceCount := event.occurrenceCount + 1
      nextFireTime := calculateNextFireTime event.schedule clock.now
        (clock.nowUtc position) } := by
  rw [SchedulerService.rescheduled, if_pos]
  cases hschedule : event.schedule with
  | rate rateMode =>
      simp only [hschedule, Schedule.rateMode] at hleft hahead
      simp only [SchedulerService.shouldReschedule, Bool.and_eq_true,
        Bool.not_eq_true', Option.any_eq_false, decide_eq_false_iff_not,
        not_le]
      exact ⟨hleft, hahead⟩

/-- A due time that is set is that of an event in the heap. -/
theorem Sets.waits {number : ℕ} {addition : Addition} {self : Loop}
    {event : LoopEvent} {due : ℕ} (hsets : Sets number addition self event due)
    (hrunning : self.running = true) (hcoupled : self.service.Coupled)
    (hstems : ∀ waiting ∈ self.service.scheduledEvents,
      Stems self.additions waiting)
    (hown : ∀ other, self.additions[number]? = some other →
      other = addition) :
    (self.step event).running = true ∧
      ∃ waiting ∈ (self.step event).service.scheduledEvents,
        waiting.addition = number ∧
          waiting.workOrderId = addition.workOrderId ∧
          waiting.nextFireTime = due := by
  cases hsets with
  | first hnumber hvalid =>
      refine ⟨running_step hrunning _, ?_⟩
      rw [step_command hrunning]
      simp only [Loop.handleCommand, hvalid]
      exact ⟨_, List.mem_append_right _ (List.mem_singleton_self _), hnumber,
        rfl, rfl⟩
  | @next clock ties position popped hpopped hnumber hleft hahead =>
      refine ⟨running_step hrunning _, ?_⟩
      obtain ⟨hold, -⟩ :=
        SchedulerService.mem_popped_iff.mp (List.mem_of_getElem? hpopped)
      obtain ⟨other, hother, hid, hschedule⟩ := hstems popped hold
      obtain rfl := hown other (hnumber ▸ hother)
      rw [← hschedule] at hleft hahead ⊢
      have hagain := rescheduled_of_ahead hleft hahead
      rw [step_timeout hrunning]
      exact ⟨_, (SchedulerService.mem_fireReadyEvents_iff hcoupled clock
        ties).mpr (.inr ⟨position, popped, hpopped, hagain⟩), hnumber, hid, rfl⟩

/-- The pass that comes to the due time of an event in the heap fires it. -/
theorem fired_of_nextPass {waiting : ScheduledEvent} {pass : PassClock}
    {later : List LoopEvent} {self : Loop} (hrunning : self.running = true)
    (hcoupled : self.service.Coupled)
    (hmem : waiting ∈ self.service.scheduledEvents)
    (hpass : nextPass waiting.workOrderId waiting.nextFireTime later =
      some pass) :
    ⟨pass.now, waiting⟩ ∈ (self.run later).firings := by
  induction later generalizing self with
  | nil => cases hpass
  | cons event later ih =>
      have hnext := (self.step_change event).coupled hcoupled
      have hgoes := running_step hrunning event
      rw [Loop.run, run_cons]
      cases event with
      | command clock command =>
          rw [step_command hrunning] at hnext hgoes ⊢
          cases command with
          | addScheduledEvent workOrderId handler schedule =>
              refine ih hgoes hnext ?_ hpass
              rw [Loop.handleCommand]
              split
              · exact hmem
              · exact List.mem_append_left _ hmem
          | removeWorkOrder removed =>
              rw [nextPass] at hpass
              split_ifs at hpass with hother
              refine ih hgoes hnext (List.mem_filter.mpr ⟨hmem, ?_⟩) hpass
              simpa using Ne.symm hother
          | stop => exact ih hgoes hnext hmem hpass
      | closed => cases hpass
      | timeout clock ties =>
          rw [nextPass] at hpass
          split_ifs at hpass with hdue
          · obtain rfl := Option.some.inj hpass
            have hfired : ⟨clock.now, waiting⟩ ∈
                self.fired (.timeout clock ties) :=
              (Loop.mem_fired_iff hcoupled).mpr
                ⟨clock, ties, rfl, hrunning, hmem, hdue, rfl⟩
            have hstep : ⟨clock.now, waiting⟩ ∈
                (self.step (.timeout clock ties)).firings := by
              rw [self.step_firings]
              exact List.mem_append_right _ hfired
            have hkept := run_firings_prefix (self.step (.timeout clock ties))
              later
            exact hkept.subset hstep
          · refine ih hgoes hnext ?_ hpass
            rw [step_timeout hrunning]
            exact (SchedulerService.mem_fireReadyEvents_iff hcoupled clock
              ties).mpr (.inl ⟨hmem, not_le.mp hdue⟩)

/-- The due time of the event was set by a step of the run, and no pass came to
it since. -/
def SetEarlier (config : SchedulerConfig) (addition : Addition)
    (waiting : ScheduledEvent) (events : List LoopEvent) : Prop :=
  ∃ before event between, events = before ++ event :: between ∧
    ((Loop.new config).run before).running = true ∧
    Sets waiting.addition addition ((Loop.new config).run before) event
      waiting.nextFireTime ∧
    ∀ later,
      nextPass addition.workOrderId waiting.nextFireTime (between ++ later) =
        nextPass addition.workOrderId waiting.nextFireTime later

theorem SetEarlier.concat {config : SchedulerConfig} {addition : Addition}
    {waiting : ScheduledEvent} {events : List LoopEvent} {last : LoopEvent}
    (hset : SetEarlier config addition waiting events)
    (hskipped : ∀ later,
      nextPass addition.workOrderId waiting.nextFireTime (last :: later) =
        nextPass addition.workOrderId waiting.nextFireTime later) :
    SetEarlier config addition waiting (events ++ [last]) := by
  obtain ⟨before, event, between, rfl, hrunning, hsets, hsame⟩ := hset
  refine ⟨before, event, between ++ [last], by simp, hrunning, hsets, ?_⟩
  intro later
  rw [List.append_assoc, hsame, List.singleton_append, hskipped]

theorem setEarlier_of_last {config : SchedulerConfig} {addition : Addition}
    {waiting : ScheduledEvent} {events : List LoopEvent} {last : LoopEvent}
    (hrunning : ((Loop.new config).run events).running = true)
    (hsets : Sets waiting.addition addition ((Loop.new config).run events) last
      waiting.nextFireTime) :
    SetEarlier config addition waiting (events ++ [last]) :=
  ⟨events, last, [], rfl, hrunning, hsets, fun _ => rfl⟩

/-- The event was in the heap before the step, and the step makes no pass at its
due time. -/
structure PassedOver (addition : Addition) (waiting : ScheduledEvent)
    (before : Loop) (event : LoopEvent) : Prop where
  mem : waiting ∈ before.service.scheduledEvents
  stems : before.additions[waiting.addition]? = some addition
  nextPass_eq : ∀ later,
    nextPass addition.workOrderId waiting.nextFireTime (event :: later) =
      nextPass addition.workOrderId waiting.nextFireTime later

/-- An event in the heap after a step was there before, or the step set its due
time. -/
theorem passedOver_or_sets {self : Loop} (hrunning : self.running = true)
    (hcoupled : self.service.Coupled)
    (hstems : ∀ waiting ∈ self.service.scheduledEvents,
      Stems self.additions waiting) {event : LoopEvent}
    (hgoes : (self.step event).running = true) {waiting : ScheduledEvent}
    (hmem : waiting ∈ (self.step event).service.scheduledEvents)
    {addition : Addition}
    (haddition : (self.step event).additions[waiting.addition]? =
      some addition) :
    PassedOver addition waiting self event ∨
      Sets waiting.addition addition self event waiting.nextFireTime := by
  have hgrows := (self.step_change event).additions_grow
  have hstem : waiting ∈ self.service.scheduledEvents →
      self.additions[waiting.addition]? = some addition ∧
        waiting.workOrderId = addition.workOrderId := by
    intro hbefore
    obtain ⟨other, hother, hid, -⟩ := hstems waiting hbefore
    have hsame := getElem?_of_prefix hgrows hother
    obtain rfl := Option.some.inj (hsame.symm.trans haddition)
    exact ⟨hother, hid⟩
  cases event with
  | command clock command =>
      rw [step_command hrunning] at hmem haddition
      cases command with
      | addScheduledEvent workOrderId handler schedule =>
          simp only [Loop.handleCommand] at hmem haddition
          split at hmem
          · exact .inl ⟨hmem, (hstem hmem).1, fun _ => rfl⟩
          next hvalid =>
            rcases List.mem_append.mp hmem with hbefore | hadded
            · exact .inl ⟨hbefore, (hstem hbefore).1, fun _ => rfl⟩
            · obtain rfl := List.mem_singleton.mp hadded
              simp only [hvalid] at haddition
              obtain rfl := Option.some.inj
                (List.getElem?_concat_length.symm.trans haddition)
              exact .inr (.first rfl hvalid)
      | removeWorkOrder removed =>
          obtain ⟨hbefore, hother⟩ := List.mem_filter.mp hmem
          refine .inl ⟨hbefore, (hstem hbefore).1, fun later => ?_⟩
          rw [nextPass, if_neg]
          rw [← (hstem hbefore).2]
          exact Ne.symm (of_decide_eq_true hother)
      | stop => exact .inl ⟨hmem, (hstem hmem).1, fun _ => rfl⟩
  | closed =>
      rw [running_step hrunning] at hgoes
      cases hgoes
  | timeout clock ties =>
      rw [step_timeout hrunning] at hmem
      rcases (SchedulerService.mem_fireReadyEvents_iff hcoupled clock
        ties).mp hmem with ⟨hbefore, hlater⟩ |
          ⟨position, popped, hpopped, hagain⟩
      · refine .inl ⟨hbefore, (hstem hbefore).1, fun later => ?_⟩
        rw [nextPass, if_neg (not_le.mpr hlater)]
      · obtain ⟨hbefore, -⟩ :=
          SchedulerService.mem_popped_iff.mp (List.mem_of_getElem? hpopped)
        obtain ⟨rfl, hleft, hahead⟩ :=
          SchedulerService.rescheduled_eq_some hagain
        obtain ⟨other, hother, -, hschedule⟩ := hstems popped hbefore
        have hsame := getElem?_of_prefix hgrows hother
        obtain rfl := Option.some.inj (hsame.symm.trans haddition)
        right
        rw [hschedule] at hleft hahead
        simp only [hschedule]
        exact .next hpopped rfl hleft hahead

theorem running_of_step {self : Loop} {event : LoopEvent}
    (hgoes : (self.step event).running = true) : self.running = true := by
  by_contra hstopped
  rw [Bool.not_eq_true] at hstopped
  rw [step_of_not_running hstopped, hstopped] at hgoes
  cases hgoes

theorem setEarlier_of_mem (config : SchedulerConfig) {events : List LoopEvent}
    (hrunning : ((Loop.new config).run events).running = true)
    {waiting : ScheduledEvent}
    (hmem : waiting ∈ ((Loop.new config).run events).service.scheduledEvents)
    {addition : Addition}
    (haddition : ((Loop.new config).run events).additions[waiting.addition]? =
      some addition) :
    SetEarlier config addition waiting events := by
  induction events using List.reverseRecOn with
  | nil => cases hmem
  | append_singleton events last ih =>
      rw [Loop.run, run_concat] at hrunning hmem haddition
      have hbefore := running_of_step hrunning
      rcases passedOver_or_sets hbefore (Loop.run_coupled config events)
        (run_stems config events) hrunning hmem haddition with
          hpassed | hsets
      · have hset := ih hbefore hpassed.mem hpassed.stems
        exact hset.concat hpassed.nextPass_eq
      · exact setEarlier_of_last hbefore hsets

/-! ## Firings before the end -/

/-- An accepted schedule fires only before its end exactly when every due time
that is set for it is in time: the end is looked at when a due time is set, and
the due time may lie behind it. -/
theorem endAt_respected_iff (offset : ℤ) (config : SchedulerConfig)
    (events : List LoopEvent) (number : ℕ) (addition : Addition) :
    ((Loop.new config).run events).additions[number]? = some addition →
      (EndsInTime offset number addition ((Loop.new config).run events) ↔
        DueInTime offset number addition config events) := by
  intro haddition
  have hown : ∀ before later, events = before ++ later → ∀ other,
      ((Loop.new config).run before).additions[number]? = some other →
        other = addition := by
    rintro before later rfl other hother
    have hgrows := run_additions_grow ((Loop.new config).run before) later
    rw [Loop.run, Loop.run, ← run_append] at hgrows
    have hsame := getElem?_of_prefix hgrows hother
    exact Option.some.inj (hsame.symm.trans haddition)
  constructor
  · rintro hends endAt hend before event later rfl hrunning due hsets
    rw [inTime_iff]
    intro pass hpass
    have hcoupled := Loop.run_coupled config before
    obtain ⟨hgoes, waiting, hmem, hnumber, hid, rfl⟩ := hsets.waits hrunning
      hcoupled (run_stems config before) (hown before _ rfl)
    have hnext :=
      (((Loop.new config).run before).step_change event).coupled hcoupled
    have hfired := fired_of_nextPass hgoes hnext hmem (hid ▸ hpass)
    rw [Loop.run, ← run_cons, Loop.run, ← run_append] at hfired
    exact hends endAt hend ⟨pass.now, waiting⟩
      (List.mem_filter.mpr ⟨hfired, by simpa using hnumber⟩)
  · intro hdue endAt hend firing hmem
    obtain ⟨hfiring, hnumber⟩ := List.mem_filter.mp hmem
    obtain ⟨before, clock, ties, later, hevents, hrunning, hheap, hpast, htime⟩ :=
      mem_firings_run_iff.mp hfiring
    obtain ⟨other, hother, -⟩ := run_stems config before firing.event hheap
    simp only [decide_eq_true_eq] at hnumber
    obtain rfl := hown before _ hevents other (hnumber ▸ hother)
    obtain ⟨earlier, event, between, rfl, hgoes, hsets, hsame⟩ :=
      setEarlier_of_mem config hrunning hheap hother
    rw [hnumber] at hsets
    have hin := inTime_iff.mp (hdue endAt hend earlier event
      (between ++ .timeout clock ties :: later) (by simp [hevents]) hgoes _
      hsets)
    rw [htime]
    refine hin clock ?_
    rw [hsame, nextPass, if_pos hpast]

/-- Every 100 ms, to stop 150 ms after the start of the clock. -/
def endingAddition : Addition where
  clock := commandAt 0
  workOrderId := "order"
  handler := "tick"
  schedule := .rate { RateMode.new 100 with endAt := some (millis 150) }

def endingEvents : List LoopEvent :=
  [.command (commandAt 0)
      (.addScheduledEvent "order" "tick" endingAddition.schedule),
    .timeout (passAt (millis 100)) fun _ => 0]

/-- Removed before the event is due again, the schedule ends in time. -/
theorem endAt_respected_removed :
    EndsInTime 0 0 endingAddition
      ((Loop.new sampleConfig).run (endingEvents ++
        [.command (commandAt (millis 120)) (.removeWorkOrder "order"),
          .timeout (passAt (millis 200)) fun _ => 0])) := by
  apply (endAt_respected_iff 0 sampleConfig _ 0 endingAddition
    (by decide +kernel)).mpr
  intro endAt hend before event later hevents _ due hsets
  obtain rfl : millis 150 = endAt := Option.some.inj hend
  rw [inTime_iff]
  intro pass hpass
  simp only [endingEvents, List.cons_append, List.nil_append] at hevents
  rcases before with _ | ⟨_, _ | ⟨_, _ | ⟨_, _ | ⟨_, before⟩⟩⟩⟩
  · -- due at 100 ms first, when a pass is made
    cases hevents
    cases hsets
    rw [nextPass, if_pos (by decide)] at hpass
    obtain rfl := Option.some.inj hpass
    decide
  · -- due at 200 ms next, after the removal
    cases hevents
    cases hpass
  · cases hevents
    cases hsets
  · cases hevents
    cases hpass
  · simp at hevents

/-- The pass that the loop makes after the first firing comes 50 ms after the
end, and fires. -/
theorem endAt_not_respected :
    ((Loop.new sampleConfig).run endingEvents).additions[0]? =
        some endingAddition ∧
      (millis 100 + waitDuration ((Loop.new sampleConfig).run
        endingEvents).service.nextFireTime (millis 100) ≤ millis 200) ∧
      ¬EndsInTime 0 0 endingAddition
        ((Loop.new sampleConfig).run (endingEvents ++
          [.timeout (passAt (millis 200)) fun _ => 0])) := by
  refine ⟨by decide +kernel, by decide +kernel, ?_⟩
  intro hends
  have htimes : (firingsOf ((Loop.new sampleConfig).run (endingEvents ++
      [.timeout (passAt (millis 200)) fun _ => 0])).firings 0).map
        Firing.time = [millis 100, millis 200] := by
    decide +kernel
  have hlast : millis 200 ∈ (firingsOf ((Loop.new sampleConfig).run
      (endingEvents ++ [.timeout (passAt (millis 200)) fun _ =>
        0])).firings 0).map Firing.time := by
    rw [htimes]
    simp
  obtain ⟨firing, hmem, htime⟩ := List.mem_map.mp hlast
  have hearly := hends (millis 150) rfl firing hmem
  rw [htime] at hearly
  exact absurd hearly (by decide)

end NxccBridge.Scheduler
