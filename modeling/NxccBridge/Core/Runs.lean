import Mathlib.Data.List.Basic
import Mathlib.Data.List.Induction

/-!
# Runs of a step function

The states that a step function goes through, what holds along a run whose steps
meet a condition on the state before them, and what a run adds to a log.
-/

namespace NxccBridge.Runs

variable {State Event Entry : Type*}

def run (step : State → Event → State) (init : State) (events : List Event) :
    State :=
  events.foldl step init

/-- Each event meets the condition in the state before it. -/
def Along (step : State → Event → State) (condition : State → Event → Prop) :
    State → List Event → Prop
  | _, [] => True
  | state, event :: rest =>
      condition state event ∧ Along step condition (step state event) rest

variable {step : State → Event → State} {condition : State → Event → Prop}

@[simp]
theorem run_nil (init : State) : run step init [] = init := rfl

@[simp]
theorem run_cons (init : State) (first : Event) (rest : List Event) :
    run step init (first :: rest) = run step (step init first) rest := rfl

theorem run_append (init : State) (before after : List Event) :
    run step init (before ++ after) = run step (run step init before) after :=
  List.foldl_append

@[simp]
theorem run_concat (init : State) (events : List Event) (last : Event) :
    run step init (events ++ [last]) = step (run step init events) last :=
  List.foldl_concat ..

theorem along_append {init : State} {before after : List Event} :
    Along step condition init (before ++ after) ↔
      Along step condition init before ∧
        Along step condition (run step init before) after := by
  induction before generalizing init with
  | nil => simp [Along]
  | cons first rest ih => simp [Along, ih, and_assoc]

theorem along_iff {init : State} {events : List Event} :
    Along step condition init events ↔
      ∀ before event after, events = before ++ event :: after →
        condition (run step init before) event := by
  constructor
  · rintro halong before event after rfl
    exact (along_append.mp halong).2.1
  · intro hall
    induction events generalizing init with
    | nil => trivial
    | cons first rest ih =>
        refine ⟨hall [] first rest rfl, ih fun before event after heq => ?_⟩
        exact hall (first :: before) event after (by rw [heq]; rfl)

theorem along_and {other : State → Event → Prop} {init : State}
    {events : List Event} :
    Along step (fun state event => condition state event ∧ other state event)
        init events ↔
      Along step condition init events ∧ Along step other init events := by
  induction events generalizing init with
  | nil => simp [Along]
  | cons first rest ih => simp only [Along, ih, and_and_and_comm]

theorem along_of_forall {init : State} {events : List Event}
    (hall : ∀ state, ∀ event ∈ events, condition state event) :
    Along step condition init events := by
  rw [along_iff]
  rintro before event after rfl
  exact hall _ event (by simp)

/-- What every step that meets the condition keeps holds in every state. -/
theorem run_invariant (invariant : State → Prop) {init : State}
    {events : List Event} (hinit : invariant init)
    (halong : Along step condition init events)
    (hstep : ∀ state event, invariant state → condition state event →
      invariant (step state event)) :
    invariant (run step init events) := by
  induction events generalizing init with
  | nil => exact hinit
  | cons first rest ih =>
      exact ih (hstep init first hinit halong.1) halong.2

/-- What every step keeps holds in every state. -/
theorem run_always (invariant : State → Prop) {init : State}
    (events : List Event) (hinit : invariant init)
    (hstep : ∀ state event, invariant state → invariant (step state event)) :
    invariant (run step init events) := by
  have halong : Along step (fun _ _ => True) init events :=
    along_of_forall fun _ _ _ => trivial
  exact run_invariant invariant hinit halong
    fun state event hinvariant _ => hstep state event hinvariant

/-- Where a step leads from a good state to a good one exactly if it meets the
condition, the states of a run are all good exactly if all its steps do. -/
theorem along_iff_initial_runs_of {assumed : State → Event → Prop}
    (invariant good : State → Prop) {init : State} {events : List Event}
    (hinit : invariant init) (hgood : good init)
    (hassumed : Along step assumed init events)
    (hinvariant : ∀ state event, invariant state → assumed state event →
      invariant (step state event))
    (hstep : ∀ state event, invariant state → assumed state event →
      good state → (good (step state event) ↔ condition state event)) :
    Along step condition init events ↔
      ∀ before, before <+: events → good (run step init before) := by
  induction events generalizing init with
  | nil =>
      refine ⟨fun _ before hbefore => ?_, fun _ => trivial⟩
      rw [List.prefix_nil.mp hbefore]
      exact hgood
  | cons first rest ih =>
      have hnext := hinvariant init first hinit hassumed.1
      rw [Along, ← hstep init first hinit hassumed.1 hgood]
      constructor
      · rintro ⟨hfirst, halong⟩ before hbefore
        rcases List.prefix_cons_iff.mp hbefore with rfl | ⟨tail, rfl, htail⟩
        · exact hgood
        · exact (ih hnext hfirst hassumed.2).mp halong tail htail
      · intro hall
        have hfirst : good (step init first) :=
          hall [first] (List.prefix_append [first] rest)
        refine ⟨hfirst, (ih hnext hfirst hassumed.2).mpr ?_⟩
        intro tail htail
        exact hall (first :: tail) ((List.prefix_cons_inj first).mpr htail)

theorem along_iff_initial_runs (invariant good : State → Prop) {init : State}
    {events : List Event} (hinit : invariant init) (hgood : good init)
    (hinvariant : ∀ state event, invariant state →
      invariant (step state event))
    (hstep : ∀ state event, invariant state → good state →
      (good (step state event) ↔ condition state event)) :
    Along step condition init events ↔
      ∀ before, before <+: events → good (run step init before) :=
  along_iff_initial_runs_of invariant good hinit hgood
    (along_of_forall fun _ _ _ => trivial)
    (fun state event hholds _ => hinvariant state event hholds)
    fun state event hholds (_ : True) => hstep state event hholds

/-- An entry of a log that only grows was added by one of the steps. -/
theorem mem_log_iff {log : State → List Entry}
    {emitted : State → Event → List Entry}
    (hlog : ∀ state event,
      log (step state event) = log state ++ emitted state event)
    {init : State} {events : List Event} {entry : Entry} :
    entry ∈ log (run step init events) ↔ entry ∈ log init ∨
      ∃ before event after, events = before ++ event :: after ∧
        entry ∈ emitted (run step init before) event := by
  induction events generalizing init with
  | nil => simp
  | cons first rest ih =>
      rw [run_cons, ih, hlog, List.mem_append, or_assoc]
      refine or_congr_right ⟨?_, ?_⟩
      · rintro (hfirst | ⟨before, event, after, rfl, hentry⟩)
        · exact ⟨[], first, rest, rfl, hfirst⟩
        · exact ⟨first :: before, event, after, rfl, hentry⟩
      · rintro ⟨before, event, after, heq, hentry⟩
        cases before with
        | nil =>
            obtain ⟨rfl, rfl⟩ := List.cons.inj heq
            exact Or.inl hentry
        | cons head before =>
            obtain ⟨rfl, rfl⟩ := List.cons.inj heq
            exact Or.inr ⟨before, event, after, rfl, hentry⟩

end NxccBridge.Runs
