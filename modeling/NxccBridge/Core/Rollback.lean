import Mathlib.Data.List.Pairwise
import NxccBridge.Core.Runs

/-!
# Nested calls with rollback

A component whose calls may hand control to foreign code, which may call it
again before it returns.  Each suspended call remembers the state to which a
revert returns and what is left to do; a revert undoes the call and everything
that happened inside it.
-/

namespace NxccBridge.Rollback

open NxccBridge.Runs

variable {State Call Pending : Type*}

/-- The present state, and the suspended calls, innermost first. -/
structure Machine (State Pending : Type*) where
  current : State
  suspended : List (State × Pending)

inductive Step (Call : Type*)
  | call (call : Call)
  | returns
  | reverts
  deriving DecidableEq

/-- What a component does: a call fails, completes, or is suspended with
something left to do when the foreign code returns. -/
structure Component (State Call Pending : Type*) where
  start : State → Call → Option (State × Option Pending)
  resume : State → Pending → State

variable (component : Component State Call Pending)

def Machine.new (init : State) : Machine State Pending where
  current := init
  suspended := []

/-- One step.  A call that fails changes nothing, whether or not its caller goes
on; without a suspended call there is nothing to return from. -/
def Machine.step (machine : Machine State Pending) :
    Step Call → Machine State Pending
  | .call call =>
      match component.start machine.current call with
      | none => machine
      | some (state, none) => { machine with current := state }
      | some (state, some pending) => {
          current := state
          suspended := (machine.current, pending) :: machine.suspended }
  | .returns =>
      match machine.suspended with
      | [] => machine
      | (_, pending) :: rest => {
          current := component.resume machine.current pending
          suspended := rest }
  | .reverts =>
      match machine.suspended with
      | [] => machine
      | (saved, _) :: rest => { current := saved, suspended := rest }

/-- The machine after a list of steps, oldest first. -/
def execute (init : State) (steps : List (Step Call)) :
    Machine State Pending :=
  run (Machine.step component) (Machine.new init) steps

variable {component}

/-- The invariant holds of the present state and of every state to which a
revert may return. -/
def Machine.Satisfies (invariant : State → Prop)
    (machine : Machine State Pending) : Prop :=
  invariant machine.current ∧ ∀ frame ∈ machine.suspended, invariant frame.1

theorem Machine.Satisfies.step {invariant : State → Prop}
    {machine : Machine State Pending} (hmachine : machine.Satisfies invariant)
    (hstart : ∀ state call after pending, invariant state →
      component.start state call = some (after, pending) → invariant after)
    (hresume : ∀ state pending, invariant state →
      invariant (component.resume state pending))
    (event : Step Call) :
    (machine.step component event).Satisfies invariant := by
  obtain ⟨hcurrent, hsaved⟩ := hmachine
  cases event with
  | call call =>
      unfold Machine.step
      dsimp only
      split
      · exact ⟨hcurrent, hsaved⟩
      · rename_i state heq
        exact ⟨hstart _ _ _ _ hcurrent heq, hsaved⟩
      · rename_i state pending heq
        refine ⟨hstart _ _ _ _ hcurrent heq, ?_⟩
        intro frame hmem
        cases List.mem_cons.mp hmem with
        | inl hnew =>
            rw [hnew]
            exact hcurrent
        | inr hold => exact hsaved frame hold
  | returns =>
      unfold Machine.step
      cases hsuspended : machine.suspended with
      | nil => exact ⟨hcurrent, hsaved⟩
      | cons frame rest =>
          refine ⟨hresume _ _ hcurrent, ?_⟩
          intro other hmem
          apply hsaved other
          rw [hsuspended]
          exact List.mem_cons_of_mem _ hmem
  | reverts =>
      unfold Machine.step
      cases hsuspended : machine.suspended with
      | nil => exact ⟨hcurrent, hsaved⟩
      | cons frame rest =>
          constructor
          · apply hsaved frame
            rw [hsuspended]
            exact List.mem_cons_self
          · intro other hmem
            apply hsaved other
            rw [hsuspended]
            exact List.mem_cons_of_mem _ hmem

/-- What calls and continuations keep holds after every list of steps. -/
theorem execute_satisfies {invariant : State → Prop} {init : State}
    (hinit : invariant init)
    (hstart : ∀ state call after pending, invariant state →
      component.start state call = some (after, pending) → invariant after)
    (hresume : ∀ state pending, invariant state →
      invariant (component.resume state pending))
    (steps : List (Step Call)) :
    (execute component init steps).Satisfies invariant := by
  apply run_always (Machine.Satisfies invariant) steps
  · exact ⟨hinit, by simp [Machine.new]⟩
  · intro machine event hmachine
    exact hmachine.step hstart hresume event

/-- The present state and the states to which reverts return, newest first, are
ordered by what calls and continuations do to a state. -/
def Machine.Ordered (before : State → State → Prop)
    (machine : Machine State Pending) : Prop :=
  (machine.current :: machine.suspended.map Prod.fst).Pairwise
    fun newer older => before older newer

theorem Machine.Ordered.advance {before : State → State → Prop}
    (htrans : ∀ first second third, before first second →
      before second third → before first third)
    {current after : State} {older : List State}
    (hordered : (current :: older).Pairwise fun newer old => before old newer)
    (hafter : before current after) :
    (after :: older).Pairwise fun newer old => before old newer := by
  rw [List.pairwise_cons] at hordered ⊢
  refine ⟨?_, hordered.2⟩
  intro old hmem
  exact htrans old current after (hordered.1 old hmem) hafter

theorem Machine.Ordered.step {before : State → State → Prop}
    (htrans : ∀ first second third, before first second →
      before second third → before first third)
    {machine : Machine State Pending} (hordered : machine.Ordered before)
    (hstart : ∀ state call after pending,
      component.start state call = some (after, pending) →
        before state after)
    (hresume : ∀ state pending, before state (component.resume state pending))
    (event : Step Call) : (machine.step component event).Ordered before := by
  unfold Machine.Ordered at hordered
  cases event with
  | call call =>
      unfold Machine.step
      dsimp only
      split
      · exact hordered
      · rename_i state heq
        exact Machine.Ordered.advance htrans hordered (hstart _ _ _ _ heq)
      · rename_i state pending heq
        have hnew := hstart _ _ _ _ heq
        apply List.pairwise_cons.mpr
        refine ⟨?_, hordered⟩
        intro old hmem
        cases List.mem_cons.mp hmem with
        | inl hcurrent =>
            rw [hcurrent]
            exact hnew
        | inr hold =>
            exact htrans old _ _ ((List.pairwise_cons.mp hordered).1 old hold)
              hnew
  | returns =>
      unfold Machine.step
      cases hsuspended : machine.suspended with
      | nil => exact hordered
      | cons frame rest =>
          rw [hsuspended, List.map_cons] at hordered
          have hrest : (machine.current :: rest.map Prod.fst).Pairwise
              fun newer old => before old newer :=
            hordered.sublist ((List.sublist_cons_self _ _).cons_cons _)
          exact Machine.Ordered.advance htrans hrest (hresume _ _)
  | reverts =>
      unfold Machine.step
      cases hsuspended : machine.suspended with
      | nil => exact hordered
      | cons frame rest =>
          rw [hsuspended, List.map_cons] at hordered
          exact (List.pairwise_cons.mp hordered).2

end NxccBridge.Rollback
