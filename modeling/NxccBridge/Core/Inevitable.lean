import Mathlib.Data.Nat.Basic
import Mathlib.Logic.Function.Basic

/-!
# What a party reaches on its own

A party takes steps between which it does not wait for the others.  `ready` are the
steps that it can take in a state, and `may` the steps by which it can move at all,
among them those on which something fails.  A goal is inevitable where the party
gets there whichever of its steps it takes.
-/

namespace NxccBridge.Inevitable

variable {State : Type*}

/-- Every way to go on ends in the goal, and up to there one step is ready. -/
inductive Inevitably (ready may : State → State → Prop) (goal : State → Prop) :
    State → Prop
  | done {state : State} (hgoal : goal state) : Inevitably ready may goal state
  | next {state : State} (hready : ∃ later, ready state later)
      (hlater : ∀ later, may state later → Inevitably ready may goal later) :
      Inevitably ready may goal state

/-- No step is ready, and the goal is not reached. -/
def Stuck (ready : State → State → Prop) (goal : State → Prop)
    (state : State) : Prop :=
  ¬ goal state ∧ ∀ later, ¬ ready state later

variable {ready may : State → State → Prop} {goal : State → Prop}

theorem Inevitably.not_stuck {state : State}
    (hinevitable : Inevitably ready may goal state) :
    ¬ Stuck ready goal state := by
  rintro ⟨hgoal, hready⟩
  cases hinevitable with
  | done hdone => exact hgoal hdone
  | next hnext _ =>
      obtain ⟨later, hlater⟩ := hnext
      exact hready later hlater

/-- Where a measure falls with every step and some step is ready up to the goal,
the goal is inevitable. -/
theorem inevitable_of_measure (invariant : State → Prop) (measure : State → ℕ)
    (hready : ∀ state, invariant state → ¬ goal state →
      ∃ later, ready state later)
    (hmay : ∀ state later, invariant state → ¬ goal state →
      may state later →
        goal later ∨ invariant later ∧ measure later < measure state)
    {state : State} (hinvariant : invariant state) :
    Inevitably ready may goal state := by
  induction hbound : measure state using Nat.strong_induction_on
    generalizing state with
  | _ bound ih =>
      by_cases hgoal : goal state
      · exact .done hgoal
      refine .next (hready state hinvariant hgoal) fun later hlater => ?_
      rcases hmay state later hinvariant hgoal hlater with
        hdone | ⟨hkept, hless⟩
      · exact .done hdone
      · exact ih (measure later) (hbound ▸ hless) hkept rfl

/-- What the ready steps never leave, and what keeps the goal out, makes the goal
avoidable. -/
theorem not_inevitable_of_trap (trap : State → Prop)
    (hgoal : ∀ state, trap state → ¬ goal state)
    (hincluded : ∀ state later, ready state later → may state later)
    (hstep : ∀ state later, trap state → ready state later → trap later)
    {state : State} (htrap : trap state) :
    ¬ Inevitably ready may goal state := by
  intro hinevitable
  induction hinevitable with
  | done hdone => exact hgoal _ htrap hdone
  | next hnext _ ih =>
      obtain ⟨later, hlater⟩ := hnext
      exact ih later (hincluded _ _ hlater) (hstep _ _ htrap hlater)

end NxccBridge.Inevitable
