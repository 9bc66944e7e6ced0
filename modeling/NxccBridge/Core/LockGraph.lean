import Mathlib.Data.Fintype.Basic
import Mathlib.Data.Finite.Prod
import Mathlib.Logic.Function.Basic
import Mathlib.Logic.Relation
import Mathlib.Order.WellFounded
import Mathlib.Order.Fin.Basic

/-!
# Reader-writer locks and the wait-for graph

A task follows a path of lock operations, holding guards while it waits.  The
wait-for graph of a state relates a task to the holders of the lock it asks
for.  A rank that every nested request respects excludes cycles, and without a
cycle some unfinished task can move.
-/

namespace NxccBridge.LockGraph

open Function
open Relation

inductive Mode
  | read
  | write
  deriving DecidableEq

/-- Readers share, a writer excludes everybody. -/
def Mode.conflicts : Mode → Mode → Bool
  | .read, .read => false
  | _, _ => true

/-- One step of a path.  An `await` waits for no lock. -/
inductive Op (Lock : Type*)
  | acquire (lock : Lock) (mode : Mode)
  | release (lock : Lock)
  | await
  deriving DecidableEq

variable {Task Lock : Type*} [DecidableEq Task] [DecidableEq Lock]

abbrev Guards (Lock : Type*) := List (Lock × Mode)

/-- The guards held after an operation. -/
def Op.apply (held : Guards Lock) : Op Lock → Guards Lock
  | .acquire lock mode => (lock, mode) :: held
  | .release lock => held.filter fun guarded => guarded.1 ≠ lock
  | .await => held

/-- The guards a task holds and the operations it has left. -/
structure Thread (Lock : Type*) where
  held : Guards Lock
  path : List (Op Lock)

def Thread.advance (thread : Thread Lock) : Thread Lock :=
  match thread.path with
  | [] => thread
  | op :: path => { held := op.apply thread.held, path := path }

/-- The next operation asks for a lock that `holder` has in a conflicting
mode. -/
def Thread.blockedBy (thread holder : Thread Lock) : Bool :=
  match thread.path with
  | .acquire lock mode :: _ =>
      holder.held.any fun guarded =>
        guarded.1 == lock && mode.conflicts guarded.2
  | _ => false

abbrev State (Task Lock : Type*) := Task → Thread Lock

def WaitsFor (state : State Task Lock) (waiting holding : Task) : Prop :=
  (state waiting).blockedBy (state holding) = true

instance (state : State Task Lock) : DecidableRel (WaitsFor state) :=
  fun waiting holding =>
    inferInstanceAs (Decidable
      ((state waiting).blockedBy (state holding) = true))

/-- Some tasks wait for each other in a cycle. -/
def Deadlocked (state : State Task Lock) : Prop :=
  ∃ task, TransGen (WaitsFor state) task task

/-- The task has an operation left and waits for nobody. -/
def Enabled (state : State Task Lock) (task : Task) : Prop :=
  (state task).path ≠ [] ∧ ∀ other, ¬ WaitsFor state task other

instance [Fintype Task] (state : State Task Lock) (task : Task) :
    Decidable (Enabled state task) :=
  inferInstanceAs (Decidable (_ ∧ _))

def step (state : State Task Lock) (task : Task) : State Task Lock :=
  update state task (state task).advance

/-- States reached by steps of enabled tasks that `allowed` lets through. -/
def Reaches (allowed : State Task Lock → Task → Prop) :
    State Task Lock → State Task Lock → Prop :=
  ReflTransGen fun before after =>
    ∃ task, allowed before task ∧ Enabled before task ∧
      after = step before task

/-! ## Cycles and ranks -/

omit [DecidableEq Task] in
theorem exists_request_of_waitsFor {state : State Task Lock}
    {waiting holding : Task} (hwaits : WaitsFor state waiting holding) :
    ∃ lock mode path heldMode,
      (state waiting).path = .acquire lock mode :: path ∧
      (lock, heldMode) ∈ (state holding).held ∧
      mode.conflicts heldMode = true := by
  unfold WaitsFor Thread.blockedBy at hwaits
  split at hwaits
  · rename_i lock mode path hpath
    obtain ⟨⟨heldLock, heldMode⟩, hmem, hblocks⟩ := List.any_eq_true.mp hwaits
    rw [Bool.and_eq_true, beq_iff_eq] at hblocks
    obtain ⟨rfl, hconflicts⟩ := hblocks
    exact ⟨_, mode, path, heldMode, hpath, hmem, hconflicts⟩
  · cases hwaits

omit [DecidableEq Task] in
theorem waitsFor_of_request {state : State Task Lock} {waiting holding : Task}
    {lock : Lock} {mode heldMode : Mode} {path : List (Op Lock)}
    (hpath : (state waiting).path = .acquire lock mode :: path)
    (hheld : (lock, heldMode) ∈ (state holding).held)
    (hconflicts : mode.conflicts heldMode = true) :
    WaitsFor state waiting holding := by
  unfold WaitsFor Thread.blockedBy
  rw [hpath]
  exact List.any_eq_true.mpr ⟨_, hheld, by simp [hconflicts]⟩

/-- The rank of the lock a task asks for. -/
def level (rank : Lock → ℕ) (thread : Thread Lock) : ℕ :=
  match thread.path with
  | .acquire lock _ :: _ => rank lock
  | _ => 0

omit [DecidableEq Task] in
/-- No cycle where every request ranks above the guards held. -/
theorem not_deadlocked_of_rank {state : State Task Lock} (rank : Lock → ℕ)
    (hrank : ∀ task lock mode path,
      (state task).path = .acquire lock mode :: path →
        ∀ guarded ∈ (state task).held, rank guarded.1 < rank lock) :
    ¬ Deadlocked state := by
  have hstep : ∀ {first second third},
      WaitsFor state first second → WaitsFor state second third →
        level rank (state first) < level rank (state second) := by
    intro first second third hfirst hsecond
    obtain ⟨lock, _, _, heldMode, hpath, hheld, -⟩ :=
      exists_request_of_waitsFor hfirst
    obtain ⟨nextLock, _, _, _, hnextPath, -, -⟩ :=
      exists_request_of_waitsFor hsecond
    simpa [level, hpath, hnextPath] using
      hrank second _ _ _ hnextPath _ hheld
  have hchain : ∀ {first last}, TransGen (WaitsFor state) first last →
      ∀ {next}, WaitsFor state last next →
        level rank (state first) < level rank (state last) := by
    intro first last hpath
    induction hpath with
    | single hwaits => exact fun hnext => hstep hwaits hnext
    | tail _ hwaits ih =>
        exact fun hnext => lt_trans (ih hwaits) (hstep hwaits hnext)
  rintro ⟨task, hcycle⟩
  obtain ⟨next, hwaits, -⟩ := TransGen.head'_iff.mp hcycle
  exact absurd (hchain hcycle hwaits) (lt_irrefl _)

omit [DecidableEq Task] in
/-- Without a cycle some unfinished task can move, as long as finished ones
hold nothing. -/
theorem exists_enabled [Finite Task] {state : State Task Lock}
    (hfree : ¬ Deadlocked state)
    (hfinished : ∀ task, (state task).path = [] → (state task).held = [])
    (hleft : ∃ task, (state task).path ≠ []) :
    ∃ task, Enabled state task := by
  let behind : Task → Task → Prop := fun holding waiting =>
    TransGen (WaitsFor state) waiting holding
  have htrans : IsTrans Task behind :=
    ⟨fun _ _ _ hleft hright => TransGen.trans hright hleft⟩
  have hirrefl : Std.Irrefl behind := ⟨fun task hcycle => hfree ⟨task, hcycle⟩⟩
  have hwf : WellFounded behind := Finite.wellFounded_of_trans_of_irrefl behind
  -- a task that waits for no unfinished one waits for nobody
  obtain ⟨task, hunfinished, hlast⟩ :=
    hwf.has_min {task | (state task).path ≠ []} hleft
  refine ⟨task, hunfinished, fun other hwaits => ?_⟩
  obtain ⟨lock, _, _, heldMode, -, hheld, -⟩ :=
    exists_request_of_waitsFor hwaits
  refine hlast other (fun hdone => ?_) (TransGen.single hwaits)
  rw [hfinished other hdone] at hheld
  cases hheld

/-! ## Paths that follow a rule -/

/-- Every operation of the path is allowed by `rule` for the guards held there,
and nothing is held at the end. -/
def Follows (rule : Guards Lock → Op Lock → Bool) :
    Guards Lock → List (Op Lock) → Bool
  | held, [] => held.isEmpty
  | held, op :: path => rule held op && Follows rule (op.apply held) path

theorem follows_append {rule : Guards Lock → Op Lock → Bool}
    {held : Guards Lock} {first second : List (Op Lock)}
    (hfirst : Follows rule held first = true)
    (hsecond : Follows rule [] second = true) :
    Follows rule held (first ++ second) = true := by
  induction first generalizing held with
  | nil =>
      obtain rfl := List.isEmpty_iff.mp hfirst
      exact hsecond
  | cons op first ih =>
      rw [Follows, Bool.and_eq_true] at hfirst
      rw [List.cons_append, Follows, Bool.and_eq_true]
      exact ⟨hfirst.1, ih hfirst.2⟩

/-- Every task of the state follows the rule to its end. -/
def AllFollow (rule : Guards Lock → Op Lock → Bool)
    (state : State Task Lock) : Prop :=
  ∀ task, Follows rule (state task).held (state task).path = true

theorem AllFollow.step {rule : Guards Lock → Op Lock → Bool}
    {state : State Task Lock} (hfollow : AllFollow rule state) (task : Task) :
    AllFollow rule (step state task) := by
  intro other
  by_cases hother : other = task
  · subst hother
    have hthread := hfollow other
    simp only [LockGraph.step, update_self, Thread.advance]
    split
    · exact hthread
    · rename_i op path hpath
      rw [hpath, Follows, Bool.and_eq_true] at hthread
      exact hthread.2
  · simpa [LockGraph.step, update_of_ne hother] using hfollow other

theorem AllFollow.reaches {rule : Guards Lock → Op Lock → Bool}
    {allowed : State Task Lock → Task → Prop} {first last : State Task Lock}
    (hfollow : AllFollow rule first) (hreaches : Reaches allowed first last) :
    AllFollow rule last := by
  induction hreaches with
  | refl => exact hfollow
  | tail _ hstep ih =>
      obtain ⟨task, -, -, rfl⟩ := hstep
      exact ih.step task

omit [DecidableEq Task] in
theorem AllFollow.rule_of_path {rule : Guards Lock → Op Lock → Bool}
    {state : State Task Lock} (hfollow : AllFollow rule state) {task : Task}
    {op : Op Lock} {path : List (Op Lock)}
    (hpath : (state task).path = op :: path) :
    rule (state task).held op = true := by
  have hthread := hfollow task
  rw [hpath, Follows, Bool.and_eq_true] at hthread
  exact hthread.1

omit [DecidableEq Task] in
theorem AllFollow.held_of_finished {rule : Guards Lock → Op Lock → Bool}
    {state : State Task Lock} (hfollow : AllFollow rule state) {task : Task}
    (hdone : (state task).path = []) : (state task).held = [] := by
  have hthread := hfollow task
  rw [hdone, Follows] at hthread
  exact List.isEmpty_iff.mp hthread

/-! ## Requests ahead -/

/-- The lock that the path asks for next, if it gives up no guard before. -/
def nextRequest : List (Op Lock) → Option (Lock × Mode)
  | .acquire lock mode :: _ => some (lock, mode)
  | .await :: path => nextRequest path
  | _ => none

/-- A task can always get through the awaits in front of its next request. -/
theorem reaches_request {state : State Task Lock} {task : Task}
    {path : List (Op Lock)} {lock : Lock} {mode : Mode}
    (hpath : (state task).path = path)
    (hnext : nextRequest path = some (lock, mode)) :
    ∃ rest, Reaches (fun _ _ => True) state
      (update state task {
        held := (state task).held
        path := .acquire lock mode :: rest }) := by
  induction path generalizing state with
  | nil => cases hnext
  | cons op path ih =>
      cases op with
      | release other => cases hnext
      | acquire other otherMode =>
          obtain ⟨rfl, rfl⟩ := Prod.mk.inj (Option.some.inj hnext)
          refine ⟨path, ?_⟩
          rw [← hpath, update_eq_self]
          exact ReflTransGen.refl
      | await =>
          have hadvance : (state task).advance =
              { held := (state task).held, path := path } := by
            simp [Thread.advance, hpath, Op.apply]
          have hmoved : (step state task task).path = path := by
            simp [step, hadvance]
          obtain ⟨rest, hreaches⟩ := ih hmoved hnext
          have henabled : Enabled state task := by
            refine ⟨by simp [hpath], fun other hwaits => ?_⟩
            simp [WaitsFor, Thread.blockedBy, hpath] at hwaits
          have hrest : Reaches (fun _ _ => True) (step state task)
              (update state task {
                held := (state task).held
                path := .acquire lock mode :: rest }) := by
            simpa [step, hadvance] using hreaches
          exact ⟨rest, ReflTransGen.head ⟨task, trivial, henabled, rfl⟩ hrest⟩

end NxccBridge.LockGraph
