import Mathlib.Data.Fin.VecNotation
import Mathlib.Data.Fintype.Pi
import NxccBridge.Core.LockGraph

/-!
# The locks of the runner service

`node/enclave/src/runner` guards its maps of VMs, of active workers and of dead
workers by three `RwLock`s.  Each operation is the path of guards it takes and
drops, one path for each way it can end.  A call into a VM, a connection
attempt and a wait for the next event or tick are awaits.

The event queue takes `worker_map` before `vms`, the other operations that nest
the two take `vms` first.
-/

namespace NxccBridge.RunnerLocks

open Function
open Relation
open NxccBridge.LockGraph

inductive RunnerLock
  | vms
  | workerMap
  | deadWorkerMap
  deriving DecidableEq

open RunnerLock Op

abbrev Path := List (Op RunnerLock)

/-! ## The operations -/

/-- How the event queue task fares with one event. -/
inductive EventOutcome
  | workerUnknown
  | vmUnknown
  | invoked
  deriving DecidableEq

/-- Receive an event, look up VM and client, invoke the worker. -/
def eventPath : EventOutcome → Path
  | .workerUnknown => [await, acquire workerMap .read, release workerMap]
  | .vmUnknown =>
      [await, acquire workerMap .read, acquire vms .read, release vms,
        release workerMap]
  | .invoked =>
      [await, acquire workerMap .read, acquire vms .read, release vms,
        release workerMap, await]

/-- `rejected` covers the errors before any lock is taken. -/
inductive RunWorkerOutcome
  | rejected
  | vmNotAttached
  | startFailed
  | started
  deriving DecidableEq

def runWorkerPath : RunWorkerOutcome → Path
  | .rejected => [await]
  | .vmNotAttached => [await, acquire vms .write, release vms]
  | .startFailed => [await, acquire vms .write, await, release vms]
  | .started =>
      [await, acquire vms .write, await, acquire workerMap .write,
        release workerMap, release vms]

/-- `terminated` also when the VM does not find the worker. -/
inductive TerminateOutcome
  | workerNotFound
  | vmNotAttached
  | stopFailed
  | terminated
  deriving DecidableEq

/-- The VM of an active worker; the guard is dropped with the block. -/
def workerLookupPath : Path := [acquire workerMap .read, release workerMap]

def terminateWorkerPath : TerminateOutcome → Path
  | .workerNotFound => workerLookupPath
  | .vmNotAttached => workerLookupPath ++ [acquire vms .write, release vms]
  | .stopFailed => workerLookupPath ++ [acquire vms .write, await, release vms]
  | .terminated =>
      workerLookupPath ++
        [acquire vms .write, await, acquire workerMap .write, release workerMap,
          acquire deadWorkerMap .write, release deadWorkerMap, release vms]

def attachVmPath (connected : Bool) : Path :=
  if connected then [await, acquire vms .write, release vms] else [await]

def detachVmPath (attached : Bool) : Path :=
  if attached then
    [acquire vms .write, acquire workerMap .write, release workerMap,
      release vms]
  else [acquire vms .write, release vms]

inductive CallOutcome
  | workerNotFound
  | vmNotAttached
  | called
  deriving DecidableEq

/-- A call to the VM of the worker that `lookup` finds. -/
def workerCallPath (lookup : Path) : CallOutcome → Path
  | .workerNotFound => lookup
  | .vmNotAttached => lookup ++ [acquire vms .write, release vms]
  | .called => lookup ++ [acquire vms .write, await, release vms]

def checkWorkerStatusPath : CallOutcome → Path :=
  workerCallPath workerLookupPath

def invokeHttpWorkerPath : CallOutcome → Path :=
  workerCallPath workerLookupPath

/-- The attestations are verified before the lookup. -/
def executePolicyPath : CallOutcome → Path :=
  workerCallPath (await :: workerLookupPath)

/-- `get_worker_vm_id` turns to the dead workers if no active one matches. -/
def getWorkerVmIdPath (active : Bool) : Path :=
  if active then workerLookupPath
  else workerLookupPath ++ [acquire deadWorkerMap .read, release deadWorkerMap]

def getWorkerLogsPath (active : Bool) : CallOutcome → Path :=
  workerCallPath (getWorkerVmIdPath active)

def streamWorkerLogsPath (active : Bool) : CallOutcome → Path :=
  workerCallPath (getWorkerVmIdPath active)

/-- One tick of the task that forgets dead workers. -/
def cleanupPath : Path :=
  [await, acquire deadWorkerMap .write, release deadWorkerMap]

/-- A running task with the way each of its steps will end. -/
inductive RunnerTask
  | eventQueue (events : List EventOutcome)
  | runWorker (outcome : RunWorkerOutcome)
  | terminateWorker (outcome : TerminateOutcome)
  | attachVm (connected : Bool)
  | detachVm (attached : Bool)
  | checkWorkerStatus (outcome : CallOutcome)
  | invokeHttpWorker (outcome : CallOutcome)
  | executePolicy (outcome : CallOutcome)
  | getWorkerLogs (active : Bool) (outcome : CallOutcome)
  | streamWorkerLogs (active : Bool) (outcome : CallOutcome)
  | cleanup (ticks : ℕ)

def RunnerTask.path : RunnerTask → Path
  | .eventQueue events => events.flatMap eventPath
  | .runWorker outcome => runWorkerPath outcome
  | .terminateWorker outcome => terminateWorkerPath outcome
  | .attachVm connected => attachVmPath connected
  | .detachVm attached => detachVmPath attached
  | .checkWorkerStatus outcome => checkWorkerStatusPath outcome
  | .invokeHttpWorker outcome => invokeHttpWorkerPath outcome
  | .executePolicy outcome => executePolicyPath outcome
  | .getWorkerLogs active outcome => getWorkerLogsPath active outcome
  | .streamWorkerLogs active outcome => streamWorkerLogsPath active outcome
  | .cleanup ticks => (List.replicate ticks cleanupPath).flatten

abbrev RunnerState (count : ℕ) := State (Fin count) RunnerLock

/-- Every task at its start. -/
def initial {count : ℕ} (tasks : Fin count → RunnerTask) : RunnerState count :=
  fun task => { held := [], path := (tasks task).path }

/-! ## What is held where -/

/-- The guards under which each lock is asked for. -/
def runnerRule (held : Guards RunnerLock) : Op RunnerLock → Bool
  | .acquire vms .read => held = [(workerMap, .read)]
  | .acquire vms .write => held = []
  | .acquire workerMap .read => held = []
  | .acquire workerMap .write => held = [(vms, .write)]
  | .acquire deadWorkerMap .read => held = []
  | .acquire deadWorkerMap .write => held = [] ∨ held = [(vms, .write)]
  | .release _ => true
  | .await => true

private theorem follows_flatMap {A : Type*} (paths : A → Path)
    (hpaths : ∀ item, Follows runnerRule [] (paths item) = true)
    (items : List A) :
    Follows runnerRule [] (items.flatMap paths) = true := by
  induction items with
  | nil => rfl
  | cons item items ih =>
      rw [List.flatMap_cons]
      exact follows_append (hpaths item) ih

theorem path_follows (task : RunnerTask) :
    Follows runnerRule [] task.path = true := by
  cases task with
  | eventQueue events =>
      exact follows_flatMap eventPath (fun outcome => by
        cases outcome <;> decide) events
  | runWorker outcome => cases outcome <;> decide
  | terminateWorker outcome => cases outcome <;> decide
  | attachVm connected => cases connected <;> decide
  | detachVm attached => cases attached <;> decide
  | checkWorkerStatus outcome => cases outcome <;> decide
  | invokeHttpWorker outcome => cases outcome <;> decide
  | executePolicy outcome => cases outcome <;> decide
  | getWorkerLogs active outcome => cases active <;> cases outcome <;> decide
  | streamWorkerLogs active outcome =>
      cases active <;> cases outcome <;> decide
  | cleanup ticks =>
      rw [RunnerTask.path, ← List.flatMap_id]
      induction ticks with
      | zero => rfl
      | succ ticks ih =>
          rw [List.replicate_succ, List.flatMap_cons]
          exact follows_append (by decide) ih

theorem initial_follows {count : ℕ} (tasks : Fin count → RunnerTask) :
    AllFollow runnerRule (initial tasks) :=
  fun task => path_follows (tasks task)

/-! ## Crossings -/

/-- The thread holds `outer` and asks for `inner` next, awaits apart. -/
def Nests (outer inner : RunnerLock) (thread : Thread RunnerLock) : Prop :=
  (∃ mode, (outer, mode) ∈ thread.held) ∧
    ∃ mode, nextRequest thread.path = some (inner, mode)

/-- An event delivery is between `worker_map` and `vms` while another task is
between `vms` and `worker_map`. -/
def Crossed {count : ℕ} (state : RunnerState count) : Prop :=
  ∃ delivery operation, Nests workerMap vms (state delivery) ∧
    Nests vms workerMap (state operation)

/-- The next operation of the task takes it between the two locks in one order
while another task is between them in the other order. -/
def Crosses {count : ℕ} (state : RunnerState count) (task : Fin count) : Prop :=
  ∃ other, other ≠ task ∧
    (Nests workerMap vms (state task).advance ∧
        Nests vms workerMap (state other) ∨
      Nests vms workerMap (state task).advance ∧
        Nests workerMap vms (state other))

theorem not_nests_both {thread : Thread RunnerLock}
    (hdelivery : Nests workerMap vms thread)
    (hoperation : Nests vms workerMap thread) : False := by
  obtain ⟨-, mode, hnext⟩ := hdelivery
  obtain ⟨-, mode', hnext'⟩ := hoperation
  rw [hnext] at hnext'
  cases hnext'

/-- Only a crossing step brings a state to a crossing. -/
theorem crossed_step_iff {count : ℕ} {state : RunnerState count}
    {task : Fin count} (hclear : ¬ Crossed state) :
    Crossed (step state task) ↔ Crosses state task := by
  have hself : step state task task = (state task).advance := by simp [step]
  have hother : ∀ other, other ≠ task → step state task other = state other :=
    fun other hne => by simp [step, update_of_ne hne]
  constructor
  · rintro ⟨delivery, operation, hdelivery, hoperation⟩
    by_cases hmoved : delivery = task
    · subst hmoved
      have hne : operation ≠ delivery := by
        rintro rfl
        exact not_nests_both hdelivery hoperation
      rw [hself] at hdelivery
      rw [hother operation hne] at hoperation
      exact ⟨operation, hne, Or.inl ⟨hdelivery, hoperation⟩⟩
    · rw [hother delivery hmoved] at hdelivery
      by_cases hmoved' : operation = task
      · subst hmoved'
        rw [hself] at hoperation
        exact ⟨delivery, hmoved, Or.inr ⟨hoperation, hdelivery⟩⟩
      · rw [hother operation hmoved'] at hoperation
        exact absurd ⟨delivery, operation, hdelivery, hoperation⟩ hclear
  · rintro ⟨other, hne, ⟨hdelivery, hoperation⟩ | ⟨hoperation, hdelivery⟩⟩
    · exact ⟨task, other, hself ▸ hdelivery, (hother other hne).symm ▸ hoperation⟩
    · exact ⟨other, task, (hother other hne).symm ▸ hdelivery, hself ▸ hoperation⟩

/-- The order in which the operations nest the locks. -/
def callRank : RunnerLock → ℕ
  | vms => 0
  | workerMap => 1
  | deadWorkerMap => 2

/-- The order in which the event queue nests them. -/
def eventRank : RunnerLock → ℕ
  | workerMap => 0
  | vms => 1
  | deadWorkerMap => 2

/-- A cycle needs a task that asks for a lock against the rank. -/
theorem exists_nests_of_deadlocked {count : ℕ} {state : RunnerState count}
    (hfollow : AllFollow runnerRule state) (hdeadlocked : Deadlocked state)
    {outer inner : RunnerLock} (rank : RunnerLock → ℕ)
    (hrank : ∀ held lock mode,
      runnerRule held (.acquire lock mode) = true →
        (∀ guarded ∈ held, rank guarded.1 < rank lock) ∨
        lock = inner ∧ ∃ heldMode, (outer, heldMode) ∈ held) :
    ∃ task, Nests outer inner (state task) := by
  by_contra hnone
  refine not_deadlocked_of_rank rank ?_ hdeadlocked
  intro task lock mode path hpath
  rcases hrank _ _ _ (hfollow.rule_of_path hpath) with hbelow | ⟨rfl, hheld⟩
  · exact hbelow
  · exact absurd ⟨task, hheld, mode, by rw [hpath, nextRequest]⟩ hnone

/-- A cycle is possible at a crossing only: without an event delivery at `vms`
the locks are taken in one order, without an operation at `worker_map` in the
other. -/
theorem crossed_of_deadlocked {count : ℕ} {state : RunnerState count}
    (hfollow : AllFollow runnerRule state) (hdeadlocked : Deadlocked state) :
    Crossed state := by
  have hdelivery : ∃ delivery, Nests workerMap vms (state delivery) := by
    refine exists_nests_of_deadlocked hfollow hdeadlocked callRank ?_
    intro held lock mode hallowed
    cases lock <;> cases mode <;> simp [runnerRule] at hallowed
    · exact Or.inr ⟨rfl, .read, by simp [hallowed]⟩
    · simp [hallowed]
    · simp [hallowed]
    · simp [hallowed, callRank]
    · simp [hallowed]
    · rcases hallowed with rfl | rfl <;> simp [callRank]
  have hoperation : ∃ operation, Nests vms workerMap (state operation) := by
    refine exists_nests_of_deadlocked hfollow hdeadlocked eventRank ?_
    intro held lock mode hallowed
    cases lock <;> cases mode <;> simp [runnerRule] at hallowed
    · simp [hallowed, eventRank]
    · simp [hallowed]
    · simp [hallowed]
    · exact Or.inr ⟨rfl, .write, by simp [hallowed]⟩
    · simp [hallowed]
    · rcases hallowed with rfl | rfl <;> simp [eventRank]
  obtain ⟨delivery, hdelivery⟩ := hdelivery
  obtain ⟨operation, hoperation⟩ := hoperation
  exact ⟨delivery, operation, hdelivery, hoperation⟩

/-- An event delivery that asks for `vms` reads `worker_map`. -/
theorem held_of_delivery {count : ℕ} {state : RunnerState count}
    (hfollow : AllFollow runnerRule state) {task : Fin count} {mode : Mode}
    {rest : Path} (hpath : (state task).path = .acquire vms mode :: rest)
    (hheld : ∃ heldMode, (workerMap, heldMode) ∈ (state task).held) :
    (state task).held = [(workerMap, .read)] := by
  have hallowed := hfollow.rule_of_path hpath
  obtain ⟨heldMode, hheld⟩ := hheld
  cases mode <;> simp [runnerRule] at hallowed
  · exact hallowed
  · simp [hallowed] at hheld

/-- An operation that asks for `worker_map` under `vms` writes both. -/
theorem held_of_operation {count : ℕ} {state : RunnerState count}
    (hfollow : AllFollow runnerRule state) {task : Fin count} {mode : Mode}
    {rest : Path} (hpath : (state task).path = .acquire workerMap mode :: rest)
    (hheld : ∃ heldMode, (vms, heldMode) ∈ (state task).held) :
    (state task).held = [(vms, .write)] ∧ mode = .write := by
  have hallowed := hfollow.rule_of_path hpath
  obtain ⟨heldMode, hheld⟩ := hheld
  cases mode <;> simp [runnerRule] at hallowed
  · simp [hallowed] at hheld
  · exact ⟨hallowed, rfl⟩

/-- From a crossing a cycle can be reached: both tasks only need to get to the
requests ahead of them. -/
theorem reaches_deadlock_of_crossed {count : ℕ} {state : RunnerState count}
    (hfollow : AllFollow runnerRule state) (hcrossed : Crossed state) :
    ∃ last, Reaches (fun _ _ => True) state last ∧ Deadlocked last := by
  obtain ⟨delivery, operation, hdelivery, hoperation⟩ := hcrossed
  have hne : operation ≠ delivery := by
    rintro rfl
    exact not_nests_both hdelivery hoperation
  obtain ⟨hholdsMap, deliveryMode, hdeliveryNext⟩ := hdelivery
  obtain ⟨hholdsVms, operationMode, hoperationNext⟩ := hoperation
  obtain ⟨deliveryRest, hfirst⟩ := reaches_request rfl hdeliveryNext
  have hsame : (update state delivery {
      held := (state delivery).held
      path := .acquire vms deliveryMode :: deliveryRest }) operation =
      state operation := update_of_ne hne _ _
  obtain ⟨operationRest, hsecond⟩ :=
    reaches_request (congrArg Thread.path hsame) hoperationNext
  rw [hsame] at hsecond
  have hreaches := hfirst.trans hsecond
  have hlast := hfollow.reaches hreaches
  generalize hstate : update (update state delivery _) operation _ = last
    at hreaches hlast
  have hdelivery : last delivery = {
      held := (state delivery).held
      path := .acquire vms deliveryMode :: deliveryRest } := by
    simp [← hstate, update_of_ne hne.symm]
  have hoperation : last operation = {
      held := (state operation).held
      path := .acquire workerMap operationMode :: operationRest } := by
    simp [← hstate]
  have hdeliveryPath := congrArg Thread.path hdelivery
  have hoperationPath := congrArg Thread.path hoperation
  have hdeliveryHeld := held_of_delivery hlast hdeliveryPath
    (by rwa [hdelivery])
  obtain ⟨hoperationHeld, rfl⟩ := held_of_operation hlast hoperationPath
    (by rwa [hoperation])
  refine ⟨last, hreaches, delivery,
    TransGen.tail (TransGen.single (b := operation) ?_) ?_⟩
  · have hheld : (vms, Mode.write) ∈ (last operation).held := by
      simp [hoperationHeld]
    refine waitsFor_of_request hdeliveryPath hheld ?_
    cases deliveryMode <;> rfl
  · have hheld : (workerMap, Mode.read) ∈ (last delivery).held := by
      simp [hdeliveryHeld]
    exact waitsFor_of_request hoperationPath hheld rfl

/-- As long as no step crosses, no cycle of waiting tasks is reachable and some
unfinished task can take a step; a step that does cross makes a cycle
reachable. -/
theorem runner_deadlock_free {count : ℕ} (tasks : Fin count → RunnerTask)
    {state : RunnerState count}
    (hreaches : Reaches (fun before task => ¬ Crosses before task)
      (initial tasks) state) :
    ¬ Deadlocked state ∧
    ((∃ task, (state task).path ≠ []) → ∃ task, Enabled state task) ∧
    ∀ task, Enabled state task → Crosses state task →
      ∃ last, Reaches (fun _ _ => True) (step state task) last ∧
        Deadlocked last := by
  have hfollow := (initial_follows tasks).reaches hreaches
  have hclear : ¬ Crossed state := by
    clear hfollow
    induction hreaches with
    | refl =>
        rintro ⟨delivery, -, ⟨⟨mode, hheld⟩, -⟩, -⟩
        cases hheld
    | tail _ hstep ih =>
        obtain ⟨task, hcrosses, -, rfl⟩ := hstep
        rwa [crossed_step_iff ih]
  have hfree : ¬ Deadlocked state := fun hdeadlocked =>
    hclear (crossed_of_deadlocked hfollow hdeadlocked)
  refine ⟨hfree, ?_, ?_⟩
  · exact exists_enabled hfree fun task hdone => hfollow.held_of_finished hdone
  · intro task _ hcrosses
    exact reaches_deadlock_of_crossed (hfollow.step task)
      ((crossed_step_iff hclear).mpr hcrosses)

/-! ## An event between the guards of `run_worker` -/

/-- One event for a known worker while another worker starts. -/
def eventDuringStart : Fin 2 → RunnerTask :=
  ![.eventQueue [.invoked], .runWorker .started]

/-- `run_worker` holds `vms` while the VM starts the worker, the event queue
looks the worker up and asks for `vms`, `run_worker` asks for `worker_map`. -/
theorem event_deadlocks_start :
    ∃ state, Reaches (fun _ _ => True) (initial eventDuringStart) state ∧
      Deadlocked state ∧ ∀ task, ¬ Enabled state task := by
  refine ⟨step (step (step (step (step (initial eventDuringStart) 1) 1) 0) 0) 1,
    ?_, ⟨0, ?_⟩, by decide⟩
  · refine ReflTransGen.tail (ReflTransGen.tail (ReflTransGen.tail
      (ReflTransGen.tail (ReflTransGen.tail ReflTransGen.refl
        ⟨1, trivial, ?_, rfl⟩) ⟨1, trivial, ?_, rfl⟩) ⟨0, trivial, ?_, rfl⟩)
        ⟨0, trivial, ?_, rfl⟩) ⟨1, trivial, ?_, rfl⟩ <;> decide
  · exact TransGen.tail (TransGen.single (b := 1) (by decide)) (by decide)

/-- A step after which no task holds `worker_map` does not cross. -/
theorem not_crosses_of_free {count : ℕ} {state : RunnerState count}
    {task : Fin count}
    (hfree : ∀ holding, ∀ guarded ∈ (step state task holding).held,
      guarded.1 ≠ workerMap) :
    ¬ Crosses state task := by
  have hself : step state task task = (state task).advance := by simp [step]
  rintro ⟨other, hne, ⟨hdelivery, -⟩ | ⟨-, hdelivery⟩⟩
  · obtain ⟨⟨mode, hheld⟩, -⟩ := hdelivery
    exact hfree task _ (hself ▸ hheld) rfl
  · have hother : step state task other = state other := by
      simp [step, update_of_ne hne]
    obtain ⟨⟨mode, hheld⟩, -⟩ := hdelivery
    exact hfree other _ (hother ▸ hheld) rfl

/-- The VM starts the worker under the guard of `vms`, and the event has been
received. -/
def startedUnderGuard : RunnerState 2 :=
  step (step (step (initial eventDuringStart) 1) 1) 0

/-- Up to there nobody waits in a cycle; the lookup of the event crosses. -/
theorem runner_deadlock_free_first :
    (startedUnderGuard 1).held = [(vms, .write)] ∧
      ¬ Deadlocked startedUnderGuard ∧
      (∃ task, Enabled startedUnderGuard task) ∧
      ∃ last, Reaches (fun _ _ => True) (step startedUnderGuard 0) last ∧
        Deadlocked last := by
  have hreaches : Reaches (fun before task => ¬ Crosses before task)
      (initial eventDuringStart) startedUnderGuard := by
    refine ReflTransGen.tail (ReflTransGen.tail (ReflTransGen.tail
      ReflTransGen.refl ⟨1, not_crosses_of_free ?_, ?_, rfl⟩)
        ⟨1, not_crosses_of_free ?_, ?_, rfl⟩)
        ⟨0, not_crosses_of_free ?_, ?_, rfl⟩ <;> decide
  obtain ⟨hfree, hprogress, hcrossing⟩ :=
    runner_deadlock_free eventDuringStart hreaches
  refine ⟨by decide, hfree, hprogress ⟨0, by decide⟩,
    hcrossing 0 (by decide) ?_⟩
  exact ⟨1, by decide, Or.inl ⟨⟨⟨.read, by decide⟩, .read, by decide⟩,
    ⟨.write, by decide⟩, .write, by decide⟩⟩

end NxccBridge.RunnerLocks
