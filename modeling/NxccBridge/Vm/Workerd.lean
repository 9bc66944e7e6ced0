import Mathlib.Data.List.Nodup
import Mathlib.Logic.Function.Basic
import NxccBridge.Core.Runs
import NxccBridge.Vm.StopWorker

/-!
# Workers of the workerd runtime

`start_worker` from its readiness loop on, `probe_worker`, `stop_worker` and
`invoke_worker` of `node/vm/workerd/src/vmm/mod.rs`, any number of calls of them,
step by step.  The calls share a status word that they read and write without the
lock of the process.
-/

namespace NxccBridge.Workerd

open Function
open NxccBridge.Runs
open NxccBridge.StopWorker (WorkerStatus WorkerdVmError)

/-! ## A worker -/

/-- The child process; it is reaped once `try_wait` or `kill` has seen its end. -/
inductive Process
  | running
  | exited
  | reaped
  deriving DecidableEq

def Process.hasExited : Process → Bool
  | .running => false
  | .exited => true
  | .reaped => true

def Process.exit : Process → Process
  | .running => .exited
  | process => process

def Process.tryWait : Process → Process
  | .running => .running
  | .exited => .reaped
  | .reaped => .reaped

/-- `kill` waits for the end.  A process that was reaped before gives
`InvalidInput`, which the callers pass over. -/
def Process.kill (self : Process) (error : Option String) :
    Process × Option String :=
  match self, error with
  | .reaped, _ => (.reaped, none)
  | process, some message => (process, some message)
  | _, none => (.reaped, none)

/-- `stoppedOnce` is a history: the status has been `Stopped`. -/
structure WorkerData where
  instanceId : String
  process : Process
  status : WorkerStatus
  locked : Bool
  stoppedOnce : Bool
  deriving DecidableEq

/-- What `start_worker` puts into the map of workers. -/
def WorkerData.new (instanceId : String) : WorkerData where
  instanceId := instanceId
  process := .running
  status := .starting
  locked := false
  stoppedOnce := false

/-- `invoke_worker` up to its request to the socket. -/
def WorkerData.invoke (self : WorkerData) : Except WorkerdVmError Unit :=
  if self.status ≠ .running then .error (.workerNotRunnable self.status)
  else .ok ()

/-! ## The calls -/

inductive Stage
  -- the readiness loop of `start_worker`
  | checking
  | failing
  | waiting
  | rechecking
  | ready
  | marking
  | timingOut
  | timedOut
  | abandoning
  | abandoned
  -- `probe_worker`
  | probing
  | probeExited
  | reporting
  | connecting
  | connected
  | unreachable
  -- `stop_worker`
  | stopping
  | locking
  | killing
  | stopped
  | terminating
  deriving DecidableEq

/-- What a step meets outside the runtime: whether the socket is there, whether
the startup timeout has passed, and the error of `kill`. -/
structure Input where
  socket : Bool
  timedOut : Bool
  killError : Option String
  deriving DecidableEq

/-- A step of a call: the worker after it, the next stage unless the call is over,
what `stop_worker` returns, and whether the logs of the worker are moved. -/
structure Turn where
  worker : WorkerData
  next : Option Stage := none
  returned : Option (Except WorkerdVmError Unit) := none
  moves : Bool := false

def Stage.takesLock : Stage → Bool
  | .checking | .rechecking | .timingOut | .probing | .locking => true
  | _ => false

/-- The call gets the lock of the process, or waits for it. -/
def Stage.withLock (stage : Stage) (worker : WorkerData) (turn : Turn) : Turn :=
  if worker.locked then { worker := worker, next := some stage } else turn

def Stage.turn (stage : Stage) (worker : WorkerData) (input : Input) : Turn :=
  match stage with
  | .checking =>
      stage.withLock worker <|
        if worker.process.hasExited then
          { worker := { worker with process := .reaped, locked := true }
            next := some .failing }
        else { worker := worker, next := some .waiting }
  | .failing =>
      { worker := { worker with status := .error, locked := false } }
  | .waiting =>
      { worker := worker
        next := some (
          if input.socket then .rechecking
          else if input.timedOut then .timingOut
          else .checking) }
  | .rechecking =>
      stage.withLock worker <|
        if worker.process.hasExited then
          { worker := { worker with process := .reaped, locked := true }
            next := some .failing }
        else
          { worker := { worker with locked := true }
            next := some .ready }
  | .ready =>
      if worker.status = .starting then
        { worker := worker, next := some .marking }
      else { worker := { worker with locked := false } }
  | .marking =>
      { worker := { worker with status := .running, locked := false } }
  | .timingOut =>
      stage.withLock worker
        { worker := { worker with
            process := worker.process.tryWait
            locked := true }
          next := some .timedOut }
  | .timedOut =>
      if worker.status = .starting then
        { worker := worker, next := some .abandoning }
      else { worker := { worker with locked := false } }
  | .abandoning =>
      { worker := { worker with status := .error }, next := some .abandoned }
  | .abandoned =>
      { worker := { worker with
          process := (worker.process.kill input.killError).1
          locked := false } }
  | .probing =>
      stage.withLock worker <|
        if worker.process.hasExited then
          { worker := { worker with process := .reaped, locked := true }
            next := some .probeExited }
        else { worker := worker, next := some .connecting }
  | .probeExited =>
      if worker.status ≠ .stopped then
        { worker := worker, next := some .reporting }
      else { worker := { worker with locked := false } }
  | .reporting =>
      { worker := { worker with status := .error, locked := false } }
  | .connecting =>
      if input.socket then
        { worker := worker
          next := if worker.status = .starting then some .connected else none }
      else
        { worker := worker
          next :=
            if worker.status ≠ .starting then some .unreachable else none }
  | .connected => { worker := { worker with status := .running } }
  | .unreachable => { worker := { worker with status := .error } }
  | .stopping =>
      match worker.status with
      | .starting | .running => { worker := worker, next := some .locking }
      | .stopped | .error => { worker := worker, returned := some (.ok ()) }
      | .unspecified =>
          { worker := worker
            returned := some (.error (.workerNotRunnable .unspecified)) }
      -- `unimplemented!()`
      | .stopping => { worker := worker }
  | .locking =>
      stage.withLock worker
        { worker := { worker with locked := true }, next := some .killing }
  | .killing =>
      match worker.process.kill input.killError with
      | (process, none) =>
          { worker := { worker with process := process, locked := false }
            next := some .stopped }
      | (process, some message) =>
          { worker := { worker with process := process, locked := false }
            returned := some (.error (.internal ("Failed to kill worker " ++
              worker.instanceId ++ ": " ++ message))) }
  | .stopped =>
      { worker := { worker with status := .stopped, stoppedOnce := true }
        next := some .terminating }
  | .terminating =>
      { worker := worker, returned := some (.ok ()), moves := true }

/-- The status that a step at the stage stores, whatever the status is then. -/
def Stage.stores : Stage → Option WorkerStatus
  | .failing | .abandoning | .reporting | .unreachable => some .error
  | .marking | .connected => some .running
  | .stopped => some .stopped
  | _ => none

/-- The step after the next one stores another status than `Stopped`. -/
def Stage.overwrites (stage : Stage) : Prop :=
  stage.stores = some .error ∨ stage.stores = some .running

/-! ## What a step of a call does -/

/-- The readiness loop looks at a process that has exited, or a probe that has
found it running does not reach the socket. -/
def FindsFailure (stage : Stage) (worker : WorkerData) (input : Input) : Prop :=
  (stage = .checking ∨ stage = .rechecking) ∧ worker.locked = false ∧
      worker.process.hasExited = true ∨
    stage = .connecting ∧ input.socket = false

/-- `stop_worker` is about to return `Ok`. -/
def ReturnsOk (stage : Stage) (worker : WorkerData) : Prop :=
  stage = .stopping ∧ (worker.status = .stopped ∨ worker.status = .error) ∨
    stage = .terminating

structure TurnFacts (stage : Stage) (worker : WorkerData) (input : Input)
    (turn : Turn) : Prop where
  instanceId : turn.worker.instanceId = worker.instanceId
  status : turn.worker.status = stage.stores.getD worker.status
  stoppedOnce : turn.worker.stoppedOnce =
    (worker.stoppedOnce || stage = .stopped)
  exited : worker.process.hasExited = true →
    turn.worker.process.hasExited = true
  stopped : turn.next = some .stopped → turn.worker.process.hasExited = true
  terminating : turn.next = some .terminating ↔ stage = .stopped
  marks : ∀ next, turn.next = some next → next.stores = some .running →
    worker.status = .starting
  overwrites : worker.status = .stopped →
    ((∃ next, turn.next = some next ∧ next.overwrites) ↔
      FindsFailure stage worker input)
  returned : turn.returned = some (.ok ()) ↔ ReturnsOk stage worker
  unchanged : ReturnsOk stage worker → turn.worker = worker ∧ turn.next = none
  moves : turn.moves = true ↔ stage = .terminating

section Turn

variable {stage : Stage} {worker : WorkerData} {input : Input}

/-- A call that waits for the lock changes nothing. -/
theorem TurnFacts.withLock (hstage : stage.takesLock = true) {turn : Turn}
    (hturn : worker.locked = false → TurnFacts stage worker input turn) :
    TurnFacts stage worker input (stage.withLock worker turn) := by
  rw [Stage.withLock]
  split
  · rename_i hlocked
    cases stage <;> cases hstage <;> constructor <;>
      simp [Stage.stores, Stage.overwrites, FindsFailure, ReturnsOk, hlocked]
  · rename_i hfree
    exact hturn (by simpa using hfree)

@[simp]
theorem hasExited_reaped : Process.reaped.hasExited = true := rfl

theorem hasExited_exit (process : Process) : process.exit.hasExited = true := by
  cases process <;> rfl

theorem hasExited_tryWait (process : Process) :
    process.tryWait.hasExited = process.hasExited := by
  cases process <;> rfl

theorem hasExited_kill {process : Process} (hexited : process.hasExited = true)
    (error : Option String) : (process.kill error).1.hasExited = true := by
  cases process <;> cases error <;> first | rfl | exact hexited

theorem hasExited_of_killed {process : Process} {error : Option String}
    (hkilled : (process.kill error).2 = none) :
    (process.kill error).1.hasExited = true := by
  cases process <;> cases error <;> first | rfl | cases hkilled

theorem turn_facts : TurnFacts stage worker input (stage.turn worker input) := by
  cases stage with
  | checking | rechecking | probing =>
      refine TurnFacts.withLock rfl fun hfree => ?_
      split <;> constructor <;>
        simp_all [Stage.stores, Stage.overwrites, FindsFailure, ReturnsOk]
  | timingOut | locking =>
      refine TurnFacts.withLock rfl fun hfree => ?_
      constructor <;>
        simp [Stage.stores, Stage.overwrites, FindsFailure, ReturnsOk,
          hasExited_tryWait]
  | ready | timedOut | probeExited =>
      rw [Stage.turn]
      split <;> constructor <;>
        simp_all [Stage.stores, Stage.overwrites, FindsFailure, ReturnsOk]
  | waiting =>
      rcases input with ⟨_ | _, _ | _, killError⟩ <;> constructor <;>
        simp [Stage.turn, Stage.stores, Stage.overwrites, FindsFailure,
          ReturnsOk]
  | connecting =>
      rcases input with ⟨_ | _, timedOut, killError⟩ <;> constructor <;>
        by_cases hstarting : worker.status = .starting <;>
        simp_all [Stage.turn, Stage.stores, Stage.overwrites, FindsFailure,
          ReturnsOk]
  | abandoned =>
      constructor <;>
        simp [Stage.turn, Stage.stores, Stage.overwrites, FindsFailure,
          ReturnsOk]
      exact fun hexited => hasExited_kill hexited _
  | stopping =>
      rw [Stage.turn]
      split <;> constructor <;>
        simp_all [Stage.stores, Stage.overwrites, FindsFailure, ReturnsOk]
  | killing =>
      rw [Stage.turn]
      have hkilled := @hasExited_of_killed worker.process input.killError
      have hexited := fun h =>
        @hasExited_kill worker.process h input.killError
      split <;> constructor <;>
        simp_all [Stage.stores, Stage.overwrites, FindsFailure, ReturnsOk]
  | failing | marking | abandoning | reporting | connected | unreachable
  | stopped | terminating =>
      constructor <;>
        simp [Stage.turn, Stage.stores, Stage.overwrites, FindsFailure,
          ReturnsOk]

end Turn

/-! ## The runtime -/

/-- A call in progress; the readiness loop looks its worker up by `instanceId` at
every turn. -/
structure Task where
  instanceId : String
  worker : ℕ
  stage : Stage
  deriving DecidableEq

/-- Workers have numbers, since an identifier can be given to a new worker.
`movedLogs` and `stopReturns` are histories: the workers whose logs were moved to
the dead store, and what `stop_worker` has returned for which worker. -/
structure State where
  workers : String → Option ℕ
  data : ℕ → Option WorkerData
  activeLogs : String → Option ℕ
  movedLogs : List ℕ
  tasks : ℕ → Option Task
  stopReturns : List (ℕ × Except WorkerdVmError Unit)

def State.new : State where
  workers := fun _ => none
  data := fun _ => none
  activeLogs := fun _ => none
  movedLogs := []
  tasks := fun _ => none
  stopReturns := []

inductive Action
  | start (task : ℕ) (instanceId : String) (number : ℕ)
  | probe (task : ℕ) (instanceId : String)
  | stop (task : ℕ) (instanceId : String)
  | exit (number : ℕ)
  | proceed (task : ℕ) (input : Input)

/-- Whether the stage looks the worker up. -/
def Stage.looksUp : Stage → Bool
  | .checking | .rechecking | .timingOut => true
  | _ => false

namespace State

/-- A task number and a worker number that are not in use. -/
def Unused (self : State) (task number : ℕ) : Prop :=
  self.tasks task = none ∧ self.data number = none

instance (self : State) (task number : ℕ) :
    Decidable (self.Unused task number) := instDecidableAnd

/-- `start_worker` with a process that was spawned. -/
def start (self : State) (task : ℕ) (instanceId : String) (number : ℕ) :
    State :=
  if self.Unused task number then
    { self with
      workers := update self.workers instanceId (some number)
      data := update self.data number (some (.new instanceId))
      activeLogs := update self.activeLogs instanceId (some number)
      tasks := update self.tasks task
        (some ⟨instanceId, number, .checking⟩) }
  else self

/-- A call that begins with the lookup of its worker. -/
def call (self : State) (task : ℕ) (instanceId : String) (stage : Stage) :
    State :=
  { self with
    tasks :=
      match self.tasks task, self.workers instanceId with
      | none, some number =>
          update self.tasks task (some ⟨instanceId, number, stage⟩)
      | _, _ => self.tasks }

def exit (self : State) (number : ℕ) : State :=
  { self with
    data := update self.data number
      ((self.data number).map fun worker =>
        { worker with process := worker.process.exit }) }

/-- The worker that the next step of a task is about. -/
def target (self : State) (task : Task) : Option ℕ :=
  if task.stage.looksUp then self.workers task.instanceId
  else some task.worker

/-- `terminate_worker` of the log manager moves the buffer that is registered under
the identifier. -/
def turned (self : State) (task : ℕ) (instanceId : String) (number : ℕ)
    (turn : Turn) : State :=
  { self with
    data := update self.data number (some turn.worker)
    activeLogs :=
      if turn.moves then update self.activeLogs instanceId none
      else self.activeLogs
    movedLogs :=
      if turn.moves then
        self.movedLogs ++ (self.activeLogs instanceId).toList
      else self.movedLogs
    tasks := update self.tasks task
      (turn.next.map fun stage => ⟨instanceId, number, stage⟩)
    stopReturns :=
      self.stopReturns ++ turn.returned.toList.map fun result =>
        (number, result) }

def proceed (self : State) (task : ℕ) (input : Input) : State :=
  match self.tasks task with
  | none => self
  | some current =>
      match self.target current with
      -- the worker has disappeared from the map
      | none => { self with tasks := update self.tasks task none }
      | some number =>
          match self.data number with
          | none => self
          | some worker =>
              self.turned task current.instanceId number
                (current.stage.turn worker input)

def step (self : State) : Action → State
  | .start task instanceId number => self.start task instanceId number
  | .probe task instanceId => self.call task instanceId .probing
  | .stop task instanceId => self.call task instanceId .stopping
  | .exit number => self.exit number
  | .proceed task input => self.proceed task input

end State

def State.after (actions : List Action) : State := run State.step .new actions

/-- The next step of a task, and the worker that it is about. -/
structure Turns (state : State) (task : ℕ) (current : Task) (number : ℕ)
    (worker : WorkerData) : Prop where
  task : state.tasks task = some current
  target : state.target current = some number
  data : state.data number = some worker

theorem Turns.proceed {state : State} {task : ℕ} {current : Task} {number : ℕ}
    {worker : WorkerData} (hturns : Turns state task current number worker)
    (input : Input) :
    state.proceed task input = state.turned task current.instanceId number
      (current.stage.turn worker input) := by
  simp only [State.proceed, hturns.task, hturns.target, hturns.data]

/-! ## What holds of every state -/

/-- What no step takes back. -/
structure Evolves (worker after : WorkerData) : Prop where
  instanceId : after.instanceId = worker.instanceId
  exited : worker.process.hasExited = true → after.process.hasExited = true
  started : worker.status ≠ .starting → after.status ≠ .starting
  stoppedOnce : worker.stoppedOnce = true → after.stoppedOnce = true

theorem Evolves.refl (worker : WorkerData) : Evolves worker worker :=
  ⟨rfl, id, id, id⟩

theorem stores_ne_starting (stage : Stage) : stage.stores ≠ some .starting := by
  cases stage <;> simp [Stage.stores]

theorem stores_cases {stage : Stage} (hkeeps : ¬stage.overwrites) :
    stage.stores = none ∨ stage = .stopped := by
  cases stage <;> simp_all [Stage.stores, Stage.overwrites]

theorem stores_of_looksUp {stage : Stage} (hlooksUp : stage.looksUp = true) :
    stage.stores = none := by
  cases stage <;> first | rfl | cases hlooksUp

theorem TurnFacts.evolves {stage : Stage} {worker : WorkerData} {input : Input}
    {turn : Turn} (hfacts : TurnFacts stage worker input turn) :
    Evolves worker turn.worker where
  instanceId := hfacts.instanceId
  exited := hfacts.exited
  started := fun hstarted => by
    rw [hfacts.status]
    cases hstores : stage.stores with
    | none => exact hstarted
    | some status =>
        rintro rfl
        exact stores_ne_starting stage hstores
  stoppedOnce := fun honce => by
    rw [hfacts.stoppedOnce, honce, Bool.true_or]

/-- Identifiers lead to workers that were given them, and no logs are moved
twice. -/
structure Registered (state : State) : Prop where
  mapped : ∀ instanceId number, state.workers instanceId = some number →
    ∃ worker, state.data number = some worker ∧ worker.instanceId = instanceId
  tasks : ∀ task current, state.tasks task = some current →
    ∃ worker, state.data current.worker = some worker ∧
      worker.instanceId = current.instanceId
  found : ∀ task current, state.tasks task = some current →
    ∃ number, state.workers current.instanceId = some number
  logged : ∀ instanceId number, state.activeLogs instanceId = some number →
    number ∉ state.movedLogs ∧
      ∃ worker, state.data number = some worker ∧
        worker.instanceId = instanceId
  movedOnce : state.movedLogs.Nodup
  moved : ∀ number ∈ state.movedLogs, ∃ worker, state.data number = some worker
  returned : ∀ number result, (number, result) ∈ state.stopReturns →
    ∃ worker, state.data number = some worker

/-- A call of `stop_worker` stores `Stopped` after the end of the process. -/
structure Halting (state : State) : Prop where
  killed : ∀ task current worker, state.tasks task = some current →
    current.stage = .stopped → state.data current.worker = some worker →
      worker.process.hasExited = true
  terminating : ∀ task current worker, state.tasks task = some current →
    current.stage = .terminating → state.data current.worker = some worker →
      worker.stoppedOnce = true
  stopped : ∀ number worker, state.data number = some worker →
    worker.status = .stopped → worker.stoppedOnce = true
  halted : ∀ number worker, state.data number = some worker →
    worker.stoppedOnce = true →
      worker.process.hasExited = true ∧ worker.status ≠ .starting
  returned : ∀ number worker, (number, .ok ()) ∈ state.stopReturns →
    state.data number = some worker → worker.status ≠ .starting

theorem registered_new : Registered .new where
  mapped := by simp [State.new]
  tasks := by simp [State.new]
  found := by simp [State.new]
  logged := by simp [State.new]
  movedOnce := List.nodup_nil
  moved := by simp [State.new]
  returned := by simp [State.new]

theorem halting_new : Halting .new where
  killed := by simp [State.new]
  terminating := by simp [State.new]
  stopped := by simp [State.new]
  halted := by simp [State.new]
  returned := by simp [State.new]

section Turned

variable {state : State} {task : ℕ} {current : Task} {number : ℕ}
  {worker : WorkerData} {name : String} {turn : Turn} {other : ℕ}

theorem turned_data {after : WorkerData} :
    (state.turned task name number turn).data other = some after ↔
      other = number ∧ turn.worker = after ∨
        other ≠ number ∧ state.data other = some after := by
  by_cases hother : other = number
  · simp [State.turned, hother]
  · simp [State.turned, hother]

theorem turned_tasks {after : Task} :
    (state.turned task name number turn).tasks other = some after ↔
      other = task ∧ (∃ stage, turn.next = some stage ∧
          ⟨name, number, stage⟩ = after) ∨
        other ≠ task ∧ state.tasks other = some after := by
  by_cases hother : other = task
  · simp [State.turned, hother]
  · simp [State.turned, hother]

theorem turned_stopReturns {result : Except WorkerdVmError Unit} :
    (other, result) ∈ (state.turned task name number turn).stopReturns ↔
      (other, result) ∈ state.stopReturns ∨
        other = number ∧ turn.returned = some result := by
  simp only [State.turned, List.mem_append, List.mem_map, Option.mem_toList,
    Prod.mk.injEq]
  refine or_congr_right ⟨?_, ?_⟩
  · rintro ⟨found, hreturned, rfl, rfl⟩
    exact ⟨rfl, hreturned⟩
  · rintro ⟨rfl, hreturned⟩
    exact ⟨result, hreturned, rfl, rfl⟩

theorem turned_movedLogs :
    other ∈ (state.turned task name number turn).movedLogs ↔
      other ∈ state.movedLogs ∨
        turn.moves = true ∧ state.activeLogs name = some other := by
  rw [State.turned]
  by_cases hmoves : turn.moves = true <;> simp [hmoves]

theorem turned_activeLogs {registered : String} :
    (state.turned task name number turn).activeLogs registered =
        some other ↔
      state.activeLogs registered = some other ∧
        ¬(turn.moves = true ∧ registered = name) := by
  rw [State.turned]
  by_cases hmoves : turn.moves = true
  · by_cases hname : registered = name
    · simp [hmoves, hname]
    · simp [hmoves, hname]
  · simp [hmoves]

namespace Turns

/-- A stage that does not look its worker up. -/
theorem worker_eq (hturns : Turns state task current number worker)
    (hkeeps : current.stage.looksUp = false) : current.worker = number := by
  have htarget := hturns.target
  simpa [State.target, hkeeps] using htarget

theorem worker_eq_of_stores (hturns : Turns state task current number worker)
    (hstores : current.stage.stores ≠ none) : current.worker = number := by
  refine hturns.worker_eq (Bool.eq_false_iff.mpr fun hlooksUp => ?_)
  exact hstores (stores_of_looksUp hlooksUp)

theorem instanceId (hturns : Turns state task current number worker)
    (hregistered : Registered state) :
    worker.instanceId = current.instanceId := by
  have hfound : ∃ found, state.data number = some found ∧
      found.instanceId = current.instanceId := by
    have htarget := hturns.target
    rw [State.target] at htarget
    split at htarget
    · exact hregistered.mapped _ _ htarget
    · obtain rfl := Option.some.inj htarget
      exact hregistered.tasks _ _ hturns.task
  obtain ⟨found, hdata, hid⟩ := hfound
  rw [hturns.data] at hdata
  obtain rfl := Option.some.inj hdata
  exact hid

/-- Each worker is still there, and has evolved. -/
theorem evolves (hturns : Turns state task current number worker)
    (input : Input) {found : WorkerData}
    (hfound : state.data other = some found) :
    ∃ after, (state.turned task current.instanceId number
      (current.stage.turn worker input)).data other = some after ∧
        Evolves found after := by
  by_cases hother : other = number
  · subst hother
    rw [hturns.data] at hfound
    obtain rfl := Option.some.inj hfound
    exact ⟨_, turned_data.mpr (Or.inl ⟨rfl, rfl⟩), turn_facts.evolves⟩
  · exact ⟨found, turned_data.mpr (Or.inr ⟨hother, hfound⟩), .refl found⟩

/-- No worker comes out of nothing. -/
theorem evolved (hturns : Turns state task current number worker)
    {input : Input} {after : WorkerData}
    (hafter : (state.turned task current.instanceId number
      (current.stage.turn worker input)).data other = some after) :
    ∃ found, state.data other = some found ∧ Evolves found after := by
  rcases turned_data.mp hafter with ⟨rfl, rfl⟩ | ⟨-, hfound⟩
  · exact ⟨worker, hturns.data, turn_facts.evolves⟩
  · exact ⟨after, hfound, .refl after⟩

end Turns

end Turned

namespace Registered

variable {state : State}

theorem turned (hregistered : Registered state) {task : ℕ} {current : Task}
    {number : ℕ} {worker : WorkerData}
    (hturns : Turns state task current number worker) (input : Input) :
    Registered (state.turned task current.instanceId number
      (current.stage.turn worker input)) where
  mapped := fun instanceId other hmapped => by
    obtain ⟨found, hfound, rfl⟩ := hregistered.mapped instanceId other hmapped
    obtain ⟨after, hafter, hevolves⟩ := hturns.evolves input hfound
    exact ⟨after, hafter, hevolves.instanceId⟩
  tasks := fun other waiting hwaiting => by
    rcases turned_tasks.mp hwaiting with ⟨-, stage, -, rfl⟩ | ⟨-, hwaiting⟩
    · obtain ⟨after, hafter, hevolves⟩ := hturns.evolves input hturns.data
      exact ⟨after, hafter,
        hevolves.instanceId.trans (hturns.instanceId hregistered)⟩
    · obtain ⟨found, hfound, hid⟩ := hregistered.tasks other waiting hwaiting
      obtain ⟨after, hafter, hevolves⟩ := hturns.evolves input hfound
      exact ⟨after, hafter, hevolves.instanceId.trans hid⟩
  found := fun other waiting hwaiting => by
    rcases turned_tasks.mp hwaiting with ⟨-, stage, -, rfl⟩ | ⟨-, hwaiting⟩
    · exact hregistered.found task current hturns.task
    · exact hregistered.found other waiting hwaiting
  logged := fun name other hlogged => by
    obtain ⟨hactive, hkept⟩ := turned_activeLogs.mp hlogged
    obtain ⟨hmoved, found, hfound, hid⟩ := hregistered.logged name other hactive
    obtain ⟨after, hafter, hevolves⟩ := hturns.evolves input hfound
    refine ⟨?_, after, hafter, hevolves.instanceId.trans hid⟩
    rw [turned_movedLogs]
    rintro (hbefore | ⟨hmoves, hnow⟩)
    · exact hmoved hbefore
    · -- the buffer moved now is registered under one identifier only
      obtain ⟨-, found', hfound', hid'⟩ := hregistered.logged _ other hnow
      rw [hfound] at hfound'
      obtain rfl := Option.some.inj hfound'
      exact hkept ⟨hmoves, hid.symm.trans hid'⟩
  movedOnce := by
    rw [State.turned]
    dsimp only
    split
    · refine List.nodup_append.mpr ⟨hregistered.movedOnce, ?_, ?_⟩
      · cases state.activeLogs current.instanceId <;> simp
      · rintro before hbefore last hlast rfl
        rw [Option.mem_toList] at hlast
        exact (hregistered.logged _ _ hlast).1 hbefore
    · exact hregistered.movedOnce
  moved := fun other hmoved => by
    have hfound : ∃ found, state.data other = some found := by
      rcases turned_movedLogs.mp hmoved with hbefore | ⟨-, hactive⟩
      · exact hregistered.moved other hbefore
      · obtain ⟨-, found, hfound, -⟩ := hregistered.logged _ other hactive
        exact ⟨found, hfound⟩
    obtain ⟨found, hfound⟩ := hfound
    obtain ⟨after, hafter, -⟩ := hturns.evolves input hfound
    exact ⟨after, hafter⟩
  returned := fun other result hreturned => by
    have hfound : ∃ found, state.data other = some found := by
      rcases turned_stopReturns.mp hreturned with hbefore | ⟨rfl, -⟩
      · exact hregistered.returned other result hbefore
      · exact ⟨worker, hturns.data⟩
    obtain ⟨found, hfound⟩ := hfound
    obtain ⟨after, hafter, -⟩ := hturns.evolves input hfound
    exact ⟨after, hafter⟩

end Registered

theorem Halting.turned {state : State} (hhalting : Halting state) {task : ℕ}
    {current : Task} {number : ℕ} {worker : WorkerData}
    (hturns : Turns state task current number worker) (input : Input) :
    Halting (state.turned task current.instanceId number
      (current.stage.turn worker input)) := by
  have hfacts : TurnFacts current.stage worker input
    (current.stage.turn worker input) := turn_facts
  have hkilled : current.stage = .stopped →
      worker.process.hasExited = true := by
    intro hstage
    refine hhalting.killed task current worker hturns.task hstage ?_
    rw [hturns.worker_eq (by rw [hstage]; rfl)]
    exact hturns.data
  have honce : current.stage = .terminating →
      worker.stoppedOnce = true := by
    intro hstage
    refine hhalting.terminating task current worker hturns.task hstage ?_
    rw [hturns.worker_eq (by rw [hstage]; rfl)]
    exact hturns.data
  constructor
  case killed =>
    intro other waiting after hwaiting hstage hafter
    rcases turned_tasks.mp hwaiting with
      ⟨-, stage, hnext, rfl⟩ | ⟨-, hwaiting⟩
    · rcases turned_data.mp hafter with ⟨-, rfl⟩ | ⟨hne, -⟩
      · exact hfacts.stopped (hnext.trans (congrArg some hstage))
      · exact absurd rfl hne
    · obtain ⟨found, hfound, hevolves⟩ := hturns.evolved hafter
      exact hevolves.exited
        (hhalting.killed other waiting found hwaiting hstage hfound)
  case terminating =>
    intro other waiting after hwaiting hstage hafter
    rcases turned_tasks.mp hwaiting with
      ⟨-, stage, hnext, rfl⟩ | ⟨-, hwaiting⟩
    · rcases turned_data.mp hafter with ⟨-, rfl⟩ | ⟨hne, -⟩
      · have hbefore := hfacts.terminating.mp
          (hnext.trans (congrArg some hstage))
        rw [hfacts.stoppedOnce]
        simp [hbefore]
      · exact absurd rfl hne
    · obtain ⟨found, hfound, hevolves⟩ := hturns.evolved hafter
      exact hevolves.stoppedOnce
        (hhalting.terminating other waiting found hwaiting hstage hfound)
  case stopped =>
    intro other after hafter hstatus
    rcases turned_data.mp hafter with ⟨rfl, rfl⟩ | ⟨-, hfound⟩
    · rw [hfacts.stoppedOnce]
      by_cases hstage : current.stage = .stopped
      · simp [hstage]
      · rw [hfacts.status] at hstatus
        have hsame : current.stage.stores ≠ some .stopped := by
          cases hcurrent : current.stage <;> simp_all [Stage.stores]
        cases hstores : current.stage.stores with
        | none =>
            rw [hstores] at hstatus
            rw [hhalting.stopped _ worker hturns.data hstatus, Bool.true_or]
        | some status =>
            rw [hstores] at hstatus hsame
            exact absurd (congrArg some hstatus) hsame
    · exact hhalting.stopped other after hfound hstatus
  case halted =>
    intro other after hafter hstopped
    rcases turned_data.mp hafter with ⟨rfl, rfl⟩ | ⟨-, hfound⟩
    · by_cases hstage : current.stage = .stopped
      · refine ⟨hfacts.exited (hkilled hstage), ?_⟩
        rw [hfacts.status, hstage]
        simp [Stage.stores]
      · have hbefore : worker.stoppedOnce = true := by
          simpa [hfacts.stoppedOnce, hstage] using hstopped
        obtain ⟨hexited, hstarted⟩ :=
          hhalting.halted _ worker hturns.data hbefore
        exact ⟨hfacts.exited hexited, hfacts.evolves.started hstarted⟩
    · exact hhalting.halted other after hfound hstopped
  case returned =>
    intro other after hreturned hafter
    obtain ⟨found, hfound, hevolves⟩ := hturns.evolved hafter
    refine hevolves.started ?_
    rcases turned_stopReturns.mp hreturned with hbefore | ⟨rfl, hok⟩
    · exact hhalting.returned other found hbefore hfound
    · rw [hturns.data] at hfound
      obtain rfl := Option.some.inj hfound
      rcases hfacts.returned.mp hok with ⟨-, hstatus⟩ | hstage
      · rcases hstatus with hstatus | hstatus <;> simp [hstatus]
      · exact (hhalting.halted _ worker hturns.data (honce hstage)).2

/-! ## The other steps -/

section Steps

variable {state : State} {task number : ℕ} {name : String}

theorem Registered.start (hregistered : Registered state)
    (hunused : state.Unused task number) :
    Registered (state.start task name number) := by
  obtain ⟨htask, hnumber⟩ := hunused
  have hkept : ∀ other worker, state.data other = some worker →
      update state.data number (some (.new name)) other = some worker := by
    intro other worker hworker
    rw [update_of_ne, hworker]
    rintro rfl
    rw [hnumber] at hworker
    cases hworker
  rw [State.start, if_pos ⟨htask, hnumber⟩]
  constructor
  case mapped =>
    intro instanceId other hmapped
    by_cases hsame : instanceId = name
    · obtain rfl : number = other := by simpa [hsame] using hmapped
      exact ⟨.new name, update_self .., hsame.symm⟩
    · obtain ⟨worker, hworker, hid⟩ :=
        hregistered.mapped instanceId other (by simpa [hsame] using hmapped)
      exact ⟨worker, hkept other worker hworker, hid⟩
  case tasks =>
    intro other current hcurrent
    by_cases hsame : other = task
    · obtain rfl : Task.mk name number .checking = current := by
        simpa [hsame] using hcurrent
      exact ⟨.new name, update_self .., rfl⟩
    · obtain ⟨worker, hworker, hid⟩ :=
        hregistered.tasks other current (by simpa [hsame] using hcurrent)
      exact ⟨worker, hkept _ worker hworker, hid⟩
  case found =>
    intro other current hcurrent
    by_cases hname : current.instanceId = name
    · exact ⟨number, by simp [hname]⟩
    · by_cases hsame : other = task
      · obtain rfl : Task.mk name number .checking = current := by
          simpa [hsame] using hcurrent
        exact absurd rfl hname
      · obtain ⟨found, hfound⟩ :=
          hregistered.found other current (by simpa [hsame] using hcurrent)
        exact ⟨found, by simpa [hname] using hfound⟩
  case logged =>
    intro instanceId other hlogged
    by_cases hsame : instanceId = name
    · obtain rfl : number = other := by simpa [hsame] using hlogged
      refine ⟨fun hmoved => ?_, .new name, update_self .., hsame.symm⟩
      obtain ⟨worker, hworker⟩ := hregistered.moved _ hmoved
      rw [hnumber] at hworker
      cases hworker
    · obtain ⟨hmoved, worker, hworker, hid⟩ :=
        hregistered.logged instanceId other (by simpa [hsame] using hlogged)
      exact ⟨hmoved, worker, hkept other worker hworker, hid⟩
  case movedOnce => exact hregistered.movedOnce
  case moved =>
    intro other hmoved
    obtain ⟨worker, hworker⟩ := hregistered.moved other hmoved
    exact ⟨worker, hkept other worker hworker⟩
  case returned =>
    intro other result hreturned
    obtain ⟨worker, hworker⟩ := hregistered.returned other result hreturned
    exact ⟨worker, hkept other worker hworker⟩

/-- A worker that is there after a start is the new one or an old one. -/
theorem start_data (hunused : state.Unused task number) {other : ℕ}
    {worker : WorkerData} :
    (state.start task name number).data other = some worker ↔
      other = number ∧ .new name = worker ∨
        other ≠ number ∧ state.data other = some worker := by
  rw [State.start, if_pos hunused]
  by_cases hother : other = number <;> simp [hother]

theorem start_tasks (hunused : state.Unused task number) {other : ℕ}
    {current : Task} :
    (state.start task name number).tasks other = some current ↔
      other = task ∧ ⟨name, number, .checking⟩ = current ∨
        other ≠ task ∧ state.tasks other = some current := by
  rw [State.start, if_pos hunused]
  by_cases hother : other = task <;> simp [hother]

theorem start_stopReturns :
    (state.start task name number).stopReturns = state.stopReturns := by
  rw [State.start]
  split <;> rfl

theorem start_movedLogs :
    (state.start task name number).movedLogs = state.movedLogs := by
  rw [State.start]
  split <;> rfl

/-- A call past its first stage was there before, with its worker. -/
theorem start_before (hregistered : Registered state)
    (hunused : state.Unused task number) {other : ℕ} {current : Task}
    {worker : WorkerData}
    (hcurrent : (state.start task name number).tasks other = some current)
    (hstage : current.stage ≠ .checking)
    (hworker : (state.start task name number).data current.worker =
      some worker) :
    state.tasks other = some current ∧
      state.data current.worker = some worker := by
  rcases (start_tasks hunused).mp hcurrent with ⟨-, rfl⟩ | ⟨-, hcurrent⟩
  · exact absurd rfl hstage
  · refine ⟨hcurrent, ?_⟩
    obtain ⟨found, hfound, -⟩ := hregistered.tasks other current hcurrent
    rcases (start_data hunused).mp hworker with ⟨heq, -⟩ | ⟨-, hworker⟩
    · rw [heq, hunused.2] at hfound
      cases hfound
    · exact hworker

theorem Halting.start (hhalting : Halting state) (hregistered : Registered state)
    (hunused : state.Unused task number) :
    Halting (state.start task name number) := by
  constructor
  case killed =>
    intro other current worker hcurrent hstage hworker
    obtain ⟨hcurrent, hworker⟩ := start_before hregistered hunused hcurrent
      (by simp [hstage]) hworker
    exact hhalting.killed other current worker hcurrent hstage hworker
  case terminating =>
    intro other current worker hcurrent hstage hworker
    obtain ⟨hcurrent, hworker⟩ := start_before hregistered hunused hcurrent
      (by simp [hstage]) hworker
    exact hhalting.terminating other current worker hcurrent hstage hworker
  case stopped =>
    intro other worker hworker hstatus
    rcases (start_data hunused).mp hworker with ⟨-, rfl⟩ | ⟨-, hworker⟩
    · cases hstatus
    · exact hhalting.stopped other worker hworker hstatus
  case halted =>
    intro other worker hworker honce
    rcases (start_data hunused).mp hworker with ⟨-, rfl⟩ | ⟨-, hworker⟩
    · cases honce
    · exact hhalting.halted other worker hworker honce
  case returned =>
    intro other worker hreturned hworker
    rw [start_stopReturns] at hreturned
    rcases (start_data hunused).mp hworker with ⟨rfl, -⟩ | ⟨-, hworker⟩
    · obtain ⟨found, hfound⟩ := hregistered.returned _ _ hreturned
      rw [hunused.2] at hfound
      cases hfound
    · exact hhalting.returned other worker hreturned hworker

/-- A call that begins with a lookup adds a task, if it finds the worker. -/
theorem call_tasks {stage : Stage} {other : ℕ} {current : Task}
    (hcurrent : (state.call task name stage).tasks other = some current) :
    (state.workers name = some current.worker ∧
        current = ⟨name, current.worker, stage⟩) ∨
      state.tasks other = some current := by
  rw [State.call] at hcurrent
  split at hcurrent
  · rename_i found hfree hfound
    by_cases hother : other = task
    · obtain rfl : Task.mk name found stage = current := by
        simpa [hother] using hcurrent
      exact Or.inl ⟨hfound, rfl⟩
    · exact Or.inr (by simpa [hother] using hcurrent)
  · exact Or.inr hcurrent

/-- A call at another stage than the new one was there before. -/
theorem call_before {stage : Stage} {other : ℕ} {current : Task}
    (hcurrent : (state.call task name stage).tasks other = some current)
    (hstage : current.stage ≠ stage) : state.tasks other = some current := by
  rcases call_tasks hcurrent with ⟨-, hnew⟩ | hcurrent
  · rw [hnew] at hstage
    exact absurd rfl hstage
  · exact hcurrent

theorem call_keeps_task {stage : Stage} {other : ℕ} {current : Task}
    (hcurrent : state.tasks other = some current) :
    (state.call task name stage).tasks other = some current := by
  rw [State.call]
  split
  · rename_i found hfree hfound
    dsimp only
    rw [update_of_ne, hcurrent]
    rintro rfl
    rw [hfree] at hcurrent
    cases hcurrent
  · exact hcurrent

theorem Registered.call (hregistered : Registered state) (stage : Stage) :
    Registered (state.call task name stage) where
  mapped := hregistered.mapped
  tasks := fun other current hcurrent => by
    rcases call_tasks hcurrent with ⟨hfound, hnew⟩ | hcurrent
    · rw [hnew]
      exact hregistered.mapped name current.worker hfound
    · exact hregistered.tasks other current hcurrent
  found := fun other current hcurrent => by
    rcases call_tasks hcurrent with ⟨hfound, hnew⟩ | hcurrent
    · rw [hnew]
      exact ⟨_, hfound⟩
    · exact hregistered.found other current hcurrent
  logged := hregistered.logged
  movedOnce := hregistered.movedOnce
  moved := hregistered.moved
  returned := hregistered.returned

theorem Halting.call (hhalting : Halting state) {stage : Stage}
    (hstage : stage ≠ .stopped ∧ stage ≠ .terminating) :
    Halting (state.call task name stage) where
  killed := fun other current worker hcurrent hstopped =>
    hhalting.killed other current worker
      (call_before hcurrent (by rw [hstopped]; exact hstage.1.symm)) hstopped
  terminating := fun other current worker hcurrent hterminating =>
    hhalting.terminating other current worker
      (call_before hcurrent (by rw [hterminating]; exact hstage.2.symm))
      hterminating
  stopped := hhalting.stopped
  halted := hhalting.halted
  returned := hhalting.returned

theorem exit_data {other : ℕ} {after : WorkerData} :
    (state.exit number).data other = some after ↔
      ∃ worker, state.data other = some worker ∧
        (if other = number then
          { worker with process := worker.process.exit } else worker) =
            after := by
  by_cases hother : other = number
  · simp [State.exit, hother]
  · simp [State.exit, hother]

theorem Registered.exit (hregistered : Registered state) :
    Registered (state.exit number) := by
  have hkept : ∀ other worker, state.data other = some worker →
      ∃ after, (state.exit number).data other = some after ∧
        after.instanceId = worker.instanceId := by
    intro other worker hworker
    refine ⟨_, exit_data.mpr ⟨worker, hworker, rfl⟩, ?_⟩
    split <;> rfl
  constructor
  case mapped =>
    intro instanceId other hmapped
    obtain ⟨worker, hworker, hid⟩ := hregistered.mapped instanceId other hmapped
    obtain ⟨after, hafter, hsame⟩ := hkept other worker hworker
    exact ⟨after, hafter, hsame.trans hid⟩
  case tasks =>
    intro other current hcurrent
    obtain ⟨worker, hworker, hid⟩ := hregistered.tasks other current hcurrent
    obtain ⟨after, hafter, hsame⟩ := hkept _ worker hworker
    exact ⟨after, hafter, hsame.trans hid⟩
  case found => exact hregistered.found
  case logged =>
    intro instanceId other hlogged
    obtain ⟨hmoved, worker, hworker, hid⟩ :=
      hregistered.logged instanceId other hlogged
    obtain ⟨after, hafter, hsame⟩ := hkept other worker hworker
    exact ⟨hmoved, after, hafter, hsame.trans hid⟩
  case movedOnce => exact hregistered.movedOnce
  case moved =>
    intro other hmoved
    obtain ⟨worker, hworker⟩ := hregistered.moved other hmoved
    obtain ⟨after, hafter, -⟩ := hkept other worker hworker
    exact ⟨after, hafter⟩
  case returned =>
    intro other result hreturned
    obtain ⟨worker, hworker⟩ := hregistered.returned other result hreturned
    obtain ⟨after, hafter, -⟩ := hkept other worker hworker
    exact ⟨after, hafter⟩

/-- The end of a process changes no status. -/
theorem exit_evolved {other : ℕ} {after : WorkerData}
    (hafter : (state.exit number).data other = some after) :
    ∃ worker, state.data other = some worker ∧
      after.instanceId = worker.instanceId ∧
      after.status = worker.status ∧
      after.stoppedOnce = worker.stoppedOnce ∧
      (worker.process.hasExited = true → after.process.hasExited = true) := by
  obtain ⟨worker, hworker, rfl⟩ := exit_data.mp hafter
  refine ⟨worker, hworker, ?_⟩
  split
  · exact ⟨rfl, rfl, rfl, fun _ => hasExited_exit _⟩
  · exact ⟨rfl, rfl, rfl, id⟩

theorem Halting.exit (hhalting : Halting state) :
    Halting (state.exit number) where
  killed := fun other current after hcurrent hstage hafter => by
    obtain ⟨worker, hworker, -, -, -, hexited⟩ := exit_evolved hafter
    exact hexited (hhalting.killed other current worker hcurrent hstage hworker)
  terminating := fun other current after hcurrent hstage hafter => by
    obtain ⟨worker, hworker, -, -, honce, -⟩ := exit_evolved hafter
    exact honce.trans
      (hhalting.terminating other current worker hcurrent hstage hworker)
  stopped := fun other after hafter hstatus => by
    obtain ⟨worker, hworker, -, hsame, honce, -⟩ := exit_evolved hafter
    exact honce.trans
      (hhalting.stopped other worker hworker (hsame.symm.trans hstatus))
  halted := fun other after hafter hstopped => by
    obtain ⟨worker, hworker, -, hsame, honce, hexited⟩ := exit_evolved hafter
    obtain ⟨hend, hstarted⟩ :=
      hhalting.halted other worker hworker (honce.symm.trans hstopped)
    exact ⟨hexited hend, hsame ▸ hstarted⟩
  returned := fun other after hreturned hafter => by
    obtain ⟨worker, hworker, -, hsame, -, -⟩ := exit_evolved hafter
    exact hsame ▸ hhalting.returned other worker hreturned hworker

/-- A task makes a step, if there is one. -/
theorem proceed_cases (hregistered : Registered state) (task : ℕ) :
    (∃ current number worker, Turns state task current number worker) ∨
      state.tasks task = none := by
  cases htask : state.tasks task with
  | none => exact Or.inr rfl
  | some current =>
      obtain ⟨number, htarget, worker, hworker⟩ : ∃ number,
          state.target current = some number ∧
            ∃ worker, state.data number = some worker := by
        rw [State.target]
        split
        · obtain ⟨number, hfound⟩ := hregistered.found task current htask
          obtain ⟨worker, hworker, -⟩ := hregistered.mapped _ number hfound
          exact ⟨number, hfound, worker, hworker⟩
        · obtain ⟨worker, hworker, -⟩ := hregistered.tasks task current htask
          exact ⟨current.worker, rfl, worker, hworker⟩
      exact Or.inl ⟨current, number, worker, htask, htarget, hworker⟩

theorem proceed_of_none (htask : state.tasks task = none) (input : Input) :
    state.proceed task input = state := by
  rw [State.proceed, htask]

end Steps

/-! ## Every run -/

structure Valid (state : State) : Prop where
  registered : Registered state
  halting : Halting state

theorem Valid.step {state : State} (hvalid : Valid state) (action : Action) :
    Valid (state.step action) := by
  obtain ⟨hregistered, hhalting⟩ := hvalid
  cases action with
  | start task name number =>
      by_cases hunused : state.Unused task number
      · exact ⟨hregistered.start hunused, hhalting.start hregistered hunused⟩
      · rw [State.step, State.start, if_neg hunused]
        exact ⟨hregistered, hhalting⟩
  | probe task name =>
      exact ⟨hregistered.call .probing, hhalting.call (by simp)⟩
  | stop task name =>
      exact ⟨hregistered.call .stopping, hhalting.call (by simp)⟩
  | exit number => exact ⟨hregistered.exit, hhalting.exit⟩
  | proceed task input =>
      rw [State.step]
      rcases proceed_cases hregistered task with
        ⟨current, number, worker, hturns⟩ | htask
      · rw [hturns.proceed]
        exact ⟨hregistered.turned hturns input, hhalting.turned hturns input⟩
      · rw [proceed_of_none htask]
        exact ⟨hregistered, hhalting⟩

theorem valid_new : Valid .new := ⟨registered_new, halting_new⟩

/-! ## The calls about one worker -/

section Calls

variable {state : State} {task : ℕ} {current : Task} {number other : ℕ}
  {worker : WorkerData} {name : String} {P : Stage → Prop}

/-- What holds of the stages of all calls about a worker, after a turn. -/
theorem turned_stages {turn : Turn}
    (hbefore : ∀ later waiting, state.tasks later = some waiting →
      waiting.worker = other → P waiting.stage)
    (hnext : ∀ stage, turn.next = some stage → number = other → P stage) :
    ∀ later waiting,
      (state.turned task name number turn).tasks later = some waiting →
        waiting.worker = other → P waiting.stage := by
  intro later waiting hwaiting heq
  rcases turned_tasks.mp hwaiting with ⟨-, stage, hstage, rfl⟩ | ⟨-, hwaiting⟩
  · exact hnext stage hstage heq
  · exact hbefore later waiting hwaiting heq

theorem stages_of_turned {turn : Turn}
    (htask : state.tasks task = some current) (hcurrent : P current.stage)
    (hafter : ∀ later waiting,
      (state.turned task name number turn).tasks later = some waiting →
        waiting.worker = other → P waiting.stage) :
    ∀ later waiting, state.tasks later = some waiting →
      waiting.worker = other → P waiting.stage := by
  intro later waiting hwaiting heq
  by_cases hlater : later = task
  · subst hlater
    obtain rfl := Option.some.inj (hwaiting.symm.trans htask)
    exact hcurrent
  · exact hafter later waiting (turned_tasks.mpr (Or.inr ⟨hlater, hwaiting⟩))
      heq

theorem start_stages (hunused : state.Unused task number)
    (hbefore : ∀ later waiting, state.tasks later = some waiting →
      waiting.worker = other → P waiting.stage)
    (hnew : P .checking) :
    ∀ later waiting,
      (state.start task name number).tasks later = some waiting →
        waiting.worker = other → P waiting.stage := by
  intro later waiting hwaiting heq
  rcases (start_tasks hunused).mp hwaiting with ⟨-, rfl⟩ | ⟨-, hwaiting⟩
  · exact hnew
  · exact hbefore later waiting hwaiting heq

theorem call_stages {stage : Stage}
    (hbefore : ∀ later waiting, state.tasks later = some waiting →
      waiting.worker = other → P waiting.stage)
    (hnew : P stage) :
    ∀ later waiting,
      (state.call task name stage).tasks later = some waiting →
        waiting.worker = other → P waiting.stage := by
  intro later waiting hwaiting heq
  rcases call_tasks hwaiting with ⟨-, hcalled⟩ | hwaiting
  · rw [hcalled]
    exact hnew
  · exact hbefore later waiting hwaiting heq

/-- A call that stores a status takes its turn with the worker it looked up. -/
theorem turns_of_stores (htask : state.tasks task = some current)
    (hstores : current.stage.stores ≠ none)
    (hworker : state.data current.worker = some worker) :
    Turns state task current current.worker worker where
  task := htask
  target := by
    have hkeeps : current.stage.looksUp = false :=
      Bool.eq_false_iff.mpr fun hlooksUp =>
        hstores (stores_of_looksUp hlooksUp)
    simp [State.target, hkeeps]
  data := hworker

end Calls

/-! ## A stopped worker is dead -/

/-- `stop_worker` has returned `Ok` for the worker. -/
def StopReturned (state : State) (number : ℕ) : Prop :=
  (number, .ok ()) ∈ state.stopReturns

/-- The process is not running, and `invoke_worker` refuses the worker. -/
def Dead (worker : WorkerData) : Prop :=
  worker.process.hasExited = true ∧
    worker.invoke = .error (.workerNotRunnable worker.status)

theorem dead_iff {worker : WorkerData} :
    Dead worker ↔
      worker.process.hasExited = true ∧ worker.status ≠ .running := by
  refine and_congr_right fun _ => ?_
  rw [WorkerData.invoke]
  split <;> simp_all

/-- In `after`, the workers are dead whose stop has returned in `before`. -/
def StaysDead (before after : State) : Prop :=
  ∀ number worker, StopReturned before number →
    after.data number = some worker → Dead worker

/-- No call is about to store `Running` in the worker. -/
def NoneMarks (state : State) (number : ℕ) : Prop :=
  ∀ task current, state.tasks task = some current →
    current.worker = number → current.stage.stores ≠ some .running

/-- What `stop_worker` needs when it returns `Ok`: a worker in `Error` has exited,
and no call that has read `Starting` has stored `Running` or is about to. -/
def FindsDead (state : State) : Action → Prop
  | .proceed task _ => ∀ current number worker,
      Turns state task current number worker →
        ReturnsOk current.stage worker →
          (worker.status = .error → worker.process.hasExited = true) ∧
            worker.status ≠ .running ∧ NoneMarks state number
  | _ => True

structure DeadForGood (state : State) (number : ℕ) : Prop where
  dead : ∀ worker, state.data number = some worker → Dead worker
  unmarked : NoneMarks state number

def AllDead (state : State) : Prop :=
  ∀ number, StopReturned state number → DeadForGood state number

theorem allDead_new : AllDead .new := by
  intro number hreturned
  simp [StopReturned, State.new] at hreturned

section Dead

variable {state : State} {task : ℕ} {current : Task} {number : ℕ}
  {worker : WorkerData}

/-- A dead worker stays dead in every step. -/
theorem DeadForGood.turned {other : ℕ} (hdead : DeadForGood state other)
    (hhalting : Halting state) (hreturned : StopReturned state other)
    (hturns : Turns state task current number worker) (input : Input) :
    DeadForGood (state.turned task current.instanceId number
      (current.stage.turn worker input)) other := by
  have hfacts : TurnFacts current.stage worker input
    (current.stage.turn worker input) := turn_facts
  constructor
  · intro after hafter
    rcases turned_data.mp hafter with ⟨rfl, rfl⟩ | ⟨-, hfound⟩
    · obtain ⟨hexited, hstatus⟩ := dead_iff.mp (hdead.dead worker hturns.data)
      refine dead_iff.mpr ⟨hfacts.exited hexited, ?_⟩
      rw [hfacts.status]
      cases hstores : current.stage.stores with
      | none => exact hstatus
      | some status =>
          rintro rfl
          refine hdead.unmarked task current hturns.task ?_ hstores
          exact hturns.worker_eq_of_stores (by simp [hstores])
    · exact hdead.dead after hfound
  · refine turned_stages (P := fun stage => stage.stores ≠ some .running)
      hdead.unmarked ?_
    rintro stage hnext rfl hmarks
    exact hhalting.returned number worker hreturned hturns.data
      (hfacts.marks stage hnext hmarks)

theorem DeadForGood.start {other : ℕ} {name : String}
    (hdead : DeadForGood state other) (hregistered : Registered state)
    (hreturned : StopReturned state other)
    (hunused : state.Unused task number) :
    DeadForGood (state.start task name number) other where
  dead := fun worker hworker => by
    rcases (start_data hunused).mp hworker with ⟨rfl, -⟩ | ⟨-, hworker⟩
    · obtain ⟨found, hfound⟩ := hregistered.returned _ _ hreturned
      rw [hunused.2] at hfound
      cases hfound
    · exact hdead.dead worker hworker
  unmarked := start_stages (P := fun stage => stage.stores ≠ some .running)
    hunused hdead.unmarked (by simp [Stage.stores])

theorem DeadForGood.call {other : ℕ} {name : String}
    (hdead : DeadForGood state other) {stage : Stage}
    (hstage : stage.stores = none) :
    DeadForGood (state.call task name stage) other where
  dead := hdead.dead
  unmarked := call_stages (P := fun stage => stage.stores ≠ some .running)
    hdead.unmarked (by simp [hstage])

theorem DeadForGood.exit {other : ℕ} (hdead : DeadForGood state other) :
    DeadForGood (state.exit number) other where
  dead := fun after hafter => by
    obtain ⟨worker, hworker, -, hstatus, -, hexited⟩ := exit_evolved hafter
    obtain ⟨hend, hnotRunning⟩ := dead_iff.mp (hdead.dead worker hworker)
    exact dead_iff.mpr ⟨hexited hend, hstatus ▸ hnotRunning⟩
  unmarked := hdead.unmarked

theorem Turns.unique (hturns : Turns state task current number worker)
    {current' : Task} {number' : ℕ} {worker' : WorkerData}
    (hturns' : Turns state task current' number' worker') :
    current' = current ∧ number' = number ∧ worker' = worker := by
  obtain rfl := Option.some.inj (hturns'.task.symm.trans hturns.task)
  obtain rfl := Option.some.inj (hturns'.target.symm.trans hturns.target)
  obtain rfl := Option.some.inj (hturns'.data.symm.trans hturns.data)
  exact ⟨rfl, rfl, rfl⟩

theorem stores_of_returnsOk {stage : Stage} (hreturns : ReturnsOk stage worker) :
    stage.looksUp = false ∧ stage.stores = none := by
  rcases hreturns with ⟨rfl, -⟩ | rfl <;> exact ⟨rfl, rfl⟩

/-- The worker of a call that is about to return `Ok`, before and after. -/
theorem returning_deadForGood_iff (hvalid : Valid state)
    (hturns : Turns state task current number worker)
    (hreturns : ReturnsOk current.stage worker) (input : Input) :
    DeadForGood (state.turned task current.instanceId number
        (current.stage.turn worker input)) number ↔
      (worker.status = .error → worker.process.hasExited = true) ∧
        worker.status ≠ .running ∧ NoneMarks state number := by
  have hfacts : TurnFacts current.stage worker input
    (current.stage.turn worker input) := turn_facts
  obtain ⟨hworker, hnext⟩ := hfacts.unchanged hreturns
  have hcurrent : current.worker = number :=
    hturns.worker_eq (stores_of_returnsOk hreturns).1
  have hexited : (worker.status = .error → worker.process.hasExited = true) →
      worker.process.hasExited = true := by
    intro herror
    rcases hreturns with ⟨-, hstopped | hstatus⟩ | hterminating
    · have honce := hvalid.halting.stopped number worker hturns.data hstopped
      exact (hvalid.halting.halted number worker hturns.data honce).1
    · exact herror hstatus
    · have honce := hvalid.halting.terminating task current worker hturns.task
        hterminating (hcurrent ▸ hturns.data)
      exact (hvalid.halting.halted number worker hturns.data honce).1
  constructor
  · intro hdead
    have hafter := dead_iff.mp
      (hdead.dead _ (turned_data.mpr (Or.inl ⟨rfl, rfl⟩)))
    rw [hworker] at hafter
    exact ⟨fun _ => hafter.1, hafter.2,
      stages_of_turned (P := fun stage => stage.stores ≠ some .running)
        hturns.task (by simp [(stores_of_returnsOk hreturns).2])
        hdead.unmarked⟩
  · rintro ⟨herror, hstatus, hunmarked⟩
    constructor
    · intro after hafter
      rcases turned_data.mp hafter with ⟨-, rfl⟩ | ⟨hne, -⟩
      · rw [hworker]
        exact dead_iff.mpr ⟨hexited herror, hstatus⟩
      · exact absurd rfl hne
    · exact turned_stages (P := fun stage => stage.stores ≠ some .running)
        hunmarked (by simp [hnext])

theorem step_allDead_iff (hvalid : Valid state) (hdead : AllDead state)
    (action : Action) :
    AllDead (state.step action) ↔ FindsDead state action := by
  cases action with
  | start task name number =>
      refine iff_of_true (fun other hreturned => ?_) trivial
      rw [StopReturned, State.step, start_stopReturns] at hreturned
      by_cases hunused : state.Unused task number
      · exact (hdead other hreturned).start hvalid.registered hreturned hunused
      · rw [State.step, State.start, if_neg hunused]
        exact hdead other hreturned
  | probe task name =>
      exact iff_of_true (fun other hreturned => (hdead other hreturned).call rfl)
        trivial
  | stop task name =>
      exact iff_of_true (fun other hreturned => (hdead other hreturned).call rfl)
        trivial
  | exit number =>
      exact iff_of_true (fun other hreturned => (hdead other hreturned).exit)
        trivial
  | proceed task input =>
      rcases proceed_cases hvalid.registered task with
        ⟨current, number, worker, hturns⟩ | htask
      · rw [State.step, hturns.proceed]
        have hreturned : (current.stage.turn worker input).returned =
            some (.ok ()) ↔ ReturnsOk current.stage worker :=
          turn_facts.returned
        constructor
        · intro hafter current' number' worker' hturns' hreturns
          obtain ⟨rfl, rfl, rfl⟩ := hturns.unique hturns'
          refine (returning_deadForGood_iff hvalid hturns hreturns input).mp ?_
          exact hafter _ (turned_stopReturns.mpr
            (Or.inr ⟨rfl, hreturned.mpr hreturns⟩))
        · intro hfinds other hother
          rcases turned_stopReturns.mp hother with hbefore | ⟨rfl, hok⟩
          · exact (hdead other hbefore).turned hvalid.halting hbefore hturns
              input
          · have hreturns := hreturned.mp hok
            exact (returning_deadForGood_iff hvalid hturns hreturns input).mpr
              (hfinds current _ worker hturns hreturns)
      · rw [State.step, proceed_of_none htask]
        refine iff_of_true hdead fun current number worker hturns => ?_
        rw [hturns.task] at htask
        cases htask

/-- Dead for good: also after one more step of any call. -/
theorem allDead_iff (hvalid : Valid state) :
    AllDead state ↔ StaysDead state state ∧
      ∀ task input, StaysDead state (state.step (.proceed task input)) := by
  constructor
  · intro hdead
    refine ⟨fun number worker hreturned => (hdead number hreturned).dead worker,
      fun task input number after hreturned hafter => ?_⟩
    rw [State.step] at hafter
    rcases proceed_cases hvalid.registered task with
      ⟨current, target, worker, hturns⟩ | htask
    · rw [hturns.proceed] at hafter
      exact ((hdead number hreturned).turned hvalid.halting hreturned hturns
        input).dead after hafter
    · rw [proceed_of_none htask] at hafter
      exact (hdead number hreturned).dead after hafter
  · rintro ⟨hnow, hnext⟩ number hreturned
    refine ⟨fun worker => hnow number worker hreturned, ?_⟩
    rintro task current htask rfl hmarks
    obtain ⟨worker, hworker, -⟩ := hvalid.registered.tasks task current htask
    have hturns := turns_of_stores htask (by simp [hmarks]) hworker
    have hafter := hnext task ⟨false, false, none⟩ current.worker _ hreturned
      (by rw [State.step, hturns.proceed]
          exact turned_data.mpr (Or.inl ⟨rfl, rfl⟩))
    refine (dead_iff.mp hafter).2 ?_
    rw [turn_facts.status, hmarks, Option.getD_some]

end Dead

/-- Exactly in the runs whose stops find their workers dead, a worker whose stop
has returned `Ok` is dead in every state and after one more step of any call. -/
theorem stopped_worker_dead_iff (actions : List Action) :
    Along State.step FindsDead .new actions ↔
      ∀ before, before <+: actions →
        StaysDead (.after before) (.after before) ∧
          ∀ task input, StaysDead (.after before)
            (.after (before ++ [.proceed task input])) := by
  rw [along_iff_initial_runs Valid AllDead valid_new allDead_new
    (fun _ action hvalid => hvalid.step action)
    fun _ action hvalid hdead => step_allDead_iff hvalid hdead action]
  refine forall_congr' fun before => imp_congr_right fun _ => ?_
  have hvalid : Valid (run State.step .new before) :=
    run_always Valid before valid_new fun _ action hvalid => hvalid.step action
  rw [allDead_iff hvalid]
  simp only [State.after, run_concat]

/-- The socket is there. -/
def socketThere : Input := ⟨true, false, none⟩

/-- The socket is not there, and `kill` succeeds. -/
def socketGone : Input := ⟨false, false, none⟩

/-- A worker starts, and a probe does not reach its socket once: the status is
`Error`, and `stop_worker` returns without killing the process. -/
def stopAfterProbe : List Action :=
  [.start 0 "worker-1" 0, .proceed 0 socketGone, .proceed 0 socketThere,
    .proceed 0 socketThere, .proceed 0 socketThere, .proceed 0 socketThere,
    .probe 1 "worker-1", .proceed 1 socketGone, .proceed 1 socketGone,
    .proceed 1 socketGone, .stop 2 "worker-1", .proceed 2 socketGone]

theorem stopped_worker_not_dead :
    ((State.after stopAfterProbe).data 0).map WorkerData.process =
        some .running ∧
      StopReturned (.after stopAfterProbe) 0 ∧
      ¬StaysDead (.after stopAfterProbe) (.after stopAfterProbe) := by
  have hreturned : StopReturned (.after stopAfterProbe) 0 := by
    rw [StopReturned]
    decide
  refine ⟨by decide, hreturned, fun hdead => ?_⟩
  have hexited := (hdead 0
    { instanceId := "worker-1"
      process := .running
      status := .error
      locked := false
      stoppedOnce := false } hreturned (by decide)).1
  cases hexited

/-! ## Stopped is final -/

/-- In `after`, the workers are `Stopped` whose status has been `Stopped` in
`before`. -/
def StaysStopped (before after : State) : Prop :=
  ∀ number worker found, before.data number = some worker →
    worker.stoppedOnce = true → after.data number = some found →
      found.status = .stopped

/-- The logs of a worker are moved, or the call that has stored `Stopped` is about
to move them. -/
def LogsMoved (state : State) (number : ℕ) (worker : WorkerData) : Prop :=
  number ∈ state.movedLogs ∨
    state.activeLogs worker.instanceId = some number ∧
      ∃ task current, state.tasks task = some current ∧
        current.worker = number ∧ current.stage = .terminating

/-- No call is about to store another status than `Stopped` in the worker. -/
def NoneOverwrites (state : State) (number : ℕ) : Prop :=
  ∀ task current, state.tasks task = some current →
    current.worker = number → ¬current.stage.overwrites

/-- What a stopped worker needs.  While its logs are to be moved, no other worker
starts under its identifier; the readiness loop and the probes do not find its
process gone; and when `Stopped` is stored, no call is about to store a status that
it chose before, and the logs are still registered. -/
def LeavesStopped (state : State) : Action → Prop
  | .start task name number => state.Unused task number →
      ∀ other worker, state.activeLogs name = some other →
        state.data other = some worker → worker.stoppedOnce = false
  | .proceed task input => ∀ current number worker,
      Turns state task current number worker →
        (FindsFailure current.stage worker input →
          worker.stoppedOnce = false) ∧
        (current.stage = .stopped → NoneOverwrites state number ∧
          (number ∈ state.movedLogs ∨
            state.activeLogs current.instanceId = some number))
  | _ => True

structure StoppedForGood (state : State) (number : ℕ) (worker : WorkerData) :
    Prop where
  status : worker.status = .stopped
  kept : NoneOverwrites state number
  logs : LogsMoved state number worker

def AllStopped (state : State) : Prop :=
  ∀ number worker, state.data number = some worker →
    worker.stoppedOnce = true → StoppedForGood state number worker

theorem allStopped_new : AllStopped .new := by
  intro number worker hworker
  simp [State.new] at hworker

section Stopped

variable {state : State} {task : ℕ} {current : Task} {number : ℕ}
  {worker : WorkerData}

theorem AllStopped.start_iff {name : String} (hstopped : AllStopped state)
    (hregistered : Registered state) (hunused : state.Unused task number) :
    AllStopped (state.start task name number) ↔
      ∀ other worker, state.activeLogs name = some other →
        state.data other = some worker → worker.stoppedOnce = false := by
  have hactive : (state.start task name number).activeLogs =
      update state.activeLogs name (some number) := by
    rw [State.start, if_pos hunused]
  have hnew : ∀ other worker, state.data other = some worker →
      other ≠ number := by
    rintro other worker hworker rfl
    rw [hunused.2] at hworker
    cases hworker
  constructor
  · intro hafter other worker hother hworker
    obtain ⟨hmoved, found, hfound, hid⟩ := hregistered.logged name other hother
    obtain rfl := Option.some.inj (hworker.symm.trans hfound)
    refine Bool.eq_false_iff.mpr fun honce => ?_
    have hne := hnew other worker hworker
    have hlogs := (hafter other worker
      ((start_data hunused).mpr (Or.inr ⟨hne, hworker⟩)) honce).logs
    rcases hlogs with hbefore | ⟨hregister, -⟩
    · rw [start_movedLogs] at hbefore
      exact hmoved hbefore
    · rw [hactive, hid, update_self] at hregister
      exact hne (Option.some.inj hregister).symm
  · intro hfree other worker hworker honce
    rcases (start_data hunused).mp hworker with ⟨-, rfl⟩ | ⟨hne, hdata⟩
    · cases honce
    · obtain ⟨hstatus, hkept, hlogs⟩ := hstopped other worker hdata honce
      refine ⟨hstatus, start_stages (P := fun stage => ¬stage.overwrites)
        hunused hkept (by simp [Stage.overwrites, Stage.stores]), ?_⟩
      · rcases hlogs with hmoved | ⟨hregister, later, waiting, hwaiting, hstage⟩
        · exact Or.inl (by rwa [start_movedLogs])
        · refine Or.inr ⟨?_, later, waiting, ?_, hstage⟩
          · rw [hactive, update_of_ne, hregister]
            rintro rfl
            rw [hfree other worker hregister hdata] at honce
            cases honce
          · refine (start_tasks hunused).mpr (Or.inr ⟨?_, hwaiting⟩)
            rintro rfl
            rw [hunused.1] at hwaiting
            cases hwaiting

theorem AllStopped.call (hstopped : AllStopped state) {name : String}
    {stage : Stage} (hstage : stage.stores = none) :
    AllStopped (state.call task name stage) := by
  intro other worker hworker honce
  obtain ⟨hstatus, hkept, hlogs⟩ := hstopped other worker hworker honce
  refine ⟨hstatus, call_stages (P := fun stage => ¬stage.overwrites)
    hkept (by simp [Stage.overwrites, hstage]), ?_⟩
  · refine hlogs.imp id ?_
    rintro ⟨hregister, later, waiting, hwaiting, hterminating⟩
    exact ⟨hregister, later, waiting, call_keeps_task hwaiting, hterminating⟩

theorem AllStopped.exit (hstopped : AllStopped state) :
    AllStopped (state.exit number) := by
  intro other after hafter honce
  obtain ⟨worker, hworker, hid, hstatus, hsame, -⟩ := exit_evolved hafter
  obtain ⟨hbefore, hkept, hlogs⟩ :=
    hstopped other worker hworker (hsame.symm.trans honce)
  refine ⟨hstatus.trans hbefore, hkept, ?_⟩
  rw [LogsMoved, hid]
  exact hlogs

/-- Another worker than the one of the step. -/
theorem StoppedForGood.turned_of_ne {other : ℕ} {found : WorkerData}
    (hstopped : StoppedForGood state other found) (hother : other ≠ number)
    (hturns : Turns state task current number worker) (input : Input) :
    StoppedForGood (state.turned task current.instanceId number
      (current.stage.turn worker input)) other found where
  status := hstopped.status
  kept := turned_stages (P := fun stage => ¬stage.overwrites) hstopped.kept
    fun _ _ hsame => absurd hsame.symm hother
  logs := by
    rw [LogsMoved, turned_movedLogs, turned_activeLogs]
    rcases hstopped.logs with hmoved | ⟨hregister, later, waiting, hwaiting,
      heq, hterminating⟩
    · exact Or.inl (Or.inl hmoved)
    · by_cases hmoves : (current.stage.turn worker input).moves = true ∧
          found.instanceId = current.instanceId
      · exact Or.inl (Or.inr ⟨hmoves.1, hmoves.2 ▸ hregister⟩)
      · refine Or.inr ⟨⟨hregister, hmoves⟩, later, waiting,
          turned_tasks.mpr (Or.inr ⟨?_, hwaiting⟩), heq, hterminating⟩
        rintro rfl
        obtain rfl := Option.some.inj (hwaiting.symm.trans hturns.task)
        refine hother (heq.symm.trans (hturns.worker_eq ?_))
        rw [hterminating]
        rfl

/-- A call that chooses no status stores `Stopped`, or nothing. -/
theorem status_of_kept (hstatus : worker.status = .stopped)
    (hkept : NoneOverwrites state number)
    (hturns : Turns state task current number worker) (input : Input) :
    (current.stage.turn worker input).worker.status = .stopped := by
  rw [turn_facts.status]
  cases hstores : current.stage.stores with
  | none => exact hstatus
  | some status =>
      have hworker : current.worker = number :=
        hturns.worker_eq_of_stores (by simp [hstores])
      rcases stores_cases (hkept task current hturns.task hworker) with
        hnone | hstage
      · rw [hstores] at hnone
        cases hnone
      · rw [hstage] at hstores
        exact (Option.some.inj hstores).symm

/-- The worker of the step has been `Stopped` before. -/
theorem StoppedForGood.turned (hstopped : StoppedForGood state number worker)
    (hregistered : Registered state)
    (hturns : Turns state task current number worker) {input : Input}
    (hfinds : ¬FindsFailure current.stage worker input) :
    StoppedForGood (state.turned task current.instanceId number
      (current.stage.turn worker input)) number
      (current.stage.turn worker input).worker := by
  have hfacts : TurnFacts current.stage worker input
    (current.stage.turn worker input) := turn_facts
  have hid := hturns.instanceId hregistered
  constructor
  case status => exact status_of_kept hstopped.status hstopped.kept hturns input
  case kept =>
    refine turned_stages (P := fun stage => ¬stage.overwrites) hstopped.kept ?_
    intro stage hnext _ hoverwrites
    exact hfinds
      ((hfacts.overwrites hstopped.status).mp ⟨stage, hnext, hoverwrites⟩)
  case logs =>
    rw [LogsMoved, turned_movedLogs, turned_activeLogs, hfacts.instanceId]
    rcases hstopped.logs with hmoved | ⟨hregister, later, waiting, hwaiting,
      heq, hterminating⟩
    · exact Or.inl (Or.inl hmoved)
    · by_cases hmoves : (current.stage.turn worker input).moves = true
      · exact Or.inl (Or.inr ⟨hmoves, hid ▸ hregister⟩)
      · refine Or.inr ⟨⟨hregister, fun h => hmoves h.1⟩, later, waiting,
          turned_tasks.mpr (Or.inr ⟨?_, hwaiting⟩), heq, hterminating⟩
        rintro rfl
        obtain rfl := Option.some.inj (hwaiting.symm.trans hturns.task)
        exact hmoves (hfacts.moves.mpr hterminating)

/-- `Stopped` is stored. -/
theorem stopping_stoppedForGood_iff (hregistered : Registered state)
    (hturns : Turns state task current number worker) (input : Input)
    (hstage : current.stage = .stopped) :
    StoppedForGood (state.turned task current.instanceId number
        (current.stage.turn worker input)) number
        (current.stage.turn worker input).worker ↔
      NoneOverwrites state number ∧ (number ∈ state.movedLogs ∨
        state.activeLogs current.instanceId = some number) := by
  have hfacts : TurnFacts current.stage worker input
    (current.stage.turn worker input) := turn_facts
  have hid := hturns.instanceId hregistered
  have hmoves : ¬(current.stage.turn worker input).moves = true := by
    rw [hfacts.moves, hstage]
    simp
  have hnext := hfacts.terminating.mpr hstage
  have hkeeps : ¬current.stage.overwrites := by
    simp [hstage, Stage.overwrites, Stage.stores]
  constructor
  · intro hstopped
    refine ⟨stages_of_turned (P := fun stage => ¬stage.overwrites)
      hturns.task hkeeps hstopped.kept, ?_⟩
    · rcases hstopped.logs with hmoved | ⟨hregister, -⟩
      · rcases turned_movedLogs.mp hmoved with hbefore | ⟨hnow, -⟩
        · exact Or.inl hbefore
        · exact absurd hnow hmoves
      · rw [hfacts.instanceId, hid] at hregister
        exact Or.inr (turned_activeLogs.mp hregister).1
  · rintro ⟨hkept, hlogs⟩
    constructor
    · rw [hfacts.status, hstage]
      rfl
    · refine turned_stages (P := fun stage => ¬stage.overwrites) hkept ?_
      intro stage hsome _
      obtain rfl := Option.some.inj (hsome.symm.trans hnext)
      simp [Stage.overwrites, Stage.stores]
    · rw [LogsMoved, turned_movedLogs, turned_activeLogs, hfacts.instanceId,
        hid]
      rcases hlogs with hmoved | hregister
      · exact Or.inl (Or.inl hmoved)
      · exact Or.inr ⟨⟨hregister, fun h => hmoves h.1⟩, task, _,
          turned_tasks.mpr (Or.inl ⟨rfl, _, hnext, rfl⟩), rfl, rfl⟩

theorem step_allStopped_iff (hvalid : Valid state) (hstopped : AllStopped state)
    (action : Action) :
    AllStopped (state.step action) ↔ LeavesStopped state action := by
  cases action with
  | start task name number =>
      by_cases hunused : state.Unused task number
      · rw [State.step, hstopped.start_iff hvalid.registered hunused,
          LeavesStopped]
        exact ⟨fun hfree _ => hfree, fun hfree => hfree hunused⟩
      · rw [State.step, State.start, if_neg hunused]
        exact iff_of_true hstopped fun h => absurd h hunused
  | probe task name => exact iff_of_true (hstopped.call rfl) trivial
  | stop task name => exact iff_of_true (hstopped.call rfl) trivial
  | exit number => exact iff_of_true hstopped.exit trivial
  | proceed task input =>
      rcases proceed_cases hvalid.registered task with
        ⟨current, number, worker, hturns⟩ | htask
      · rw [State.step, hturns.proceed]
        have hfacts : TurnFacts current.stage worker input
          (current.stage.turn worker input) := turn_facts
        constructor
        · intro hafter current' number' worker' hturns'
          obtain ⟨rfl, rfl, rfl⟩ := hturns.unique hturns'
          have hself := hafter _ _ (turned_data.mpr (Or.inl ⟨rfl, rfl⟩))
          refine ⟨fun hfinds => Bool.eq_false_iff.mpr fun honce => ?_,
            fun hstage => ?_⟩
          · have hbefore := hstopped _ _ hturns.data honce
            obtain ⟨stage, hnext, hoverwrites⟩ :=
              (hfacts.overwrites hbefore.status).mpr hfinds
            exact (hself (hfacts.evolves.stoppedOnce honce)).kept task _
              (turned_tasks.mpr (Or.inl ⟨rfl, stage, hnext, rfl⟩)) rfl
              hoverwrites
          · refine (stopping_stoppedForGood_iff hvalid.registered hturns input
              hstage).mp (hself ?_)
            rw [hfacts.stoppedOnce]
            simp [hstage]
        · intro hleaves other after hafter honce
          obtain ⟨hfinds, hstage⟩ := hleaves current number worker hturns
          rcases turned_data.mp hafter with ⟨rfl, rfl⟩ | ⟨hother, hfound⟩
          · by_cases hstores : current.stage = .stopped
            · exact (stopping_stoppedForGood_iff hvalid.registered hturns input
                hstores).mpr (hstage hstores)
            · have hbefore : worker.stoppedOnce = true := by
                simpa [hfacts.stoppedOnce, hstores] using honce
              refine (hstopped _ _ hturns.data hbefore).turned
                hvalid.registered hturns fun hfailure => ?_
              rw [hfinds hfailure] at hbefore
              cases hbefore
          · exact (hstopped other after hfound honce).turned_of_ne hother hturns
              input
      · rw [State.step, proceed_of_none htask]
        refine iff_of_true hstopped fun current number worker hturns => ?_
        rw [hturns.task] at htask
        cases htask

/-- The logs of each stopped worker are moved once, or about to be. -/
structure LogsMovedOnce (state : State) : Prop where
  atMostOnce : ∀ number, state.movedLogs.count number ≤ 1
  moved : ∀ number worker, state.data number = some worker →
    worker.stoppedOnce = true → LogsMoved state number worker

/-- Stopped for good: also after one more step of any call. -/
theorem allStopped_iff (hvalid : Valid state) :
    AllStopped state ↔ LogsMovedOnce state ∧ StaysStopped state state ∧
      ∀ task input, StaysStopped state (state.step (.proceed task input)) := by
  constructor
  · intro hstopped
    refine ⟨⟨List.nodup_iff_count_le_one.mp hvalid.registered.movedOnce,
      fun number worker hworker honce =>
        (hstopped number worker hworker honce).logs⟩, ?_, ?_⟩
    · intro number worker found hworker honce hfound
      obtain rfl := Option.some.inj (hworker.symm.trans hfound)
      exact (hstopped number worker hworker honce).status
    · intro task input number worker after hworker honce hafter
      obtain ⟨hstatus, hkept, -⟩ := hstopped number worker hworker honce
      rw [State.step] at hafter
      rcases proceed_cases hvalid.registered task with
        ⟨current, target, owner, hturns⟩ | htask
      · rw [hturns.proceed] at hafter
        rcases turned_data.mp hafter with ⟨rfl, rfl⟩ | ⟨-, hfound⟩
        · obtain rfl := Option.some.inj (hworker.symm.trans hturns.data)
          exact status_of_kept hstatus hkept hturns input
        · obtain rfl := Option.some.inj (hworker.symm.trans hfound)
          exact hstatus
      · rw [proceed_of_none htask] at hafter
        obtain rfl := Option.some.inj (hworker.symm.trans hafter)
        exact hstatus
  · rintro ⟨hlogs, hnow, hnext⟩ number worker hworker honce
    refine ⟨hnow number worker worker hworker honce hworker, ?_,
      hlogs.moved number worker hworker honce⟩
    rintro task current htask rfl hoverwrites
    have hstores : current.stage.stores ≠ none := by
      intro hnone
      simp [Stage.overwrites, hnone] at hoverwrites
    have hturns := turns_of_stores htask hstores hworker
    have hafter := hnext task ⟨false, false, none⟩ current.worker worker _
      hworker honce
      (by rw [State.step, hturns.proceed]
          exact turned_data.mpr (Or.inl ⟨rfl, rfl⟩))
    rw [turn_facts.status] at hafter
    rcases hoverwrites with hstores | hstores <;> simp [hstores] at hafter

end Stopped

/-- Exactly in the runs that leave stopped workers alone, a worker that has been
`Stopped` is so in every state and after one more step of any call, and its logs
are moved exactly once. -/
theorem stopped_is_final_iff (actions : List Action) :
    Along State.step LeavesStopped .new actions ↔
      ∀ before, before <+: actions →
        LogsMovedOnce (.after before) ∧
          StaysStopped (.after before) (.after before) ∧
          ∀ task input, StaysStopped (.after before)
            (.after (before ++ [.proceed task input])) := by
  rw [along_iff_initial_runs Valid AllStopped valid_new allStopped_new
    (fun _ action hvalid => hvalid.step action)
    fun _ action hvalid hstopped => step_allStopped_iff hvalid hstopped action]
  refine forall_congr' fun before => imp_congr_right fun _ => ?_
  have hvalid : Valid (run State.step .new before) :=
    run_always Valid before valid_new fun _ action hvalid => hvalid.step action
  rw [allStopped_iff hvalid]
  simp only [State.after, run_concat]

/-- A worker is stopped while `start_worker` waits for its socket: the readiness
loop finds the process gone and stores `Error`. -/
def stopWhileStarting : List Action :=
  [.start 0 "worker-1" 0, .stop 1 "worker-1", .proceed 1 socketGone,
    .proceed 1 socketGone, .proceed 1 socketGone, .proceed 1 socketGone,
    .proceed 1 socketGone]

theorem stopped_not_final :
    ((State.after stopWhileStarting).data 0).map WorkerData.status =
        some .stopped ∧
      StopReturned (.after stopWhileStarting) 0 ∧
      ((State.after (stopWhileStarting ++
        [.proceed 0 socketGone, .proceed 0 socketGone])).data 0).map
          WorkerData.status = some .error := by
  refine ⟨by decide, ?_, by decide⟩
  rw [StopReturned]
  decide

end NxccBridge.Workerd
