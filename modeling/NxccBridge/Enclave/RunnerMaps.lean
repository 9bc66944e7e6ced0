import Mathlib.Logic.Function.Basic
import NxccBridge.Core.Runs
import NxccBridge.Vm.StopWorker

/-!
# The maps of the runner service

`attach_vm`, `detach_vm`, `run_worker` and `terminate_worker` of
`node/enclave/src/runner/management.rs`, any number of calls of them, step by
step.  A call changes the maps while it holds the write lock on `vms`; it gives up
the processor while it waits for that lock, for one of the other maps, or for the
VM.
-/

namespace NxccBridge.RunnerMaps

open Function
open NxccBridge.Runs
open NxccBridge.StopWorker

inductive RunnerError
  | vmNotAttached (vmId : String)
  | workerNotFound (workerId : String)
  | vmConnection (error : ClientError)
  | deserialization (message : String)
  | internal (message : String)
  | tlsConfig (message : String)
  | workerStartFailed (message : String)
  | unsupportedVmAddress (message : String)
  deriving DecidableEq

/-- What a call does first with the write lock on `vms`. -/
inductive Request (Client : Type*)
  | attachVm (vmId : String) (client : Client)
  | detachVm (vmId : String)
  | runWorker (vmId : String)
  | terminateWorker (workerId vmId : String)

/-- A call without the lock: `terminate_worker` looks the worker up first. -/
inductive Pending (Client : Type*)
  | worker (workerId : String)
  | lock (request : Request Client)

/-- Where a call is that holds the write lock on `vms`. -/
inductive Holding
  /-- The VM is removed, its workers are not yet. -/
  | detached (vmId : String)
  | starting (vmId : String)
  | started (instanceId vmId : String)
  | stopping (workerId vmId : String)
  | stopped (workerId vmId : String)
  /-- The worker is removed from `worker_map`. -/
  | removed (workerId vmId : String)
  deriving DecidableEq

inductive Returned
  | attachVm (result : Except RunnerError Bool)
  | detachVm
  | runWorker (result : Except RunnerError String)
  | terminateWorker (workerId : String) (result : Except RunnerError Unit)
  deriving DecidableEq

/-- `pending` are the calls in progress without the lock, `holder` is the call
with it, and `returns` is a history. -/
structure State (Client : Type*) where
  vms : String → Option Client
  workerMap : String → Option String
  deadWorkerMap : String → Option (String × ℕ)
  pending : ℕ → Option (Pending Client)
  holder : Option Holding
  returns : List Returned

variable {Client : Type*}

def State.new : State Client where
  vms := fun _ => none
  workerMap := fun _ => none
  deadWorkerMap := fun _ => none
  pending := fun _ => none
  holder := none
  returns := []

/-- `connection` is what connecting to the VM gives, `prepared` whether
`run_worker` gets as far as the lock, `answer` what the VM's client returns. -/
inductive Action (Client : Type*)
  | attachVm (call : ℕ) (vmId : String)
      (connection : Except RunnerError Client)
  | detachVm (call : ℕ) (vmId : String)
  | runWorker (call : ℕ) (vmId : String) (prepared : Except RunnerError Unit)
  | terminateWorker (call : ℕ) (workerId : String)
  | proceed (call : ℕ)
  | vmStarted (answer : Except ClientError String)
  | vmStopped (answer : Except ClientError Unit)
  | finish (now : ℕ)
  | cleanup (now : ℕ)

namespace State

def begin (self : State Client) (call : ℕ) (pending : Pending Client) :
    State Client :=
  match self.pending call with
  | none => { self with pending := update self.pending call (some pending) }
  | some _ => self

def leave (self : State Client) (call : ℕ) : State Client :=
  { self with pending := update self.pending call none }

def answer (self : State Client) (returned : Returned) : State Client :=
  { self with holder := none, returns := self.returns ++ [returned] }

section Fields

variable (self : State Client) (returned : Returned)

@[simp]
theorem answer_vms : (self.answer returned).vms = self.vms := rfl

@[simp]
theorem answer_workerMap :
    (self.answer returned).workerMap = self.workerMap := rfl

@[simp]
theorem answer_deadWorkerMap :
    (self.answer returned).deadWorkerMap = self.deadWorkerMap := rfl

@[simp]
theorem answer_holder : (self.answer returned).holder = none := rfl

@[simp]
theorem answer_returns :
    (self.answer returned).returns = self.returns ++ [returned] := rfl

end Fields

/-- A call has taken the lock. -/
def locked (self : State Client) : Request Client → State Client
  | .attachVm vmId client =>
      { self with vms := update self.vms vmId (some client) }.answer
        (.attachVm (.ok true))
  | .detachVm vmId =>
      match self.vms vmId with
      | some _ =>
          { self with
            vms := update self.vms vmId none
            holder := some (.detached vmId) }
      | none => self.answer .detachVm
  | .runWorker vmId =>
      match self.vms vmId with
      | some _ => { self with holder := some (.starting vmId) }
      | none => self.answer (.runWorker (.error (.vmNotAttached vmId)))
  | .terminateWorker workerId vmId =>
      match self.vms vmId with
      | some _ => { self with holder := some (.stopping workerId vmId) }
      | none =>
          self.answer (.terminateWorker workerId (.error (.vmNotAttached vmId)))

/-- A call looks its worker up, or takes the lock if it is free. -/
def proceed (self : State Client) (call : ℕ) : State Client :=
  match self.pending call with
  | none => self
  | some (.worker workerId) =>
      match self.workerMap workerId with
      | some vmId =>
          { self with
            pending := update self.pending call
              (some (.lock (.terminateWorker workerId vmId))) }
      | none =>
          { self.leave call with
            returns := self.returns ++
              [.terminateWorker workerId (.error (.workerNotFound workerId))] }
  | some (.lock request) =>
      match self.holder with
      | some _ => self
      | none => (self.leave call).locked request

/-- `start_worker` of the client has returned. -/
def vmStarted (self : State Client) (answer : Except ClientError String) :
    State Client :=
  match self.holder with
  | some (.starting vmId) =>
      match answer with
      | .ok instanceId =>
          { self with holder := some (.started instanceId vmId) }
      | .error (.grpc status) =>
          self.answer (.runWorker (.error (.workerStartFailed status.message)))
      | .error e => self.answer (.runWorker (.error (.vmConnection e)))
  | _ => self

/-- `stop_worker` of the client has returned. -/
def vmStopped (self : State Client) (answer : Except ClientError Unit) :
    State Client :=
  match self.holder with
  | some (.stopping workerId vmId) =>
      match answer with
      | .ok () => { self with holder := some (.stopped workerId vmId) }
      | .error e =>
          if e.code = some .notFound then
            { self with holder := some (.stopped workerId vmId) }
          else
            self.answer (.terminateWorker workerId (.error (.vmConnection e)))
  | _ => self

/-- The call with the lock has the map that it waited for. -/
def finish (self : State Client) (now : ℕ) : State Client :=
  match self.holder with
  | some (.detached vmId) =>
      { self with
        workerMap := fun workerId =>
          (self.workerMap workerId).filter (· ≠ vmId) }.answer .detachVm
  | some (.started instanceId vmId) =>
      -- nothing is awaited between the insertion and the return
      { self with
        workerMap := update self.workerMap instanceId (some vmId) }.answer
          (.runWorker (.ok instanceId))
  | some (.stopped workerId vmId) =>
      { self with
        workerMap := update self.workerMap workerId none
        holder := some (.removed workerId vmId) }
  | some (.removed workerId vmId) =>
      { self with
        deadWorkerMap := update self.deadWorkerMap workerId
          (some (vmId, now)) }.answer (.terminateWorker workerId (.ok ()))
  | _ => self

/-- Dead workers are forgotten after five minutes. -/
def cleanup (self : State Client) (now : ℕ) : State Client :=
  { self with
    deadWorkerMap := fun workerId =>
      (self.deadWorkerMap workerId).filter fun entry => now - entry.2 < 300 }

def step (self : State Client) : Action Client → State Client
  | .attachVm call vmId (.ok client) =>
      self.begin call (.lock (.attachVm vmId client))
  | .attachVm _ _ (.error e) =>
      { self with returns := self.returns ++ [.attachVm (.error e)] }
  | .detachVm call vmId => self.begin call (.lock (.detachVm vmId))
  | .runWorker call vmId (.ok ()) => self.begin call (.lock (.runWorker vmId))
  | .runWorker _ _ (.error e) =>
      { self with returns := self.returns ++ [.runWorker (.error e)] }
  | .terminateWorker call workerId => self.begin call (.worker workerId)
  | .proceed call => self.proceed call
  | .vmStarted answer => self.vmStarted answer
  | .vmStopped answer => self.vmStopped answer
  | .finish now => self.finish now
  | .cleanup now => self.cleanup now

end State

/-! ## What the returns say about the map -/

/-- Since `terminate_worker` has returned `Ok`, a mapped worker has been returned
by `run_worker`. -/
def Again (workerMap : String → Option String) (returns : List Returned) :
    Prop :=
  ∀ workerId before after,
    returns = before ++ .terminateWorker workerId (.ok ()) :: after →
      workerMap workerId ≠ none → .runWorker (.ok workerId) ∈ after

section Again

variable {workerMap : String → Option String} {returns : List Returned}

theorem again_nil : Again workerMap [] := by
  rintro workerId before after hnil
  simp at hnil

theorem Again.mono (hagain : Again workerMap returns)
    {fewer : String → Option String}
    (hfewer : ∀ workerId, fewer workerId ≠ none → workerMap workerId ≠ none) :
    Again fewer returns :=
  fun workerId before after hsplit hmapped =>
    hagain workerId before after hsplit (hfewer workerId hmapped)

/-- A return that leaves the map as it is. -/
theorem Again.concat (hagain : Again workerMap returns) {returned : Returned}
    (hlast : ∀ workerId, returned = .terminateWorker workerId (.ok ()) →
      workerMap workerId = none) :
    Again workerMap (returns ++ [returned]) := by
  intro workerId before after hsplit hmapped
  rcases List.eq_nil_or_concat' after with rfl | ⟨rest, last, rfl⟩
  · obtain ⟨-, rfl⟩ := List.append_singleton_inj.mp hsplit
    exact absurd (hlast workerId rfl) hmapped
  · rw [← List.cons_append, ← List.append_assoc] at hsplit
    obtain ⟨hbefore, -⟩ := List.append_singleton_inj.mp hsplit
    exact List.mem_append_left _
      (hagain workerId before rest hbefore hmapped)

/-- A worker that comes into the map is returned. -/
theorem Again.started (hagain : Again workerMap returns)
    (instanceId vmId : String) :
    Again (update workerMap instanceId (some vmId))
      (returns ++ [.runWorker (.ok instanceId)]) := by
  intro workerId before after hsplit hmapped
  rcases List.eq_nil_or_concat' after with rfl | ⟨rest, last, rfl⟩
  · obtain ⟨-, hlast⟩ := List.append_singleton_inj.mp hsplit
    cases hlast
  · rw [← List.cons_append, ← List.append_assoc] at hsplit
    obtain ⟨hbefore, rfl⟩ := List.append_singleton_inj.mp hsplit
    by_cases hsame : workerId = instanceId
    · subst hsame
      exact List.mem_append_right _ (List.mem_singleton_self _)
    · rw [update_of_ne hsame] at hmapped
      exact List.mem_append_left _
        (hagain workerId before rest hbefore hmapped)

end Again

/-! ## Consistent maps -/

/-- The VM of a mapped worker is attached, unless it is being detached. -/
structure Consistent (state : State Client) : Prop where
  attached : ∀ workerId vmId, state.workerMap workerId = some vmId →
    state.vms vmId ≠ none ∨ state.holder = some (.detached vmId)
  starting : ∀ vmId, state.holder = some (.starting vmId) →
    state.vms vmId ≠ none
  started : ∀ instanceId vmId,
    state.holder = some (.started instanceId vmId) → state.vms vmId ≠ none
  removed : ∀ workerId vmId, state.holder = some (.removed workerId vmId) →
    state.workerMap workerId = none
  again : Again state.workerMap state.returns

theorem consistent_new : Consistent (.new : State Client) where
  attached := by simp [State.new]
  starting := by simp [State.new]
  started := by simp [State.new]
  removed := by simp [State.new]
  again := again_nil

namespace Consistent

variable {state : State Client}

/-- A call without the lock returns. -/
theorem returned (hconsistent : Consistent state) {returned : Returned}
    (hlast : ∀ workerId, returned ≠ .terminateWorker workerId (.ok ())) :
    Consistent { state with returns := state.returns ++ [returned] } where
  attached := hconsistent.attached
  starting := hconsistent.starting
  started := hconsistent.started
  removed := hconsistent.removed
  again := hconsistent.again.concat fun workerId heq =>
    absurd heq (hlast workerId)

theorem withPending (hconsistent : Consistent state)
    (pending : ℕ → Option (Pending Client)) :
    Consistent { state with pending := pending } where
  attached := hconsistent.attached
  starting := hconsistent.starting
  started := hconsistent.started
  removed := hconsistent.removed
  again := hconsistent.again

theorem begin (hconsistent : Consistent state) (call : ℕ)
    (pending : Pending Client) : Consistent (state.begin call pending) := by
  rw [State.begin]
  split
  · exact hconsistent.withPending _
  · exact hconsistent

/-- The call with the lock returns: its VM's workers are all attached. -/
theorem answer (hconsistent : Consistent state) {returned : Returned}
    (hheld : ∀ vmId, state.holder ≠ some (.detached vmId))
    (hlast : ∀ workerId, returned = .terminateWorker workerId (.ok ()) →
      state.workerMap workerId = none) :
    Consistent (state.answer returned) where
  attached := fun workerId vmId hmapped =>
    (hconsistent.attached workerId vmId hmapped).imp id
      fun hdetached => absurd hdetached (hheld vmId)
  starting := by simp
  started := by simp
  removed := by simp
  again := hconsistent.again.concat hlast

/-- The lock passes on to a stage at which the VM is attached. -/
theorem hold (hconsistent : Consistent state) {holding : Holding}
    (hheld : ∀ vmId, state.holder ≠ some (.detached vmId))
    (hstarting : ∀ vmId, holding = .starting vmId → state.vms vmId ≠ none)
    (hstarted : ∀ instanceId vmId, holding = .started instanceId vmId →
      state.vms vmId ≠ none)
    (hremoved : ∀ workerId vmId, holding ≠ .removed workerId vmId) :
    Consistent { state with holder := some holding } where
  attached := fun workerId vmId hmapped =>
    (hconsistent.attached workerId vmId hmapped).imp id
      fun hdetached => absurd hdetached (hheld vmId)
  starting := fun vmId heq => hstarting vmId (Option.some.inj heq)
  started := fun instanceId vmId heq =>
    hstarted instanceId vmId (Option.some.inj heq)
  removed := fun workerId vmId heq =>
    absurd (Option.some.inj heq) (hremoved workerId vmId)
  again := hconsistent.again

theorem attach (hconsistent : Consistent state) (hfree : state.holder = none)
    (vmId : String) (client : Client) :
    Consistent { state with vms := update state.vms vmId (some client) } where
  attached := fun workerId mapped hmapped => by
    refine Or.inl ?_
    by_cases hsame : mapped = vmId
    · subst hsame
      simp
    · simpa [update_of_ne hsame, hfree] using
        hconsistent.attached workerId mapped hmapped
  starting := by simp [hfree]
  started := by simp [hfree]
  removed := by simp [hfree]
  again := hconsistent.again

theorem detach (hconsistent : Consistent state) (hfree : state.holder = none)
    (vmId : String) :
    Consistent { state with
      vms := update state.vms vmId none
      holder := some (.detached vmId) } where
  attached := fun workerId mapped hmapped => by
    by_cases hsame : mapped = vmId
    · subst hsame
      exact Or.inr rfl
    · refine Or.inl ?_
      simpa [update_of_ne hsame, hfree] using
        hconsistent.attached workerId mapped hmapped
  starting := by simp
  started := by simp
  removed := by simp
  again := hconsistent.again

theorem locked (hconsistent : Consistent state) (hfree : state.holder = none)
    (request : Request Client) : Consistent (state.locked request) := by
  have hheld : ∀ vmId, state.holder ≠ some (.detached vmId) := by simp [hfree]
  cases request with
  | attachVm vmId client =>
      exact (hconsistent.attach hfree vmId client).answer hheld (by simp)
  | detachVm vmId =>
      rw [State.locked]
      split
      · exact hconsistent.detach hfree vmId
      · exact hconsistent.answer hheld (by simp)
  | runWorker vmId =>
      rw [State.locked]
      split
      · rename_i client hclient
        refine hconsistent.hold hheld ?_ (by simp) (by simp)
        intro vmId heq
        obtain rfl := Holding.starting.inj heq
        simp [hclient]
      · exact hconsistent.answer hheld (by simp)
  | terminateWorker workerId vmId =>
      rw [State.locked]
      split
      · exact hconsistent.hold hheld (by simp) (by simp) (by simp)
      · exact hconsistent.answer hheld (by simp)

theorem proceed (hconsistent : Consistent state) (call : ℕ) :
    Consistent (state.proceed call) := by
  rw [State.proceed]
  split
  · exact hconsistent
  · split
    · exact hconsistent.withPending _
    · exact (hconsistent.returned (by simp)).withPending _
  · split
    · exact hconsistent
    · rename_i hfree
      have hleft : Consistent (state.leave call) := hconsistent.withPending _
      exact hleft.locked hfree _

theorem vmStarted (hconsistent : Consistent state)
    (answer : Except ClientError String) :
    Consistent (state.vmStarted answer) := by
  rw [State.vmStarted]
  split
  · rename_i vmId hholder
    have hheld : ∀ vmId, state.holder ≠ some (.detached vmId) := by
      simp [hholder]
    split
    · refine hconsistent.hold hheld (by simp) ?_ (by simp)
      rintro instanceId vmId ⟨rfl, rfl⟩
      exact hconsistent.starting _ hholder
    · exact hconsistent.answer hheld (by simp)
    · exact hconsistent.answer hheld (by simp)
  · exact hconsistent

theorem vmStopped (hconsistent : Consistent state)
    (answer : Except ClientError Unit) :
    Consistent (state.vmStopped answer) := by
  rw [State.vmStopped]
  split
  · rename_i workerId vmId hholder
    have hheld : ∀ vmId, state.holder ≠ some (.detached vmId) := by
      simp [hholder]
    split
    · exact hconsistent.hold hheld (by simp) (by simp) (by simp)
    · split
      · exact hconsistent.hold hheld (by simp) (by simp) (by simp)
      · exact hconsistent.answer hheld (by simp)
  · exact hconsistent

/-- The workers of a VM leave the map with it. -/
theorem retain (hconsistent : Consistent state) {vmId : String}
    (hholder : state.holder = some (.detached vmId)) :
    Consistent ({ state with
      workerMap := fun workerId =>
        (state.workerMap workerId).filter (· ≠ vmId) }.answer .detachVm) where
  attached := fun workerId mapped hmapped => by
    obtain ⟨hmapped, hother⟩ := Option.filter_eq_some_iff.mp hmapped
    refine Or.inl ((hconsistent.attached workerId mapped hmapped).resolve_right
      fun hsame => ?_)
    rw [hholder] at hsame
    cases hsame
    simp at hother
  starting := by simp
  started := by simp
  removed := by simp
  again := by
    refine (hconsistent.again.mono fun workerId hkept => ?_).concat (by simp)
    intro hnone
    exact hkept (by simp [hnone])

theorem insert (hconsistent : Consistent state) {instanceId vmId : String}
    (hholder : state.holder = some (.started instanceId vmId)) :
    Consistent ({ state with
      workerMap := update state.workerMap instanceId (some vmId) }.answer
        (.runWorker (.ok instanceId))) where
  attached := fun workerId mapped hmapped => by
    refine Or.inl ?_
    by_cases hsame : workerId = instanceId
    · subst hsame
      obtain rfl : vmId = mapped := by simpa using hmapped
      exact hconsistent.started workerId vmId hholder
    · have hold : state.workerMap workerId = some mapped := by
        simpa [update_of_ne hsame] using hmapped
      simpa [hholder] using hconsistent.attached workerId mapped hold
  starting := by simp
  started := by simp
  removed := by simp
  again := hconsistent.again.started instanceId vmId

theorem remove (hconsistent : Consistent state) {workerId vmId : String}
    (hholder : state.holder = some (.stopped workerId vmId)) :
    Consistent { state with
      workerMap := update state.workerMap workerId none
      holder := some (.removed workerId vmId) } where
  attached := fun other mapped hmapped => by
    refine Or.inl ?_
    by_cases hsame : other = workerId
    · subst hsame
      simp at hmapped
    · have hold : state.workerMap other = some mapped := by
        simpa [update_of_ne hsame] using hmapped
      simpa [hholder] using hconsistent.attached other mapped hold
  starting := by simp
  started := by simp
  removed := by
    rintro other mapped ⟨rfl, rfl⟩
    exact update_self ..
  again := by
    refine hconsistent.again.mono fun other hkept => ?_
    by_cases hsame : other = workerId
    · subst hsame
      simp at hkept
    · simpa [update_of_ne hsame] using hkept

theorem withDead (hconsistent : Consistent state)
    (deadWorkerMap : String → Option (String × ℕ)) :
    Consistent { state with deadWorkerMap := deadWorkerMap } where
  attached := hconsistent.attached
  starting := hconsistent.starting
  started := hconsistent.started
  removed := hconsistent.removed
  again := hconsistent.again

theorem finish (hconsistent : Consistent state) (now : ℕ) :
    Consistent (state.finish now) := by
  rw [State.finish]
  split
  · exact hconsistent.retain ‹_›
  · exact hconsistent.insert ‹_›
  · exact hconsistent.remove ‹_›
  · rename_i workerId vmId hholder
    refine (hconsistent.withDead _).answer (by simp [hholder]) ?_
    rintro workerId ⟨rfl, -⟩
    exact hconsistent.removed _ vmId hholder
  · exact hconsistent

theorem step (hconsistent : Consistent state) (action : Action Client) :
    Consistent (state.step action) := by
  cases action with
  | attachVm call vmId connection =>
      cases connection with
      | ok client => exact hconsistent.begin call _
      | error e => exact hconsistent.returned (by simp)
  | detachVm call vmId => exact hconsistent.begin call _
  | runWorker call vmId prepared =>
      cases prepared with
      | ok _ => exact hconsistent.begin call _
      | error e => exact hconsistent.returned (by simp)
  | terminateWorker call workerId => exact hconsistent.begin call _
  | proceed call => exact hconsistent.proceed call
  | vmStarted answer => exact hconsistent.vmStarted answer
  | vmStopped answer => exact hconsistent.vmStopped answer
  | finish now => exact hconsistent.finish now
  | cleanup now => exact hconsistent.withDead _

end Consistent

theorem run_consistent (actions : List (Action Client)) :
    Consistent (run State.step .new actions) :=
  run_always Consistent actions consistent_new
    fun _ action hconsistent => hconsistent.step action

/-- For all calls in any order, with any answers of the VMs. -/
theorem runner_maps_consistent (actions : List (Action Client)) :
    ((run State.step .new actions).holder = none →
      ∀ workerId vmId,
        (run State.step .new actions).workerMap workerId = some vmId →
          (run State.step .new actions).vms vmId ≠ none) ∧
    ∀ workerId before after,
      (run State.step .new actions).returns =
          before ++ .terminateWorker workerId (.ok ()) :: after →
        (run State.step .new actions).workerMap workerId = none ∨
          .runWorker (.ok workerId) ∈ after := by
  have hconsistent := run_consistent actions
  constructor
  · intro hfree workerId vmId hmapped
    refine (hconsistent.attached workerId vmId hmapped).resolve_right ?_
    simp [hfree]
  · intro workerId before after hsplit
    exact or_iff_not_imp_left.mpr
      (hconsistent.again workerId before after hsplit)

/-! ## A worker that the VM does not know -/

/-- `terminate_worker` with no other call in between; `answer` is what the VM's
client returns. -/
def terminateAlone (call : ℕ) (workerId : String)
    (answer : Except ClientError Unit) (now : ℕ) : List (Action Client) :=
  [.terminateWorker call workerId, .proceed call, .proceed call,
    .vmStopped answer, .finish now, .finish now]

/-- `terminate_worker` has returned `Ok` and moved the worker to the dead ones. -/
structure Moved (before after : State Client) (workerId vmId : String)
    (now : ℕ) : Prop where
  returns : after.returns =
    before.returns ++ [.terminateWorker workerId (.ok ())]
  workerMap : after.workerMap = update before.workerMap workerId none
  deadWorkerMap : after.deadWorkerMap =
    update before.deadWorkerMap workerId (some (vmId, now))

section Terminate

variable {state : State Client} {call : ℕ} {workerId vmId : String}
  {client : Client}

theorem run_terminateAlone (hfree : state.holder = none)
    (hidle : state.pending call = none)
    (hworker : state.workerMap workerId = some vmId)
    (hattached : state.vms vmId = some client)
    (answer : Except ClientError Unit) (now : ℕ) :
    run State.step state (terminateAlone call workerId answer now) =
      run State.step { state with holder := some (.stopping workerId vmId) }
        [.vmStopped answer, .finish now, .finish now] := by
  have hpending : update state.pending call none = state.pending := by
    rw [← hidle, update_eq_self]
  simp [terminateAlone, State.step, State.begin, State.proceed, State.leave,
    State.locked, hfree, hidle, hworker, hattached, hpending]

/-- The enclave moves a worker if the client returns `Ok` or `NotFound`. -/
theorem terminateAlone_moved_iff (hfree : state.holder = none)
    (hidle : state.pending call = none)
    (hworker : state.workerMap workerId = some vmId)
    (hattached : state.vms vmId = some client)
    (answer : Except ClientError Unit) (now : ℕ) :
    Moved state
        (run State.step state (terminateAlone call workerId answer now))
        workerId vmId now ↔
      answer = .ok () ∨ ReportsNotFound answer := by
  rw [run_terminateAlone hfree hidle hworker hattached]
  match answer with
  | .ok () =>
      refine iff_of_true ?_ (Or.inl rfl)
      exact ⟨rfl, rfl, rfl⟩
  | .error e =>
      by_cases hcode : e.code = some .notFound
      · refine iff_of_true ?_ (Or.inr ⟨e, rfl, hcode⟩)
        constructor <;>
          simp [State.step, State.vmStopped, State.finish, hcode]
      · refine iff_of_false (fun hmoved => ?_) ?_
        · have hreturns := hmoved.returns
          simp [State.step, State.vmStopped, State.finish, hcode] at hreturns
        · rintro (hok | ⟨error, herror, hnotFound⟩)
          · cases hok
          · obtain rfl := Except.error.inj herror
            exact hcode hnotFound

/-- Through the VM service the enclave never learns that the VM does not know the
worker. -/
theorem terminateWorker_notFound_iff (hfree : state.holder = none)
    (hidle : state.pending call = none)
    (hworker : state.workerMap workerId = some vmId)
    (hattached : state.vms vmId = some client) (stop : StopCall)
    (hstop : ∀ status, stop = .error status → status.code ≠ .notFound)
    (now : ℕ) :
    ((AnswersNotFound stop →
        Moved state (run State.step state (terminateAlone call workerId
          (stopThroughService stop) now)) workerId vmId now) ↔
      ¬AnswersNotFound stop) ∧
    ((ReportsNotFound (stopThroughService stop) ↔ AnswersNotFound stop) ↔
      ¬AnswersNotFound stop) := by
  have hreports := not_reportsNotFound hstop
  constructor
  · rw [terminateAlone_moved_iff hfree hidle hworker hattached]
    constructor
    · intro hcleans hnotFound
      obtain ⟨error, rfl, -⟩ := id hnotFound
      rcases hcleans hnotFound with hok | hreported
      · cases hok
      · exact hreports hreported
    · exact fun hknown hnotFound => absurd hnotFound hknown
  · simp [hreports]

end Terminate

/-- A worker runs in a VM. -/
def oneWorker : State Unit :=
  run State.step .new
    [.attachVm 0 "vm" (.ok ()), .proceed 0, .runWorker 1 "vm" (.ok ()),
      .proceed 1, .vmStarted (.ok "w"), .finish 0]

theorem terminateWorker_known :
    ((AnswersNotFound (.ok (.ok ())) →
        Moved oneWorker (run State.step oneWorker (terminateAlone 2 "w"
          (stopThroughService (.ok (.ok ()))) 7)) "w" "vm" 7) ↔
      ¬AnswersNotFound (.ok (.ok ()))) ∧
    ((ReportsNotFound (stopThroughService (.ok (.ok ()))) ↔
        AnswersNotFound (.ok (.ok ()))) ↔
      ¬AnswersNotFound (.ok (.ok ()))) :=
  terminateWorker_notFound_iff rfl rfl rfl rfl (.ok (.ok ())) (by simp) 7

/-- The Zenroom runtime does not know the worker: the call fails and the worker
stays mapped. -/
theorem terminateWorker_unknown :
    let stop : StopCall := .ok (.error (.zenroom (.workerNotFound "w")))
    let after := run State.step oneWorker
      (terminateAlone 2 "w" (stopThroughService stop) 7)
    AnswersNotFound stop ∧ ¬ReportsNotFound (stopThroughService stop) ∧
      after.returns.getLast? = some (.terminateWorker "w" (.error
        (.vmConnection (.grpc (.unknown "Worker not found: w"))))) ∧
      after.workerMap "w" = some "vm" ∧ after.deadWorkerMap "w" = none :=
  ⟨⟨_, rfl, rfl⟩, not_reportsNotFound (by simp), by decide, by decide,
    by decide⟩

end NxccBridge.RunnerMaps
