import NxccBridge.Core.Runs
import NxccBridge.Daemon.SecretsService
import NxccBridge.Enclave.PolicyExecution
import NxccBridge.Vm.StopWorker

/-!
# Policy workers that run at the same time

`check_policy_for_env` of the daemon starts a worker for the policy, executes it
and terminates it.  The worker is found by an identifier made from a clock
reading, in the worker map of the enclave and in that of the VM.  The enclave
holds the lock of its VM clients while it starts, invokes or stops a worker, and
no lock from one to the next.
-/

namespace NxccBridge.PolicyWorkers

open Function
open NxccBridge.Framing
open NxccBridge.Interface
open NxccBridge.Crypto
open NxccBridge.EnclaveSecrets
open NxccBridge.DaemonSecrets (AppError)
open NxccBridge.PolicyExecution
open NxccBridge.Runs
open NxccBridge.StopWorker (WorkerStatus)

/-- An entry of the VM's map.  `startedBy` is the call that the worker was started
for: the VM has no such field, and no branch reads it. -/
structure VmWorker where
  startedBy : ℕ
  executable : Bytes
  status : WorkerStatus
  deriving DecidableEq

/-- What a call checks: the executable of its own policy bundle, and the one
context. -/
structure PolicyCall (Claims : Type) where
  executable : Bytes
  request : ClaimedPolicyRequest Claims

/-- The identifier from the nanoseconds since the epoch, zero if they do not fit
their type. -/
def policyWorkerId (timestampNanos : Option ℤ) : String :=
  "policy-worker-" ++ toString (timestampNanos.getD 0)

/-- How `run_worker` of the enclave fails: with a gRPC status, or with a
response that has `success = false`. -/
inductive StartFailure
  | status (text : String)
  | unsuccessful (errorMessage : String)

def StartFailure.message : StartFailure → String
  | .status text => "Enclave run_worker failed: " ++ text
  | .unsuccessful errorMessage =>
      "Enclave runner failed to start worker in default VM: " ++ errorMessage

/-- How `run_worker` of the enclave ends: refused before the VM has an entry for
the worker, failed with the entry made, started, or started with the response
lost. -/
inductive StartOutcome
  | refused (failure : StartFailure)
  | failed (failure : StartFailure)
  | started
  | unheard (text : String)

/-- What an execution meets outside the two maps.  `respond` is what the worker
answers to a request at a path. -/
structure ExecutionEnvironment (Claims : Type) where
  verifyAndExtractClaims : ℕ → AttestationBundle → Except String Claims
  attached : Bool
  respond : VmWorker → String → Bytes → Except String Bytes
  toVec : List (PolicyExecutionContextForWorker Claims) → Bytes
  resultsFromSlice : Bytes → Except String (List Bool)
  currentTime : ℕ
  /-- The text of the gRPC status of an error. -/
  statusText : RunnerError → String
  /-- `PolicyExecutionRequest::try_from` of the contexts in the response. -/
  readResponse : List (ClaimedPolicyRequest Claims) → Except String Unit

variable {Claims : Type}

/-- The path of a handler. -/
def handlerPath (handlerName : String) : String :=
  if handlerName.startsWith "/" then handlerName else "/" ++ handlerName

/-- `invoke_worker` of the VM. -/
def invokeWorker (workers : String → Option VmWorker)
    (respond : VmWorker → String → Bytes → Except String Bytes)
    (workerId handlerName : String) (payload : Bytes) : Except String Bytes :=
  match workers workerId with
  | none => .error ("Worker instance not found: " ++ workerId)
  | some worker =>
      if worker.status = .running then
        respond worker (handlerPath handlerName) payload
      else
        .error ("Worker is not in a runnable state: " ++ worker.status.debug)

namespace ExecutionEnvironment

/-- The environment of `execute_policy`, with the answer of the worker map and an
`invoke_worker` of the VM. -/
def runner (env : ExecutionEnvironment Claims) (vmId : Option String)
    (invoke : String → String → Bytes → Except String Bytes) :
    RunnerEnvironment Claims where
  verifyAndExtractClaims := env.verifyAndExtractClaims
  workerMap := fun _ => vmId
  vms := fun _ => if env.attached then some invoke else none
  toVec := env.toVec
  resultsFromSlice := env.resultsFromSlice
  currentTime := env.currentTime

/-- The environment in which the worker is the only one. -/
def alone (env : ExecutionEnvironment Claims) (worker : VmWorker) :
    RunnerEnvironment Claims :=
  env.runner (some "vm") fun _ handlerName payload =>
    env.respond worker (handlerPath handlerName) payload

/-- What `check_policy_for_env` makes of the answer of the enclave. -/
def decision (env : ExecutionEnvironment Claims)
    (satisfied : Except RunnerError (List (ClaimedPolicyRequest Claims))) :
    Except AppError Bool :=
  match satisfied with
  | .error e =>
      .error (.service
        ("Enclave execute_policy failed: " ++ env.statusText e))
  | .ok contexts =>
      match env.readResponse contexts with
      | .error message =>
          .error (.service
            ("Invalid policy execution request from enclave: " ++ message))
      | .ok () => .ok !contexts.isEmpty

end ExecutionEnvironment

/-- How the stop of a worker ends in the VM. -/
inductive StopOutcome
  | killed
  | killFailed

/-- `stop_worker` of the VM: the entries after it, and whether the enclave takes
the worker out of its map. -/
def stopWorker (workers : String → Option VmWorker) (workerId : String)
    (outcome : StopOutcome) : (String → Option VmWorker) × Bool :=
  match workers workerId with
  | none => (workers, true)
  | some worker =>
      match worker.status with
      | .starting | .running =>
          match outcome with
          | .killed =>
              (update workers workerId
                (some { worker with status := .stopped }), true)
          | .killFailed => (workers, false)
      | .stopped | .error => (workers, true)
      | .unspecified | .stopping => (workers, false)

/-! ## The calls -/

/-- How far a call is: `looked` has read the worker map to execute and
`stopping` to terminate. -/
inductive Stage
  | idle
  | started (workerId : String)
  | looked (workerId : String) (vmId : Option String)
  | executed (workerId : String) (decision : Except AppError Bool)
  | stopping (workerId : String) (found : Bool)
      (decision : Except AppError Bool)
  | returned (decision : Except AppError Bool)

/-- The worker that the call has started and not executed yet. -/
def Stage.pendingWorker : Stage → Option String
  | started workerId => some workerId
  | looked workerId _ => some workerId
  | _ => none

/-- The decision of the call, once there is one. -/
def Stage.decided : Stage → Option (Except AppError Bool)
  | executed _ decision => some decision
  | stopping _ _ decision => some decision
  | returned decision => some decision
  | _ => none

variable {Digest : Type*} [DecidableEq Digest] {platform : Platform Digest}

/-- An execution that was made, with the secrets before and after it. -/
structure Execution (Claims : Type) {Digest : Type*}
    (platform : Platform Digest) where
  call : ℕ
  workerId : String
  env : ExecutionEnvironment Claims
  before : Secrets platform
  after : Secrets platform
  satisfied : Except RunnerError (List (ClaimedPolicyRequest Claims))

structure State (Claims : Type) {Digest : Type*}
    (platform : Platform Digest) where
  defaultVmId : String
  workers : String → Option VmWorker
  workerMap : String → Option String
  secrets : Secrets platform
  stage : ℕ → Stage
  executions : List (Execution Claims platform)

def State.new (defaultVmId : String) (secrets : Secrets platform) :
    State Claims platform where
  defaultVmId := defaultVmId
  workers := fun _ => none
  workerMap := fun _ => none
  secrets := secrets
  stage := fun _ => .idle
  executions := []

inductive Action (Claims : Type)
  | start (call : ℕ) (timestampNanos : Option ℤ) (outcome : StartOutcome)
  | look (call : ℕ)
  | execute (call : ℕ) (env : ExecutionEnvironment Claims)
  | lookTerminate (call : ℕ)
  | stop (call : ℕ) (outcome : StopOutcome)

namespace State

def start (calls : ℕ → PolicyCall Claims) (self : State Claims platform)
    (call : ℕ) (timestampNanos : Option ℤ) (outcome : StartOutcome) :
    State Claims platform :=
  match self.stage call with
  | .idle =>
      let workerId := policyWorkerId timestampNanos
      let failed := fun failure : StartFailure =>
        Stage.returned (.error (.service failure.message))
      let worker := fun status : WorkerStatus =>
        { startedBy := call
          executable := (calls call).executable
          status : VmWorker }
      match outcome with
      | .refused failure =>
          { self with stage := update self.stage call (failed failure) }
      | .failed failure =>
          { self with
            workers := update self.workers workerId (some (worker .error))
            stage := update self.stage call (failed failure) }
      | .started =>
          { self with
            workers := update self.workers workerId (some (worker .running))
            workerMap :=
              update self.workerMap workerId (some self.defaultVmId)
            stage := update self.stage call (.started workerId) }
      | .unheard text =>
          { self with
            workers := update self.workers workerId (some (worker .running))
            workerMap :=
              update self.workerMap workerId (some self.defaultVmId)
            stage := update self.stage call (failed (.status text)) }
  | _ => self

def look (self : State Claims platform) (call : ℕ) : State Claims platform :=
  match self.stage call with
  | .started workerId =>
      { self with
        stage := update self.stage call
          (.looked workerId (self.workerMap workerId)) }
  | _ => self

/-- `execute_policy` of the enclave, behind the worker map. -/
def executed (self : State Claims platform) (call : ℕ)
    (request : ClaimedPolicyRequest Claims) (workerId : String)
    (vmId : Option String) (env : ExecutionEnvironment Claims) :
    Execution Claims platform :=
  let result := executePolicy
    (env.runner vmId (invokeWorker self.workers env.respond))
    self.secrets workerId [request]
  { call
    workerId
    env
    before := self.secrets
    after := result.1
    satisfied := result.2 }

def record (self : State Claims platform)
    (execution : Execution Claims platform) : State Claims platform :=
  { self with
    secrets := execution.after
    stage := update self.stage execution.call
      (.executed execution.workerId
        (execution.env.decision execution.satisfied))
    executions := self.executions ++ [execution] }

def execute (calls : ℕ → PolicyCall Claims) (self : State Claims platform)
    (call : ℕ) (env : ExecutionEnvironment Claims) : State Claims platform :=
  match self.stage call with
  | .looked workerId vmId =>
      self.record (self.executed call (calls call).request workerId vmId env)
  | _ => self

def lookTerminate (self : State Claims platform) (call : ℕ) :
    State Claims platform :=
  match self.stage call with
  | .executed workerId decision =>
      { self with
        stage := update self.stage call
          (.stopping workerId (self.workerMap workerId).isSome decision) }
  | _ => self

/-- An error of the termination is only logged. -/
def stop (self : State Claims platform) (call : ℕ) (outcome : StopOutcome) :
    State Claims platform :=
  match self.stage call with
  | .stopping workerId found decision =>
      let stage := update self.stage call (.returned decision)
      if found then
        let (workers, removed) := stopWorker self.workers workerId outcome
        { self with
          workers := workers
          workerMap :=
            if removed then update self.workerMap workerId none
            else self.workerMap
          stage := stage }
      else { self with stage := stage }
  | _ => self

def step (calls : ℕ → PolicyCall Claims) (self : State Claims platform) :
    Action Claims → State Claims platform
  | .start call timestampNanos outcome =>
      self.start calls call timestampNanos outcome
  | .look call => self.look call
  | .execute call env => self.execute calls call env
  | .lookTerminate call => self.lookTerminate call
  | .stop call outcome => self.stop call outcome

end State

/-! ## Executions by the call's own worker -/

/-- The worker was started for the call, from the call's own bundle. -/
def VmWorker.Owned (calls : ℕ → PolicyCall Claims) (call : ℕ)
    (worker : VmWorker) : Prop :=
  worker.startedBy = call ∧ worker.executable = (calls call).executable

/-- An execution that succeeds, and what it files, is that of a worker of the
call's own; one that fails files nothing. -/
def Execution.Own (calls : ℕ → PolicyCall Claims)
    (execution : Execution Claims platform) : Prop :=
  match execution.satisfied with
  | .error _ => execution.after = execution.before
  | .ok contexts => ∃ worker : VmWorker, worker.Owned calls execution.call ∧
      executePolicy (execution.env.alone worker) execution.before
          execution.workerId [(calls execution.call).request] =
        (execution.after, .ok contexts)

/-- The executions lead from the first secrets to the last. -/
def Chained : Secrets platform → List (Execution Claims platform) →
    Secrets platform → Prop
  | first, [], last => last = first
  | first, execution :: rest, last =>
      execution.before = first ∧ Chained execution.after rest last

omit [DecidableEq Digest] in
theorem Chained.concat {first last : Secrets platform}
    {executions : List (Execution Claims platform)}
    (hchained : Chained first executions last)
    {execution : Execution Claims platform}
    (hbefore : execution.before = last) :
    Chained first (executions ++ [execution]) execution.after := by
  induction executions generalizing first with
  | nil => exact ⟨hbefore.trans hchained, rfl⟩
  | cons head rest ih => exact ⟨hchained.1, ih hchained.2⟩

theorem enhance_congr (left right : RunnerEnvironment Claims)
    (hverify : left.verifyAndExtractClaims = right.verifyAndExtractClaims)
    (call : ℕ) (contexts : List (ClaimedPolicyRequest Claims)) :
    left.enhance call contexts = right.enhance call contexts := by
  induction contexts generalizing call with
  | nil => rfl
  | cons context rest ih =>
      rw [RunnerEnvironment.enhance, RunnerEnvironment.enhance, hverify, ih]

/-- What it takes for a policy to get an answer. -/
theorem invokePolicy_eq_ok_iff {env : RunnerEnvironment Claims}
    {workerId : String} {contexts : List (ClaimedPolicyRequest Claims)}
    {results : List Bool} :
    env.invokePolicy workerId contexts = .ok results ↔
      ∃ vmId invoke resultPayload, env.workerMap workerId = some vmId ∧
        env.vms vmId = some invoke ∧
        invoke workerId RunnerEnvironment.policyHandlerName
            (env.toVec (contexts.map fun context => forPolicyWorker context
              context.envReport.attestation.detachedUserdata)) =
          .ok resultPayload ∧
        env.resultsFromSlice resultPayload = .ok results := by
  rw [RunnerEnvironment.invokePolicy]
  constructor
  · intro hresults
    split at hresults
    · cases hresults
    next vmId hvmId =>
      simp only at hresults
      split at hresults
      · cases hresults
      next invoke hinvoke =>
        split at hresults
        · cases hresults
        next resultPayload hpayload =>
          refine ⟨vmId, invoke, resultPayload, hvmId, hinvoke, hpayload, ?_⟩
          split at hresults
          · cases hresults
          next hread => rw [hread, Except.ok.inj hresults]
  · rintro ⟨vmId, invoke, resultPayload, hvmId, hinvoke, hpayload, hread⟩
    simp only [hvmId, hinvoke, hpayload, hread]

/-- An answer comes from the running worker under the identifier, as if that
worker were the only one. -/
theorem invokePolicy_alone {env : ExecutionEnvironment Claims}
    {vmId : Option String} {workers : String → Option VmWorker}
    {workerId : String} {contexts : List (ClaimedPolicyRequest Claims)}
    {results : List Bool}
    (hresults : (env.runner vmId
      (invokeWorker workers env.respond)).invokePolicy workerId contexts =
        .ok results) :
    ∃ worker, workers workerId = some worker ∧
      (env.alone worker).invokePolicy workerId contexts = .ok results := by
  obtain ⟨_, invoke, resultPayload, -, hinvoke, hpayload, hread⟩ :=
    invokePolicy_eq_ok_iff.mp hresults
  obtain ⟨hattached, hinvoke⟩ : env.attached = true ∧
      invokeWorker workers env.respond = invoke := by
    simpa [ExecutionEnvironment.runner] using hinvoke
  rw [← hinvoke, invokeWorker] at hpayload
  cases hworker : workers workerId with
  | none => simp [hworker] at hpayload
  | some worker =>
      simp only [hworker] at hpayload
      split_ifs at hpayload
      refine ⟨worker, rfl, invokePolicy_eq_ok_iff.mpr
        ⟨"vm", fun _ handlerName payload =>
            env.respond worker (handlerPath handlerName) payload,
          resultPayload, rfl, ?_, hpayload, hread⟩⟩
      simp [ExecutionEnvironment.alone, ExecutionEnvironment.runner, hattached]

/-- An execution that succeeds is that of the worker under the identifier. -/
theorem executePolicy_alone {env : ExecutionEnvironment Claims}
    {vmId : Option String} {workers : String → Option VmWorker}
    {before after : Secrets platform} {workerId : String}
    {contexts satisfied : List (ClaimedPolicyRequest Claims)}
    (hexecuted : executePolicy
      (env.runner vmId (invokeWorker workers env.respond)) before workerId
        contexts = (after, .ok satisfied)) :
    ∃ worker, workers workerId = some worker ∧
      executePolicy (env.alone worker) before workerId contexts =
        (after, .ok satisfied) := by
  have henhance : ∀ worker,
      (env.runner vmId (invokeWorker workers env.respond)).enhance 0 contexts =
        (env.alone worker).enhance 0 contexts :=
    fun worker => enhance_congr
      (env.runner vmId (invokeWorker workers env.respond)) (env.alone worker)
      rfl 0 contexts
  rw [executePolicy] at hexecuted
  cases hresults : (env.runner vmId (invokeWorker workers
      env.respond)).invokePolicy workerId ((env.runner vmId (invokeWorker
        workers env.respond)).enhance 0 contexts) with
  | error e => simp [hresults] at hexecuted
  | ok results =>
      obtain ⟨worker, hworker, halone⟩ := invokePolicy_alone hresults
      refine ⟨worker, hworker, ?_⟩
      rw [henhance worker] at halone
      rw [executePolicy, halone, ← hexecuted, hresults, henhance worker]
      rfl

/-- An execution that fails files nothing. -/
theorem executePolicy_error {env : RunnerEnvironment Claims}
    {before after : Secrets platform} {workerId : String}
    {contexts : List (ClaimedPolicyRequest Claims)} {error : RunnerError}
    (hexecuted : executePolicy env before workerId contexts =
      (after, .error error)) :
    after = before := by
  rw [executePolicy] at hexecuted
  split at hexecuted
  · exact (Prod.mk.inj hexecuted).1.symm
  · split_ifs at hexecuted
    · exact (Prod.mk.inj hexecuted).1.symm
    · cases (Prod.mk.inj hexecuted).2

/-- Stopping changes the status of workers at most. -/
theorem stopWorker_eq_some {workers : String → Option VmWorker}
    {workerId : String} {outcome : StopOutcome} {other : String}
    {worker : VmWorker}
    (hworker : (stopWorker workers workerId outcome).1 other = some worker) :
    ∃ before, workers other = some before ∧
      worker.startedBy = before.startedBy ∧
      worker.executable = before.executable := by
  have hself : workers other = some worker →
      ∃ before, workers other = some before ∧
        worker.startedBy = before.startedBy ∧
        worker.executable = before.executable :=
    fun hsome => ⟨worker, hsome, rfl, rfl⟩
  have hkilled : ∀ found, workers workerId = some found →
      update workers workerId (some { found with status := .stopped }) other =
        some worker →
      ∃ before, workers other = some before ∧
        worker.startedBy = before.startedBy ∧
        worker.executable = before.executable := by
    intro found hfound hupdated
    by_cases hsame : other = workerId
    · rw [hsame, update_self] at hupdated
      rw [hsame, ← Option.some.inj hupdated]
      exact ⟨found, hfound, rfl, rfl⟩
    · rw [update_of_ne hsame] at hupdated
      exact hself hupdated
  rw [stopWorker] at hworker
  split at hworker
  · exact hself hworker
  next found hfound =>
    split at hworker
    all_goals
      first
        | exact hself hworker
        | cases outcome with
          | killed => exact hkilled found hfound hworker
          | killFailed => exact hself hworker

/-! ## The invariant -/

/-- Every call that has started its worker finds no other under its identifier,
and what has been executed is its own. -/
structure Owned (calls : ℕ → PolicyCall Claims) (first : Secrets platform)
    (state : State Claims platform) : Prop where
  pending : ∀ call workerId, (state.stage call).pendingWorker = some workerId →
    ∀ worker, state.workers workerId = some worker → worker.Owned calls call
  executions : ∀ execution ∈ state.executions, execution.Own calls
  decided : ∀ call satisfied, (state.stage call).decided = some (.ok satisfied) →
    ∃ execution ∈ state.executions, execution.call = call ∧
      execution.env.decision execution.satisfied = .ok satisfied
  chained : Chained first state.executions state.secrets

/-- No worker is started under the identifier of one that another call has
started and not executed yet. -/
def Fresh (state : State Claims platform) : Action Claims → Prop
  | .start call timestampNanos outcome =>
      state.stage call = .idle →
        (∀ failure, outcome ≠ .refused failure) →
          ∀ other, (state.stage other).pendingWorker ≠
            some (policyWorkerId timestampNanos)
  | _ => True

variable {calls : ℕ → PolicyCall Claims} {first : Secrets platform}
variable {self : State Claims platform}

theorem owned_new (defaultVmId : String) :
    Owned calls first (.new defaultVmId first) where
  pending := fun call workerId hpending => by cases hpending
  executions := fun execution hmem => absurd hmem List.not_mem_nil
  decided := fun call satisfied hdecided => by cases hdecided
  chained := rfl

namespace Owned

/-- A call moves on: the workers that calls have started are still their own,
and no decision is new. -/
theorem moved (howned : Owned calls first self) {call : ℕ} {stage : Stage}
    {workers : String → Option VmWorker}
    (workerMap : String → Option String)
    (hpending : ∀ other workerId,
      (update self.stage call stage other).pendingWorker = some workerId →
        ∀ worker, workers workerId = some worker → worker.Owned calls other)
    (hdecided : ∀ satisfied, stage.decided = some (.ok satisfied) →
      (self.stage call).decided = some (.ok satisfied)) :
    Owned calls first
      { self with
        workers := workers
        workerMap := workerMap
        stage := update self.stage call stage } where
  pending := hpending
  executions := howned.executions
  decided := by
    intro other satisfied hother
    by_cases hsame : other = call
    · subst hsame
      simp only [update_self] at hother
      exact howned.decided other satisfied (hdecided satisfied hother)
    · simp only [update_of_ne hsame] at hother
      exact howned.decided other satisfied hother
  chained := howned.chained

/-- The other calls wait for the same workers. -/
theorem pending_update (howned : Owned calls first self) {call : ℕ}
    {stage : Stage}
    (hstage : ∀ workerId, stage.pendingWorker = some workerId →
      (self.stage call).pendingWorker = some workerId)
    {other : ℕ} {workerId : String}
    (hother : (update self.stage call stage other).pendingWorker =
      some workerId)
    {worker : VmWorker} (hworker : self.workers workerId = some worker) :
    worker.Owned calls other := by
  by_cases hsame : other = call
  · subst hsame
    rw [update_self] at hother
    exact howned.pending other workerId (hstage workerId hother) worker hworker
  · rw [update_of_ne hsame] at hother
    exact howned.pending other workerId hother worker hworker

/-- A worker is put under an identifier that no other call waits for. -/
theorem pending_insert (howned : Owned calls first self) {call : ℕ}
    {stage : Stage} {inserted : String} {started : VmWorker}
    (hstarted : started.Owned calls call)
    (hstage : ∀ workerId, stage.pendingWorker = some workerId →
      workerId = inserted)
    (hfresh : ∀ other, (self.stage other).pendingWorker ≠ some inserted)
    {other : ℕ} {workerId : String}
    (hother : (update self.stage call stage other).pendingWorker =
      some workerId)
    {worker : VmWorker}
    (hworker : update self.workers inserted (some started) workerId =
      some worker) :
    worker.Owned calls other := by
  by_cases hsame : other = call
  · subst hsame
    rw [update_self] at hother
    rw [hstage workerId hother, update_self] at hworker
    exact Option.some.inj hworker ▸ hstarted
  · rw [update_of_ne hsame] at hother
    have hid : workerId ≠ inserted := by
      rintro rfl
      exact hfresh other hother
    rw [update_of_ne hid] at hworker
    exact howned.pending other workerId hother worker hworker

theorem start (howned : Owned calls first self) (call : ℕ)
    (timestampNanos : Option ℤ) (outcome : StartOutcome)
    (hfresh : Fresh self (.start call timestampNanos outcome)) :
    Owned calls first (self.start calls call timestampNanos outcome) := by
  unfold State.start
  split
  next hidle =>
    have hfree := hfresh hidle
    cases outcome with
    | refused failure =>
        refine howned.moved self.workerMap ?_ ?_
        · intro other workerId hother worker hworker
          exact howned.pending_update (fun _ hnone => by cases hnone) hother
            hworker
        · intro satisfied hdecided
          cases hdecided
    | failed failure =>
        refine howned.moved self.workerMap ?_ ?_
        · intro other workerId hother worker hworker
          exact howned.pending_insert ⟨rfl, rfl⟩
            (fun _ hnone => by cases hnone)
            (hfree fun _ => StartOutcome.noConfusion) hother hworker
        · intro satisfied hdecided
          cases hdecided
    | started =>
        refine howned.moved _ ?_ ?_
        · intro other workerId hother worker hworker
          exact howned.pending_insert ⟨rfl, rfl⟩
            (fun _ hsome => by cases hsome; rfl)
            (hfree fun _ => StartOutcome.noConfusion) hother hworker
        · intro satisfied hdecided
          cases hdecided
    | unheard text =>
        refine howned.moved _ ?_ ?_
        · intro other workerId hother worker hworker
          exact howned.pending_insert ⟨rfl, rfl⟩
            (fun _ hnone => by cases hnone)
            (hfree fun _ => StartOutcome.noConfusion) hother hworker
        · intro satisfied hdecided
          cases hdecided
  next => exact howned

theorem look (howned : Owned calls first self) (call : ℕ) :
    Owned calls first (self.look call) := by
  unfold State.look
  split
  next workerId hstage =>
    refine howned.moved self.workerMap ?_ ?_
    · intro other pendingId hother worker hworker
      exact howned.pending_update
        (fun _ hsome => by rw [hstage]; exact hsome) hother hworker
    · intro satisfied hdecided
      cases hdecided
  next => exact howned

theorem lookTerminate (howned : Owned calls first self) (call : ℕ) :
    Owned calls first (self.lookTerminate call) := by
  unfold State.lookTerminate
  split
  next workerId decision hstage =>
    refine howned.moved self.workerMap ?_ ?_
    · intro other pendingId hother worker hworker
      exact howned.pending_update (fun _ hnone => by cases hnone) hother
        hworker
    · intro satisfied hdecided
      rw [hstage]
      exact hdecided
  next => exact howned

theorem record (howned : Owned calls first self)
    {execution : Execution Claims platform} (hown : execution.Own calls)
    (hbefore : execution.before = self.secrets) :
    Owned calls first (self.record execution) where
  pending := fun _ _ hother _ hworker =>
    howned.pending_update (fun _ hnone => by cases hnone) hother hworker
  executions := by
    simp only [State.record, List.forall_mem_append, List.forall_mem_singleton]
    exact ⟨howned.executions, hown⟩
  decided := by
    intro other decision hother
    simp only [State.record] at hother
    by_cases hsame : other = execution.call
    · rw [hsame, update_self] at hother
      exact ⟨execution, List.mem_append_right _ (List.mem_singleton_self _),
        hsame.symm, Option.some.inj hother⟩
    · rw [update_of_ne hsame] at hother
      obtain ⟨before, hmem, hcall, hdecision⟩ :=
        howned.decided other decision hother
      exact ⟨before, List.mem_append_left _ hmem, hcall, hdecision⟩
  chained := howned.chained.concat hbefore

theorem execute (howned : Owned calls first self) (call : ℕ)
    (env : ExecutionEnvironment Claims) :
    Owned calls first (self.execute calls call env) := by
  unfold State.execute
  split
  next workerId vmId hstage =>
    have hworker := howned.pending call workerId (by rw [hstage]; rfl)
    refine howned.record ?_ rfl
    rw [Execution.Own, State.executed]
    generalize hresult : executePolicy (env.runner vmId
      (invokeWorker self.workers env.respond)) self.secrets workerId
        [(calls call).request] = result
    obtain ⟨after, satisfied⟩ := result
    cases satisfied with
    | error e => exact executePolicy_error hresult
    | ok contexts =>
        obtain ⟨worker, hfound, halone⟩ := executePolicy_alone hresult
        exact ⟨worker, hworker worker hfound, halone⟩
  next => exact howned

theorem stop (howned : Owned calls first self) (call : ℕ)
    (outcome : StopOutcome) : Owned calls first (self.stop call outcome) := by
  unfold State.stop
  split
  next workerId found decision hstage =>
    have hdecided : ∀ satisfied,
        (Stage.returned decision).decided = some (.ok satisfied) →
          (self.stage call).decided = some (.ok satisfied) := by
      intro satisfied hdecided
      rw [hstage]
      exact hdecided
    have hpending : ∀ other pendingId,
        (update self.stage call (.returned decision) other).pendingWorker =
            some pendingId →
          ∀ worker, self.workers pendingId = some worker →
            worker.Owned calls other :=
      fun other pendingId hother worker hworker =>
        howned.pending_update (fun _ hnone => by cases hnone) hother hworker
    cases found with
    | false => exact howned.moved self.workerMap hpending hdecided
    | true =>
        refine howned.moved _ ?_ hdecided
        intro other pendingId hother worker hworker
        obtain ⟨before, hbefore, hstarted, hexecutable⟩ :=
          stopWorker_eq_some hworker
        obtain ⟨hcall, hown⟩ := hpending other pendingId hother before hbefore
        exact ⟨hstarted.trans hcall, hexecutable.trans hown⟩
  next => exact howned

theorem step (howned : Owned calls first self) (action : Action Claims)
    (hfresh : Fresh self action) : Owned calls first (self.step calls action) := by
  cases action with
  | start call timestampNanos outcome =>
      exact howned.start call timestampNanos outcome hfresh
  | look call => exact howned.look call
  | execute call env => exact howned.execute call env
  | lookTerminate call => exact howned.lookTerminate call
  | stop call outcome => exact howned.stop call outcome

end Owned

/-! ## Runs -/

/-- The states of the system, from its start. -/
abbrev State.afterActions (calls : ℕ → PolicyCall Claims)
    (defaultVmId : String) (first : Secrets platform)
    (actions : List (Action Claims)) : State Claims platform :=
  run (State.step calls) (.new defaultVmId first) actions

/-- In every run in which no worker is started under the identifier of one that
another call has started and not executed yet, each decision and each grant is
that of a worker of the call's own. -/
theorem decisions_own (calls : ℕ → PolicyCall Claims) (defaultVmId : String)
    (first : Secrets platform) (actions : List (Action Claims))
    (hfresh : Along (State.step calls) Fresh (.new defaultVmId first)
      actions) :
    let state := State.afterActions calls defaultVmId first actions
    (∀ execution ∈ state.executions, execution.Own calls) ∧
      (∀ call satisfied,
        (state.stage call).decided = some (.ok satisfied) →
          ∃ execution ∈ state.executions, execution.call = call ∧
            execution.env.decision execution.satisfied = .ok satisfied) ∧
      Chained first state.executions state.secrets := by
  have howned : Owned calls first
      (State.afterActions calls defaultVmId first actions) :=
    run_invariant (Owned calls first) (owned_new defaultVmId) hfresh
      fun _ action howned hfresh => howned.step action hfresh
  exact ⟨howned.executions, howned.decided, howned.chained⟩

/-! ## One clock reading -/

/-- The worker answers with its own executable, which the enclave reads as one
result. -/
def echoEnvironment : ExecutionEnvironment Unit where
  verifyAndExtractClaims := fun _ _ => .error "not verified"
  attached := true
  respond := fun worker _ _ => .ok worker.executable
  toVec := fun _ => []
  resultsFromSlice := fun bytes => .ok (bytes.map fun byte => byte = 1)
  currentTime := 1
  statusText := RunnerError.display
  readResponse := fun _ => .ok ()

/-- The policy of the first call denies, that of the others grants. -/
def sampleCalls (call : ℕ) : PolicyCall Unit where
  executable := if call = 0 then [0] else [1]
  request :=
    { (sampleGrant (padKey [2])).request with
      secretIds := [sampleSecretId (UInt64.ofNat call)]
      attestationClaims := none }

def overlapping (first second : Option ℤ) : List (Action Unit) :=
  [.start 0 first .started, .start 1 second .started, .look 0,
    .execute 0 echoEnvironment]

def sampleFirst : Secrets samplePolicyPlatform :=
  Secrets.newWithKeypair (symbolicKeyPair _ _ [1])

/-- The policy of the first call, executed by a worker of its own, denies. -/
theorem sampleCalls_denied {worker : VmWorker}
    (howned : worker.Owned sampleCalls 0) (before : Secrets samplePolicyPlatform)
    (workerId : String) :
    executePolicy (echoEnvironment.alone worker) before workerId
        [(sampleCalls 0).request] = (before, .ok []) := by
  have hexecutable : worker.executable = [0] := howned.2
  simp [executePolicy, RunnerEnvironment.invokePolicy,
    ExecutionEnvironment.alone, ExecutionEnvironment.runner, echoEnvironment,
    RunnerEnvironment.enhance, hexecutable, storeSatisfied]

/-- Two calls that read the clock in the same nanosecond: the first call is
granted by the worker of the second, where its own policy denies. -/
theorem decisions_not_own :
    let state := State.afterActions sampleCalls "default" sampleFirst
      (overlapping (some 5) (some 5))
    (state.stage 0).decided = some (.ok true) ∧
      ¬∀ execution ∈ state.executions, execution.Own sampleCalls := by
  refine ⟨rfl, ?_⟩
  intro hown
  obtain ⟨worker, howned, halone⟩ := hown _ (List.mem_singleton_self _)
  have hanswer := congrArg Prod.snd
    ((sampleCalls_denied howned _ _).symm.trans halone)
  exact List.cons_ne_nil _ _ (Except.ok.inj hanswer).symm

theorem decisions_own_apart :
    let state := State.afterActions sampleCalls "default" sampleFirst
      (overlapping (some 5) (some 6))
    (state.stage 0).decided = some (.ok false) ∧
      ∀ execution ∈ state.executions, execution.Own sampleCalls := by
  have hother : policyWorkerId (some 5) ≠ policyWorkerId (some 6) := by
    decide +kernel
  refine ⟨rfl, (decisions_own sampleCalls "default" sampleFirst
    (overlapping (some 5) (some 6)) ?_).1⟩
  refine ⟨?_, ?_, trivial, trivial, trivial⟩
  · intro _ _ other hnone
    cases hnone
  · intro _ _ other
    by_cases hfirst : other = 0
    · subst hfirst
      exact fun hsame => hother (Option.some.inj hsame)
    · have hidle : ((State.new "default" sampleFirst).step sampleCalls
          (.start 0 (some 5) .started)).stage other = .idle :=
        update_of_ne hfirst ..
      rw [hidle]
      intro hnone
      cases hnone

end NxccBridge.PolicyWorkers
