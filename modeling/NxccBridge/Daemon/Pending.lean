import Mathlib.Data.List.Count
import NxccBridge.Daemon.Policies

/-!
# The life of a pending request

The caller, the network handler, the timer of each request and the spawned
finalizers of one node take their steps in any order.  A request is created, is
handed to one finalizer, and that finalizer answers: each stage is counted, and
the counts are conserved.
-/

namespace NxccBridge.PendingRequests

open Function
open NxccBridge.Interface
open NxccBridge.Crypto
open NxccBridge.EnclaveSecrets
open NxccBridge.DaemonSecrets

variable {Digest : Type*} [DecidableEq Digest] {platform : Platform Digest}
variable {Policy : Type*}

inductive Finalizer
  | threshold
  | timeout
  deriving DecidableEq

inductive ServiceEvent
  | created (requestId : ℕ)
  | removed (requestId : ℕ)
  | started (requestId : ℕ) (kind : Finalizer)
  | responded (requestId : ℕ) (result : Except AppError Unit)
  deriving DecidableEq

/-- A daemon and its enclave, with the timers that have not fired and the
finalizers that have not answered; what happened to its requests so far and
which entries the timeouts generated. -/
structure NodeState (platform : Platform Digest) where
  enclave : Secrets platform
  service : SecretsService
  timers : List ℕ
  finalizers : List (ℕ × Finalizer × PendingRequest)
  log : List ServiceEvent
  generated : List (SecretId × StoredSecret)

def NodeState.new (keys : KeyExchangeKeyPair platform) : NodeState platform where
  enclave := .newWithKeypair keys
  service := .new
  timers := []
  finalizers := []
  log := []
  generated := []

/-- One step of one of the tasks of a node.  `authorize` is a policy execution
outside the secrets service. -/
inductive Action (Policy : Type*)
  | getSecrets (env : Env Policy) (secretRequests : Requests)
      (callerEnvReport : EnvReport)
  | answer (env : Env Policy) (requestId : ℕ) (secretRequests : Requests)
      (requesterEnvReport : EnvReport)
  | response (env : Env Policy) (requestId : ℕ) (secretsBox : SecretsBox)
      (envReport : EnvReport)
  | timeout (requestId : ℕ)
  | finish (env : Env Policy) (requestId : ℕ)
  | authorize (report : PolicyExecutionReport)

/-- Hand a request that was taken out of the map to a finalizer. -/
def NodeState.handOver (state : NodeState platform) (requestId : ℕ)
    (kind : Finalizer) (pending : Pending) (taken : Option PendingRequest) :
    NodeState platform :=
  match taken with
  | none => { state with service := { state.service with pending := pending } }
  | some entry =>
      { state with
        service := { state.service with pending := pending }
        finalizers := state.finalizers ++ [(requestId, kind, entry)]
        log := state.log ++ [.removed requestId, .started requestId kind] }

/-- The entries under `ids` that are new in `after`. -/
def insertedEntries (before after : SecretsStorage) (ids : List SecretId) :
    List (SecretId × StoredSecret) :=
  ids.filterMap fun secretId =>
    if (before secretId).isNone then
      (after secretId).map fun stored => (secretId, stored)
    else none

/-- Run the finalizer of a request. -/
def NodeState.finalize (state : NodeState platform) (env : Env Policy)
    (requestId : ℕ) (kind : Finalizer) (entry : PendingRequest) :
    NodeState platform :=
  let outcome := match kind with
    | .threshold => finalizeRequestThreshold env state.enclave requestId entry
    | .timeout => finalizeRequestTimeout env state.enclave requestId entry
  { state with
    enclave := outcome.1
    finalizers := state.finalizers.eraseP fun task => task.1 = requestId
    log := state.log ++ [.responded requestId outcome.2]
    generated := match kind with
      | .threshold => state.generated
      | .timeout => state.generated ++ insertedEntries
          state.enclave.secretsStorage outcome.1.secretsStorage
          entry.requestedIds }

/-- A step of the node and the message it publishes. -/
def NodeState.act (state : NodeState platform) :
    Action Policy → NodeState platform × Option GossipMessage
  | .getSecrets env secretRequests callerEnvReport =>
      match state.service.getSecrets env state.enclave secretRequests
          callerEnvReport with
      | (service, enclave, .ok (some message)) =>
          ({ state with
              enclave := enclave
              service := service
              timers := state.timers ++ [service.requestCounter]
              log := state.log ++ [.created service.requestCounter] },
            some message)
      | (service, enclave, _) =>
          ({ state with enclave := enclave, service := service }, none)
  | .answer env requestId secretRequests requesterEnvReport =>
      match handleIncomingSecretBatchRequest env state.enclave secretRequests
          requesterEnvReport with
      | (enclave, some (secretsBox, envReport)) =>
          ({ state with enclave := enclave },
            some (.secretBatchResponse requestId secretsBox envReport))
      | (enclave, none) => ({ state with enclave := enclave }, none)
  | .response env requestId secretsBox envReport =>
      match handleIncomingSecretBatchResponse env state.enclave
          state.service.pending requestId secretsBox envReport with
      | (enclave, pending, taken, _) =>
          ({ state with enclave := enclave }.handOver requestId .threshold
            pending taken, none)
  | .timeout requestId =>
      if requestId ∈ state.timers then
        match timeoutReached state.service.pending requestId with
        | (pending, taken) =>
            ({ state with timers := state.timers.erase requestId }.handOver
              requestId .timeout pending taken, none)
      else (state, none)
  | .finish env requestId =>
      match state.finalizers.find? fun task => task.1 = requestId with
      | none => (state, none)
      | some (_, kind, entry) =>
          (state.finalize env requestId kind entry, none)
  | .authorize report =>
      ({ state with enclave := state.enclave.storeAuthorization report }, none)

def NodeState.step (state : NodeState platform) (action : Action Policy) :
    NodeState platform :=
  (state.act action).1

/-- The state after a list of steps, oldest first. -/
def NodeState.run (state : NodeState platform) (actions : List (Action Policy)) :
    NodeState platform :=
  actions.foldl NodeState.step state

@[simp]
theorem NodeState.run_concat (state : NodeState platform)
    (actions : List (Action Policy)) (last : Action Policy) :
    state.run (actions ++ [last]) = (state.run actions).step last := by
  simp [NodeState.run]

/-! ## What a step can do -/

/-- The effects of the steps on the requests, the enclave apart. -/
inductive Effect (state : NodeState platform) :
    Action Policy → NodeState platform → Prop
  | quiet (action : Action Policy) (enclave : Secrets platform) :
      Effect state action { state with enclave := enclave }
  | created (env : Env Policy) (secretRequests : Requests)
      (callerEnvReport : EnvReport) (enclave : Secrets platform)
      (entry : PendingRequest) (hcollected : entry.collectedBundles = [])
      (hcount : entry.responseCount = 0)
      (hthreshold : entry.threshold = responseThreshold) :
      Effect state (.getSecrets env secretRequests callerEnvReport)
        { state with
          enclave := enclave
          service := state.service.insertPending entry
          timers := state.timers ++ [state.service.requestCounter + 1]
          log := state.log ++ [.created (state.service.requestCounter + 1)] }
  | collected (env : Env Policy) (requestId : ℕ) (secretsBox : SecretsBox)
      (envReport : EnvReport) (enclave : Secrets platform)
      (entry : PendingRequest)
      (hpending : state.service.pending requestId = some entry)
      (hvalid : (checkResponse env requestId entry envReport
        secretsBox.containedSecretIds state.enclave).2 = .ok true)
      (hbelow : entry.responseCount + 1 < entry.threshold) :
      Effect state (.response env requestId secretsBox envReport)
        { state with
          enclave := enclave
          service := { state.service with
            pending := update state.service.pending requestId
              (some (entry.collect secretsBox envReport)) } }
  | met (env : Env Policy) (requestId : ℕ) (secretsBox : SecretsBox)
      (envReport : EnvReport) (enclave : Secrets platform)
      (entry : PendingRequest)
      (hpending : state.service.pending requestId = some entry)
      (hvalid : (checkResponse env requestId entry envReport
        secretsBox.containedSecretIds state.enclave).2 = .ok true)
      (hmet : entry.threshold ≤ entry.responseCount + 1) :
      Effect state (.response env requestId secretsBox envReport)
        { state with
          enclave := enclave
          service := { state.service with
            pending := update state.service.pending requestId none }
          finalizers := state.finalizers ++
            [(requestId, .threshold, entry.collect secretsBox envReport)]
          log := state.log ++
            [.removed requestId, .started requestId .threshold] }
  | timedOut (requestId : ℕ) (entry : PendingRequest)
      (htimer : requestId ∈ state.timers)
      (hpending : state.service.pending requestId = some entry)
      (hbelow : entry.responseCount < entry.threshold) :
      Effect state (.timeout requestId)
        { state with
          service := { state.service with
            pending := update state.service.pending requestId none }
          timers := state.timers.erase requestId
          finalizers := state.finalizers ++ [(requestId, .timeout, entry)]
          log := state.log ++
            [.removed requestId, .started requestId .timeout] }
  | fired (requestId : ℕ) (htimer : requestId ∈ state.timers)
      (hgone : ∀ entry, state.service.pending requestId = some entry →
        ¬ entry.responseCount < entry.threshold) :
      Effect state (.timeout requestId)
        { state with timers := state.timers.erase requestId }
  | finished (env : Env Policy) (requestId : ℕ)
      (before after : List (ℕ × Finalizer × PendingRequest))
      (kind : Finalizer) (entry : PendingRequest) (enclave : Secrets platform)
      (result : Except AppError Unit)
      (generated : List (SecretId × StoredSecret))
      (hfinalizers : state.finalizers =
        before ++ (requestId, kind, entry) :: after) :
      Effect state (.finish env requestId)
        { state with
          enclave := enclave
          finalizers := before ++ after
          log := state.log ++ [.responded requestId result]
          generated := generated }

theorem getSecrets_effect (state : NodeState platform) (env : Env Policy)
    (secretRequests : Requests) (callerEnvReport : EnvReport) :
    Effect state (.getSecrets env secretRequests callerEnvReport)
      (state.step (.getSecrets env secretRequests callerEnvReport)) := by
  simp only [NodeState.step, NodeState.act]
  rcases getSecrets_cases state.service env state.enclave secretRequests
    callerEnvReport with
    ⟨enclave, outcome, heq, hnone⟩ |
      ⟨-, missing, entry, -, enclave, -, -, hentry, -, -, heq⟩
  · rw [heq]
    cases outcome with
    | error e => exact .quiet _ _
    | ok message =>
        cases message with
        | none => exact .quiet _ _
        | some message => exact absurd rfl (hnone message)
  · rw [heq]
    obtain ⟨-, -, hcollected, hcount, hthreshold⟩ := newPending_ok hentry
    exact .created env secretRequests callerEnvReport enclave entry hcollected
      hcount hthreshold

theorem answer_effect (state : NodeState platform) (env : Env Policy)
    (requestId : ℕ) (secretRequests : Requests)
    (requesterEnvReport : EnvReport) :
    Effect state (.answer env requestId secretRequests requesterEnvReport)
      (state.step
        (.answer env requestId secretRequests requesterEnvReport)) := by
  simp only [NodeState.step, NodeState.act]
  obtain ⟨enclave, reply⟩ := handleIncomingSecretBatchRequest env state.enclave
    secretRequests requesterEnvReport
  cases reply with
  | none => exact .quiet _ _
  | some reply => exact .quiet _ _

theorem response_effect (state : NodeState platform) (env : Env Policy)
    (requestId : ℕ) (secretsBox : SecretsBox) (envReport : EnvReport) :
    Effect state (.response env requestId secretsBox envReport)
      (state.step (.response env requestId secretsBox envReport)) := by
  simp only [NodeState.step, NodeState.act, handleIncomingSecretBatchResponse]
  cases hpending : state.service.pending requestId with
  | none => exact .quiet _ _
  | some entry =>
      dsimp only
      cases hcheck : checkResponse env requestId entry envReport
          secretsBox.containedSecretIds state.enclave with
      | mk enclave valid =>
          cases valid with
          | error e => exact .quiet _ _
          | ok valid =>
              cases valid with
              | false => exact .quiet _ _
              | true =>
                  have hvalid := congrArg Prod.snd hcheck
                  by_cases hmet : entry.threshold ≤ entry.responseCount + 1
                  · simp only [PendingRequest.collect, ge_iff_le, hmet, if_true]
                    exact .met env requestId secretsBox envReport enclave entry
                      hpending hvalid hmet
                  · simp only [PendingRequest.collect, ge_iff_le, hmet,
                      if_false]
                    exact .collected env requestId secretsBox envReport enclave
                      entry hpending hvalid (by omega)

theorem timeout_effect (state : NodeState platform) (requestId : ℕ) :
    Effect state (.timeout requestId : Action Policy)
      (state.step (.timeout requestId : Action Policy)) := by
  simp only [NodeState.step, NodeState.act, timeoutReached]
  by_cases htimer : requestId ∈ state.timers
  · simp only [htimer, if_true]
    cases hpending : state.service.pending requestId with
    | none => exact .fired requestId htimer (by simp [hpending])
    | some entry =>
        by_cases hbelow : entry.responseCount < entry.threshold
        · simp only [hbelow, if_true]
          exact .timedOut requestId entry htimer hpending hbelow
        · simp only [hbelow, if_false]
          refine .fired requestId htimer fun other hother => ?_
          obtain rfl := Option.some.inj (hpending.symm.trans hother)
          exact hbelow
  · simp only [htimer, if_false]
    exact .quiet _ _

theorem finish_effect (state : NodeState platform) (env : Env Policy)
    (requestId : ℕ) :
    Effect state (.finish env requestId)
      (state.step (.finish env requestId)) := by
  simp only [NodeState.step, NodeState.act]
  cases hfind : state.finalizers.find? fun task => task.1 = requestId with
  | none => exact .quiet _ _
  | some task =>
      obtain ⟨found, kind, entry⟩ := task
      obtain ⟨hid, before, after, hsplit, hbefore⟩ :=
        List.find?_eq_some_iff_append.mp hfind
      obtain rfl : found = requestId := by simpa using hid
      have herase : (state.finalizers.eraseP fun task => task.1 = found) =
          before ++ after := by
        rw [hsplit, List.eraseP_append_right]
        · simp
        · intro other hother
          simpa using hbefore other hother
      simp only [NodeState.finalize, herase]
      exact .finished env found before after kind entry _ _ _ hsplit

/-- Every step has one of the listed effects. -/
theorem step_effect (state : NodeState platform) (action : Action Policy) :
    Effect state action (state.step action) := by
  cases action with
  | getSecrets env secretRequests callerEnvReport =>
      exact getSecrets_effect ..
  | answer env requestId secretRequests requesterEnvReport =>
      exact answer_effect ..
  | response env requestId secretsBox envReport => exact response_effect ..
  | timeout requestId => exact timeout_effect ..
  | finish env requestId => exact finish_effect ..
  | authorize report => exact .quiet _ _

/-! ## What is counted -/

@[simp]
def ServiceEvent.isCreated (requestId : ℕ) : ServiceEvent → Bool
  | .created other => other == requestId
  | _ => false

@[simp]
def ServiceEvent.isRemoved (requestId : ℕ) : ServiceEvent → Bool
  | .removed other => other == requestId
  | _ => false

@[simp]
def ServiceEvent.isStarted (requestId : ℕ) : ServiceEvent → Bool
  | .started other _ => other == requestId
  | _ => false

@[simp]
def ServiceEvent.isResponded (requestId : ℕ) : ServiceEvent → Bool
  | .responded other _ => other == requestId
  | _ => false

/-- 1 while the request is in the map. -/
def waiting (pending : Pending) (requestId : ℕ) : ℕ :=
  if (pending requestId).isSome then 1 else 0

def NodeState.running (state : NodeState platform) (requestId : ℕ) : ℕ :=
  state.finalizers.countP fun task => task.1 == requestId

/-- The stages of each request, counted. -/
structure Conserved (state : NodeState platform) (requestId : ℕ) : Prop where
  created : state.log.countP (ServiceEvent.isCreated requestId) =
    if 0 < requestId ∧ requestId ≤ state.service.requestCounter then 1 else 0
  waiting_or_removed : state.log.countP (ServiceEvent.isCreated requestId) =
    waiting state.service.pending requestId +
      state.log.countP (ServiceEvent.isRemoved requestId)
  started : state.log.countP (ServiceEvent.isStarted requestId) =
    state.log.countP (ServiceEvent.isRemoved requestId)
  running_or_responded :
    state.log.countP (ServiceEvent.isStarted requestId) =
      state.running requestId +
        state.log.countP (ServiceEvent.isResponded requestId)
  timers_le : state.timers.count requestId ≤
    state.log.countP (ServiceEvent.isCreated requestId)
  waiting_le : waiting state.service.pending requestId ≤
    state.timers.count requestId

omit [DecidableEq Digest] in
/-- A request identifier is given out once. -/
theorem Conserved.created_le_one {state : NodeState platform} {requestId : ℕ}
    (hconserved : Conserved state requestId) :
    state.log.countP (ServiceEvent.isCreated requestId) ≤ 1 := by
  rw [hconserved.created]
  split_ifs <;> omega

omit [DecidableEq Digest] in
theorem conserved_new (keys : KeyExchangeKeyPair platform) (requestId : ℕ) :
    Conserved (.new keys) requestId where
  created := by
    rw [if_neg]
    · rfl
    · simp only [NodeState.new, SecretsService.new]
      omega
  waiting_or_removed := rfl
  started := rfl
  running_or_responded := rfl
  timers_le := by simp [NodeState.new]
  waiting_le := by simp [waiting, NodeState.new, SecretsService.new]

theorem waiting_update (pending : Pending) (requestId other : ℕ)
    (entry : Option PendingRequest) :
    waiting (update pending requestId entry) other =
      if other = requestId then (if entry.isSome then 1 else 0)
      else waiting pending other := by
  by_cases hid : other = requestId
  · subst hid
    simp [waiting]
  · simp [waiting, hid]

theorem waiting_of_some {pending : Pending} {requestId : ℕ}
    {entry : PendingRequest} (hpending : pending requestId = some entry) :
    waiting pending requestId = 1 := by
  simp [waiting, hpending]

theorem waiting_replace {pending : Pending} {requestId : ℕ}
    {entry : PendingRequest} (hpending : pending requestId = some entry)
    (replacement : PendingRequest) (other : ℕ) :
    waiting (update pending requestId (some replacement)) other =
      waiting pending other := by
  rw [waiting_update]
  split_ifs with hid hsome
  · rw [hid, waiting_of_some hpending]
  · simp at hsome
  · rfl

omit [DecidableEq Digest] in
/-- Taking a request out of the map and starting a finalizer for it. -/
theorem Conserved.handedOver {state : NodeState platform}
    (hconserved : ∀ requestId, Conserved state requestId)
    (enclave : Secrets platform) {requestId : ℕ} {entry : PendingRequest}
    (hpending : state.service.pending requestId = some entry)
    (kind : Finalizer) (handed : PendingRequest) {timers : List ℕ}
    (htimersLe : ∀ other, timers.count other ≤ state.timers.count other)
    (htimers : ∀ other, other ≠ requestId →
      timers.count other = state.timers.count other) (other : ℕ) :
    Conserved
      { state with
        enclave := enclave
        service := { state.service with
          pending := update state.service.pending requestId none }
        timers := timers
        finalizers := state.finalizers ++ [(requestId, kind, handed)]
        log := state.log ++ [.removed requestId, .started requestId kind] }
      other := by
  obtain ⟨hcreated, hwaiting, hstarted, hrunning, htimersBound, hwaitingLe⟩ :=
    hconserved other
  have hone := waiting_of_some hpending
  have hle := htimersLe other
  simp only [NodeState.running] at hrunning
  by_cases hid : other = requestId
  · subst hid
    constructor <;>
      simp [NodeState.running, List.countP_append, waiting_update] <;> omega
  · have hsame := htimers other hid
    have hne : (requestId == other) = false := by simpa using Ne.symm hid
    constructor <;>
      simp [NodeState.running, List.countP_append, waiting_update, hid,
        hne] <;> omega

theorem Effect.conserved {state after : NodeState platform}
    {action : Action Policy} (heffect : Effect state action after)
    (hopen : ∀ requestId entry,
      state.service.pending requestId = some entry →
        entry.responseCount < entry.threshold)
    (hconserved : ∀ requestId, Conserved state requestId) (other : ℕ) :
    Conserved after other := by
  obtain ⟨hcreated, hwaiting, hstarted, hrunning, htimersBound, hwaitingLe⟩ :=
    hconserved other
  cases heffect with
  | quiet =>
      exact ⟨hcreated, hwaiting, hstarted, hrunning, htimersBound, hwaitingLe⟩
  | created env secretRequests callerEnvReport enclave entry =>
      simp only [NodeState.running] at hrunning
      by_cases hid : other = state.service.requestCounter + 1
      · subst hid
        rw [if_neg (by omega)] at hcreated
        constructor <;>
          simp [NodeState.running, List.countP_append, waiting_update,
            SecretsService.insertPending, -List.countP_eq_zero] <;> omega
      · have hne : (state.service.requestCounter + 1 == other) = false := by
          simpa using Ne.symm hid
        have hrange : other ≤ state.service.requestCounter + 1 ↔
            other ≤ state.service.requestCounter := by omega
        constructor <;>
          simp [NodeState.running, List.countP_append, waiting_update,
            SecretsService.insertPending, List.count_singleton, hid, hne,
            hrange] <;> omega
  | collected env requestId secretsBox envReport enclave entry hpending =>
      have hsame := waiting_replace hpending
        (entry.collect secretsBox envReport) other
      exact ⟨hcreated, by rw [hsame]; exact hwaiting, hstarted, hrunning,
        htimersBound, by rw [hsame]; exact hwaitingLe⟩
  | met env requestId secretsBox envReport enclave entry hpending =>
      exact Conserved.handedOver hconserved enclave hpending .threshold _
        (fun _ => le_refl _) (fun _ _ => rfl) other
  | timedOut requestId entry htimer hpending =>
      refine Conserved.handedOver hconserved state.enclave hpending .timeout
        entry (fun _ => List.erase_sublist.count_le _) (fun _ hne => ?_) other
      exact List.count_erase_of_ne hne
  | fired requestId htimer hgone =>
      have hle : (state.timers.erase requestId).count other ≤
          state.timers.count other := List.erase_sublist.count_le _
      have hstill : waiting state.service.pending other ≤
          (state.timers.erase requestId).count other := by
        by_cases hid : other = requestId
        · subst hid
          cases hpending : state.service.pending other with
          | none => simp [waiting, hpending]
          | some entry =>
              exact absurd (hopen other entry hpending) (hgone entry hpending)
        · rw [List.count_erase_of_ne hid]
          exact hwaitingLe
      exact ⟨hcreated, hwaiting, hstarted, hrunning, le_trans hle htimersBound,
        hstill⟩
  | finished env requestId before after kind entry enclave result generated
      hfinalizers =>
      simp only [NodeState.running, hfinalizers, List.countP_append,
        List.countP_cons, beq_iff_eq] at hrunning
      constructor <;>
        simp [NodeState.running, List.countP_append, List.countP_cons] <;>
        omega

omit [DecidableEq Digest] in
/-- A request whose timer has fired is no longer in the map. -/
theorem Conserved.pending_eq_none {state : NodeState platform} {requestId : ℕ}
    (hconserved : Conserved state requestId)
    (htimer : requestId ∉ state.timers) :
    state.service.pending requestId = none := by
  have hle := hconserved.waiting_le
  rw [List.count_eq_zero_of_not_mem htimer] at hle
  by_contra hsome
  obtain ⟨entry, hpending⟩ := Option.ne_none_iff_exists'.mp hsome
  rw [waiting_of_some hpending] at hle
  omega

/-! ## What entries hold -/

/-- The box names requested identifiers only, and its response was let through
by their policies for the consumers registered for them. -/
def Approved (actions : List (Action Policy)) (requestId : ℕ)
    (entry : PendingRequest) (secretsBox : SecretsBox)
    (envReport : EnvReport) : Prop :=
  ∃ env, .response env requestId secretsBox envReport ∈ actions ∧
    ∀ secretId ∈ secretsBox.containedSecretIds,
      secretId ∈ entry.requestedIds ∧
      ∃ consumer timestamp,
        entry.consumersById secretId = some consumer ∧
        AdmittedAt env envReport secretId consumer timestamp

structure Collected (actions : List (Action Policy)) (requestId : ℕ)
    (entry : PendingRequest) : Prop where
  counted : entry.responseCount = entry.collectedBundles.length
  approved : ∀ secretsBox envReport,
    (secretsBox, envReport) ∈ entry.collectedBundles →
      Approved actions requestId entry secretsBox envReport

theorem Approved.concat {actions : List (Action Policy)} {requestId : ℕ}
    {entry : PendingRequest} {secretsBox : SecretsBox} {envReport : EnvReport}
    (happroved : Approved actions requestId entry secretsBox envReport)
    (last : Action Policy) :
    Approved (actions ++ [last]) requestId entry secretsBox envReport := by
  obtain ⟨env, hmem, hids⟩ := happroved
  exact ⟨env, List.mem_append_left _ hmem, hids⟩

theorem Collected.concat {actions : List (Action Policy)} {requestId : ℕ}
    {entry : PendingRequest} (hcollected : Collected actions requestId entry)
    (last : Action Policy) :
    Collected (actions ++ [last]) requestId entry where
  counted := hcollected.counted
  approved := fun secretsBox envReport hmem =>
    (hcollected.approved secretsBox envReport hmem).concat last

theorem Collected.collect {actions : List (Action Policy)} {requestId : ℕ}
    {entry : PendingRequest} (hcollected : Collected actions requestId entry)
    {env : Env Policy} {secretsBox : SecretsBox} {envReport : EnvReport}
    (hresponse : .response env requestId secretsBox envReport ∈ actions)
    {enclave : Secrets platform}
    (hvalid : (checkResponse env requestId entry envReport
      secretsBox.containedSecretIds enclave).2 = .ok true) :
    Collected actions requestId (entry.collect secretsBox envReport) where
  counted := by simp [PendingRequest.collect, hcollected.counted]
  approved := by
    intro otherBox otherReport hmem
    rcases List.mem_append.mp hmem with hmem | hmem
    · exact hcollected.approved otherBox otherReport hmem
    · obtain ⟨rfl, rfl⟩ := Prod.mk.inj (List.mem_singleton.mp hmem)
      refine ⟨env, hresponse, fun secretId hmem => ?_⟩
      have hadmits := checkResponse_ok_true_iff.mp hvalid secretId hmem
      exact ⟨hadmits.requested, hadmits⟩

/-- `waits` holds of every request in the map and `taken` of every request
handed over. -/
structure EntriesSatisfy (waits : ℕ → PendingRequest → Prop)
    (taken : ℕ → Finalizer → PendingRequest → Prop)
    (state : NodeState platform) : Prop where
  waiting : ∀ requestId entry, state.service.pending requestId = some entry →
    waits requestId entry
  handed : ∀ requestId kind entry,
    (requestId, kind, entry) ∈ state.finalizers → taken requestId kind entry

omit [DecidableEq Digest] in
/-- A change of the map at one request leaves the others as they were. -/
theorem EntriesSatisfy.update {waits : ℕ → PendingRequest → Prop}
    {taken : ℕ → Finalizer → PendingRequest → Prop}
    {state : NodeState platform} (hentries : EntriesSatisfy waits taken state)
    {requestId : ℕ} {value : Option PendingRequest}
    (hvalue : ∀ entry, value = some entry → waits requestId entry)
    (other : ℕ) (entry : PendingRequest)
    (hpending : Function.update state.service.pending requestId value other =
      some entry) : waits other entry := by
  by_cases hid : other = requestId
  · subst hid
    exact hvalue entry (by simpa using hpending)
  · rw [update_of_ne hid] at hpending
    exact hentries.waiting other entry hpending

omit [DecidableEq Digest] in
theorem EntriesSatisfy.handOver {waits : ℕ → PendingRequest → Prop}
    {taken : ℕ → Finalizer → PendingRequest → Prop}
    {state : NodeState platform} (hentries : EntriesSatisfy waits taken state)
    {requestId : ℕ} {kind : Finalizer} {added : PendingRequest}
    (htaken : taken requestId kind added)
    (other : ℕ) (otherKind : Finalizer) (entry : PendingRequest)
    (hmem : (other, otherKind, entry) ∈
      state.finalizers ++ [(requestId, kind, added)]) :
    taken other otherKind entry := by
  rcases List.mem_append.mp hmem with hmem | hmem
  · exact hentries.handed other otherKind entry hmem
  · obtain ⟨rfl, hrest⟩ := Prod.mk.inj (List.mem_singleton.mp hmem)
    obtain ⟨rfl, rfl⟩ := Prod.mk.inj hrest
    exact htaken

/-- What the four changes of an entry keep is kept by every step. -/
theorem Effect.entriesSatisfy {waits : ℕ → PendingRequest → Prop}
    {taken : ℕ → Finalizer → PendingRequest → Prop}
    {state after : NodeState platform} {action : Action Policy}
    (heffect : Effect state action after)
    (hentries : EntriesSatisfy waits taken state)
    (hcreated : ∀ requestId entry, entry.collectedBundles = [] →
      entry.responseCount = 0 → entry.threshold = responseThreshold →
      waits requestId entry)
    (hcollected : ∀ env requestId secretsBox envReport entry,
      action = .response env requestId secretsBox envReport →
      (checkResponse env requestId entry envReport
        secretsBox.containedSecretIds state.enclave).2 = .ok true →
      waits requestId entry → entry.responseCount + 1 < entry.threshold →
      waits requestId (entry.collect secretsBox envReport))
    (hmet : ∀ env requestId secretsBox envReport entry,
      action = .response env requestId secretsBox envReport →
      (checkResponse env requestId entry envReport
        secretsBox.containedSecretIds state.enclave).2 = .ok true →
      waits requestId entry → entry.threshold ≤ entry.responseCount + 1 →
      taken requestId .threshold (entry.collect secretsBox envReport))
    (htimedOut : ∀ requestId entry, waits requestId entry →
      entry.responseCount < entry.threshold → taken requestId .timeout entry) :
    EntriesSatisfy waits taken after := by
  cases heffect with
  | quiet => exact ⟨hentries.waiting, hentries.handed⟩
  | created env secretRequests callerEnvReport enclave entry hempty hcount
      hthreshold =>
      refine ⟨hentries.update ?_, hentries.handed⟩
      rintro _ ⟨⟩
      exact hcreated _ entry hempty hcount hthreshold
  | collected env requestId secretsBox envReport enclave entry hpending hvalid
      hbelow =>
      refine ⟨hentries.update ?_, hentries.handed⟩
      rintro _ ⟨⟩
      exact hcollected env requestId secretsBox envReport entry rfl hvalid
        (hentries.waiting requestId entry hpending) hbelow
  | met env requestId secretsBox envReport enclave entry hpending hvalid
      hthreshold =>
      refine ⟨hentries.update (by simp), hentries.handOver ?_⟩
      exact hmet env requestId secretsBox envReport entry rfl hvalid
        (hentries.waiting requestId entry hpending) hthreshold
  | timedOut requestId entry htimer hpending hbelow =>
      refine ⟨hentries.update (by simp), hentries.handOver ?_⟩
      exact htimedOut requestId entry
        (hentries.waiting requestId entry hpending) hbelow
  | fired requestId htimer hgone => exact ⟨hentries.waiting, hentries.handed⟩
  | finished env requestId before after kind entry enclave result generated
      hfinalizers =>
      refine ⟨hentries.waiting, fun other otherKind otherEntry hmem => ?_⟩
      refine hentries.handed other otherKind otherEntry ?_
      rw [hfinalizers]
      rcases List.mem_append.mp hmem with hmem | hmem
      · exact List.mem_append_left _ hmem
      · exact List.mem_append_right _ (List.mem_cons_of_mem _ hmem)

/-- Requests in the map have collected approved responses, fewer than their
threshold; those handed over went to the finalizer that their count asks
for. -/
def EntriesOk (actions : List (Action Policy)) (state : NodeState platform) :
    Prop :=
  EntriesSatisfy
    (fun requestId entry =>
      Collected actions requestId entry ∧ entry.responseCount < entry.threshold)
    (fun requestId kind entry =>
      Collected actions requestId entry ∧
        (kind = .threshold ↔ entry.threshold ≤ entry.responseCount)) state

omit [DecidableEq Digest] in
theorem EntriesOk.concat {actions : List (Action Policy)}
    {state : NodeState platform} (hentries : EntriesOk actions state)
    (last : Action Policy) : EntriesOk (actions ++ [last]) state where
  waiting := fun requestId entry hpending =>
    (hentries.waiting requestId entry hpending).imp_left (·.concat last)
  handed := fun requestId kind entry hmem =>
    (hentries.handed requestId kind entry hmem).imp_left (·.concat last)

theorem Effect.entriesOk {actions : List (Action Policy)}
    {state after : NodeState platform} {action : Action Policy}
    (heffect : Effect state action after)
    (hentries : EntriesOk actions state) :
    EntriesOk (actions ++ [action]) after := by
  refine heffect.entriesSatisfy (hentries.concat action) ?_ ?_ ?_ ?_
  · intro requestId entry hempty hcount hthreshold
    refine ⟨⟨by simp [hempty, hcount], by simp [hempty]⟩, ?_⟩
    rw [hcount, hthreshold]
    exact Nat.one_pos
  · rintro env requestId secretsBox envReport entry rfl hvalid
      ⟨hcollected, -⟩ hbelow
    exact ⟨hcollected.collect (by simp) hvalid, hbelow⟩
  · rintro env requestId secretsBox envReport entry rfl hvalid
      ⟨hcollected, -⟩ hthreshold
    exact ⟨hcollected.collect (by simp) hvalid, iff_of_true rfl hthreshold⟩
  · rintro requestId entry ⟨hcollected, -⟩ hbelow
    exact ⟨hcollected, iff_of_false (by simp) (not_le.mpr hbelow)⟩

theorem run_entriesOk (keys : KeyExchangeKeyPair platform)
    (actions : List (Action Policy)) :
    EntriesOk actions ((NodeState.new keys).run actions) := by
  induction actions using List.reverseRecOn with
  | nil =>
      constructor
      · rintro requestId entry ⟨⟩
      · rintro requestId kind entry ⟨⟩
  | append_singleton actions last ih =>
      rw [NodeState.run_concat]
      exact (step_effect _ last).entriesOk ih

theorem run_conserved (keys : KeyExchangeKeyPair platform)
    (actions : List (Action Policy)) (requestId : ℕ) :
    Conserved ((NodeState.new keys).run actions) requestId := by
  induction actions using List.reverseRecOn generalizing requestId with
  | nil => exact conserved_new keys requestId
  | append_singleton actions last ih =>
      rw [NodeState.run_concat]
      exact (step_effect _ last).conserved (fun other entry hpending =>
        ((run_entriesOk keys actions).waiting other entry hpending).2) ih
        requestId

/-! ## Exactly one finalizer -/

/-- A response that is not let through leaves the map as it was. -/
theorem response_unchanged (state : NodeState platform) (env : Env Policy)
    (requestId : ℕ) (secretsBox : SecretsBox) (envReport : EnvReport)
    (hrejected : ∀ entry, state.service.pending requestId = some entry →
      (checkResponse env requestId entry envReport
        secretsBox.containedSecretIds state.enclave).2 ≠ .ok true) :
    (state.step (.response env requestId secretsBox
      envReport)).service.pending = state.service.pending := by
  have heffect := response_effect state env requestId secretsBox envReport
  generalize state.step (.response env requestId secretsBox envReport) =
    after at heffect
  cases heffect with
  | quiet => rfl
  | collected _ _ _ _ _ entry hpending hvalid =>
      exact absurd hvalid (hrejected entry hpending)
  | met _ _ _ _ _ entry hpending hvalid =>
      exact absurd hvalid (hrejected entry hpending)

/-- What the counts and the entries say of a run.  The finalizer is started with
the entry that was taken out of the map; its `finish` step runs
`finalizeRequestThreshold` on this entry if a response took it out, and
`finalizeRequestTimeout` if the timeout did, on the enclave of that moment, and
ends the task. -/
structure FinalizedOnce (actions : List (Action Policy))
    (state : NodeState platform) : Prop where
  removed_once : ∀ requestId,
    state.log.countP (ServiceEvent.isRemoved requestId) ≤ 1
  removed_by_timeout : ∀ requestId, requestId ∈ state.timers →
    (state.step (.timeout requestId : Action Policy)).service.pending
      requestId = none
  gone_after_timeout : ∀ requestId, requestId ∉ state.timers →
    state.service.pending requestId = none
  one_finalizer : ∀ requestId, .created requestId ∈ state.log →
    state.log.countP (ServiceEvent.isStarted requestId) =
      if (state.service.pending requestId).isSome then 0 else 1
  responded_once : ∀ requestId,
    state.log.countP (ServiceEvent.isResponded requestId) ≤ 1
  waiting : ∀ requestId entry, state.service.pending requestId = some entry →
    entry.responseCount = entry.collectedBundles.length ∧
    entry.collectedBundles.length < entry.threshold ∧
    ∀ secretsBox envReport,
      (secretsBox, envReport) ∈ entry.collectedBundles →
        Approved actions requestId entry secretsBox envReport
  handed : ∀ requestId kind entry,
    (requestId, kind, entry) ∈ state.finalizers →
      (kind = .threshold ↔ entry.threshold ≤ entry.responseCount) ∧
      entry.responseCount = entry.collectedBundles.length ∧
      ∀ secretsBox envReport,
        (secretsBox, envReport) ∈ entry.collectedBundles →
          Approved actions requestId entry secretsBox envReport
  rejected : ∀ (env : Env Policy) requestId secretsBox envReport,
    (∀ entry, state.service.pending requestId = some entry →
      (checkResponse env requestId entry envReport
        secretsBox.containedSecretIds state.enclave).2 ≠ .ok true) →
      (state.step (.response env requestId secretsBox
        envReport)).service.pending = state.service.pending

theorem removed_of_timeout {actions : List (Action Policy)}
    {state : NodeState platform} (hentries : EntriesOk actions state)
    {requestId : ℕ} (htimer : requestId ∈ state.timers) :
    (state.step (.timeout requestId : Action Policy)).service.pending
      requestId = none := by
  simp only [NodeState.step, NodeState.act, htimer, if_true, timeoutReached]
  cases hpending : state.service.pending requestId with
  | none => exact hpending
  | some entry =>
      have hbelow := (hentries.waiting requestId entry hpending).2
      simp [hbelow, NodeState.handOver]

/-- Over every run of the tasks of a node each request leaves the map at most
once, at the latest with its timeout, starts exactly one finalizer then, and is
answered at most once; what is collected was approved, and responses that are
not leave the map as it was. -/
theorem pending_finalized_once (keys : KeyExchangeKeyPair platform)
    (actions : List (Action Policy)) :
    FinalizedOnce actions ((NodeState.new keys).run actions) := by
  have hconserved := run_conserved keys actions
  have hentries := run_entriesOk keys actions
  generalize (NodeState.new keys).run actions = state at hconserved hentries
  exact {
    removed_once := by
      intro requestId
      have hle := (hconserved requestId).created_le_one
      have hwaiting := (hconserved requestId).waiting_or_removed
      omega
    removed_by_timeout := fun _ htimer => removed_of_timeout hentries htimer
    gone_after_timeout := fun requestId htimer =>
      (hconserved requestId).pending_eq_none htimer
    one_finalizer := by
      intro requestId hmem
      have hpositive : 0 < state.log.countP
          (ServiceEvent.isCreated requestId) :=
        List.countP_pos_iff.mpr ⟨_, hmem, by simp⟩
      have hle := (hconserved requestId).created_le_one
      have hwaiting := (hconserved requestId).waiting_or_removed
      rw [(hconserved requestId).started]
      unfold waiting at hwaiting
      split_ifs at hwaiting ⊢ <;> omega
    responded_once := by
      intro requestId
      have hle := (hconserved requestId).created_le_one
      have hwaiting := (hconserved requestId).waiting_or_removed
      have hstarted := (hconserved requestId).started
      have hrunning := (hconserved requestId).running_or_responded
      omega
    waiting := by
      intro requestId entry hpending
      obtain ⟨hcollected, hbelow⟩ := hentries.waiting requestId entry hpending
      exact ⟨hcollected.counted, hcollected.counted ▸ hbelow,
        hcollected.approved⟩
    handed := by
      intro requestId kind entry hmem
      obtain ⟨hcollected, hkind⟩ := hentries.handed requestId kind entry hmem
      exact ⟨hkind, hcollected.counted, hcollected.approved⟩
    rejected := fun env requestId secretsBox envReport hrejected =>
      response_unchanged _ env requestId secretsBox envReport hrejected }

end NxccBridge.PendingRequests
