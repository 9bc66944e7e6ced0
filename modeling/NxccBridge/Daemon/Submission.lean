import NxccBridge.Daemon.Installation

/-!
# Submissions of one work order

Calls of `submit_work_order` with the same bytes run side by side.  Each looks for
the hash under the read lock, prepares its worker, calls `run_worker`, and enters
the hash under the write lock before it installs the events.  It holds no lock
from one of these to the next.
-/

namespace NxccBridge.Submission

open Function
open NxccBridge.DaemonSecrets (AppError)
open NxccBridge.Installation
open NxccBridge.Interface
open NxccBridge.Runs

/-- The submitted bytes: their hash, whether they parse as an envelope, and the
events of their payload. -/
structure WorkOrder where
  hash : String
  envelope : Except String Unit
  events : List WorkerEvent

structure RunWorkerResponse where
  success : Bool
  workerId : String
  errorMessage : String

/-- `run_worker` of the enclave client, from what the call came back with. -/
def runWorkerAnswer : Except String RunWorkerResponse → Except String String
  | .error e => .error e
  | .ok inner =>
      if inner.success || !inner.workerId.isEmpty then .ok inner.workerId
      else
        .error ("Enclave runner failed to start worker: " ++
          inner.errorMessage)

/-- How far a call has come. -/
inductive Stage
  | idle
  | preparing
  | calling
  | started (enclaveWorkerId : String)
  | installing (todo : List Effect) (result : Except AppError String)
  | returned (result : Except AppError String)

/-- What the calls share, with the calls of `run_worker` and the effects of the
installations so far.  `active` is the entry at the hash. -/
structure Shared where
  active : Option String
  runCalls : List ℕ
  installs : List Effect

structure State where
  shared : Shared
  stage : ℕ → Stage

def State.init : State where
  shared := { active := none, runCalls := [], installs := [] }
  stage := fun _ => .idle

/-- The submission goes on to its next stage. -/
def State.moveTo (state : State) (submission : ℕ) (stage : Stage)
    (shared : Shared) : State where
  shared := shared
  stage := update state.stage submission stage

@[simp]
theorem State.moveTo_self (state : State) (submission : ℕ) (stage : Stage)
    (shared : Shared) :
    (state.moveTo submission stage shared).stage submission = stage :=
  update_self ..

theorem State.moveTo_of_ne (state : State) {submission other : ℕ}
    (hne : other ≠ submission) (stage : Stage) (shared : Shared) :
    (state.moveTo submission stage shared).stage other = state.stage other :=
  update_of_ne hne ..

/-- A call up to its next await.  Preparation is everything from the download of
the bundle to the secrets. -/
inductive Action
  | check (submission : ℕ)
  | prepare (submission : ℕ) (outcome : Except AppError Unit)
  | answer (submission : ℕ) (response : Except String RunWorkerResponse)
  | register (submission : ℕ) (world : World)
  | install (submission : ℕ)

def Action.submission : Action → ℕ
  | check submission => submission
  | prepare submission _ => submission
  | answer submission _ => submission
  | register submission _ => submission
  | install submission => submission

def check (order : WorkOrder) (state : State) (submission : ℕ) : State :=
  match order.envelope with
  | .error e =>
      state.moveTo submission (.returned (.error (.service
        ("Failed to parse WorkOrder DSSE envelope: " ++ e)))) state.shared
  | .ok () =>
      if state.shared.active.isSome then
        state.moveTo submission (.returned (.ok order.hash)) state.shared
      else state.moveTo submission .preparing state.shared

def prepare (state : State) (submission : ℕ) :
    Except AppError Unit → State
  | .error e => state.moveTo submission (.returned (.error e)) state.shared
  | .ok () =>
      state.moveTo submission .calling
        { state.shared with
          runCalls := state.shared.runCalls ++ [submission] }

def answer (order : WorkOrder) (state : State) (submission : ℕ)
    (response : Except String RunWorkerResponse) : State :=
  match runWorkerAnswer response with
  | .error e =>
      state.moveTo submission (.returned (.error (.service
        ("Failed to run worker in enclave for " ++ order.hash ++ ": " ++ e))))
        state.shared
  | .ok enclaveWorkerId =>
      state.moveTo submission (.started enclaveWorkerId) state.shared

def register (order : WorkOrder) (state : State) (submission : ℕ)
    (enclaveWorkerId : String) (world : World) : State :=
  let installation :=
    installEvents world order.hash enclaveWorkerId order.events
  state.moveTo submission (.installing installation.1 installation.2)
    { state.shared with active := some enclaveWorkerId }

def install (state : State) (submission : ℕ)
    (result : Except AppError String) : List Effect → State
  | [] => state.moveTo submission (.returned result) state.shared
  | effect :: todo =>
      state.moveTo submission (.installing todo result)
        { state.shared with installs := state.shared.installs ++ [effect] }

def step (order : WorkOrder) (state : State) : Action → State
  | .check submission =>
      match state.stage submission with
      | .idle => check order state submission
      | _ => state
  | .prepare submission outcome =>
      match state.stage submission with
      | .preparing => prepare state submission outcome
      | _ => state
  | .answer submission response =>
      match state.stage submission with
      | .calling => answer order state submission response
      | _ => state
  | .register submission world =>
      match state.stage submission with
      | .started enclaveWorkerId =>
          register order state submission enclaveWorkerId world
      | _ => state
  | .install submission =>
      match state.stage submission with
      | .installing todo result => install state submission result todo
      | _ => state

/-! ## What running once means -/

/-- No event of the payload has more than one effect among these. -/
structure RegisteredOnce (order : WorkOrder) (enclaveWorkerId : String)
    (effects : List Effect) : Prop where
  launches : (effects.filterMap Effect.launchQueued?).Sublist
    ((order.events.filterMap launchHandler).map
      (launchDelivery enclaveWorkerId))
  listeners : (effects.filterMap Effect.listening?).Sublist
    ((order.events.filterMap web3Handler).map fun entry =>
      firstListener order.hash enclaveWorkerId order.events entry.2)
  mount : (effects.filterMap Effect.mounted?).length ≤ 1
  schedules : (effects.filterMap Effect.scheduleSent?).Sublist
    (order.events.filterMap scheduleHandler)

/-- One call of `run_worker` and one installation; whoever returns `Ok` returns the
hash, and so does whoever comes after the call. -/
structure RunsOnce (order : WorkOrder) (actions : List Action) : Prop where
  called : (run (step order) .init actions).shared.runCalls.length ≤ 1
  registered : ∃ enclaveWorkerId, RegisteredOnce order enclaveWorkerId
    (run (step order) .init actions).shared.installs
  sameId : ∀ submission id,
    (run (step order) .init actions).stage submission = .returned (.ok id) →
      id = order.hash
  later : ∀ before submission after,
    actions = before ++ .check submission :: after →
    (run (step order) .init before).shared.runCalls ≠ [] →
    (run (step order) .init before).stage submission = .idle →
    (run (step order) .init actions).stage submission =
      .returned (.ok order.hash)

/-- A submission that finds no entry comes before every call of `run_worker`, and
no other submission is on its way to one. -/
def Unopposed (state : State) : Action → Prop
  | .check submission =>
      state.stage submission = .idle → state.shared.active = none →
        state.shared.runCalls = [] ∧ ∀ other, state.stage other ≠ .preparing
  | _ => True

/-! ## One installation -/

theorem sentHandlers_sublist (world : World) (index : ℕ)
    (events : List WorkerEvent) :
    (sentHandlers world index events).Sublist
      (events.filterMap launchHandler) := by
  induction events generalizing index with
  | nil => exact List.Sublist.slnil
  | cons event rest ih =>
      have hrest := ih (index + 1)
      rw [sentHandlers] at hrest ⊢
      rw [List.zipIdx_cons, List.filterMap_cons, List.filterMap_cons]
      cases launchHandler event with
      | none => exact hrest
      | some handler =>
          cases world.launchSent index with
          | true => exact hrest.cons_cons handler
          | false => exact hrest.cons handler

/-- The schedules that were sent are the first ones. -/
theorem sendSchedules_prefix (world : World) (index : ℕ)
    (schedules : List (String × Schedule)) :
    ∃ sent, List.Sublist sent schedules ∧
      (sendSchedules world index schedules).1 =
        sent.map fun entry => .scheduleSent entry.1 entry.2 := by
  induction schedules generalizing index with
  | nil => exact ⟨[], List.Sublist.slnil, rfl⟩
  | cons schedule rest ih =>
      rw [sendSchedules]
      cases world.schedulerOpen index with
      | false => exact ⟨[], List.nil_sublist _, rfl⟩
      | true =>
          obtain ⟨sent, hsublist, heq⟩ := ih (index + 1)
          refine ⟨schedule :: sent, hsublist.cons_cons schedule, ?_⟩
          rw [if_pos rfl, List.map_cons, ← heq]

theorem installEvents_registered (order : WorkOrder) (world : World)
    (enclaveWorkerId : String) :
    RegisteredOnce order enclaveWorkerId
      (installEvents world order.hash enclaveWorkerId order.events).1 := by
  obtain ⟨sent, hsublist, hsent⟩ := sendSchedules_prefix world 0
    (order.events.filterMap scheduleHandler)
  obtain ⟨hlaunches, hlisteners, hmount, hschedules⟩ :=
    installEvents_kinds order.hash enclaveWorkerId hsent
  constructor
  · rw [hlaunches]
    exact (sentHandlers_sublist world 0 order.events).map _
  · rw [hlisteners]
    split
    · exact List.Sublist.refl _
    · exact List.nil_sublist _
  · rw [hmount]
    split <;> simp
  · rw [hschedules]
    exact hsublist

theorem installEvents_ok {world : World} {workOrderHash enclaveWorkerId : String}
    {events : List WorkerEvent} {id : String}
    (hok : (installEvents world workOrderHash enclaveWorkerId events).2 =
      .ok id) : id = workOrderHash := by
  rw [installEvents_eq] at hok
  cases hschedules : (sendSchedules world 0
      (events.filterMap scheduleHandler)).2 with
  | error e => simp [hschedules, Except.map] at hok
  | ok =>
      simp only [hschedules, Except.map] at hok
      exact (Except.ok.inj hok).symm

/-- An installation that is not finished. -/
theorem RegisteredOnce.of_append {order : WorkOrder} {enclaveWorkerId : String}
    {effects todo : List Effect}
    (honce : RegisteredOnce order enclaveWorkerId (effects ++ todo)) :
    RegisteredOnce order enclaveWorkerId effects := by
  have hsublist : effects.Sublist (effects ++ todo) :=
    List.sublist_append_left effects todo
  exact {
    launches := (hsublist.filterMap _).trans honce.launches
    listeners := (hsublist.filterMap _).trans honce.listeners
    mount := (hsublist.filterMap _).length_le.trans honce.mount
    schedules := (hsublist.filterMap _).trans honce.schedules }

/-! ## One submission at a time -/

/-- Nobody has called `run_worker`. -/
structure Fresh (shared : Shared) : Prop where
  active : shared.active = none
  runCalls : shared.runCalls = []
  installs : shared.installs = []

/-- `owner` has called `run_worker`, and the hash is not entered. -/
structure Called (order : WorkOrder) (shared : Shared) (owner : ℕ) : Prop where
  parsed : order.envelope = .ok ()
  active : shared.active = none
  runCalls : shared.runCalls = [owner]
  installs : shared.installs = []

/-- `owner` has entered the hash and has these effects left. -/
structure Registered (order : WorkOrder) (shared : Shared) (owner : ℕ)
    (todo : List Effect) (result : Except AppError String) : Prop where
  parsed : order.envelope = .ok ()
  active : shared.active.isSome = true
  runCalls : shared.runCalls = [owner]
  installs : ∃ world enclaveWorkerId,
    installEvents world order.hash enclaveWorkerId order.events =
      (shared.installs ++ todo, result)

def Owns (order : WorkOrder) (shared : Shared) (owner : ℕ) : Stage → Prop
  | .idle => Fresh shared
  | .preparing => order.envelope = .ok () ∧ Fresh shared
  | .calling => Called order shared owner
  | .started _ => Called order shared owner
  | .installing todo result => Registered order shared owner todo result
  | .returned result =>
      ((Fresh shared ∨ Called order shared owner) ∧ ∃ e, result = .error e) ∨
        Registered order shared owner [] result

/-- A stage that takes no part: nothing done, failed, or told of the hash. -/
def Stage.Aside (order : WorkOrder) (stage : Stage) : Prop :=
  stage = .idle ∨ (∃ e, stage = .returned (.error e)) ∨
    stage = .returned (.ok order.hash)

/-- All that has happened was done by `owner`. -/
structure Alone (order : WorkOrder) (owner : ℕ) (state : State) : Prop where
  owns : Owns order state.shared owner (state.stage owner)
  others : ∀ other ≠ owner, (state.stage other).Aside order

variable {order : WorkOrder} {owner submission : ℕ} {state : State}

theorem alone_init (order : WorkOrder) : Alone order 0 .init where
  owns := ⟨rfl, rfl, rfl⟩
  others := fun _ _ => Or.inl rfl

/-- Whoever is under way is the owner. -/
theorem Alone.eq_owner (halone : Alone order owner state)
    (haside : ¬(state.stage submission).Aside order) : submission = owner := by
  by_contra hne
  exact haside (halone.others submission hne)

theorem Alone.owns_at (halone : Alone order owner state) {stage : Stage}
    (hstage : state.stage owner = stage) :
    Owns order state.shared owner stage := hstage ▸ halone.owns

/-- The owner goes on to its next stage. -/
theorem Alone.moved (halone : Alone order owner state) {stage : Stage}
    {shared : Shared} (howns : Owns order shared owner stage) :
    Alone order owner (state.moveTo owner stage shared) where
  owns := by
    rwa [State.moveTo_self]
  others := by
    intro other hne
    rw [State.moveTo_of_ne _ hne]
    exact halone.others other hne

/-- Another submission steps aside. -/
theorem Alone.aside (halone : Alone order owner state) {stage : Stage}
    (hne : submission ≠ owner) (haside : stage.Aside order) :
    Alone order owner (state.moveTo submission stage state.shared) where
  owns := by
    rw [State.moveTo_of_ne _ hne.symm]
    exact halone.owns
  others := by
    intro other hother
    by_cases hsame : other = submission
    · rwa [hsame, State.moveTo_self]
    · rw [State.moveTo_of_ne _ hsame]
      exact halone.others other hother

/-- Without a call of `run_worker` everybody is preparing or out of it. -/
theorem Alone.fresh (halone : Alone order owner state)
    (hcalls : state.shared.runCalls = []) :
    Fresh state.shared ∧
      (state.stage owner = .preparing ∨
        (state.stage owner).Aside order) := by
  have hnone : state.shared.runCalls ≠ [owner] := by simp [hcalls]
  cases hstage : state.stage owner <;> have howns := hstage ▸ halone.owns
  case idle => exact ⟨howns, Or.inr (Or.inl rfl)⟩
  case preparing => exact ⟨howns.2, Or.inl rfl⟩
  case calling => exact absurd howns.runCalls hnone
  case started => exact absurd howns.runCalls hnone
  case installing => exact absurd howns.runCalls hnone
  case returned =>
    rcases howns with ⟨hfresh | hcalled, e, rfl⟩ | hregistered
    · exact ⟨hfresh, Or.inr (Or.inr (Or.inl ⟨e, rfl⟩))⟩
    · exact absurd hcalled.runCalls hnone
    · exact absurd hregistered.runCalls hnone

theorem not_aside_preparing : ¬Stage.Aside order .preparing := by
  simp [Stage.Aside]

theorem not_aside_calling : ¬Stage.Aside order .calling := by
  simp [Stage.Aside]

theorem not_aside_started {enclaveWorkerId : String} :
    ¬Stage.Aside order (.started enclaveWorkerId) := by
  simp [Stage.Aside]

theorem not_aside_installing {todo : List Effect}
    {result : Except AppError String} :
    ¬Stage.Aside order (.installing todo result) := by
  simp [Stage.Aside]

theorem alone_check (halone : Alone order owner state)
    (hidle : state.stage submission = .idle)
    (hunopposed : Unopposed state (.check submission)) :
    ∃ owner, Alone order owner (check order state submission) := by
  unfold check
  cases henvelope : order.envelope with
  | error e =>
      refine ⟨owner, ?_⟩
      by_cases howner : submission = owner
      · subst howner
        have howns := halone.owns_at hidle
        exact halone.moved (Or.inl ⟨Or.inl howns, _, rfl⟩)
      · exact halone.aside howner (Or.inr (Or.inl ⟨_, rfl⟩))
  | ok =>
      cases hactive : state.shared.active with
      | some enclaveWorkerId =>
          have howner : submission ≠ owner := by
            rintro rfl
            have howns : Fresh state.shared := halone.owns_at hidle
            rw [howns.active] at hactive
            cases hactive
          exact ⟨owner, halone.aside howner (Or.inr (Or.inr rfl))⟩
      | none =>
          obtain ⟨hcalls, hothers⟩ := hunopposed hidle hactive
          obtain ⟨hfresh, hstage⟩ := halone.fresh hcalls
          refine ⟨submission, ?_, ?_⟩
          · rw [if_neg (by simp), State.moveTo_self]
            exact ⟨henvelope, hfresh⟩
          · intro other hne
            rw [if_neg (by simp), State.moveTo_of_ne _ hne]
            by_cases howner : other = owner
            · rw [howner]
              exact hstage.resolve_left (hothers owner)
            · exact halone.others other howner

theorem alone_prepare (halone : Alone order owner state)
    (hstage : state.stage submission = .preparing)
    (outcome : Except AppError Unit) :
    Alone order owner (prepare state submission outcome) := by
  obtain rfl := halone.eq_owner (hstage ▸ not_aside_preparing)
  obtain ⟨hparsed, hfresh⟩ := halone.owns_at hstage
  cases outcome with
  | error e => exact halone.moved (Or.inl ⟨Or.inl hfresh, e, rfl⟩)
  | ok =>
      have hcalled : Called order
          { state.shared with
            runCalls := state.shared.runCalls ++ [submission] }
          submission := {
        parsed := hparsed
        active := hfresh.active
        runCalls := congrArg (· ++ [submission]) hfresh.runCalls
        installs := hfresh.installs }
      exact halone.moved hcalled

theorem alone_answer (halone : Alone order owner state)
    (hstage : state.stage submission = .calling)
    (response : Except String RunWorkerResponse) :
    Alone order owner (answer order state submission response) := by
  obtain rfl := halone.eq_owner (hstage ▸ not_aside_calling)
  have hcalled : Called order state.shared submission :=
    halone.owns_at hstage
  unfold answer
  cases runWorkerAnswer response with
  | error e => exact halone.moved (Or.inl ⟨Or.inr hcalled, _, rfl⟩)
  | ok enclaveWorkerId => exact halone.moved hcalled

theorem alone_register (halone : Alone order owner state)
    {enclaveWorkerId : String}
    (hstage : state.stage submission = .started enclaveWorkerId)
    (world : World) :
    Alone order owner
      (register order state submission enclaveWorkerId world) := by
  obtain rfl := halone.eq_owner (hstage ▸ not_aside_started)
  have hcalled : Called order state.shared submission :=
    halone.owns_at hstage
  refine halone.moved ⟨hcalled.parsed, rfl, hcalled.runCalls, world,
    enclaveWorkerId, ?_⟩
  change _ = (state.shared.installs ++ _, _)
  rw [hcalled.installs, List.nil_append]

theorem alone_install (halone : Alone order owner state)
    {todo : List Effect} {result : Except AppError String}
    (hstage : state.stage submission = .installing todo result) :
    Alone order owner (install state submission result todo) := by
  obtain rfl := halone.eq_owner (hstage ▸ not_aside_installing)
  have hregistered : Registered order state.shared submission todo result :=
    halone.owns_at hstage
  cases todo with
  | nil => exact halone.moved (Or.inr hregistered)
  | cons effect todo =>
      obtain ⟨hparsed, hactive, hcalls, world, enclaveWorkerId, heq⟩ :=
        hregistered
      refine halone.moved ⟨hparsed, hactive, hcalls, world, enclaveWorkerId, ?_⟩
      rw [heq, List.append_assoc]
      rfl

theorem alone_step (action : Action)
    (halone : ∃ owner, Alone order owner state)
    (hunopposed : Unopposed state action) :
    ∃ owner, Alone order owner (step order state action) := by
  obtain ⟨owner, halone⟩ := halone
  cases action with
  | check submission =>
      rw [step]
      split
      next hstage => exact alone_check halone hstage hunopposed
      next => exact ⟨owner, halone⟩
  | prepare submission outcome =>
      rw [step]
      split
      next hstage => exact ⟨owner, alone_prepare halone hstage outcome⟩
      next => exact ⟨owner, halone⟩
  | answer submission response =>
      rw [step]
      split
      next hstage => exact ⟨owner, alone_answer halone hstage response⟩
      next => exact ⟨owner, halone⟩
  | register submission world =>
      rw [step]
      split
      next hstage => exact ⟨owner, alone_register halone hstage world⟩
      next => exact ⟨owner, halone⟩
  | install submission =>
      rw [step]
      split
      next hstage => exact ⟨owner, alone_install halone hstage⟩
      next => exact ⟨owner, halone⟩

/-! ## The runs -/

/-- A step moves one submission that has not returned, or nothing. -/
theorem step_moves (order : WorkOrder) (state : State) (action : Action) :
    step order state action = state ∨
      (∀ result, state.stage action.submission ≠ .returned result) ∧
        ∃ stage shared, step order state action =
          state.moveTo action.submission stage shared := by
  cases action with
  | check submission =>
      rw [step]
      split
      next hstage =>
        refine Or.inr ⟨by simp [Action.submission, hstage], ?_⟩
        unfold check
        split
        · exact ⟨_, _, rfl⟩
        · split <;> exact ⟨_, _, rfl⟩
      next => exact Or.inl rfl
  | prepare submission outcome =>
      rw [step]
      split
      next hstage =>
        refine Or.inr ⟨by simp [Action.submission, hstage], ?_⟩
        cases outcome <;> exact ⟨_, _, rfl⟩
      next => exact Or.inl rfl
  | answer submission response =>
      rw [step]
      split
      next hstage =>
        refine Or.inr ⟨by simp [Action.submission, hstage], ?_⟩
        unfold answer
        split <;> exact ⟨_, _, rfl⟩
      next => exact Or.inl rfl
  | register submission world =>
      rw [step]
      split
      next hstage =>
        exact Or.inr ⟨by simp [Action.submission, hstage], _, _, rfl⟩
      next => exact Or.inl rfl
  | install submission =>
      rw [step]
      split
      next todo result hstage =>
        refine Or.inr ⟨by simp [Action.submission, hstage], ?_⟩
        cases todo <;> exact ⟨_, _, rfl⟩
      next => exact Or.inl rfl

/-- A call that has returned takes no further step. -/
theorem run_returned {result : Except AppError String}
    (hreturned : state.stage submission = .returned result)
    (actions : List Action) :
    (run (step order) state actions).stage submission = .returned result := by
  refine run_always
    (fun state : State => state.stage submission = .returned result)
    actions hreturned fun state action hreturned => ?_
  rcases step_moves order state action with heq | ⟨hrunning, stage, shared, heq⟩
  · rw [heq]
    exact hreturned
  · rw [heq, State.moveTo_of_ne]
    · exact hreturned
    · rintro rfl
      exact hrunning result hreturned

/-- Where the call of `run_worker` stands. -/
theorem Alone.standing (halone : Alone order owner state) :
    Fresh state.shared ∨ Called order state.shared owner ∨
      ∃ todo result, Registered order state.shared owner todo result := by
  cases hstage : state.stage owner <;> have howns := halone.owns_at hstage
  case idle => exact Or.inl howns
  case preparing => exact Or.inl howns.2
  case calling => exact Or.inr (Or.inl howns)
  case started => exact Or.inr (Or.inl howns)
  case installing => exact Or.inr (Or.inr ⟨_, _, howns⟩)
  case returned =>
    rcases howns with ⟨hfresh | hcalled, -⟩ | hregistered
    · exact Or.inl hfresh
    · exact Or.inr (Or.inl hcalled)
    · exact Or.inr (Or.inr ⟨_, _, hregistered⟩)

theorem Alone.called (halone : Alone order owner state) :
    state.shared.runCalls.length ≤ 1 := by
  rcases halone.standing with hfresh | hcalled | ⟨todo, result, hregistered⟩
  · rw [hfresh.runCalls]
    exact Nat.zero_le 1
  · rw [hcalled.runCalls]
    exact Nat.le_refl 1
  · rw [hregistered.runCalls]
    exact Nat.le_refl 1

theorem Alone.registered (halone : Alone order owner state) :
    ∃ enclaveWorkerId,
      RegisteredOnce order enclaveWorkerId state.shared.installs := by
  have hnothing : RegisteredOnce order "" [] := by
    constructor <;> simp
  rcases halone.standing with hfresh | hcalled | ⟨todo, result, hregistered⟩
  · exact ⟨"", hfresh.installs ▸ hnothing⟩
  · exact ⟨"", hcalled.installs ▸ hnothing⟩
  · obtain ⟨world, enclaveWorkerId, heq⟩ := hregistered.installs
    have honce := installEvents_registered order world enclaveWorkerId
    rw [heq] at honce
    exact ⟨enclaveWorkerId, honce.of_append⟩

theorem Alone.parsed (halone : Alone order owner state)
    (hcalls : state.shared.runCalls ≠ []) : order.envelope = .ok () := by
  rcases halone.standing with hfresh | hcalled | ⟨todo, result, hregistered⟩
  · exact absurd hfresh.runCalls hcalls
  · exact hcalled.parsed
  · exact hregistered.parsed

theorem Alone.sameId (halone : Alone order owner state) {id : String}
    (hreturned : state.stage submission = .returned (.ok id)) :
    id = order.hash := by
  by_cases howner : submission = owner
  · subst howner
    rcases halone.owns_at hreturned with ⟨-, e, herror⟩ | hregistered
    · cases herror
    · obtain ⟨world, enclaveWorkerId, heq⟩ := hregistered.installs
      exact installEvents_ok (congrArg Prod.snd heq)
  · rcases halone.others submission howner with hidle | ⟨e, herror⟩ | hok
    · rw [hreturned] at hidle
      cases hidle
    · rw [hreturned] at herror
      cases herror
    · rw [hreturned] at hok
      exact Except.ok.inj (Stage.returned.inj hok)

/-- A check after the call of `run_worker` is told of the hash. -/
theorem check_told (halone : Alone order owner state)
    (hcalls : state.shared.runCalls ≠ [])
    (hidle : state.stage submission = .idle)
    (hunopposed : Unopposed state (.check submission)) :
    (step order state (.check submission)).stage submission =
      .returned (.ok order.hash) := by
  rw [step, hidle]
  cases hactive : state.shared.active with
  | none => exact absurd (hunopposed hidle hactive).1 hcalls
  | some enclaveWorkerId => simp [check, halone.parsed hcalls, hactive]

/-- In a run in which nobody passes the check while another submission is past it
and has not entered the hash, the work order runs once. -/
theorem runs_once {order : WorkOrder} {actions : List Action}
    (halong : Along (step order) Unopposed .init actions) :
    RunsOnce order actions := by
  have hinvariant : ∀ before after, actions = before ++ after →
      ∃ owner, Alone order owner (run (step order) .init before) := by
    rintro before after rfl
    exact run_invariant _ ⟨0, alone_init order⟩
      (along_append.mp halong).1
      fun _ action halone hunopposed => alone_step action halone hunopposed
  obtain ⟨owner, halone⟩ := hinvariant actions [] (List.append_nil _).symm
  refine ⟨halone.called, halone.registered,
    fun _ _ hreturned => halone.sameId hreturned, ?_⟩
  rintro before submission after rfl hcalls hidle
  obtain ⟨owner, hbefore⟩ := hinvariant before _ rfl
  have hunopposed := (along_append.mp halong).2.1
  rw [run_append, run_cons]
  exact run_returned (check_told hbefore hcalls hidle hunopposed) after

/-! ## Samples -/

def sampleOrder : WorkOrder where
  hash := "order"
  envelope := .ok ()
  events := sampleEvents

def startedAs (workerId : String) : Except String RunWorkerResponse :=
  .ok { success := true, workerId := workerId, errorMessage := "" }

/-- From the preparation of a submission to its return. -/
def carryOut (submission : ℕ) : List Action :=
  [.prepare submission (.ok ()), .answer submission (startedAs "worker"),
    .register submission openWorld] ++
    List.replicate 5 (.install submission)

/-- One submission after the other. -/
theorem runs_once_sample :
    RunsOnce sampleOrder (.check 0 :: carryOut 0 ++ [.check 1]) ∧
      (run (step sampleOrder) .init
        (.check 0 :: carryOut 0 ++ [.check 1])).stage 1 =
          .returned (.ok "order") := by
  have hidle : (run (step sampleOrder) .init
      (.check 0 :: carryOut 0)).shared.active ≠ none := by
    decide +kernel
  have honce : RunsOnce sampleOrder
      (.check 0 :: carryOut 0 ++ [.check 1]) := by
    apply runs_once
    rw [along_append]
    refine ⟨⟨fun _ _ => ⟨rfl, fun _ => by simp [State.init]⟩,
      along_of_forall ?_⟩, fun _ hnone => absurd hnone hidle, trivial⟩
    simp [carryOut, Unopposed]
  exact ⟨honce, honce.later (.check 0 :: carryOut 0) 1 [] rfl
    (by decide +kernel) rfl⟩

/-- Two submissions that both look before either enters the hash. -/
theorem runs_twice :
    ¬RunsOnce sampleOrder
        ([.check 0, .check 1] ++ carryOut 0 ++ carryOut 1) ∧
      (run (step sampleOrder) .init
        ([.check 0, .check 1] ++ carryOut 0 ++ carryOut 1)).shared.runCalls =
          [0, 1] ∧
      ∀ enclaveWorkerId, ¬RegisteredOnce sampleOrder enclaveWorkerId
        (run (step sampleOrder) .init
          ([.check 0, .check 1] ++ carryOut 0 ++
            carryOut 1)).shared.installs := by
  have hcalls : (run (step sampleOrder) .init
      ([.check 0, .check 1] ++ carryOut 0 ++ carryOut 1)).shared.runCalls =
        [0, 1] := by
    decide +kernel
  refine ⟨fun honce => ?_, hcalls, fun enclaveWorkerId honce => ?_⟩
  · have hcalled := honce.called
    rw [hcalls] at hcalled
    exact absurd hcalled (by decide)
  · exact absurd honce.mount (by decide +kernel)

end NxccBridge.Submission
