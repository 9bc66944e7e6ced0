import NxccBridge.Daemon.Finalization

/-!
# Failed requests

`get_secrets` enters its request in the map and starts the timer before it hands
the message to the network, which may refuse it.  A call that fails earlier
leaves no trace on the node; one whose message is refused returns an error and
leaves a request that its timeout still serves.
-/

namespace NxccBridge.PendingRequests

open Function
open NxccBridge.Interface
open NxccBridge.Crypto
open NxccBridge.EnclaveSecrets
open NxccBridge.DaemonSecrets
open NxccBridge.Network

variable {Digest : Type*} [DecidableEq Digest] {platform : Platform Digest}
variable {Policy : Type*}

/-- `get_secrets` up to the point where it waits for its responder, with what
`try_send` returns for its message. -/
def publishGetSecrets (self : SecretsService) (env : Env Policy)
    (trySend : Except String Unit) (enclave : Secrets platform)
    (secretRequests : Requests) (callerEnvReport : EnvReport) :
    SecretsService × Secrets platform × Except AppError (Option GossipMessage) :=
  match self.getSecrets env enclave secretRequests callerEnvReport with
  | (service, enclave, .ok (some message)) =>
      match trySend with
      | .ok () => (service, enclave, .ok (some message))
      | .error e =>
          (service, enclave,
            .error (.service ("Failed to publish secrets request: " ++ e)))
  | outcome => outcome

/-- The call on a node.  The timer runs from the moment the request is entered,
whatever becomes of the message. -/
def NodeState.call (state : NodeState platform) (env : Env Policy)
    (trySend : Except String Unit) (secretRequests : Requests)
    (callerEnvReport : EnvReport) :
    NodeState platform × Except AppError (Option GossipMessage) :=
  (state.step (.getSecrets env secretRequests callerEnvReport),
    (publishGetSecrets state.service env trySend state.enclave secretRequests
      callerEnvReport).2.2)

/-- The checks in front of the publication all pass: something is missing, the
own report is there, and the policies let this node ask for every missing
secret. -/
def ReachesPublish (env : Env Policy) (enclave : Secrets platform)
    (secretRequests : Requests) : Prop :=
  ∃ localIds missing entry selfEnvReport after,
    checkLocal env enclave secretRequests = .ok (localIds, missing) ∧
    missing.isEmpty = false ∧
    newPending env.debug missing = .ok entry ∧
    env.ownEnvReport = .ok selfEnvReport ∧
    authorizeSelf env selfEnvReport entry.consumersById entry.requestedIds
      enclave = (after, .ok ())

/-- The message is handed to a channel that refuses it. -/
def PublishRefused (env : Env Policy) (trySend : Except String Unit)
    (enclave : Secrets platform) (secretRequests : Requests) : Prop :=
  (∃ message, trySend = .error message) ∧
    ReachesPublish env enclave secretRequests

/-! ## The call -/

/-- A call that passes its checks enters a request and has a message to
publish. -/
theorem getSecrets_reaches (self : SecretsService) {env : Env Policy}
    {enclave : Secrets platform} {secretRequests : Requests}
    (hreaches : ReachesPublish env enclave secretRequests)
    (callerEnvReport : EnvReport) :
    ∃ after entry message,
      self.getSecrets env enclave secretRequests callerEnvReport =
        (self.insertPending entry, after, .ok (some message)) ∧
      entry.responseCount < entry.threshold := by
  obtain ⟨localIds, missing, entry, selfEnvReport, after, hlocal, hmissing,
    hentry, hreport, hallowed⟩ := hreaches
  obtain ⟨-, -, -, hcount, hthreshold⟩ := newPending_ok hentry
  refine ⟨after, entry, .secretBatchRequest (self.requestCounter + 1) missing
    callerEnvReport, ?_, ?_⟩
  · simp only [SecretsService.getSecrets, hlocal, hmissing, Bool.false_eq_true,
      if_false, hentry, hreport, hallowed]
  · rw [hcount, hthreshold]
    exact Nat.one_pos

/-- A call that does not pass its checks leaves the service as it was. -/
theorem getSecrets_stops (self : SecretsService) {env : Env Policy}
    {enclave : Secrets platform} {secretRequests : Requests}
    (hstops : ¬ ReachesPublish env enclave secretRequests)
    (callerEnvReport : EnvReport) :
    ∃ after outcome,
      self.getSecrets env enclave secretRequests callerEnvReport =
        (self, after, outcome) ∧ ∀ message, outcome ≠ .ok (some message) := by
  cases getSecrets_cases self env enclave secretRequests callerEnvReport with
  | inl hnothing => exact hnothing
  | inr hpublished =>
      obtain ⟨localIds, missing, entry, selfEnvReport, after, hlocal, hmissing,
        hentry, hreport, hallowed, -⟩ := hpublished
      exact absurd ⟨localIds, missing, entry, selfEnvReport, after, hlocal,
        hmissing, hentry, hreport, hallowed⟩ hstops

/-- No finalizer ever starts for a request that came in between. -/
def NeverServes (Policy : Type*) (before after : NodeState platform) : Prop :=
  ∀ requestId, .created requestId ∈ after.log →
    .created requestId ∉ before.log →
      ∀ (later : List (Action Policy)) (kind : Finalizer),
        .started requestId kind ∉ (after.run later).log

/-- The state after a call that stops at its checks differs in the
authorizations of the enclave only. -/
theorem call_stops (state : NodeState platform) {env : Env Policy}
    {secretRequests : Requests}
    (hstops : ¬ ReachesPublish env state.enclave secretRequests)
    (trySend : Except String Unit) (callerEnvReport : EnvReport) :
    ∃ enclave, (state.call env trySend secretRequests callerEnvReport).1 =
      { state with enclave := enclave } := by
  obtain ⟨enclave, outcome, heq, hnone⟩ :=
    getSecrets_stops state.service hstops callerEnvReport
  refine ⟨enclave, ?_⟩
  simp only [NodeState.call, NodeState.step, NodeState.act, heq]

/-- The state after a call that passes its checks has a new request with its
timer. -/
theorem call_reaches (state : NodeState platform) {env : Env Policy}
    {secretRequests : Requests}
    (hreaches : ReachesPublish env state.enclave secretRequests)
    (trySend : Except String Unit) (callerEnvReport : EnvReport) :
    ∃ enclave entry, entry.responseCount < entry.threshold ∧
      (state.call env trySend secretRequests callerEnvReport).1 =
        { state with
          enclave := enclave
          service := state.service.insertPending entry
          timers := state.timers ++ [state.service.requestCounter + 1]
          log := state.log ++
            [.created (state.service.requestCounter + 1)] } := by
  obtain ⟨enclave, entry, message, heq, hbelow⟩ :=
    getSecrets_reaches state.service hreaches callerEnvReport
  refine ⟨enclave, entry, hbelow, ?_⟩
  simp only [NodeState.call, NodeState.step, NodeState.act, heq]
  rfl

/-- A failed call that passed its checks was refused by the channel. -/
theorem publishRefused_of_call {state : NodeState platform} {env : Env Policy}
    {trySend : Except String Unit} {secretRequests : Requests}
    {callerEnvReport : EnvReport} {error : AppError}
    (hfailed : (state.call env trySend secretRequests callerEnvReport).2 =
      .error error)
    (hreaches : ReachesPublish env state.enclave secretRequests) :
    PublishRefused env trySend state.enclave secretRequests := by
  obtain ⟨enclave, entry, message, heq, -⟩ :=
    getSecrets_reaches state.service hreaches callerEnvReport
  simp only [NodeState.call, publishGetSecrets, heq] at hfailed
  cases trySend with
  | error e => exact ⟨⟨e, rfl⟩, hreaches⟩
  | ok sent => cases hfailed

/-! ## The next identifier -/

section Next

variable {state : NodeState platform}

omit [DecidableEq Digest] in
/-- An identifier above the counter has no entry. -/
theorem pending_next_eq_none
    (hnext : Conserved state (state.service.requestCounter + 1)) :
    state.service.pending (state.service.requestCounter + 1) = none := by
  have hcreated := hnext.created
  have hwaiting := hnext.waiting_or_removed
  rw [if_neg (by omega)] at hcreated
  by_contra hsome
  obtain ⟨old, hold⟩ := Option.ne_none_iff_exists'.mp hsome
  rw [waiting_of_some hold] at hwaiting
  omega

omit [DecidableEq Digest] in
theorem created_next_not_mem
    (hnext : Conserved state (state.service.requestCounter + 1)) :
    .created (state.service.requestCounter + 1) ∉ state.log := by
  intro hmem
  have hcreated := hnext.created
  rw [if_neg (by omega), List.countP_eq_zero] at hcreated
  exact absurd (hcreated _ hmem) (by simp)

/-- A call that passes its checks adds an entry. -/
theorem call_pending_ne {env : Env Policy} {secretRequests : Requests}
    (hnext : Conserved state (state.service.requestCounter + 1))
    (hreaches : ReachesPublish env state.enclave secretRequests)
    (trySend : Except String Unit) (callerEnvReport : EnvReport) :
    (state.call env trySend secretRequests
        callerEnvReport).1.service.pending ≠ state.service.pending := by
  obtain ⟨enclave, entry, -, hcall⟩ :=
    call_reaches state hreaches trySend callerEnvReport
  intro hsame
  rw [hcall] at hsame
  have hentry := congrFun hsame (state.service.requestCounter + 1)
  simp [SecretsService.insertPending, pending_next_eq_none hnext] at hentry

/-- The timeout of the entry starts its finalizer. -/
theorem call_serves {env : Env Policy} {secretRequests : Requests}
    (hnext : Conserved state (state.service.requestCounter + 1))
    (hreaches : ReachesPublish env state.enclave secretRequests)
    (trySend : Except String Unit) (callerEnvReport : EnvReport) :
    ¬ NeverServes Policy state
      (state.call env trySend secretRequests callerEnvReport).1 := by
  obtain ⟨enclave, entry, hbelow, hcall⟩ :=
    call_reaches state hreaches trySend callerEnvReport
  intro hnever
  rw [hcall] at hnever
  apply hnever (state.service.requestCounter + 1) (by simp)
    (created_next_not_mem hnext)
    [.timeout (state.service.requestCounter + 1)] .timeout
  simp [NodeState.run, NodeState.step, NodeState.act, timeoutReached,
    SecretsService.insertPending, hbelow, NodeState.handOver]

end Next

theorem call_secretsStorage (state : NodeState platform) (env : Env Policy)
    (trySend : Except String Unit) (secretRequests : Requests)
    (callerEnvReport : EnvReport) :
    (state.call env trySend secretRequests
        callerEnvReport).1.enclave.secretsStorage =
      state.enclave.secretsStorage := by
  have hcall : (state.call env trySend secretRequests
      callerEnvReport).1.enclave = (state.service.getSecrets env
        state.enclave secretRequests callerEnvReport).2.1 := by
    simp only [NodeState.call, NodeState.step, NodeState.act]
    split <;> rename_i heq <;> rw [heq]
  rw [hcall]
  exact (getSecrets_onlyAuthorizes _ _ _ _ _).storage

/-! ## What a failed call leaves -/

/-- In every reachable state a call that fails before its responder is used
leaves the map as it was, and nothing that the node ever serves, exactly when it
was not its message that was refused.  It never touches a stored secret. -/
theorem failed_call_leaves_nothing_iff (keys : KeyExchangeKeyPair platform)
    (actions : List (Action Policy)) (env : Env Policy)
    (trySend : Except String Unit) (secretRequests : Requests)
    (callerEnvReport : EnvReport) {error : AppError}
    (hfailed : (((NodeState.new keys).run actions).call env trySend
      secretRequests callerEnvReport).2 = .error error) :
    ((((NodeState.new keys).run actions).call env trySend secretRequests
        callerEnvReport).1.service.pending =
        ((NodeState.new keys).run actions).service.pending ↔
      ¬ PublishRefused env trySend ((NodeState.new keys).run actions).enclave
        secretRequests) ∧
    (NeverServes Policy ((NodeState.new keys).run actions)
        (((NodeState.new keys).run actions).call env trySend secretRequests
          callerEnvReport).1 ↔
      ¬ PublishRefused env trySend ((NodeState.new keys).run actions).enclave
        secretRequests) ∧
    (((NodeState.new keys).run actions).call env trySend secretRequests
        callerEnvReport).1.enclave.secretsStorage =
      ((NodeState.new keys).run actions).enclave.secretsStorage := by
  have hconserved := run_conserved keys actions
  generalize (NodeState.new keys).run actions = state at hfailed hconserved ⊢
  have hnext := hconserved (state.service.requestCounter + 1)
  have hstorage :=
    call_secretsStorage state env trySend secretRequests callerEnvReport
  by_cases hreaches : ReachesPublish env state.enclave secretRequests
  · have hrefused := publishRefused_of_call hfailed hreaches
    have hadded := call_pending_ne hnext hreaches trySend callerEnvReport
    have hserves := call_serves hnext hreaches trySend callerEnvReport
    exact ⟨iff_of_false hadded (not_not_intro hrefused),
      iff_of_false hserves (not_not_intro hrefused), hstorage⟩
  · have haccepted : ¬ PublishRefused env trySend state.enclave
        secretRequests := fun hrefused => hreaches hrefused.2
    obtain ⟨enclave, hcall⟩ :=
      call_stops state hreaches trySend callerEnvReport
    refine ⟨iff_of_true ?_ haccepted, iff_of_true ?_ haccepted, hstorage⟩
    · rw [hcall]
    · intro requestId hmem hnot
      rw [hcall] at hmem
      exact absurd hmem hnot

/-! ### A network task that is gone -/

/-- Node 0 asks for the secret of the identity 7 when nobody receives its
messages any more. -/
def refusedCall : NodeState (symbolicPlatform [padKey [0], padKey [1], padKey [2]]
      [samplePayload 9 5]) × Except AppError (Option GossipMessage) :=
  (NodeState.new (sampleKeys 0)).call (sampleEnv [0] 6 0)
    (.error "send failed because receiver is gone") sampleRequests
    (symbolicReport (padKey [0]))

/-- The call returns an error and leaves its request in the map; the timeout then
generates the secret for it. -/
theorem refused_call_generates :
    refusedCall.2 = .error (.service ("Failed to publish secrets request: " ++
      "send failed because receiver is gone")) ∧
    (refusedCall.1.service.pending 1).isSome = true ∧
    ((NodeState.new (sampleKeys 0)).service.pending 1).isSome = false ∧
    (refusedCall.1.run (timeoutSteps 1 (sampleEnv [0] 9 4))).generated =
      [(sampleSecretId 7,
        { data := [4], expiry := 0, generationTimestamp := 9 })] ∧
    (refusedCall.1.enclave.secretsStorage (sampleSecretId 7)).isSome = false ∧
    ((refusedCall.1.run
      (timeoutSteps 1 (sampleEnv [0] 9 4))).enclave.secretsStorage
        (sampleSecretId 7)).isSome = true := by
  decide +kernel

/-- Without a report of its own the node fails the call before it enters a
request. -/
theorem failed_call_without_report :
    ((NodeState.new (sampleKeys 0)).call
        { sampleEnv [0] 6 0 with ownEnvReport := .error (.service "no report") }
        (.error "send failed because receiver is gone") sampleRequests
        (symbolicReport (padKey [0]))).1.service.pending =
      (NodeState.new (sampleKeys 0)).service.pending := by
  have hfailed : ((NodeState.new (sampleKeys 0)).call
      { sampleEnv [0] 6 0 with ownEnvReport := .error (.service "no report") }
      (.error "send failed because receiver is gone") sampleRequests
      (symbolicReport (padKey [0]))).2 = .error (.service "no report") := by
    decide +kernel
  apply (failed_call_leaves_nothing_iff (sampleKeys 0) [] _ _ _ _
    hfailed).1.mpr
  intro hrefused
  obtain ⟨-, localIds, missing, entry, selfEnvReport, after, -, -, -, hreport,
    -⟩ := hrefused
  cases hreport

end NxccBridge.PendingRequests
