import NxccBridge.Daemon.Pending

/-!
# The secrets exchange between nodes

Any number of nodes publish requests and responses on one gossip topic.  A
published message can reach any node, any number of times and in any order.
Request identifiers are drawn from the counter of each node and a response
carries nothing else to say whom it answers; `requester` records that beside
the message.
-/

namespace NxccBridge.Network

open Function
open NxccBridge.Framing
open NxccBridge.Interface
open NxccBridge.Crypto
open NxccBridge.EnclaveSecrets
open NxccBridge.DaemonSecrets
open NxccBridge.PendingRequests

variable {Digest : Type*} [DecidableEq Digest] {platform : Platform Digest}
variable {Policy Node : Type*} [DecidableEq Node]

/-- A published message, with the node whose request it makes or answers. -/
structure Sent (Node : Type*) where
  message : GossipMessage
  publisher : Node
  requester : Node
  deriving DecidableEq

structure NetworkState (platform : Platform Digest) (Node : Type*) where
  nodes : Node → NodeState platform
  sent : List (Sent Node)
  /-- Which message reached which node. -/
  delivered : List (Node × ℕ)

/-- A step of one node.  `published` says whether gossip takes the message the
step publishes; a delivery handles the message at the given position. -/
inductive NetworkAction (Policy Node : Type*)
  | getSecrets (node : Node) (env : Env Policy) (secretRequests : Requests)
      (callerEnvReport : EnvReport) (published : Bool)
  | deliver (node : Node) (env : Env Policy) (index : ℕ) (published : Bool)
  | timeout (node : Node) (requestId : ℕ)
  | finish (node : Node) (env : Env Policy) (requestId : ℕ)
  | authorize (node : Node) (report : PolicyExecutionReport)

/-- All nodes fresh, each with its keypair. -/
def NetworkState.new (keys : Node → KeyExchangeKeyPair platform) :
    NetworkState platform Node where
  nodes := fun node => .new (keys node)
  sent := []
  delivered := []

/-- One node acts; what it publishes is for `requester`. -/
def NetworkState.act (state : NetworkState platform Node) (node : Node)
    (action : Action Policy) (requester : Node) (published : Bool) :
    NetworkState platform Node :=
  let outcome := (state.nodes node).act action
  { state with
    nodes := update state.nodes node outcome.1
    sent := match outcome.2 with
      | some message =>
          if published then
            state.sent ++ [{
              message := message, publisher := node, requester := requester }]
          else state.sent
      | none => state.sent }

/-- `handle_gossip_message`: what a node does with a message. -/
def handleGossipMessage (env : Env Policy) : GossipMessage → Action Policy
  | .secretBatchRequest requestId secretRequests envReport =>
      .answer env requestId secretRequests envReport
  | .secretBatchResponse requestId secretsBox responderEnvReport =>
      .response env requestId secretsBox responderEnvReport

def NetworkState.step (state : NetworkState platform Node) :
    NetworkAction Policy Node → NetworkState platform Node
  | .getSecrets node env secretRequests callerEnvReport published =>
      state.act node (.getSecrets env secretRequests callerEnvReport) node
        published
  | .deliver node env index published =>
      match state.sent[index]? with
      | none => state
      | some sent =>
          { state.act node (handleGossipMessage env sent.message) sent.requester
              published with
            delivered := state.delivered ++ [(node, index)] }
  | .timeout node requestId =>
      state.act node (.timeout requestId : Action Policy) node false
  | .finish node env requestId =>
      state.act node (.finish env requestId) node false
  | .authorize node report =>
      state.act node (.authorize report : Action Policy) node false

/-- The state after a list of steps, oldest first. -/
def NetworkState.run (state : NetworkState platform Node)
    (actions : List (NetworkAction Policy Node)) : NetworkState platform Node :=
  actions.foldl NetworkState.step state

@[simp]
theorem NetworkState.run_concat (state : NetworkState platform Node)
    (actions : List (NetworkAction Policy Node))
    (last : NetworkAction Policy Node) :
    state.run (actions ++ [last]) = (state.run actions).step last := by
  simp [NetworkState.run]

/-! ## Steps of the network and of its nodes -/

/-- A step of the network is a step of one node, which handles nothing but a
message that was sent. -/
theorem step_acts (state : NetworkState platform Node)
    (action : NetworkAction Policy Node) :
    state.step action = state ∨
    ∃ (node : Node) (step : Action Policy) (requester : Node)
      (published : Bool),
      (∀ env requestId secretsBox envReport,
        step = .response env requestId secretsBox envReport →
          ∃ sent ∈ state.sent, sent.message =
            .secretBatchResponse requestId secretsBox envReport) ∧
      (state.step action).nodes =
        (state.act node step requester published).nodes ∧
      (state.step action).sent =
        (state.act node step requester published).sent := by
  cases action with
  | getSecrets node env secretRequests callerEnvReport published =>
      exact Or.inr ⟨node, .getSecrets env secretRequests callerEnvReport, node,
        published, by simp, rfl, rfl⟩
  | deliver node env index published =>
      rw [NetworkState.step]
      cases hindex : state.sent[index]? with
      | none => exact Or.inl rfl
      | some sent =>
          refine Or.inr ⟨node, handleGossipMessage env sent.message,
            sent.requester, published, ?_, rfl, rfl⟩
          intro env' requestId secretsBox envReport hstep
          refine ⟨sent, List.mem_of_getElem? hindex, ?_⟩
          cases hmessage : sent.message with
          | secretBatchRequest =>
              rw [hmessage] at hstep
              cases hstep
          | secretBatchResponse =>
              rw [hmessage] at hstep
              cases hstep
              rfl
  | timeout node requestId =>
      exact Or.inr ⟨node, .timeout requestId, node, false, by simp, rfl, rfl⟩
  | finish node env requestId =>
      exact Or.inr ⟨node, .finish env requestId, node, false, by simp, rfl,
        rfl⟩
  | authorize node report =>
      exact Or.inr ⟨node, .authorize report, node, false, by simp, rfl, rfl⟩

theorem act_nodes_self (state : NetworkState platform Node) (node : Node)
    (action : Action Policy) (requester : Node) (published : Bool) :
    (state.act node action requester published).nodes node =
      (state.nodes node).step action := by
  simp [NetworkState.act, NodeState.step]

theorem act_nodes_of_ne (state : NetworkState platform Node)
    {node other : Node} (hother : other ≠ node) (action : Action Policy)
    (requester : Node) (published : Bool) :
    (state.act node action requester published).nodes other =
      state.nodes other := by
  simp [NetworkState.act, update_of_ne hother]

/-- What happens at one node of a network is a run of that node. -/
theorem run_node (keys : Node → KeyExchangeKeyPair platform)
    (actions : List (NetworkAction Policy Node)) (node : Node) :
    ∃ steps : List (Action Policy),
      ((NetworkState.new keys).run actions).nodes node =
        (NodeState.new (keys node)).run steps := by
  induction actions using List.reverseRecOn with
  | nil => exact ⟨[], rfl⟩
  | append_singleton actions last ih =>
      obtain ⟨steps, hsteps⟩ := ih
      rw [NetworkState.run_concat]
      rcases step_acts ((NetworkState.new keys).run actions) last with
        hsame | ⟨acting, step, requester, published, -, hnodes, -⟩
      · exact ⟨steps, by rw [hsame, hsteps]⟩
      · rw [hnodes]
        by_cases hnode : node = acting
        · subst hnode
          exact ⟨steps ++ [step],
            by rw [act_nodes_self, hsteps, NodeState.run_concat]⟩
        · exact ⟨steps, by rw [act_nodes_of_ne _ hnode, hsteps]⟩

/-! ## Whom a response answers -/

/-- The identifier of a message. -/
def requestIdOf : GossipMessage → ℕ
  | .secretBatchRequest requestId _ _ => requestId
  | .secretBatchResponse requestId _ _ => requestId

/-- Every response in flight answers a request that its requester published
under the same identifier. -/
def Tagged (state : NetworkState platform Node) : Prop :=
  ∀ sent ∈ state.sent, ∃ request ∈ state.sent,
    ∃ secretRequests envReport,
      request.message = .secretBatchRequest (requestIdOf sent.message)
        secretRequests envReport ∧
      request.publisher = sent.requester ∧ request.requester = sent.requester

theorem act_getSecrets_message {state : NodeState platform} {env : Env Policy}
    {secretRequests : Requests} {callerEnvReport : EnvReport}
    {message : GossipMessage}
    (hmessage : (state.act
      (.getSecrets env secretRequests callerEnvReport)).2 = some message) :
    ∃ requestId missing,
      message = .secretBatchRequest requestId missing callerEnvReport := by
  simp only [NodeState.act] at hmessage
  rcases getSecrets_cases state.service env state.enclave secretRequests
    callerEnvReport with
    ⟨enclave, outcome, heq, hnone⟩ |
      ⟨-, missing, entry, -, enclave, -, -, hentry, -, -, heq⟩
  · rw [heq] at hmessage
    cases outcome with
    | error e => cases hmessage
    | ok published =>
        cases published with
        | none => cases hmessage
        | some published => exact absurd rfl (hnone published)
  · rw [heq] at hmessage
    exact ⟨_, missing, (Option.some.inj hmessage).symm⟩

theorem act_handle_message {state : NodeState platform} {env : Env Policy}
    {received message : GossipMessage}
    (hmessage : (state.act (handleGossipMessage env received)).2 =
      some message) : requestIdOf message = requestIdOf received := by
  cases received with
  | secretBatchRequest requestId secretRequests envReport =>
      simp only [handleGossipMessage, NodeState.act] at hmessage
      split at hmessage
      · obtain rfl := Option.some.inj hmessage
        rfl
      · cases hmessage
  | secretBatchResponse requestId secretsBox envReport =>
      cases hmessage

/-- What a step adds to the published messages. -/
theorem act_sent (state : NetworkState platform Node) (node : Node)
    (action : Action Policy) (requester : Node) (published : Bool) :
    (state.act node action requester published).sent = state.sent ∨
    ∃ message, ((state.nodes node).act action).2 = some message ∧
      (state.act node action requester published).sent = state.sent ++ [{
        message := message, publisher := node, requester := requester }] := by
  unfold NetworkState.act
  cases hmessage : ((state.nodes node).act action).2 with
  | none => exact Or.inl (by simp [hmessage])
  | some message =>
      cases published with
      | false => exact Or.inl (by simp [hmessage])
      | true => exact Or.inr ⟨message, rfl, by simp [hmessage]⟩

omit [DecidableEq Digest] [DecidableEq Node] in
theorem Tagged.concat {state : NetworkState platform Node}
    (htagged : Tagged state) {after : NetworkState platform Node}
    {added : Sent Node} (hsent : after.sent = state.sent ++ [added])
    (hadded : ∃ request ∈ state.sent ++ [added],
      ∃ secretRequests envReport,
        request.message = .secretBatchRequest (requestIdOf added.message)
          secretRequests envReport ∧
        request.publisher = added.requester ∧
        request.requester = added.requester) : Tagged after := by
  intro sent hmem
  rw [hsent] at hmem ⊢
  rcases List.mem_append.mp hmem with hmem | hmem
  · obtain ⟨request, hrequest, hrest⟩ := htagged sent hmem
    exact ⟨request, List.mem_append_left _ hrequest, hrest⟩
  · obtain rfl := List.mem_singleton.mp hmem
    exact hadded

theorem Tagged.step {state : NetworkState platform Node}
    (htagged : Tagged state) (action : NetworkAction Policy Node) :
    Tagged (state.step action) := by
  cases action with
  | getSecrets node env secretRequests callerEnvReport published =>
      rcases act_sent state node
          (.getSecrets env secretRequests callerEnvReport) node published with
        hsame | ⟨message, hmessage, hsent⟩
      · rw [Tagged, NetworkState.step, hsame]
        exact htagged
      · obtain ⟨requestId, missing, rfl⟩ := act_getSecrets_message hmessage
        exact htagged.concat hsent
          ⟨_, by simp, missing, callerEnvReport, rfl, rfl, rfl⟩
  | deliver node env index published =>
      rw [NetworkState.step]
      cases hindex : state.sent[index]? with
      | none => exact htagged
      | some sent =>
          have hreceived := List.mem_of_getElem? hindex
          rcases act_sent state node (handleGossipMessage env sent.message)
              sent.requester published with
            hsame | ⟨message, hmessage, hsent⟩
          · simp only [Tagged, hsame]
            exact htagged
          · obtain ⟨request, hrequest, secretRequests, envReport, hid, hrest⟩ :=
              htagged sent hreceived
            rw [← act_handle_message hmessage] at hid
            exact htagged.concat hsent
              ⟨request, List.mem_append_left _ hrequest, secretRequests,
                envReport, hid, hrest⟩
  | timeout node requestId =>
      rcases act_sent state node (.timeout requestId : Action Policy) node false
        with hsame | ⟨message, hmessage, -⟩
      · rw [Tagged, NetworkState.step, hsame]
        exact htagged
      · simp only [NodeState.act] at hmessage
        split_ifs at hmessage
  | finish node env requestId =>
      rcases act_sent state node (.finish env requestId) node false with
        hsame | ⟨message, hmessage, -⟩
      · rw [Tagged, NetworkState.step, hsame]
        exact htagged
      · simp only [NodeState.act] at hmessage
        split at hmessage <;> cases hmessage
  | authorize node report =>
      rcases act_sent state node (.authorize report : Action Policy) node false
        with hsame | ⟨message, hmessage, -⟩
      · rw [Tagged, NetworkState.step, hsame]
        exact htagged
      · cases hmessage

theorem run_tagged (keys : Node → KeyExchangeKeyPair platform)
    (actions : List (NetworkAction Policy Node)) :
    Tagged ((NetworkState.new keys).run actions) := by
  induction actions using List.reverseRecOn with
  | nil =>
      intro sent hmem
      cases hmem
  | append_singleton actions last ih =>
      rw [NetworkState.run_concat]
      exact ih.step last

/-! ## Foreign responses -/

/-- A response that answers another node's request is delivered to `node`. -/
structure ForeignResponse (state : NetworkState platform Node)
    (action : NetworkAction Policy Node) (node : Node) (env : Env Policy)
    (requestId : ℕ) (secretsBox : SecretsBox) (envReport : EnvReport) :
    Prop where
  delivered : ∃ index published sent,
    action = .deliver node env index published ∧
    state.sent[index]? = some sent ∧
    sent.message = .secretBatchResponse requestId secretsBox envReport ∧
    sent.requester ≠ node

/-- The step, if it delivers a foreign response, leaves the pending requests of
the node that receives it as they were. -/
def IsolatedStep (state : NetworkState platform Node)
    (action : NetworkAction Policy Node) : Prop :=
  ∀ node env requestId secretsBox envReport,
    ForeignResponse state action node env requestId secretsBox envReport →
      ((state.step action).nodes node).service.pending =
        (state.nodes node).service.pending

/-- The step, if it delivers a foreign response, finds no request pending under
its identifier, or one for which a listed secret was not requested or has no
policy that admits the sender. -/
def TurnedDown (state : NetworkState platform Node)
    (action : NetworkAction Policy Node) : Prop :=
  ∀ node env requestId secretsBox envReport,
    ForeignResponse state action node env requestId secretsBox envReport →
      ∀ entry, (state.nodes node).service.pending requestId = some entry →
        ∃ secretId ∈ secretsBox.containedSecretIds,
          ¬ Admits env entry envReport secretId

omit [DecidableEq Node] in
/-- A response that passes the checks changes its pending request. -/
theorem response_changed {state : NodeState platform} {env : Env Policy}
    {requestId : ℕ} {secretsBox : SecretsBox} {envReport : EnvReport}
    {entry : PendingRequest}
    (hpending : state.service.pending requestId = some entry)
    (hvalid : (checkResponse env requestId entry envReport
      secretsBox.containedSecretIds state.enclave).2 = .ok true) :
    (state.step (.response env requestId secretsBox
      envReport)).service.pending ≠ state.service.pending := by
  simp only [NodeState.step, NodeState.act, handleIncomingSecretBatchResponse,
    hpending]
  cases hcheck : checkResponse env requestId entry envReport
      secretsBox.containedSecretIds state.enclave with
  | mk enclave outcome =>
      obtain rfl : outcome = .ok true := by simpa [hcheck] using hvalid
      dsimp only
      intro hsame
      by_cases hmet : entry.threshold ≤ entry.responseCount + 1
      · simp only [PendingRequest.collect, ge_iff_le, hmet, if_true,
          NodeState.handOver] at hsame
        have hvalue := congrFun hsame requestId
        rw [hpending, update_self] at hvalue
        cases hvalue
      · simp only [PendingRequest.collect, ge_iff_le, hmet, if_false,
          NodeState.handOver] at hsame
        have hvalue := congrFun hsame requestId
        rw [hpending, update_self] at hvalue
        have hcount := congrArg PendingRequest.responseCount
          (Option.some.inj hvalue)
        simp at hcount

/-- What a delivered response does to the node that receives it. -/
theorem step_deliver_response {state : NetworkState platform Node} {node : Node}
    {env : Env Policy} {index : ℕ} {published : Bool} {sent : Sent Node}
    {requestId : ℕ} {secretsBox : SecretsBox} {envReport : EnvReport}
    (hindex : state.sent[index]? = some sent)
    (hmessage : sent.message =
      .secretBatchResponse requestId secretsBox envReport) :
    (state.step (.deliver node env index published)).nodes node =
      (state.nodes node).step
        (.response env requestId secretsBox envReport) := by
  simp [NetworkState.step, hindex, NetworkState.act, hmessage,
    handleGossipMessage, NodeState.step]

/-- A step isolates exactly when it turns down. -/
theorem isolatedStep_iff (state : NetworkState platform Node)
    (action : NetworkAction Policy Node) :
    IsolatedStep state action ↔ TurnedDown state action := by
  constructor
  · intro hisolated node env requestId secretsBox envReport hforeign entry
      hpending
    by_contra hadmits
    push Not at hadmits
    have hvalid : (checkResponse env requestId entry envReport
        secretsBox.containedSecretIds (state.nodes node).enclave).2 =
          .ok true := checkResponse_ok_true_iff.mpr hadmits
    have hsame := hisolated node env requestId secretsBox envReport hforeign
    obtain ⟨index, published, sent, rfl, hindex, hmessage, -⟩ :=
      hforeign.delivered
    rw [step_deliver_response hindex hmessage] at hsame
    exact response_changed hpending hvalid hsame
  · intro hturned node env requestId secretsBox envReport hforeign
    have hrejected := hturned node env requestId secretsBox envReport hforeign
    obtain ⟨index, published, sent, rfl, hindex, hmessage, -⟩ :=
      hforeign.delivered
    rw [step_deliver_response hindex hmessage]
    refine response_unchanged _ env requestId secretsBox envReport ?_
    intro entry hpending hvalid
    obtain ⟨secretId, hmem, hdenied⟩ := hrejected entry hpending
    exact hdenied (checkResponse_ok_true_iff.mp hvalid secretId hmem)

/-- In every run of any number of nodes each response in flight answers a
request of its requester, and no response touches a request pending at another
node exactly when all that reach another node are turned down there. -/
theorem responses_isolated_iff (keys : Node → KeyExchangeKeyPair platform)
    (actions : List (NetworkAction Policy Node)) :
    Tagged ((NetworkState.new keys).run actions) ∧
    ((∀ before action after, actions = before ++ action :: after →
      IsolatedStep ((NetworkState.new keys).run before) action) ↔
    ∀ before action after, actions = before ++ action :: after →
      TurnedDown ((NetworkState.new keys).run before) action) := by
  refine ⟨run_tagged keys actions, ?_⟩
  refine forall_congr' fun before => forall_congr' fun action =>
    forall_congr' fun after => imp_congr_right fun _ => ?_
  exact isolatedStep_iff _ action

/-! ## Two requests with one identifier -/

instance neZeroNodes : NeZero 3 := ⟨Nat.succ_ne_zero 2⟩

/-- An environment at one clock reading in which policies admit everybody and
the enclave always answers. -/
def sampleEnv (own : Bytes) (now : ℕ) (secret : Byte) : Env Unit where
  debug := fun _ => "secret"
  getPolicy := fun _ => .ok ()
  execute := fun _ _ _ _ => .satisfied now
  ownEnvReport := .ok (symbolicReport (padKey own))
  now := now
  checkSecrets := { rpc := .answered, clock := .still now }
  getSecrets := { rpc := .answered, clock := .still now }
  putSecrets := { rpc := .answered, clock := .still now }
  generateSecrets := { rpc := .answered, clock := .still now }
  attestation := fun _ => .ok ()
  nonce := ⟨List.replicate 12 0, rfl⟩
  enclaveReport := .ok (symbolicReport (padKey own)).attestation
  entropy := fun _ => .ok [secret]

/-- A request for the secret of the identity 7. -/
def sampleRequests : Requests :=
  [(sampleSecretId 7,
    [{ secretId := sampleSecretId 7, consumer := sampleConsumer 0 }])]

def sampleKeys (node : Fin 3) :
    KeyExchangeKeyPair (symbolicPlatform [padKey [0], padKey [1], padKey [2]]
      [samplePayload 9 5]) :=
  symbolicKeyPair _ _ [node.castLE (by omega)]

/-- Node 2 generates the secret, nodes 0 and 1 request it, node 2 answers node
0. -/
def crossedRun : List (NetworkAction Unit (Fin 3)) :=
  [.getSecrets 2 (sampleEnv [2] 5 9) sampleRequests
      (symbolicReport (padKey [2])) true,
    .timeout 2 1, .finish 2 (sampleEnv [2] 5 9) 1,
    .getSecrets 0 (sampleEnv [0] 6 0) sampleRequests
      (symbolicReport (padKey [0])) true,
    .getSecrets 1 (sampleEnv [1] 6 1) sampleRequests
      (symbolicReport (padKey [1])) true,
    .deliver 2 (sampleEnv [2] 7 2) 1 true]

/-- The answer to node 0 takes the request out of the map of node 1. -/
theorem responses_not_isolated :
    ¬ ∀ before action after,
      crossedRun ++ [.deliver 1 (sampleEnv [1] 8 1) 3 true] =
        before ++ action :: after →
      IsolatedStep ((NetworkState.new sampleKeys).run before) action := by
  intro hisolated
  have hstep := hisolated crossedRun _ [] rfl
  have hindex : ((NetworkState.new sampleKeys).run crossedRun).sent[3]? =
      some {
        message := .secretBatchResponse 1
          (symbolicBox [2] [0] [sampleSecretId 7] 0)
          (symbolicReport (padKey [2]))
        publisher := 2
        requester := 0 } := by
    decide +kernel
  have hsame := hstep 1 _ 1 _ _
    ⟨3, true, _, rfl, hindex, rfl, by decide⟩
  have hvalue := congrArg Option.isSome (congrFun hsame 1)
  exact absurd hvalue (by decide +kernel)

end NxccBridge.Network
