import Mathlib.Data.Finset.Insert
import NxccBridge.Interface.Types

/-!
# RPC endpoints of a chain

`node/chainlist/src/bin/main.rs`, up to the results of a pass: the endpoints
that are tested, with a WebSocket twin for every HTTP one, and what each of them
answers.  The tests run at the same time, so the results come in any order.
-/

namespace NxccBridge.Chainlist

open NxccBridge.Interface

structure SourceRpc where
  url : String
  tracking : Option String

structure SourceChain where
  name : String
  chainId : UInt64
  rpc : List SourceRpc

inductive Protocol
  | https
  | wss
  deriving DecidableEq

structure RpcTask where
  url : Url
  tracking : Option String
  deriving DecidableEq

structure RpcTestResult where
  url : Url
  protocol : Protocol
  blockNumber : Option ℕ
  tracking : Option String

/-! ## Schemes -/

/-- What the generator calls of the `url` crate. -/
structure UrlCrate where
  parse : String → Option Url
  scheme : Url → String
  /-- `Url::set_scheme`, which refuses some schemes. -/
  setScheme : Url → String → Option Url

section Schemes

variable (urls : UrlCrate)

def httpToWsUrl (url : Url) : Option Url :=
  if urls.scheme url = "http" then urls.setScheme url "ws"
  else if urls.scheme url = "https" then urls.setScheme url "wss"
  else none

def protocolOf (url : Url) : Option Protocol :=
  if urls.scheme url = "https" ∨ urls.scheme url = "http" then some .https
  else if urls.scheme url = "wss" ∨ urls.scheme url = "ws" then some .wss
  else none

end Schemes

/-! ## Tasks -/

/-- A template, or a scheme other than the four. -/
def isSkipped (url : String) : Bool :=
  decide ("$\x7b".toList <:+: url.toList) ||
    !("http".toList.isPrefixOf url.toList || "ws".toList.isPrefixOf url.toList)

/-- The tasks so far, and the URLs they are for. -/
structure Prepared where
  tasks : List RpcTask
  seenUrls : Finset (UInt64 × String)

def addTaskIfNew (chainId : UInt64) (prepared : Prepared) (task : RpcTask) :
    Prepared :=
  if (chainId, task.url.serialization) ∈ prepared.seenUrls then prepared
  else {
    tasks := prepared.tasks ++ [task]
    seenUrls := insert (chainId, task.url.serialization) prepared.seenUrls }

section Prepare

variable (urls : UrlCrate)

/-- The tasks that one endpoint gives rise to. -/
def tasksOf (rpc : SourceRpc) : List RpcTask :=
  if isSkipped rpc.url then []
  else
    match urls.parse rpc.url with
    | none => []
    | some url =>
        ⟨url, rpc.tracking⟩ ::
          (httpToWsUrl urls url).toList.map fun wsUrl => ⟨wsUrl, rpc.tracking⟩

def prepareRpc (chainId : UInt64) (prepared : Prepared) (rpc : SourceRpc) :
    Prepared :=
  (tasksOf urls rpc).foldl (addTaskIfNew chainId) prepared

def prepareChain (prepared : Prepared) (chain : SourceChain) : Prepared :=
  chain.rpc.foldl (prepareRpc urls chain.chainId) prepared

def prepareRpcTasksForChain (sourceChains : List SourceChain) :
    List RpcTask :=
  (sourceChains.foldl (prepareChain urls) ⟨[], ∅⟩).tasks

/-- All the tasks that a list of chains gives rise to, those for one URL
several times. -/
def offered (sourceChains : List SourceChain) : List RpcTask :=
  sourceChains.flatMap fun chain => chain.rpc.flatMap (tasksOf urls)

end Prepare

/-- The first task for the URL of a task. -/
def firstFor (tasks : List RpcTask) (task : RpcTask) : Option RpcTask :=
  tasks.find? fun other =>
    decide (other.url.serialization = task.url.serialization)

/-- Each URL has the first of the tasks that were offered for it. -/
structure Prepared.Covers (prepared : Prepared) (chainId : UInt64)
    (tasks : List RpcTask) : Prop where
  seen : ∀ text, (chainId, text) ∈ prepared.seenUrls ↔
    ∃ task ∈ tasks, task.url.serialization = text
  mem_tasks : ∀ task,
    task ∈ prepared.tasks ↔ firstFor tasks task = some task
  distinct : (prepared.tasks.map (·.url.serialization)).Nodup

theorem Prepared.covers_nil (chainId : UInt64) :
    Prepared.Covers ⟨[], ∅⟩ chainId [] where
  seen := by simp
  mem_tasks := by simp [firstFor]
  distinct := List.nodup_nil

namespace Prepared.Covers

variable {prepared : Prepared} {chainId : UInt64} {tasks : List RpcTask}

theorem mem_of_mem_tasks (hcovers : prepared.Covers chainId tasks)
    {task : RpcTask} (htask : task ∈ prepared.tasks) : task ∈ tasks :=
  List.mem_of_find?_eq_some ((hcovers.mem_tasks task).mp htask)

theorem addTaskIfNew (hcovers : prepared.Covers chainId tasks)
    (task : RpcTask) :
    (Chainlist.addTaskIfNew chainId prepared task).Covers chainId
      (tasks ++ [task]) := by
  by_cases hseen : (chainId, task.url.serialization) ∈ prepared.seenUrls
  · rw [Chainlist.addTaskIfNew, if_pos hseen]
    have hearlier := (hcovers.seen _).mp hseen
    constructor
    · intro text
      rw [hcovers.seen text]
      constructor
      · intro ⟨other, hmem, htext⟩
        exact ⟨other, List.mem_append_left _ hmem, htext⟩
      · intro ⟨other, hmem, htext⟩
        cases List.mem_append.mp hmem with
        | inl hmem => exact ⟨other, hmem, htext⟩
        | inr hmem =>
            rw [List.mem_singleton.mp hmem] at htext
            exact htext ▸ hearlier
    · intro other
      rw [hcovers.mem_tasks other, firstFor, firstFor, List.find?_append]
      cases hfind : tasks.find? (fun item =>
          decide (item.url.serialization = other.url.serialization)) with
      | some first => simp
      | none =>
          have hnone := List.find?_eq_none.mp hfind
          obtain ⟨first, hmem, htext⟩ := hearlier
          have hdiffer : task.url.serialization ≠ other.url.serialization := by
            intro heq
            exact hnone first hmem (by simp [htext, heq])
          simp [hdiffer]
    · exact hcovers.distinct
  · rw [Chainlist.addTaskIfNew, if_neg hseen]
    have hnew : ∀ other ∈ tasks,
        other.url.serialization ≠ task.url.serialization := by
      intro other hmem htext
      exact hseen ((hcovers.seen _).mpr ⟨other, hmem, htext⟩)
    constructor
    · intro text
      simp only [Finset.mem_insert, Prod.mk.injEq, true_and, hcovers.seen text,
        List.mem_append, List.mem_singleton]
      constructor
      · intro hor
        cases hor with
        | inl htext => exact ⟨task, Or.inr rfl, htext.symm⟩
        | inr hold =>
            obtain ⟨other, hmem, htext⟩ := hold
            exact ⟨other, Or.inl hmem, htext⟩
      · intro ⟨other, hmem, htext⟩
        cases hmem with
        | inl hmem => exact Or.inr ⟨other, hmem, htext⟩
        | inr heq =>
            rw [heq] at htext
            exact Or.inl htext.symm
    · intro other
      rw [List.mem_append, List.mem_singleton, hcovers.mem_tasks other,
        firstFor, firstFor, List.find?_append]
      cases hfind : tasks.find? (fun item =>
          decide (item.url.serialization = other.url.serialization)) with
      | some first =>
          have hmem := List.mem_of_find?_eq_some hfind
          have htext : first.url.serialization = other.url.serialization := by
            simpa using List.find?_some hfind
          have hother : other ≠ task := by
            intro heq
            exact hnew first hmem (heq ▸ htext)
          simp [hother]
      | none =>
          by_cases heq : other = task
          · simp [heq]
          · have hne : task ≠ other := fun h => heq h.symm
            simp [heq, hne]
    · rw [List.map_append, List.nodup_append]
      have htexts : ∀ text ∈ prepared.tasks.map (·.url.serialization),
          text ≠ task.url.serialization := by
        intro text hmem
        obtain ⟨other, hother, htext⟩ := List.mem_map.mp hmem
        rw [← htext]
        exact hnew other (hcovers.mem_of_mem_tasks hother)
      exact ⟨hcovers.distinct, List.nodup_singleton _, by simpa using htexts⟩

theorem foldl_addTaskIfNew (hcovers : prepared.Covers chainId tasks)
    (more : List RpcTask) :
    (more.foldl (Chainlist.addTaskIfNew chainId) prepared).Covers chainId
      (tasks ++ more) := by
  induction more generalizing prepared tasks with
  | nil => simpa using hcovers
  | cons task more ih =>
      have hnext := ih (hcovers.addTaskIfNew task)
      rwa [List.append_assoc] at hnext

end Prepared.Covers

section Offered

variable {urls : UrlCrate} {chainId : UInt64}

theorem prepareChain_eq (prepared : Prepared) (chain : SourceChain) :
    prepareChain urls prepared chain =
      (chain.rpc.flatMap (tasksOf urls)).foldl
        (addTaskIfNew chain.chainId) prepared := by
  rw [prepareChain]
  induction chain.rpc generalizing prepared with
  | nil => rfl
  | cons rpc rest ih =>
      rw [List.foldl_cons, ih, List.flatMap_cons, List.foldl_append]
      rfl

theorem covers_offered {sourceChains : List SourceChain}
    (hchain : ∀ chain ∈ sourceChains, chain.chainId = chainId) :
    (sourceChains.foldl (prepareChain urls) ⟨[], ∅⟩).Covers chainId
      (offered urls sourceChains) := by
  have hfold : ∀ (chains : List SourceChain) (prepared : Prepared)
      (tasks : List RpcTask), (∀ chain ∈ chains, chain.chainId = chainId) →
      prepared.Covers chainId tasks →
      (chains.foldl (prepareChain urls) prepared).Covers chainId
        (tasks ++ offered urls chains) := by
    intro chains
    induction chains with
    | nil =>
        intro prepared tasks _ hcovers
        simpa [offered] using hcovers
    | cons chain chains ih =>
        intro prepared tasks hchains hcovers
        have hfirst := hcovers.foldl_addTaskIfNew
          (chain.rpc.flatMap (tasksOf urls))
        rw [← hchains chain List.mem_cons_self, ← prepareChain_eq,
          hchains chain List.mem_cons_self] at hfirst
        have hrest := ih _ _
          (fun other hmem => hchains other (List.mem_cons_of_mem _ hmem)) hfirst
        rwa [List.append_assoc] at hrest
  exact hfold sourceChains _ [] hchain (Prepared.covers_nil chainId)

/-- Every URL is tested once. -/
theorem nodup_prepareRpcTasksForChain {sourceChains : List SourceChain}
    (hchain : ∀ chain ∈ sourceChains, chain.chainId = chainId) :
    ((prepareRpcTasksForChain urls sourceChains).map
      (·.url.serialization)).Nodup :=
  (covers_offered hchain).distinct

/-- A task is the first that was offered for its URL. -/
theorem mem_prepareRpcTasksForChain_iff {sourceChains : List SourceChain}
    (hchain : ∀ chain ∈ sourceChains, chain.chainId = chainId)
    (task : RpcTask) :
    task ∈ prepareRpcTasksForChain urls sourceChains ↔
      firstFor (offered urls sourceChains) task = some task :=
  (covers_offered hchain).mem_tasks task

end Offered

/-! ## Tests -/

/-- What the endpoints answer within the time limit, and in which order the
tests are completed. -/
structure Network where
  getBlockNumber : Url → Except String ℕ
  completion : List RpcTask → List RpcTask
  completion_perm : ∀ tasks, (completion tasks).Perm tasks

/-- The rate limit of a live endpoint.  No letter beyond ASCII has a lower case
that occurs in these texts. -/
def isRateLimit (error : String) : Bool :=
  let lower := error.toList.map Char.toLower
  decide ("429".toList <:+: lower) ||
    decide ("too many requests".toList <:+: lower)

section Tests

variable (urls : UrlCrate)

def testRpc (network : Network) (url : Url) : Except String ℕ :=
  let result :=
    match protocolOf urls url with
    | some _ => network.getBlockNumber url
    | none => .error s!"Unsupported scheme: {urls.scheme url}"
  match result with
  | .ok blockNumber => .ok blockNumber
  | .error error => if isRateLimit error then .ok 1 else .error error

/-- One test; an endpoint of another scheme leaves no result. -/
def runTest (network : Network) (task : RpcTask) : Option RpcTestResult :=
  (protocolOf urls task.url).map fun protocol =>
    { url := task.url
      protocol := protocol
      blockNumber := (testRpc urls network task.url).toOption
      tracking := task.tracking }

def executeRpcTests (network : Network) (tasks : List RpcTask) :
    List RpcTestResult :=
  (network.completion tasks).filterMap (runTest urls network)

/-- The endpoint of a task answers with a block number. -/
structure Answers (network : Network) (task : RpcTask) (protocol : Protocol)
    (blockNumber : ℕ) : Prop where
  protocol_eq : protocolOf urls task.url = some protocol
  block_eq : testRpc urls network task.url = .ok blockNumber

end Tests

theorem mem_executeRpcTests_iff {urls : UrlCrate} {network : Network}
    {tasks : List RpcTask} {result : RpcTestResult} :
    result ∈ executeRpcTests urls network tasks ↔
      ∃ task ∈ tasks, runTest urls network task = some result := by
  rw [executeRpcTests, List.mem_filterMap]
  constructor
  · intro ⟨task, hmem, hrun⟩
    exact ⟨task, (network.completion_perm tasks).mem_iff.mp hmem, hrun⟩
  · intro ⟨task, hmem, hrun⟩
    exact ⟨task, (network.completion_perm tasks).mem_iff.mpr hmem, hrun⟩

end NxccBridge.Chainlist
