import Mathlib.Data.String.Basic
import NxccBridge.Chainlist.BlockTime

/-!
# Curation of endpoints

`process_single_chain_results` of `node/chainlist/src/bin/main.rs`: endpoints
are scored by how far they are behind the others and by their tracking, and
written down from the best to the worst.
-/

namespace NxccBridge.Chainlist

open NxccBridge.Interface

variable {Variance : Type*}

structure RpcEndpoints where
  https : List String
  wss : List String
  deriving DecidableEq

def RpcEndpoints.default : RpcEndpoints := ⟨[], []⟩

structure GeneratedChain (Variance : Type*) where
  name : String
  chainId : UInt64
  rpcs : RpcEndpoints
  averageBlockTimeMs : Option ℕ
  blockTimeVarianceMs : Option Variance
  lastUpdated : ℕ

/-- The scores are small whole numbers, which a `f64` holds exactly. -/
structure ScoredRpc where
  url : String
  protocol : Protocol
  score : ℕ
  deriving DecidableEq

def privacyScore : Option String → ℕ
  | none => 1
  | some tracking =>
      if tracking = "none" then 3
      else if tracking = "limited" then 2
      else if tracking = "unspecified" then 1
      else 0

def upToDateScore (maxBlock blockNumber : ℕ) : ℕ :=
  if maxBlock - 5 ≤ blockNumber then 1000 else 0

def scoreRpc (maxBlock : ℕ) (rpc : RpcTestResult × ℕ) : ScoredRpc where
  url := rpc.1.url.serialization
  protocol := rpc.1.protocol
  score := upToDateScore maxBlock rpc.2 + privacyScore rpc.1.tracking

/-- The order of the list: by falling score, then by the text of the URL. -/
def notAfter (a b : ScoredRpc) : Bool :=
  decide (b.score < a.score) ||
    (decide (b.score = a.score) && decide (a.url ≤ b.url))

def pushRpc (rpcs : RpcEndpoints) (rpc : ScoredRpc) : RpcEndpoints :=
  match rpc.protocol with
  | .https => { rpcs with https := rpcs.https ++ [rpc.url] }
  | .wss => { rpcs with wss := rpcs.wss ++ [rpc.url] }

def successfulResults (results : List RpcTestResult) :
    List (RpcTestResult × ℕ) :=
  results.filterMap fun result =>
    result.blockNumber.map fun blockNumber => (result, blockNumber)

def processSingleChainResults (floats : List ℕ → ℕ → ℕ × Variance)
    (connections : Connections) (chainId : UInt64) (name : String)
    (results : List RpcTestResult) (now : ℕ) :
    Option (GeneratedChain Variance) :=
  let successful := successfulResults results
  match (successful.map (·.2)).max? with
  | none => none
  | some maxBlock =>
      let stats :=
        calculateBlockTimeStatsForChain floats connections successful
      let scoredRpcs := (successful.map (scoreRpc maxBlock)).filter
        fun rpc => decide (0 < rpc.score)
      if scoredRpcs = [] then none
      else some {
        name := name
        chainId := chainId
        rpcs := (scoredRpcs.mergeSort notAfter).foldl pushRpc .default
        averageBlockTimeMs := stats.map (·.1)
        blockTimeVarianceMs := stats.map (·.2)
        lastUpdated := now }

theorem chainId_processSingleChainResults
    {floats : List ℕ → ℕ → ℕ × Variance} {connections : Connections}
    {chainId : UInt64} {name : String} {results : List RpcTestResult} {now : ℕ}
    {chain : GeneratedChain Variance}
    (hchain : processSingleChainResults floats connections chainId name results
      now = some chain) : chain.chainId = chainId := by
  rw [processSingleChainResults] at hchain
  dsimp only at hchain
  split at hchain
  · cases hchain
  · split at hchain
    · cases hchain
    · cases hchain
      rfl

/-! ## The order -/

/-- `a` stands before `b` in the list. -/
def Before (a b : ScoredRpc) : Prop :=
  b.score < a.score ∨ b.score = a.score ∧ a.url < b.url

theorem notAfter_iff (a b : ScoredRpc) :
    notAfter a b = true ↔
      b.score < a.score ∨ b.score = a.score ∧ a.url ≤ b.url := by
  simp [notAfter]

theorem notAfter_trans (a b c : ScoredRpc) (hab : notAfter a b = true)
    (hbc : notAfter b c = true) : notAfter a c = true := by
  rw [notAfter_iff] at hab hbc ⊢
  cases hab with
  | inl hab =>
      left
      cases hbc with
      | inl hbc => exact hbc.trans hab
      | inr hbc => exact hbc.1.trans_lt hab
  | inr hab =>
      cases hbc with
      | inl hbc => exact Or.inl (hbc.trans_eq hab.1)
      | inr hbc => exact Or.inr ⟨hbc.1.trans hab.1, hab.2.trans hbc.2⟩

theorem notAfter_total (a b : ScoredRpc) :
    (notAfter a b || notAfter b a) = true := by
  rw [Bool.or_eq_true, notAfter_iff, notAfter_iff]
  have hscores := Nat.lt_trichotomy a.score b.score
  have hurls := le_total a.url b.url
  grind

theorem before_of_notAfter {a b : ScoredRpc} (hab : notAfter a b = true)
    (hurl : a.url ≠ b.url) : Before a b := by
  cases (notAfter_iff a b).mp hab with
  | inl hscore => exact Or.inl hscore
  | inr htie => exact Or.inr ⟨htie.1, lt_of_le_of_ne htie.2 hurl⟩

theorem before_asymm {a b : ScoredRpc} (hab : Before a b) : ¬Before b a := by
  intro hba
  cases hab with
  | inl hab =>
      cases hba with
      | inl hba => omega
      | inr hba => omega
  | inr hab =>
      cases hba with
      | inl hba => omega
      | inr hba => exact lt_asymm hab.2 hba.2

theorem foldl_pushRpc (ranked : List ScoredRpc) (rpcs : RpcEndpoints) :
    ranked.foldl pushRpc rpcs = {
      https := rpcs.https ++
        (ranked.filter (·.protocol = .https)).map ScoredRpc.url
      wss := rpcs.wss ++
        (ranked.filter (·.protocol = .wss)).map ScoredRpc.url } := by
  induction ranked generalizing rpcs with
  | nil => simp
  | cons rpc ranked ih =>
      rw [List.foldl_cons, ih]
      cases hprotocol : rpc.protocol with
      | https => simp [pushRpc, hprotocol]
      | wss => simp [pushRpc, hprotocol]

/-! ## What is written down -/

section Spec

variable (urls : UrlCrate) (network : Network) (tested : Set RpcTask)

/-- No other endpoint is more than five blocks ahead. -/
def UpToDate (blockNumber : ℕ) : Prop :=
  ∀ task ∈ tested, ∀ protocol other,
    Answers urls network task protocol other → other ≤ blockNumber + 5

open Classical in
/-- The score of the endpoint of a task, if it is not zero. -/
def Earns (task : RpcTask) (rpc : ScoredRpc) : Prop :=
  ∃ blockNumber, Answers urls network task rpc.protocol blockNumber ∧
    rpc.url = task.url.serialization ∧
    rpc.score = (if UpToDate urls network tested blockNumber then 1000 else 0) +
      privacyScore task.tracking ∧
    0 < rpc.score

/-- The lists hold the endpoints that earned a score, in the order of their
scores. -/
structure Curated (ranked : List ScoredRpc) (rpcs : RpcEndpoints) : Prop where
  ordered : ranked.Pairwise Before
  mem_iff : ∀ rpc,
    rpc ∈ ranked ↔ ∃ task ∈ tested, Earns urls network tested task rpc
  rpcs_eq : rpcs = {
    https := (ranked.filter (·.protocol = .https)).map ScoredRpc.url
    wss := (ranked.filter (·.protocol = .wss)).map ScoredRpc.url }

variable {urls network tested}

/-- The first endpoint of a list stands before all the others. -/
theorem Curated.head_wss {ranked : List ScoredRpc} {rpcs : RpcEndpoints}
    (hcurated : Curated urls network tested ranked rpcs) {url : String}
    (hhead : rpcs.wss.head? = some url) :
    ∃ best ∈ ranked, best.protocol = .wss ∧ best.url = url ∧
      ∀ other ∈ ranked, other.protocol = .wss →
        other = best ∨ Before best other := by
  rw [hcurated.rpcs_eq, List.head?_map, Option.map_eq_some_iff] at hhead
  obtain ⟨best, hbest, hurl⟩ := hhead
  have hordered := hcurated.ordered.filter (·.protocol = .wss)
  obtain ⟨rest, hranked⟩ := List.head?_eq_some_iff.mp hbest
  have hmem : ∀ other, other ∈ best :: rest ↔
      other ∈ ranked ∧ other.protocol = .wss := by
    intro other
    rw [← hranked, List.mem_filter, decide_eq_true_eq]
  rw [hranked, List.pairwise_cons] at hordered
  have hfirst := (hmem best).mp List.mem_cons_self
  refine ⟨best, hfirst.1, hfirst.2, hurl, ?_⟩
  intro other hother hprotocol
  cases (hmem other).mpr ⟨hother, hprotocol⟩ with
  | head => exact Or.inl rfl
  | tail _ hrest => exact Or.inr (hordered.1 other hrest)

/-- There is one such list. -/
theorem Curated.unique {left right : List ScoredRpc} {a b : RpcEndpoints}
    (hleft : Curated urls network tested left a)
    (hright : Curated urls network tested right b) : a = b := by
  have hnodup : ∀ {ranked : List ScoredRpc}, ranked.Pairwise Before →
      ranked.Nodup := by
    intro ranked hordered
    apply hordered.imp
    intro rpc other hbefore heq
    exact before_asymm hbefore (heq ▸ hbefore)
  have hperm : left.Perm right := by
    rw [List.perm_ext_iff_of_nodup (hnodup hleft.ordered)
      (hnodup hright.ordered)]
    intro rpc
    rw [hleft.mem_iff, hright.mem_iff]
  have heq : left = right := by
    apply List.Perm.eq_of_pairwise _ hleft.ordered hright.ordered hperm
    intro rpc other _ _ hbefore hafter
    exact absurd hafter (before_asymm hbefore)
  rw [hleft.rpcs_eq, hright.rpcs_eq, heq]

end Spec

/-! ## The pass over a chain -/

section Pass

variable {urls : UrlCrate} {network : Network} {tasks : List RpcTask}

theorem mem_successfulResults_iff {rpc : RpcTestResult × ℕ} :
    rpc ∈ successfulResults (executeRpcTests urls network tasks) ↔
      ∃ task ∈ tasks, ∃ protocol blockNumber,
        Answers urls network task protocol blockNumber ∧
        rpc = (⟨task.url, protocol, some blockNumber, task.tracking⟩,
          blockNumber) := by
  simp only [successfulResults, List.mem_filterMap, mem_executeRpcTests_iff,
    Option.map_eq_some_iff]
  constructor
  · intro ⟨result, ⟨task, hmem, hrun⟩, blockNumber, hblock, hrpc⟩
    obtain ⟨protocol, hprotocol, hresult⟩ := Option.map_eq_some_iff.mp hrun
    subst hresult
    have hanswer : testRpc urls network task.url = .ok blockNumber := by
      cases htest : testRpc urls network task.url with
      | error error => simp [htest, Except.toOption] at hblock
      | ok value => simpa [htest, Except.toOption] using hblock
    refine ⟨task, hmem, protocol, blockNumber, ⟨hprotocol, hanswer⟩, ?_⟩
    simp [← hrpc, hanswer, Except.toOption]
  · intro ⟨task, hmem, protocol, blockNumber, hanswers, hrpc⟩
    refine ⟨_, ⟨task, hmem, ?_⟩, blockNumber, ?_, hrpc.symm⟩
    · simp [runTest, hanswers.protocol_eq, hanswers.block_eq, Except.toOption]
    · rfl

theorem pairwise_successfulResults
    (hdistinct : (tasks.map (·.url.serialization)).Nodup) :
    (successfulResults (executeRpcTests urls network tasks)).Pairwise
      fun a b => a.1.url.serialization ≠ b.1.url.serialization := by
  have htasks : (network.completion tasks).Pairwise fun a b =>
      a.url.serialization ≠ b.url.serialization := by
    apply ((network.completion_perm tasks).pairwise_iff Ne.symm).mpr
    exact List.pairwise_map.mp hdistinct
  rw [successfulResults, List.pairwise_filterMap, executeRpcTests,
    List.pairwise_filterMap]
  apply htasks.imp
  intro a b hne resultA hresultA resultB hresultB rpcA hrpcA rpcB hrpcB
  obtain ⟨_, _, rfl⟩ := Option.map_eq_some_iff.mp hresultA
  obtain ⟨_, _, rfl⟩ := Option.map_eq_some_iff.mp hresultB
  obtain ⟨_, _, rfl⟩ := Option.map_eq_some_iff.mp hrpcA
  obtain ⟨_, _, rfl⟩ := Option.map_eq_some_iff.mp hrpcB
  exact hne

variable {tested : Set RpcTask} {maxBlock : ℕ}

theorem upToDate_iff (htested : ∀ task, task ∈ tasks ↔ task ∈ tested)
    (hmax : ((successfulResults (executeRpcTests urls network tasks)).map
      (·.2)).max? = some maxBlock) (blockNumber : ℕ) :
    UpToDate urls network tested blockNumber ↔ maxBlock - 5 ≤ blockNumber := by
  rw [List.max?_eq_some_iff] at hmax
  constructor
  · intro hfresh
    obtain ⟨rpc, hrpc, heq⟩ := List.mem_map.mp hmax.1
    obtain ⟨task, hmem, protocol, other, hanswers, rfl⟩ :=
      mem_successfulResults_iff.mp hrpc
    have hle := hfresh task ((htested task).mp hmem) protocol other hanswers
    have heq : other = maxBlock := heq
    omega
  · intro hle task hmem protocol other hanswers
    have hrpc := mem_successfulResults_iff.mpr
      ⟨task, (htested task).mpr hmem, protocol, other, hanswers, rfl⟩
    have hother := hmax.2 other (List.mem_map.mpr ⟨_, hrpc, rfl⟩)
    omega

theorem mem_scoredRpcs_iff (htested : ∀ task, task ∈ tasks ↔ task ∈ tested)
    (hmax : ((successfulResults (executeRpcTests urls network tasks)).map
      (·.2)).max? = some maxBlock) (rpc : ScoredRpc) :
    rpc ∈ ((successfulResults (executeRpcTests urls network tasks)).map
        (scoreRpc maxBlock)).filter (fun rpc => decide (0 < rpc.score)) ↔
      ∃ task ∈ tested, Earns urls network tested task rpc := by
  simp only [List.mem_filter, List.mem_map, mem_successfulResults_iff,
    decide_eq_true_eq, Earns, upToDate_iff htested hmax]
  constructor
  · intro ⟨⟨_, ⟨task, hmem, protocol, blockNumber, hanswers, rfl⟩, heq⟩, hpos⟩
    subst heq
    exact ⟨task, (htested task).mp hmem, blockNumber, hanswers, rfl, rfl, hpos⟩
  · intro ⟨task, hmem, blockNumber, hanswers, hurl, hscore, hpos⟩
    refine ⟨⟨_, ⟨task, (htested task).mpr hmem, _, blockNumber, hanswers, rfl⟩,
      ?_⟩, hpos⟩
    cases rpc with
    | mk url protocol score =>
        cases hurl
        cases hscore
        rfl

theorem le_score_of_max (htested : ∀ task, task ∈ tasks ↔ task ∈ tested)
    (hmax : ((successfulResults (executeRpcTests urls network tasks)).map
      (·.2)).max? = some maxBlock) :
    ∃ task ∈ tested, ∃ protocol blockNumber,
      Answers urls network task protocol blockNumber ∧
      Earns urls network tested task ⟨task.url.serialization, protocol,
        1000 + privacyScore task.tracking⟩ := by
  obtain ⟨rpc, hrpc, hblock⟩ :=
    List.mem_map.mp (List.max?_eq_some_iff.mp hmax).1
  obtain ⟨task, hmem, protocol, blockNumber, hanswers, rfl⟩ :=
    mem_successfulResults_iff.mp hrpc
  have hfresh : UpToDate urls network tested blockNumber := by
    rw [upToDate_iff htested hmax, ← hblock]
    exact Nat.sub_le _ _
  refine ⟨task, (htested task).mp hmem, protocol, blockNumber, hanswers,
    blockNumber, hanswers, rfl, ?_, ?_⟩
  · simp [hfresh]
  · exact Nat.lt_of_lt_of_le (by decide) (Nat.le_add_right 1000 _)

theorem curated_mergeSort (htested : ∀ task, task ∈ tasks ↔ task ∈ tested)
    (hdistinct : (tasks.map (·.url.serialization)).Nodup)
    (hmax : ((successfulResults (executeRpcTests urls network tasks)).map
      (·.2)).max? = some maxBlock) :
    let scoredRpcs :=
      ((successfulResults (executeRpcTests urls network tasks)).map
        (scoreRpc maxBlock)).filter fun rpc => decide (0 < rpc.score)
    Curated urls network tested (scoredRpcs.mergeSort notAfter)
      ((scoredRpcs.mergeSort notAfter).foldl pushRpc .default) := by
  intro scoredRpcs
  have hperm := List.mergeSort_perm scoredRpcs notAfter
  constructor
  · have hurls : scoredRpcs.Pairwise fun a b => a.url ≠ b.url := by
      apply List.Pairwise.filter
      rw [List.pairwise_map]
      exact pairwise_successfulResults hdistinct
    have hsorted := List.pairwise_mergeSort notAfter_trans notAfter_total
      scoredRpcs
    have hsortedUrls := (hperm.pairwise_iff Ne.symm).mpr hurls
    exact (hsorted.and hsortedUrls).imp fun hboth =>
      before_of_notAfter hboth.1 hboth.2
  · intro rpc
    rw [hperm.mem_iff]
    exact mem_scoredRpcs_iff htested hmax rpc
  · rw [foldl_pushRpc]
    rfl

variable (urls network) in
/-- A list comes out as soon as one endpoint answers, and it is the curated
one. -/
theorem processSingleChainResults_rpcs
    (floats : List ℕ → ℕ → ℕ × Variance) (connections : Connections)
    (chainId : UInt64) (name : String) (now : ℕ)
    (htested : ∀ task, task ∈ tasks ↔ task ∈ tested)
    (hdistinct : (tasks.map (·.url.serialization)).Nodup) :
    match processSingleChainResults floats connections chainId name
        (executeRpcTests urls network tasks) now with
    | none => ∀ task ∈ tested, ∀ protocol blockNumber,
        ¬Answers urls network task protocol blockNumber
    | some chain =>
        (∃ task ∈ tested, ∃ protocol blockNumber,
          Answers urls network task protocol blockNumber) ∧
        ∃ ranked, Curated urls network tested ranked chain.rpcs := by
  rw [processSingleChainResults]
  cases hmax : ((successfulResults (executeRpcTests urls network tasks)).map
      (·.2)).max? with
  | none =>
      intro task hmem protocol blockNumber hanswers
      rw [List.max?_eq_none_iff, List.map_eq_nil_iff] at hmax
      have hrpc := mem_successfulResults_iff.mpr
        ⟨task, (htested task).mpr hmem, protocol, blockNumber, hanswers, rfl⟩
      rw [hmax] at hrpc
      cases hrpc
  | some maxBlock =>
      obtain ⟨task, hmem, protocol, blockNumber, hanswers, hearns⟩ :=
        le_score_of_max htested hmax
      have hscored := (mem_scoredRpcs_iff htested hmax _).mpr
        ⟨task, hmem, hearns⟩
      simp only [List.ne_nil_of_mem hscored, if_false]
      exact ⟨⟨task, hmem, protocol, blockNumber, hanswers⟩,
        _, curated_mergeSort htested hdistinct hmax⟩

end Pass

/-! ## The endpoints of a chain -/

section Chain

variable (urls : UrlCrate)

/-- The entries for a chain; a list may have several. -/
def sourcesFor (chainId : UInt64) (sourceChains : List SourceChain) :
    List SourceChain :=
  sourceChains.filter fun chain => decide (chain.chainId = chainId)

def chainTasks (chainId : UInt64) (sourceChains : List SourceChain) :
    List RpcTask :=
  prepareRpcTasksForChain urls (sourcesFor chainId sourceChains)

/-- For each URL the first task that the entries of the chain give rise to. -/
def testedTasks (chainId : UInt64) (sourceChains : List SourceChain) :
    Set RpcTask :=
  {task |
    firstFor (offered urls (sourcesFor chainId sourceChains)) task =
      some task}

variable (chainId : UInt64) (sourceChains : List SourceChain)

theorem mem_chainTasks_iff (task : RpcTask) :
    task ∈ chainTasks urls chainId sourceChains ↔
      task ∈ testedTasks urls chainId sourceChains := by
  apply mem_prepareRpcTasksForChain_iff
  intro chain hchain
  simpa using (List.mem_filter.mp hchain).2

theorem nodup_chainTasks :
    ((chainTasks urls chainId sourceChains).map
      (·.url.serialization)).Nodup := by
  apply nodup_prepareRpcTasksForChain
  intro chain hchain
  simpa using (List.mem_filter.mp hchain).2

end Chain

/-- The lists of a chain are the curated ones, in whatever order the tests are
completed; there are none when no endpoint answers: of those that do, one at the highest
block has a score. -/
theorem chain_rpcs_eq_iff (urls : UrlCrate)
    (floats : List ℕ → ℕ → ℕ × Variance) (connections : Connections)
    (network : Network) (chainId : UInt64) (name : String)
    (sourceChains : List SourceChain) (now : ℕ) (rpcs : RpcEndpoints) :
    (processSingleChainResults floats connections chainId name
        (executeRpcTests urls network (chainTasks urls chainId sourceChains))
        now).map GeneratedChain.rpcs = some rpcs ↔
      (∃ task ∈ testedTasks urls chainId sourceChains,
        ∃ protocol blockNumber,
          Answers urls network task protocol blockNumber) ∧
      ∃ ranked, Curated urls network (testedTasks urls chainId sourceChains)
        ranked rpcs := by
  have hspec := processSingleChainResults_rpcs urls network floats connections
    chainId name now (mem_chainTasks_iff urls chainId sourceChains)
    (nodup_chainTasks urls chainId sourceChains)
  cases hchain : processSingleChainResults floats connections chainId name
      (executeRpcTests urls network (chainTasks urls chainId sourceChains))
      now with
  | none =>
      rw [hchain] at hspec
      constructor
      · intro heq
        cases heq
      · intro ⟨⟨task, hmem, protocol, blockNumber, hanswers⟩, _⟩
        exact absurd hanswers (hspec task hmem protocol blockNumber)
  | some chain =>
      rw [hchain] at hspec
      obtain ⟨hanswers, ranked, hcurated⟩ := hspec
      rw [Option.map_some, Option.some.injEq]
      constructor
      · intro heq
        subst heq
        exact ⟨hanswers, ranked, hcurated⟩
      · intro ⟨_, other, hother⟩
        exact hcurated.unique hother

end NxccBridge.Chainlist
