import NxccBridge.Chainlist.Endpoints
import NxccBridge.Core.Sorted

/-!
# Block times

`node/chainlist/src/bin/main.rs`: the time between the blocks of a chain, from
the timestamps of its last blocks, which are fetched at the same time and may
be missing.  What the floating-point arithmetic makes of the differences is a
parameter.
-/

namespace NxccBridge.Chainlist

open NxccBridge.Interface
open NxccBridge.Sorted

variable {Variance : Type*}

def blockTimeSampleSize : ℕ := 20

/-- What a connected endpoint answers, and in which order the fetches of blocks
are completed. -/
structure Provider where
  getBlockNumber : Except String ℕ
  timestamp : ℕ → Option UInt64
  arrival : List ℕ → List ℕ
  arrival_perm : ∀ numbers, (arrival numbers).Perm numbers

def blockNumbersToFetch (latestBlockNumber : ℕ) : List ℕ :=
  (List.range (blockTimeSampleSize + 1)).map fun index =>
    latestBlockNumber - blockTimeSampleSize + index

/-- The timestamps as they arrive. -/
def Provider.timestamps (provider : Provider) (latestBlockNumber : ℕ) :
    List ℕ :=
  ((provider.arrival (blockNumbersToFetch latestBlockNumber)).filterMap
    provider.timestamp).map UInt64.toNat

def deltasOf (sortedTimestamps : List ℕ) : List ℕ :=
  ((sortedTimestamps.zip sortedTimestamps.tail).map fun window =>
    window.2 - window.1).filter fun delta => decide (0 < delta)

/-- `floats` is given the deltas and their 64-bit sum. -/
def calculateBlockTimeStats (floats : List ℕ → ℕ → ℕ × Variance)
    (provider : Provider) : Except String (ℕ × Variance) :=
  match provider.getBlockNumber with
  | .error error => .error error
  | .ok latestBlockNumber =>
      if latestBlockNumber < blockTimeSampleSize then
        .error ("Not enough blocks to sample (height: " ++
          toString latestBlockNumber ++ ", sample: " ++
          toString blockTimeSampleSize ++ ")")
      else
        let sortedTimestamps := sort (provider.timestamps latestBlockNumber)
        if sortedTimestamps.length < 2 then
          .error ("Could not retrieve enough block timestamps (got " ++
            toString sortedTimestamps.length ++ ")")
        else
          let deltas := deltasOf sortedTimestamps
          if deltas = [] then .error "Could not calculate any valid time deltas"
          else .ok (floats deltas (deltas.sum % 2 ^ 64))

/-- The timestamps in the order of the blocks. -/
def Provider.sampled (provider : Provider) (latestBlockNumber : ℕ) : List ℕ :=
  ((blockNumbersToFetch latestBlockNumber).filterMap
    provider.timestamp).map UInt64.toNat

theorem timestamps_perm (provider : Provider) (latestBlockNumber : ℕ) :
    (provider.timestamps latestBlockNumber).Perm
      (provider.sampled latestBlockNumber) := by
  apply List.Perm.map
  apply List.Perm.filterMap
  exact provider.arrival_perm _

theorem lt_of_mem_sampled {provider : Provider} {latestBlockNumber stamp : ℕ}
    (hmem : stamp ∈ provider.sampled latestBlockNumber) : stamp < 2 ^ 64 := by
  obtain ⟨timestamp, _, rfl⟩ := List.mem_map.mp hmem
  exact timestamp.toNat_lt

theorem calculateBlockTimeStats_eq (floats : List ℕ → ℕ → ℕ × Variance)
    {provider : Provider} {latestBlockNumber : ℕ}
    (hlatest : provider.getBlockNumber = .ok latestBlockNumber)
    (stats : ℕ × Variance) :
    calculateBlockTimeStats floats provider = .ok stats ↔
      blockTimeSampleSize ≤ latestBlockNumber ∧
      gaps (sort (provider.sampled latestBlockNumber)) ≠ [] ∧
      floats (gaps (sort (provider.sampled latestBlockNumber)))
        ((gaps (sort (provider.sampled latestBlockNumber))).sum % 2 ^ 64) =
          stats := by
  have hsort := sort_eq_of_perm (timestamps_perm provider latestBlockNumber)
  simp only [calculateBlockTimeStats, hlatest, hsort, deltasOf,
    ← gaps_eq_windows]
  by_cases hheight : latestBlockNumber < blockTimeSampleSize
  · have hle : ¬blockTimeSampleSize ≤ latestBlockNumber := by omega
    simp [hheight, hle]
  · have hle : blockTimeSampleSize ≤ latestBlockNumber := by omega
    simp only [hheight, hle, if_false, true_and]
    by_cases hlength :
        (sort (provider.sampled latestBlockNumber)).length < 2
    · simp [hlength, gaps_eq_nil_of_length hlength]
    · by_cases hgaps : gaps (sort (provider.sampled latestBlockNumber)) = []
      · simp [hlength, hgaps]
      · simp [hlength, hgaps]

/-- The statistics exist when two of the sampled blocks differ in time.  They
are those of the gaps between the distinct timestamps, one less than there are
timestamps, in whatever order the blocks arrive; the gaps add up to the time the
sample spans. -/
theorem calculateBlockTimeStats_eq_ok_iff
    (floats : List ℕ → ℕ → ℕ × Variance) (provider : Provider)
    (stats : ℕ × Variance) :
    calculateBlockTimeStats floats provider = .ok stats ↔
      ∃ latestBlockNumber earliest last,
        provider.getBlockNumber = .ok latestBlockNumber ∧
        blockTimeSampleSize ≤ latestBlockNumber ∧
        Spans (provider.sampled latestBlockNumber) earliest last ∧
        earliest < last ∧
        (gaps (sort (provider.sampled latestBlockNumber))).length + 1 =
          (provider.sampled latestBlockNumber).dedup.length ∧
        floats (gaps (sort (provider.sampled latestBlockNumber)))
          (last - earliest) = stats := by
  have hspan : ∀ {latestBlockNumber earliest last : ℕ},
      Spans (provider.sampled latestBlockNumber) earliest last →
      (gaps (sort (provider.sampled latestBlockNumber))).sum % 2 ^ 64 =
        last - earliest := by
    intro latestBlockNumber earliest last hspans
    have hsum := sum_gaps_sort hspans
    have hlast := lt_of_mem_sampled hspans.latest_mem
    rw [Nat.mod_eq_of_lt (by omega)]
    omega
  constructor
  · intro hok
    cases hlatest : provider.getBlockNumber with
    | error error =>
        rw [calculateBlockTimeStats, hlatest] at hok
        cases hok
    | ok latestBlockNumber =>
        have hparts := (calculateBlockTimeStats_eq floats hlatest stats).mp hok
        obtain ⟨hheight, hgaps, hstats⟩ := hparts
        obtain ⟨earliest, last, hspans, hlt⟩ := gaps_sort_ne_nil_iff.mp hgaps
        rw [hspan hspans] at hstats
        have hcount := length_gaps_sort
          (List.ne_nil_of_mem hspans.latest_mem)
        exact ⟨_, _, _, rfl, hheight, hspans, hlt, hcount, hstats⟩
  · intro ⟨latestBlockNumber, earliest, last, hlatest, hheight, hspans, hlt,
      _, hstats⟩
    apply (calculateBlockTimeStats_eq floats hlatest stats).mpr
    rw [hspan hspans]
    exact ⟨hheight, gaps_sort_ne_nil_iff.mpr ⟨_, _, hspans, hlt⟩, hstats⟩

/-! ## The statistics of a chain -/

/-- What a connection to an endpoint leads to; only a WebSocket may fail. -/
structure Connections where
  connectHttp : Url → Provider
  connectWs : Url → Option Provider

def Connections.connect (connections : Connections) (rpc : RpcTestResult) :
    Option Provider :=
  match rpc.protocol with
  | .https => some (connections.connectHttp rpc.url)
  | .wss => connections.connectWs rpc.url

section Chain

variable (floats : List ℕ → ℕ → ℕ × Variance) (connections : Connections)

def tryCalculateStats (rpc : RpcTestResult × ℕ) : Option (ℕ × Variance) :=
  (connections.connect rpc.1).bind fun provider =>
    (calculateBlockTimeStats floats provider).toOption

/-- The endpoints are tried from the highest block down. -/
def calculateBlockTimeStatsForChain
    (successfulRpcs : List (RpcTestResult × ℕ)) : Option (ℕ × Variance) :=
  (successfulRpcs.mergeSort fun a b => decide (b.2 ≤ a.2)).findSome?
    (tryCalculateStats floats connections)

end Chain

end NxccBridge.Chainlist
