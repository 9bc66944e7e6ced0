import Mathlib.Data.Finset.Dedup
import NxccBridge.Daemon.EventQueue
import NxccBridge.Interface.WorkerEvents

/-!
# Listening for logs

`node/daemon/src/web3/listener.rs`.  The daemon subscribes with a filter made from
the trigger and checks every log that comes in once more against the trigger
itself.  The filter has room for four topic groups; the check reads all of them.
-/

namespace NxccBridge.Listener

open Function
open NxccBridge.EventQueue
open NxccBridge.Interface

/-! ## The filter -/

/-- `alloy_rpc_types::Filter` without its block option. -/
structure Filter where
  address : Finset Address
  topics : Fin 4 → Finset B256

/-- The loop over the topic groups, from the group of a number on. -/
def fillTopics (topics : Fin 4 → Finset B256) :
    ℕ → List (List B256) → Fin 4 → Finset B256
  | _, [] => topics
  | i, values :: groups =>
      if hi : i < 4 then
        fillTopics (update topics ⟨i, hi⟩
          (if values.isEmpty then ∅ else values.toFinset)) (i + 1) groups
      else topics

def web3EventConfigToAlloyFilter (config : Web3Event) : Filter where
  address := config.address.toFinset
  topics := fillTopics (fun _ => ∅) 0 config.topics

/-- The meaning of a filter: an empty set is a wildcard, otherwise the item must
be there and be a member. -/
structure Satisfies (filter : Filter) (log : Web3Log) : Prop where
  address : filter.address = ∅ ∨ log.address ∈ filter.address
  topics : ∀ i : Fin 4, filter.topics i = ∅ ∨
    ∃ topic, log.topics[i.val]? = some topic ∧ topic ∈ filter.topics i

/-! ## The check -/

/-- The loop over the topic groups, from the group of a number on. -/
def topicsMatch (log : Web3Log) : ℕ → List (List B256) → Bool
  | _, [] => true
  | idx, group :: groups =>
      if group.isEmpty then topicsMatch log (idx + 1) groups
      else
        match log.topics[idx]? with
        | some topic =>
            if group.any (· == topic) then topicsMatch log (idx + 1) groups
            else false
        | none => false

def logMatchesConfig (log : Web3Log) (config : Web3Event) : Bool :=
  if !config.address.isEmpty && !config.address.any (· == log.address) then
    false
  else topicsMatch log 0 config.topics

/-- A listener of one worker. -/
structure ListenerTask where
  enclaveWorkerId : String
  handlerName : String
  config : Web3Event

def ListenerTask.delivery (task : ListenerTask) (log : Web3Log) :
    EventDelivery where
  workerId := task.enclaveWorkerId
  handlerName := task.handlerName
  eventPayload := EventPayload.intoProto (.web3Log log)

/-- What the listener puts on the daemon's queue for the logs of a
subscription. -/
def ListenerTask.deliveries (task : ListenerTask) (logs : List Web3Log) :
    List EventDelivery :=
  logs.filterMap fun log =>
    if logMatchesConfig log task.config then some (task.delivery log) else none

/-! ## What the loops compute -/

/-- A group that does not exclude the topic at its place. -/
def Admits (log : Web3Log) (idx : ℕ) (group : List B256) : Prop :=
  group = [] ∨ ∃ topic, log.topics[idx]? = some topic ∧ topic ∈ group

theorem topicsMatch_iff (log : Web3Log) (idx : ℕ)
    (groups : List (List B256)) :
    topicsMatch log idx groups = true ↔
      ∀ i group, groups[i]? = some group → Admits log (idx + i) group := by
  induction groups generalizing idx with
  | nil => simp [topicsMatch]
  | cons group groups ih =>
      have hsplit : (∀ i other, (group :: groups)[i]? = some other →
          Admits log (idx + i) other) ↔
          Admits log idx group ∧ topicsMatch log (idx + 1) groups = true := by
        rw [ih]
        constructor
        · intro hall
          refine ⟨hall 0 group rfl, fun i other hother => ?_⟩
          have hadmits := hall (i + 1) other hother
          rwa [Nat.add_assoc, Nat.add_comm 1 i]
        · rintro ⟨hfirst, hrest⟩ i other hother
          cases i with
          | zero =>
              obtain rfl := Option.some.inj hother
              exact hfirst
          | succ i =>
              have hadmits := hrest i other hother
              rwa [Nat.add_assoc, Nat.add_comm 1 i] at hadmits
      rw [hsplit, topicsMatch, Admits]
      by_cases hempty : group = []
      · simp [hempty]
      · cases htopic : log.topics[idx]? with
        | none => simp [hempty]
        | some topic => simp [hempty]

theorem logMatchesConfig_iff {log : Web3Log} {config : Web3Event} :
    logMatchesConfig log config = true ↔
      (config.address = [] ∨ log.address ∈ config.address) ∧
        ∀ i group, config.topics[i]? = some group → Admits log i group := by
  have htopics := topicsMatch_iff log 0 config.topics
  simp only [Nat.zero_add] at htopics
  rw [logMatchesConfig, ← htopics]
  by_cases hempty : config.address = []
  · simp [hempty]
  · by_cases hmem : log.address ∈ config.address <;> simp [hempty, hmem]

/-- Each set holds the group at its place. -/
theorem fillTopics_apply (topics : Fin 4 → Finset B256) (start : ℕ)
    (groups : List (List B256)) (i : Fin 4) :
    fillTopics topics start groups i =
      if start ≤ i.val then
        (groups[i.val - start]?).elim (topics i) List.toFinset
      else topics i := by
  induction groups generalizing topics start with
  | nil => simp [fillTopics]
  | cons values groups ih =>
      have hvalues : (if values.isEmpty then ∅ else values.toFinset) =
          values.toFinset := by
        cases values <;> rfl
      rw [fillTopics, hvalues]
      split_ifs with hstart hle hle
      · rw [ih]
        rcases hle.eq_or_lt with heq | hlt
        · simp [heq]
        · have hne : i ≠ ⟨start, hstart⟩ := fun h => by
            simp [h] at hlt
          obtain ⟨gap, hgap⟩ := Nat.exists_eq_add_of_lt hlt
          rw [if_pos (Nat.succ_le_of_lt hlt), update_of_ne hne, hgap,
            show start + gap + 1 - (start + 1) = gap by omega,
            show start + gap + 1 - start = gap + 1 by omega,
            List.getElem?_cons_succ]
      · have hne : i ≠ ⟨start, hstart⟩ := fun h => by
          simp [h] at hle
        rw [ih, if_neg (by omega), update_of_ne hne]
      · exact absurd (hle.trans_lt i.isLt) hstart
      · rfl

theorem filter_topics (config : Web3Event) (i : Fin 4) :
    (web3EventConfigToAlloyFilter config).topics i =
      (config.topics[i.val]?).elim ∅ List.toFinset := by
  have hfilled := fillTopics_apply (fun _ => ∅) 0 config.topics i
  rwa [if_pos (Nat.zero_le _), Nat.sub_zero] at hfilled

theorem satisfies_iff {log : Web3Log} {config : Web3Event} :
    Satisfies (web3EventConfigToAlloyFilter config) log ↔
      (config.address = [] ∨ log.address ∈ config.address) ∧
        ∀ i group, i < 4 → config.topics[i]? = some group →
          Admits log i group := by
  have haddress : (web3EventConfigToAlloyFilter config).address =
      config.address.toFinset := rfl
  have htopics : (∀ i : Fin 4,
      (web3EventConfigToAlloyFilter config).topics i = ∅ ∨
        ∃ topic, log.topics[i.val]? = some topic ∧
          topic ∈ (web3EventConfigToAlloyFilter config).topics i) ↔
      ∀ i group, i < 4 → config.topics[i]? = some group →
        Admits log i group := by
    constructor
    · intro hall i group hi hgroup
      have hset := hall ⟨i, hi⟩
      rw [filter_topics, hgroup] at hset
      simpa [Admits] using hset
    · intro hall i
      rw [filter_topics]
      cases hgroup : config.topics[i.val]? with
      | none => exact Or.inl rfl
      | some group => simpa [Admits] using hall i group i.isLt hgroup
  rw [← htopics]
  constructor
  · rintro ⟨hfirst, hrest⟩
    exact ⟨by simpa [haddress] using hfirst, hrest⟩
  · rintro ⟨hfirst, hrest⟩
    exact ⟨by simpa [haddress] using hfirst, hrest⟩

/-! ## Where filter and check agree -/

/-- The check passes exactly the logs of the subscription, and the listener hands
on every log that it was subscribed to. -/
structure FiltersAgree (config : Web3Event) : Prop where
  checked : ∀ log : Web3Log, log.topics.length ≤ 4 →
    (logMatchesConfig log config = true ↔
      Satisfies (web3EventConfigToAlloyFilter config) log)
  delivered : ∀ (task : ListenerTask), task.config = config →
    ∀ logs : List Web3Log, (∀ log ∈ logs, log.topics.length ≤ 4 ∧
      Satisfies (web3EventConfigToAlloyFilter config) log) →
        task.deliveries logs = logs.map task.delivery

/-- A log that the filter of the configuration lets through and that has no topic
behind the fourth. -/
def fittingLog (config : Web3Event) : Web3Log where
  address := config.address.headD fun _ => 0
  topics := (config.topics.take 4).map fun group => group.headD fun _ => 0
  data := []
  blockHash := none
  blockNumber := none
  transactionHash := none
  transactionIndex := none
  logIndex := none
  removed := false

theorem length_fittingLog_topics (config : Web3Event) :
    (fittingLog config).topics.length ≤ 4 := by
  simp [fittingLog]

theorem fittingLog_satisfies (config : Web3Event) :
    Satisfies (web3EventConfigToAlloyFilter config) (fittingLog config) := by
  rw [satisfies_iff]
  constructor
  · rw [fittingLog]
    cases config.address <;> simp
  · intro i group hi hgroup
    cases group with
    | nil => exact Or.inl rfl
    | cons topic rest =>
        refine Or.inr ⟨topic, ?_, List.mem_cons_self⟩
        simp [fittingLog, hi, hgroup]

theorem deliveries_of_matches {task : ListenerTask} {logs : List Web3Log}
    (hmatches : ∀ log ∈ logs, logMatchesConfig log task.config = true) :
    task.deliveries logs = logs.map task.delivery := by
  rw [ListenerTask.deliveries, ← List.filterMap_eq_map]
  apply List.filterMap_congr
  intro log hmem
  rw [if_pos (hmatches log hmem)]
  rfl

/-- The check agrees with the filter exactly if no topic group behind the fourth
excludes anything. -/
theorem filters_agree_iff (config : Web3Event) :
    FiltersAgree config ↔ ∀ group ∈ config.topics.drop 4, group = [] := by
  constructor
  · intro hagree group hmem
    obtain ⟨i, hi⟩ := List.mem_iff_getElem?.mp hmem
    rw [List.getElem?_drop] at hi
    have hmatches := (hagree.checked _ (length_fittingLog_topics config)).mpr
      (fittingLog_satisfies config)
    rcases (logMatchesConfig_iff.mp hmatches).2 _ group hi with
      hempty | ⟨topic, htopic, -⟩
    · exact hempty
    · -- the log has no topic at this place
      have hlt := (List.getElem?_eq_some_iff.mp htopic).1
      have hlength := length_fittingLog_topics config
      omega
  · intro hbehind
    have hchecked : ∀ log : Web3Log, logMatchesConfig log config = true ↔
        Satisfies (web3EventConfigToAlloyFilter config) log := by
      intro log
      rw [logMatchesConfig_iff, satisfies_iff]
      refine and_congr_right fun _ =>
        ⟨fun hall i group _ => hall i group, fun hall i group hgroup => ?_⟩
      rcases lt_or_ge i 4 with hi | hi
      · exact hall i group hi hgroup
      · left
        apply hbehind group
        rw [List.mem_iff_getElem?]
        exact ⟨i - 4, by rw [List.getElem?_drop, Nat.add_sub_cancel' hi, hgroup]⟩
    refine ⟨fun log _ => hchecked log, ?_⟩
    rintro task rfl logs hlogs
    exact deliveries_of_matches fun log hmem =>
      (hchecked log).mpr (hlogs log hmem).2

/-! ### A fifth group -/

/-- Four wildcards and a fifth group, which the filter leaves out. -/
def fiveGroups : Web3Event where
  chain := .chainId 1
  address := []
  topics := [[], [], [], [], [fun _ => 1]]
  gateways := []

def fiveGroupsTask : ListenerTask where
  enclaveWorkerId := "worker"
  handlerName := "handler"
  config := fiveGroups

/-- The subscription brings a log that the check drops. -/
theorem fifth_group_drops :
    (fittingLog fiveGroups).topics.length ≤ 4 ∧
    Satisfies (web3EventConfigToAlloyFilter fiveGroups)
      (fittingLog fiveGroups) ∧
    logMatchesConfig (fittingLog fiveGroups) fiveGroups = false ∧
    fiveGroupsTask.deliveries [fittingLog fiveGroups] = [] ∧
    ¬ FiltersAgree fiveGroups := by
  have hdropped : logMatchesConfig (fittingLog fiveGroups) fiveGroups =
      false := by
    decide +kernel
  have hsatisfies := fittingLog_satisfies fiveGroups
  refine ⟨length_fittingLog_topics _, hsatisfies, hdropped, ?_, ?_⟩
  · rw [ListenerTask.deliveries, List.filterMap_cons_none]
    · rfl
    · rw [show fiveGroupsTask.config = fiveGroups from rfl, hdropped]
      rfl
  · intro hagree
    have hpassed := (hagree.checked _ (length_fittingLog_topics _)).mpr
      hsatisfies
    rw [hdropped] at hpassed
    cases hpassed

end NxccBridge.Listener
