import NxccBridge.Interface.Proto

/-!
# Delivered events

The payloads of `node/interface/src/types/worker/events.rs` and their protobuf
messages.  The optional fields of a log are flattened to the defaults of the
message; on the way back an absent number is told from the number zero by the
hash next to it.
-/

namespace NxccBridge.Interface

open Function
open NxccBridge.Framing
open NxccBridge.RoundTrip

/-- `alloy_primitives::B256`. -/
abbrev B256 := Fin 32 → Byte

/-- `TryFrom<&[u8]>` of the fixed-size byte types. -/
def fixedFromSlice (size : ℕ) (bytes : Bytes) :
    Except String (Fin size → Byte) :=
  if hsize : bytes.length = size then
    .ok fun index => bytes[index]
  else .error "could not convert slice to array"

@[simp]
theorem fixedFromSlice_ofFn {size : ℕ} (value : Fin size → Byte) :
    fixedFromSlice size (List.ofFn value) = .ok value := by
  simp [fixedFromSlice]

/-- Represents a Web3 log event, mirroring `alloy_rpc_types::Log`. -/
structure Web3Log where
  address : Address
  topics : List B256
  data : Bytes
  blockHash : Option B256
  blockNumber : Option UInt64
  transactionHash : Option B256
  transactionIndex : Option UInt64
  logIndex : Option UInt64
  removed : Bool
  deriving DecidableEq

/-- `EventPayload`; `phantom` is the variant that carries the lifetime. -/
inductive EventPayload
  | web3Log (log : Web3Log)
  | launch
  | httpRequest
  | scheduled
  | phantom
  deriving DecidableEq

namespace Proto

structure Web3Log where
  address : Bytes
  topics : List Bytes
  data : Bytes
  blockHash : Bytes
  blockNumber : UInt64
  transactionHash : Bytes
  transactionIndex : UInt64
  logIndex : UInt64
  removed : Bool
  deriving DecidableEq

inductive Payload
  | web3Log (log : Web3Log)
  | launchEvent
  | httpRequest
  | scheduledEvent
  deriving DecidableEq

structure EventPayload where
  payload : Option Payload
  deriving DecidableEq

end Proto

/-! ## Conversions -/

def hashBytes : Option B256 → Bytes
  | none => []
  | some hash => List.ofFn hash

/-- A hash field, absent when it is empty. -/
def hashFromProto (field : String) (bytes : Bytes) :
    Except ConversionError (Option B256) :=
  if bytes = [] then .ok none
  else do
    let hash ← invalid field (fixedFromSlice 32 bytes)
    .ok (some hash)

/-- A number field, absent when it is zero next to an empty hash. -/
def numberFromProto (number : UInt64) (hash : Bytes) : Option UInt64 :=
  if number = 0 ∧ hash = [] then none else some number

def Web3Log.intoProto (log : Web3Log) : Proto.Web3Log where
  address := List.ofFn log.address
  topics := log.topics.map List.ofFn
  data := log.data
  blockHash := hashBytes log.blockHash
  blockNumber := log.blockNumber.getD 0
  transactionHash := hashBytes log.transactionHash
  transactionIndex := log.transactionIndex.getD 0
  logIndex := log.logIndex.getD 0
  removed := log.removed

def Web3Log.tryFromProto (p : Proto.Web3Log) :
    Except ConversionError Web3Log := do
  let address ← invalid "address" (fixedFromSlice 20 p.address)
  let topics ← p.topics.mapM fun topic =>
    invalid "topics" (fixedFromSlice 32 topic)
  let blockHash ← hashFromProto "block_hash" p.blockHash
  let transactionHash ← hashFromProto "transaction_hash" p.transactionHash
  .ok {
    address
    topics
    data := p.data
    blockHash
    blockNumber := numberFromProto p.blockNumber p.blockHash
    transactionHash
    transactionIndex := numberFromProto p.transactionIndex p.transactionHash
    -- the log index is told apart by the hash of the transaction as well
    logIndex := numberFromProto p.logIndex p.transactionHash
    removed := p.removed }

/-- The message of a payload, `none` where the conversion panics. -/
def EventPayload.intoProto : EventPayload → Option Proto.EventPayload
  | .web3Log log => some { payload := some (.web3Log log.intoProto) }
  | .launch => some { payload := some .launchEvent }
  | .httpRequest => some { payload := some .httpRequest }
  | .scheduled => some { payload := some .scheduledEvent }
  | .phantom => none

def EventPayload.tryFromProto (p : Proto.EventPayload) :
    Except ConversionError EventPayload :=
  match p.payload with
  | some (.web3Log log) => do
      let log ← Web3Log.tryFromProto log
      .ok (.web3Log log)
  | some .launchEvent => .ok .launch
  | some .httpRequest => .ok .httpRequest
  | some .scheduledEvent => .ok .scheduled
  | none => .error (.missingField "payload")

/-! ## The logs that come back -/

/-- The hash tells whether the number is there: an absent number has no hash
next to it and the number zero has one. -/
def Told (number : Option UInt64) (hash : Option B256) : Prop :=
  (number = none → hash = none) ∧ (number = some 0 → hash ≠ none)

/-- Each number of the log is told by its hash. -/
structure Web3Log.Recoverable (log : Web3Log) : Prop where
  blockNumber : Told log.blockNumber log.blockHash
  transactionIndex : Told log.transactionIndex log.transactionHash
  logIndex : Told log.logIndex log.transactionHash

@[simp]
theorem hashBytes_eq_nil_iff (hash : Option B256) :
    hashBytes hash = [] ↔ hash = none := by
  cases hash with
  | none => simp [hashBytes]
  | some hash => simp [hashBytes]

@[simp]
theorem hashFromProto_hashBytes (field : String) (hash : Option B256) :
    hashFromProto field (hashBytes hash) = .ok hash := by
  cases hash with
  | none => rfl
  | some hash =>
      have hfound : hashBytes (some hash) ≠ [] := by
        simp only [ne_eq, hashBytes_eq_nil_iff, reduceCtorEq, not_false_eq_true]
      rw [hashFromProto, if_neg hfound, hashBytes, fixedFromSlice_ofFn]
      rfl

theorem numberFromProto_eq_iff (number : Option UInt64) (hash : Option B256) :
    numberFromProto (number.getD 0) (hashBytes hash) = number ↔
      Told number hash := by
  simp only [numberFromProto, Told, hashBytes_eq_nil_iff]
  cases number with
  | none => simp
  | some number =>
      by_cases hzero : number = 0
      · simp [hzero]
      · simp [hzero]

theorem topics_survive (topics : List B256) :
    (topics.map List.ofFn).mapM (fun topic =>
      invalid "topics" (fixedFromSlice 32 topic)) = .ok topics := by
  let conversion : Conversion ConversionError B256 Bytes :=
    { into := List.ofFn
      tryFrom := fun topic => invalid "topics" (fixedFromSlice 32 topic) }
  apply (conversion.repeated_survives_iff topics).mpr
  intro topic _
  change invalid "topics" (fixedFromSlice 32 (List.ofFn topic)) = .ok topic
  rw [fixedFromSlice_ofFn, invalid_ok]

/-- The conversion back never fails, and what it returns differs from the log
in the three numbers at most. -/
theorem Web3Log.tryFromProto_intoProto (log : Web3Log) :
    Web3Log.tryFromProto log.intoProto = .ok { log with
      blockNumber := numberFromProto (log.blockNumber.getD 0)
        (hashBytes log.blockHash)
      transactionIndex := numberFromProto (log.transactionIndex.getD 0)
        (hashBytes log.transactionHash)
      logIndex := numberFromProto (log.logIndex.getD 0)
        (hashBytes log.transactionHash) } := by
  simp only [tryFromProto, intoProto, fixedFromSlice_ofFn, invalid_ok, ok_bind,
    topics_survive, hashFromProto_hashBytes]

theorem Web3Log.tryFromProto_eq_iff (log : Web3Log) :
    Web3Log.tryFromProto log.intoProto = .ok log ↔ log.Recoverable := by
  obtain ⟨address, topics, data, blockHash, blockNumber, transactionHash,
    transactionIndex, logIndex, removed⟩ := log
  simp only [tryFromProto_intoProto, Except.ok.injEq, mk.injEq, true_and,
    and_true, numberFromProto_eq_iff]
  constructor
  · rintro ⟨hblock, htransaction, hlog⟩
    exact ⟨hblock, htransaction, hlog⟩
  · intro hrecoverable
    exact ⟨hrecoverable.blockNumber, hrecoverable.transactionIndex,
      hrecoverable.logIndex⟩

/-- Of the payloads that have a message, only a log may fail to come back. -/
theorem EventPayload.tryFromProto_eq_iff (payload : EventPayload) :
    payload.intoProto.map EventPayload.tryFromProto = some (.ok payload) ↔
      payload ≠ .phantom ∧ ∀ log, payload = .web3Log log → log.Recoverable := by
  cases payload with
  | web3Log log =>
      simp only [intoProto, Option.map_some, Option.some.injEq, tryFromProto,
        bind_eq_ok_iff, Except.ok.injEq, web3Log.injEq, exists_eq_right, ne_eq,
        reduceCtorEq, not_false_eq_true, true_and, forall_eq']
      exact Web3Log.tryFromProto_eq_iff log
  | launch => simp [intoProto, tryFromProto]
  | httpRequest => simp [intoProto, tryFromProto]
  | scheduled => simp [intoProto, tryFromProto]
  | phantom => simp [intoProto]

/-- A log comes back from its message, alone or as a payload, exactly when each
of its numbers is told by its hash. -/
theorem web3Log_survives_iff (log : Web3Log) :
    (Web3Log.tryFromProto log.intoProto = .ok log ↔ log.Recoverable) ∧
      ((EventPayload.web3Log log).intoProto.map EventPayload.tryFromProto =
          some (.ok (.web3Log log)) ↔
        log.Recoverable) := by
  constructor
  · exact Web3Log.tryFromProto_eq_iff log
  · rw [EventPayload.tryFromProto_eq_iff]
    simp

/-- A pending log: the only field that is there is the log index. -/
def pendingLog (logIndex : Option UInt64) : Web3Log where
  address := fun _ => 0
  topics := []
  data := []
  blockHash := none
  blockNumber := none
  transactionHash := none
  transactionIndex := none
  logIndex := logIndex
  removed := false

/-- The log index zero without a transaction hash comes back as no index. -/
theorem web3Log_zero_lost :
    Web3Log.tryFromProto (pendingLog (some 0)).intoProto =
      .ok (pendingLog none) ∧
    ¬∀ log : Web3Log, Web3Log.tryFromProto log.intoProto = .ok log := by
  have hlost : Web3Log.tryFromProto (pendingLog (some 0)).intoProto =
      .ok (pendingLog none) := by
    rw [Web3Log.tryFromProto_intoProto]
    rfl
  refine ⟨hlost, ?_⟩
  intro hsurvives
  have hkept := (hsurvives (pendingLog (some 0))).symm.trans hlost
  have hindex := congrArg Web3Log.logIndex (Except.ok.inj hkept)
  cases hindex

end NxccBridge.Interface
