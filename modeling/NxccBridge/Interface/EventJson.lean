import NxccBridge.Core.Serde
import NxccBridge.Interface.Events

/-!
# Events as JSON

The derived serializers of `Web3Log` and `EventPayload`.  The payload is
untagged: a variant is written as its content, and the variants without content
are all written as null.
-/

namespace NxccBridge.Interface

open NxccBridge.Framing
open NxccBridge.RoundTrip
open NxccBridge.Serde

/-- The serializers of the `alloy_primitives` types, which write strings. -/
structure HexForms where
  formatAddress : Address → String
  readAddress : JsonValue → Except SerdeError Address
  formatB256 : B256 → String
  readB256 : JsonValue → Except SerdeError B256
  formatBytes : Bytes → String
  readBytes : JsonValue → Except SerdeError Bytes

variable (hex : HexForms)

def Web3Log.toJson (log : Web3Log) : JsonValue :=
  .object [
    ("address", .string (hex.formatAddress log.address)),
    ("topics", .array (log.topics.map fun topic =>
      .string (hex.formatB256 topic))),
    ("data", .string (hex.formatBytes log.data)),
    ("block_hash", nullable (fun hash => .string (hex.formatB256 hash))
      log.blockHash),
    ("block_number", nullable .posInt log.blockNumber),
    ("transaction_hash", nullable (fun hash => .string (hex.formatB256 hash))
      log.transactionHash),
    ("transaction_index", nullable .posInt log.transactionIndex),
    ("log_index", nullable .posInt log.logIndex),
    ("removed", .bool log.removed)]

def web3LogFields : List String :=
  ["address", "topics", "data", "block_hash", "block_number",
    "transaction_hash", "transaction_index", "log_index", "removed"]

def Web3Log.fromJson (value : JsonValue) : Except SerdeError Web3Log := do
  let fields ← structFields web3LogFields value
  let address ← required fields "address" hex.readAddress
  let topics ← required fields "topics" (readArray hex.readB256)
  let data ← required fields "data" hex.readBytes
  let blockHash ← optional fields "block_hash" hex.readB256
  let blockNumber ← optional fields "block_number" readU64
  let transactionHash ← optional fields "transaction_hash" hex.readB256
  let transactionIndex ← optional fields "transaction_index" readU64
  let logIndex ← optional fields "log_index" readU64
  let removed ← required fields "removed" readBool
  .ok { address, topics, data, blockHash, blockNumber, transactionHash,
        transactionIndex, logIndex, removed }

def EventPayload.toJson : EventPayload → JsonValue
  | .web3Log log => log.toJson hex
  | .launch => .null
  | .httpRequest => .null
  | .scheduled => .null
  | .phantom => .null

/-- A variant without content. -/
def EventPayload.unitVariant (payload : EventPayload) (value : JsonValue) :
    Except SerdeError EventPayload := do
  readUnit value
  .ok payload

/-- The variants are tried in the order of their declaration. -/
def EventPayload.fromJson : JsonValue → Except SerdeError EventPayload :=
  firstMatch "EventPayload" [
    fun value => do
      let log ← Web3Log.fromJson hex value
      .ok (.web3Log log),
    unitVariant .launch,
    unitVariant .httpRequest,
    unitVariant .scheduled,
    unitVariant .phantom]

/-! ## What is read back -/

/-- Reading undoes writing on the parts of the log. -/
structure HexForms.Reads (log : Web3Log) : Prop where
  address : hex.readAddress (.string (hex.formatAddress log.address)) =
    .ok log.address
  topics : ∀ topic ∈ log.topics,
    hex.readB256 (.string (hex.formatB256 topic)) = .ok topic
  data : hex.readBytes (.string (hex.formatBytes log.data)) = .ok log.data
  blockHash : ∀ hash, log.blockHash = some hash →
    hex.readB256 (.string (hex.formatB256 hash)) = .ok hash
  transactionHash : ∀ hash, log.transactionHash = some hash →
    hex.readB256 (.string (hex.formatB256 hash)) = .ok hash

variable {hex}

theorem readArray_topics {topics : List B256}
    (hreads : ∀ topic ∈ topics,
      hex.readB256 (.string (hex.formatB256 topic)) = .ok topic) :
    readArray hex.readB256 (.array (topics.map fun topic =>
      .string (hex.formatB256 topic))) = .ok topics := by
  let conversion : Conversion SerdeError B256 JsonValue :=
    { into := fun topic => .string (hex.formatB256 topic)
      tryFrom := hex.readB256 }
  exact (conversion.repeated_survives_iff topics).mpr hreads

theorem optional_posInt {fields : String → Option JsonValue} {name : String}
    {number : Option UInt64}
    (hfield : fields name = some (nullable .posInt number)) :
    optional fields name readU64 = .ok number := by
  apply optional_nullable hfield
  intro value _
  exact ⟨JsonValue.noConfusion, rfl⟩

theorem optional_hash {fields : String → Option JsonValue} {name : String}
    {hash : Option B256}
    (hfield : fields name = some (nullable (fun hash =>
      .string (hex.formatB256 hash)) hash))
    (hreads : ∀ value, hash = some value →
      hex.readB256 (.string (hex.formatB256 value)) = .ok value) :
    optional fields name hex.readB256 = .ok hash := by
  apply optional_nullable hfield
  intro value hvalue
  exact ⟨JsonValue.noConfusion, hreads value hvalue⟩

/-- A log is read back as it was written. -/
theorem Web3Log.fromJson_toJson {log : Web3Log} (hreads : hex.Reads log) :
    Web3Log.fromJson hex (log.toJson hex) = .ok log := by
  have hnodup : web3LogFields.Nodup := by decide
  rw [fromJson, toJson, structFields_object hnodup rfl, ok_bind,
    required_of_lookup _ rfl, hreads.address, ok_bind,
    required_of_lookup _ rfl, readArray_topics hreads.topics, ok_bind,
    required_of_lookup _ rfl, hreads.data, ok_bind,
    optional_hash rfl hreads.blockHash, ok_bind,
    optional_posInt rfl, ok_bind,
    optional_hash rfl hreads.transactionHash, ok_bind,
    optional_posInt rfl, ok_bind, optional_posInt rfl, ok_bind,
    required_of_lookup _ rfl]
  rfl

/-- The payload that is read from the text of a payload: every variant without
content is taken for the first of them. -/
def EventPayload.received : EventPayload → EventPayload
  | .web3Log log => .web3Log log
  | _ => .launch

-- no log is null, and a launch is the first variant that is
theorem EventPayload.fromJson_null :
    EventPayload.fromJson hex .null = .ok .launch := rfl

theorem EventPayload.fromJson_toJson {payload : EventPayload}
    (hreads : ∀ log, payload = .web3Log log → hex.Reads log) :
    EventPayload.fromJson hex (payload.toJson hex) = .ok payload.received := by
  cases payload with
  | web3Log log =>
      apply firstMatch_cons_of_ok
      rw [toJson, Web3Log.fromJson_toJson (hreads log rfl), ok_bind]
      rfl
  | launch => exact fromJson_null
  | httpRequest => exact fromJson_null
  | scheduled => exact fromJson_null
  | phantom => exact fromJson_null

end NxccBridge.Interface
