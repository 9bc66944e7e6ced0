import NxccBridge.Core.Json
import NxccBridge.Interface.Types

/-!
# Worker bundles

`node/interface/src/types/worker/mod.rs`.  A bundle is the bytes of a DSSE
envelope; its hash is taken over a payload that was parsed and serialized again.
The parsed metadata is a hash map, and each map that is built iterates in an
order of its own.  Parsing and base64 are third-party code.
-/

namespace NxccBridge.Worker

open Function
open NxccBridge.Framing
open NxccBridge.Interface

structure DsseSignatureEntry where
  keyId : Option String
  sig : String
  deriving DecidableEq

structure DsseEnvelope where
  payload : String
  payloadType : String
  signatures : List DsseSignatureEntry
  deriving DecidableEq

/-- A `HashMap<String, String>`, its entries in some order. -/
structure StringMap where
  entries : List (String × String)
  nodup : (entries.map Prod.fst).Nodup
  deriving DecidableEq

/-- The inner payload of a `WorkerBundle` that gets signed. -/
structure WorkerBundlePayload where
  vm : String
  executable : Bytes
  metadata : StringMap
  deriving DecidableEq

/-- The DSSE envelope as raw JSON bytes. -/
structure WorkerBundle where
  bytes : Bytes
  deriving DecidableEq

/-- The third-party code under the bundle. -/
structure Codecs where
  /-- `serde_json::from_slice` at `DsseEnvelope`. -/
  parseEnvelope : Bytes → Except String DsseEnvelope
  /-- `serde_json::from_slice` at `WorkerBundlePayload`. -/
  parsePayload : Bytes → Except String WorkerBundlePayload
  base64Encode : Bytes → String
  base64Decode : String → Except String Bytes
  sha512 : Bytes → Bytes

/-- The order in which the maps of one call iterate. -/
structure IterationOrder where
  entries : StringMap → List (String × String)
  perm : ∀ metadata, (entries metadata).Perm metadata.entries

def dsseWorkerBundlePayloadType : String :=
  "application/vnd.nxcc.workerbundlepayload.v1+json"

variable (codecs : Codecs)

/-- Parses the DSSE envelope from the raw bytes of the bundle. -/
def WorkerBundle.dsseEnvelope (bundle : WorkerBundle) :
    Except ConversionError DsseEnvelope :=
  (codecs.parseEnvelope bundle.bytes).mapError .json

/-- Retrieves the `WorkerBundlePayload` from the DSSE envelope. -/
def WorkerBundle.payload (bundle : WorkerBundle) :
    Except ConversionError WorkerBundlePayload :=
  match bundle.dsseEnvelope codecs with
  | .error e => .error e
  | .ok envelope =>
      if envelope.payloadType ≠ dsseWorkerBundlePayloadType then
        .error (.invalidDssePayloadType dsseWorkerBundlePayloadType
          envelope.payloadType)
      else
        match codecs.base64Decode envelope.payload with
        | .error e => .error (.base64 e)
        | .ok payloadBytes =>
            (codecs.parsePayload payloadBytes).mapError .json

/-- `serde_json::to_vec` of a payload whose map iterates in the given order. -/
def payloadJson (payload : WorkerBundlePayload)
    (metadata : List (String × String)) : Bytes :=
  Json.object [
    (utf8 "vm", Json.string (utf8 payload.vm)),
    (utf8 "executable",
      Json.string (utf8 (codecs.base64Encode payload.executable))),
    (utf8 "metadata", Json.stringMap
      (metadata.map fun entry => (utf8 entry.1, utf8 entry.2)))]

/-- Calculates the SHA512 hash of the encoded `WorkerBundlePayload`. -/
def WorkerBundle.hashSignedPayload (bundle : WorkerBundle)
    (order : IterationOrder) : Except ConversionError Bytes :=
  match bundle.payload codecs with
  | .error e => .error e
  | .ok payload =>
      .ok (codecs.sha512
        (payloadJson codecs payload (order.entries payload.metadata)))

/-- Extracts the first signature from the DSSE envelope. -/
def WorkerBundle.getDsseSignature (bundle : WorkerBundle) :
    Except ConversionError Bytes :=
  match bundle.dsseEnvelope codecs with
  | .error e => .error e
  | .ok envelope =>
      match envelope.signatures with
      | [] =>
          .error (.invalidValue "signatures" "DSSE envelope has no signatures")
      | first :: _ => (codecs.base64Decode first.sig).mapError .base64

/-! ## The order shows in the hash -/

theorem payloadJson_injective (payload : WorkerBundlePayload) :
    Injective (payloadJson codecs payload) := by
  intro left right heq
  have htext : Json.stringMap
        (left.map fun entry => (utf8 entry.1, utf8 entry.2)) =
      Json.stringMap
        (right.map fun entry => (utf8 entry.1, utf8 entry.2)) := by
    simpa [payloadJson, Json.object, Json.members, Json.member] using heq
  refine List.map_injective_iff.mpr ?_
    (Json.stringMap_selfDelimiting.injective htext)
  rintro ⟨leftName, leftValue⟩ ⟨rightName, rightValue⟩ hentry
  obtain ⟨hname, hvalue⟩ := Prod.mk.inj hentry
  exact Prod.ext (utf8_injective hname) (utf8_injective hvalue)

/-- The order that swaps the first two entries. -/
def swapFirst : List (String × String) → List (String × String)
  | first :: second :: rest => second :: first :: rest
  | entries => entries

theorem swapFirst_perm (entries : List (String × String)) :
    (swapFirst entries).Perm entries := by
  match entries with
  | [] => exact .refl _
  | [_] => exact .refl _
  | first :: second :: rest => exact .swap first second rest

def listedOrder : IterationOrder where
  entries := StringMap.entries
  perm := fun _ => .refl _

def swappedOrder : IterationOrder where
  entries := fun metadata => swapFirst metadata.entries
  perm := fun metadata => swapFirst_perm metadata.entries

variable {codecs}

/-- All calls hash a bundle alike exactly when its metadata has at most one
key. -/
theorem hashSignedPayload_eq_iff (hsha512 : Injective codecs.sha512)
    {bundle : WorkerBundle} {payload : WorkerBundlePayload}
    (hpayload : bundle.payload codecs = .ok payload) :
    (∀ first second : IterationOrder,
      bundle.hashSignedPayload codecs first =
        bundle.hashSignedPayload codecs second) ↔
      payload.metadata.entries.length ≤ 1 := by
  have hhash : ∀ first second : IterationOrder,
      bundle.hashSignedPayload codecs first =
          bundle.hashSignedPayload codecs second ↔
        first.entries payload.metadata = second.entries payload.metadata := by
    intro first second
    simp only [WorkerBundle.hashSignedPayload, hpayload, Except.ok.injEq,
      hsha512.eq_iff, (payloadJson_injective codecs payload).eq_iff]
  simp only [hhash]
  constructor
  · intro hsame
    by_contra hlong
    have hswap := hsame listedOrder swappedOrder
    have hnodup := payload.metadata.nodup
    simp only [listedOrder, swappedOrder] at hswap
    generalize payload.metadata.entries = entries at hlong hswap hnodup
    match entries with
    | [] => exact hlong (by simp)
    | [_] => exact hlong (by simp)
    | first :: second :: rest =>
        have hfirst : first = second := (List.cons.inj hswap).1
        simp [hfirst] at hnodup
  · intro hshort first second
    have hone : ∀ order : IterationOrder,
        order.entries payload.metadata = payload.metadata.entries := by
      intro order
      have hperm := order.perm payload.metadata
      match hentries : payload.metadata.entries with
      | [] => rw [hentries] at hperm; exact hperm.eq_nil
      | [entry] => rw [hentries] at hperm; exact hperm.eq_singleton
      | _ :: _ :: _ => simp [hentries] at hshort
    rw [hone first, hone second]

end NxccBridge.Worker
