import Mathlib.Data.Fintype.Pi
import NxccBridge.Core.Framing

/-!
# Types shared by the daemon and the enclave

The records of `node/interface` that the secrets protocol exchanges.  A Rust
`u64` that is only compared is a natural number here; chain identifiers and
block numbers are `UInt64` because their encoded bytes matter.
-/

namespace NxccBridge.Interface

open NxccBridge.Framing

inductive ConversionError
  | missingField (field : String)
  | invalidValue (field message : String)
  | json (message : String)
  | base64 (message : String)
  | invalidDssePayloadType (expected got : String)
  deriving DecidableEq

/-- The `thiserror` display strings. -/
def ConversionError.display : ConversionError → String
  | .missingField field => "Missing field in protobuf message: " ++ field
  | .invalidValue field message =>
      "Invalid value for field " ++ field ++ ": " ++ message
  | .json message => "JSON deserialization error: " ++ message
  | .base64 message => "Base64 decoding error: " ++ message
  | .invalidDssePayloadType expected got =>
      "Invalid DSSE payload type: expected " ++ expected ++ ", got " ++ got

/-- `url::Url` compares and serializes as its string. -/
structure Url where
  serialization : String
  deriving DecidableEq

/-- `alloy_primitives::Address`. -/
abbrev Address := Fin 20 → Byte

/-- `alloy_primitives::U256`, as its four limbs. -/
abbrev U256 := Fin 4 → UInt64

/-- Identifies a chain either by its numeric ID or by a custom gateway URL. -/
inductive ChainIdentifier
  | chainId (id : UInt64)
  | gatewayUrl (url : Url)
  | gatewayUrls (urls : List Url)
  deriving DecidableEq

structure SecretId where
  chain : ChainIdentifier
  identityAddress : Address
  identityId : U256
  deriving DecidableEq

structure ConsumerInfo where
  bundleHash : Bytes
  signature : Bytes
  deriving DecidableEq

structure SecretRequest where
  secretId : SecretId
  consumer : ConsumerInfo
  deriving DecidableEq

structure SecretsBox where
  encryptedPayload : Bytes
  senderPublicKey : Bytes
  alg : String
  containedSecretIds : List SecretId
  deriving DecidableEq

/-- Platform-specific raw attestation. -/
structure RawAttestation where
  platformType : String
  evidence : Bytes
  certificates : Option (List Bytes)
  deriving DecidableEq

/-- Complete attestation bundle with the detached user data payload that was
hashed into the quote. -/
structure AttestationBundle where
  rawAttestation : RawAttestation
  detachedUserdata : Bytes
  deriving DecidableEq

/-- COSE_Sign1 signature over the raw attestation evidence. -/
structure OperatorSignature where
  coseSign1 : Bytes
  deriving DecidableEq

structure EnvReport where
  attestation : AttestationBundle
  operatorSignature : Option OperatorSignature
  deriving DecidableEq

structure BlockInfo where
  chainId : UInt64
  chainName : String
  blockNumber : UInt64
  blockHash : Bytes
  timestamp : ℕ
  fetchedAt : ℕ
  deriving DecidableEq

/-- The structured data bound to the attestation quote. -/
structure UserData where
  ephemeralPublicKey : Bytes
  blockHashes : List BlockInfo
  deriving DecidableEq

/-- A request for the policy runner that references several secrets.  The
attestation claims the enclave fills in are not read by the secrets service. -/
structure PolicyExecutionRequest where
  secretIds : List SecretId
  consumer : ConsumerInfo
  envReport : EnvReport
  deriving DecidableEq

/-- A `PolicyExecutionRequest` together with its `attestation_claims`, which the
enclave fills in once the report is verified. -/
structure ClaimedPolicyRequest (Claims : Type) extends
    PolicyExecutionRequest where
  attestationClaims : Option Claims
  deriving DecidableEq

/-- The runner's final judgment about a request. -/
structure PolicyExecutionReport where
  request : PolicyExecutionRequest
  decision : Bool
  timestamp : ℕ
  deriving DecidableEq

end NxccBridge.Interface
