import NxccBridge.Core.RoundTrip
import NxccBridge.Interface.Types

/-!
# Messages of the secret exchange

The protobuf messages of `interface.proto` and the conversions of
`node/interface/src/types`.  A oneof is an option and a repeated field is a list,
so an empty list and an absent one are the same message.
-/

namespace NxccBridge.Interface

open Function
open NxccBridge.Framing
open NxccBridge.RoundTrip

namespace Proto

inductive Identifier
  | chainId (id : UInt64)
  | gatewayUrl (url : String)
  deriving DecidableEq

structure ChainIdentifier where
  identifier : Option Identifier
  gatewayUrls : List String
  deriving DecidableEq

structure SecretIdentifier where
  chain : Option ChainIdentifier
  identityAddress : String
  identityId : String
  deriving DecidableEq

structure ConsumerInfo where
  bundleHash : Bytes
  signature : Bytes
  deriving DecidableEq

structure SecretRequest where
  secretId : Option SecretIdentifier
  consumer : Option ConsumerInfo
  deriving DecidableEq

structure SecretsBox where
  encryptedPayload : Bytes
  senderPublicKey : Bytes
  alg : String
  containedSecretIds : List SecretIdentifier
  deriving DecidableEq

structure RawAttestation where
  platformType : String
  evidence : Bytes
  certificates : List Bytes
  deriving DecidableEq

structure AttestationBundle where
  rawAttestation : Option RawAttestation
  detachedUserdata : Bytes
  deriving DecidableEq

structure OperatorSignature where
  coseSign1 : Bytes
  deriving DecidableEq

structure EnvReport where
  attestation : Option AttestationBundle
  operatorSignature : Option OperatorSignature
  deriving DecidableEq

structure PolicyExecutionRequest where
  secretIds : List SecretIdentifier
  consumer : Option ConsumerInfo
  envReport : Option EnvReport
  deriving DecidableEq

end Proto

/-- The text forms of the `url` and `alloy_primitives` values. -/
structure TextForms where
  /-- `Url::parse`; `Url::to_string` is the serialization. -/
  parseUrl : String → Except String Url
  /-- The `:#x` format. -/
  formatAddress : Address → String
  parseAddress : String → Except String Address
  formatU256 : U256 → String
  parseU256 : String → Except String U256

/-- The failure of a field whose text does not parse. -/
def invalid {Value : Type} (field : String) :
    Except String Value → Except ConversionError Value
  | .ok value => .ok value
  | .error message => .error (.invalidValue field message)

@[simp]
theorem invalid_ok {Value : Type} (field : String) (value : Value) :
    invalid field (.ok value) = .ok value := rfl

variable (text : TextForms)

/-! ## Identifiers -/

/-- All gateway URLs if this is a custom gateway variant. -/
def ChainIdentifier.gatewayUrls? : ChainIdentifier → Option (List Url)
  | .chainId _ => none
  | .gatewayUrl url => some [url]
  | .gatewayUrls urls => some urls

def ChainIdentifier.intoProto : ChainIdentifier → Proto.ChainIdentifier
  | .chainId id => { identifier := some (.chainId id), gatewayUrls := [] }
  | .gatewayUrl url =>
      { identifier := some (.gatewayUrl url.serialization), gatewayUrls := [] }
  | .gatewayUrls urls =>
      { identifier := none, gatewayUrls := urls.map Url.serialization }

def ChainIdentifier.tryFromProto (p : Proto.ChainIdentifier) :
    Except ConversionError ChainIdentifier :=
  if p.gatewayUrls ≠ [] then do
    let urls ← p.gatewayUrls.mapM fun url =>
      invalid "gateway_urls" (text.parseUrl url)
    .ok (.gatewayUrls urls)
  else
    match p.identifier with
    | some (.chainId id) => .ok (.chainId id)
    | some (.gatewayUrl url) => do
        let url ← invalid "gateway_url" (text.parseUrl url)
        .ok (.gatewayUrl url)
    | none => .error (.missingField "identifier")

def SecretId.intoProto (value : SecretId) : Proto.SecretIdentifier where
  chain := some value.chain.intoProto
  identityAddress := text.formatAddress value.identityAddress
  identityId := text.formatU256 value.identityId

def SecretId.tryFromProto (p : Proto.SecretIdentifier) :
    Except ConversionError SecretId := do
  let chain ← okOr (.missingField "chain") p.chain
  let chain ← ChainIdentifier.tryFromProto text chain
  let identityAddress ←
    invalid "identity_address" (text.parseAddress p.identityAddress)
  let identityId ← invalid "identity_id" (text.parseU256 p.identityId)
  .ok { chain, identityAddress, identityId }

def ConsumerInfo.fromProto (p : Proto.ConsumerInfo) : ConsumerInfo where
  bundleHash := p.bundleHash
  signature := p.signature

def ConsumerInfo.intoProto (value : ConsumerInfo) : Proto.ConsumerInfo where
  bundleHash := value.bundleHash
  signature := value.signature

def SecretRequest.intoProto (value : SecretRequest) : Proto.SecretRequest where
  secretId := some (value.secretId.intoProto text)
  consumer := some value.consumer.intoProto

def SecretRequest.tryFromProto (p : Proto.SecretRequest) :
    Except ConversionError SecretRequest := do
  let secretId ← okOr (.missingField "secret_id") p.secretId
  let secretId ← SecretId.tryFromProto text secretId
  let consumer ← okOr (.missingField "consumer")
    (p.consumer.map ConsumerInfo.fromProto)
  .ok { secretId, consumer }

def SecretsBox.intoProto (value : SecretsBox) : Proto.SecretsBox where
  encryptedPayload := value.encryptedPayload
  senderPublicKey := value.senderPublicKey
  alg := value.alg
  containedSecretIds := value.containedSecretIds.map (SecretId.intoProto text)

def SecretsBox.tryFromProto (p : Proto.SecretsBox) :
    Except ConversionError SecretsBox := do
  let containedSecretIds ←
    p.containedSecretIds.mapM (SecretId.tryFromProto text)
  .ok {
    encryptedPayload := p.encryptedPayload
    senderPublicKey := p.senderPublicKey
    alg := p.alg
    containedSecretIds }

/-! ## Reports -/

def RawAttestation.fromProto (p : Proto.RawAttestation) : RawAttestation where
  platformType := p.platformType
  evidence := p.evidence
  certificates := if p.certificates = [] then none else some p.certificates

def RawAttestation.intoProto (value : RawAttestation) :
    Proto.RawAttestation where
  platformType := value.platformType
  evidence := value.evidence
  certificates := value.certificates.getD []

def AttestationBundle.fromProto (p : Proto.AttestationBundle) :
    AttestationBundle where
  rawAttestation := (p.rawAttestation.map RawAttestation.fromProto).getD
    { platformType := "", evidence := [], certificates := none }
  detachedUserdata := p.detachedUserdata

def AttestationBundle.intoProto (value : AttestationBundle) :
    Proto.AttestationBundle where
  rawAttestation := some value.rawAttestation.intoProto
  detachedUserdata := value.detachedUserdata

def OperatorSignature.fromProto (p : Proto.OperatorSignature) :
    OperatorSignature where
  coseSign1 := p.coseSign1

def OperatorSignature.intoProto (value : OperatorSignature) :
    Proto.OperatorSignature where
  coseSign1 := value.coseSign1

def EnvReport.intoProto (value : EnvReport) : Proto.EnvReport where
  attestation := some value.attestation.intoProto
  operatorSignature := value.operatorSignature.map OperatorSignature.intoProto

def EnvReport.tryFromProto (p : Proto.EnvReport) :
    Except ConversionError EnvReport := do
  let attestation ← okOr (.missingField "attestation")
    (p.attestation.map AttestationBundle.fromProto)
  .ok {
    attestation
    operatorSignature := p.operatorSignature.map OperatorSignature.fromProto }

variable {Claims : Type}

/-- The attestation claims are not transmitted. -/
def ClaimedPolicyRequest.intoProto (value : ClaimedPolicyRequest Claims) :
    Proto.PolicyExecutionRequest where
  secretIds := value.secretIds.map (SecretId.intoProto text)
  consumer := some value.consumer.intoProto
  envReport := some value.envReport.intoProto

/-- The claims are populated by the enclave after verification. -/
def ClaimedPolicyRequest.tryFromProto (p : Proto.PolicyExecutionRequest) :
    Except ConversionError (ClaimedPolicyRequest Claims) := do
  let secretIds ← p.secretIds.mapM (SecretId.tryFromProto text)
  let consumer ← okOr (.missingField "consumer")
    (p.consumer.map ConsumerInfo.fromProto)
  let envReport ← okOr (.missingField "env_report") p.envReport
  let envReport ← EnvReport.tryFromProto envReport
  .ok { secretIds, consumer, envReport, attestationClaims := none }

/-! ## The values that come back -/

/-- The URLs of the chain parse back, as the values of the `url` crate do. -/
def TextForms.ReadsChain (chain : ChainIdentifier) : Prop :=
  ∀ urls, chain.gatewayUrls? = some urls →
    ∀ url ∈ urls, text.parseUrl url.serialization = .ok url

/-- Parsing undoes formatting on the parts of the identifier. -/
structure TextForms.Reads (secretId : SecretId) : Prop where
  chain : text.ReadsChain secretId.chain
  identityAddress :
    text.parseAddress (text.formatAddress secretId.identityAddress) =
      .ok secretId.identityAddress
  identityId : text.parseU256 (text.formatU256 secretId.identityId) =
    .ok secretId.identityId

def ChainIdentifier.proto :
    Conversion ConversionError ChainIdentifier Proto.ChainIdentifier where
  into := ChainIdentifier.intoProto
  tryFrom := ChainIdentifier.tryFromProto text

def SecretId.proto :
    Conversion ConversionError SecretId Proto.SecretIdentifier where
  into := SecretId.intoProto text
  tryFrom := SecretId.tryFromProto text

def SecretRequest.proto :
    Conversion ConversionError SecretRequest Proto.SecretRequest where
  into := SecretRequest.intoProto text
  tryFrom := SecretRequest.tryFromProto text

def SecretsBox.proto :
    Conversion ConversionError SecretsBox Proto.SecretsBox where
  into := SecretsBox.intoProto text
  tryFrom := SecretsBox.tryFromProto text

def EnvReport.proto :
    Conversion ConversionError EnvReport Proto.EnvReport where
  into := EnvReport.intoProto
  tryFrom := EnvReport.tryFromProto

variable {text}

theorem ChainIdentifier.gatewayUrls_nil_missing :
    ChainIdentifier.tryFromProto text (ChainIdentifier.gatewayUrls []).intoProto =
      .error (.missingField "identifier") := rfl

theorem urls_survive {urls : List Url}
    (hreads : ∀ url ∈ urls, text.parseUrl url.serialization = .ok url) :
    (urls.map Url.serialization).mapM (fun url =>
        invalid "gateway_urls" (text.parseUrl url)) = .ok urls := by
  let conversion : Conversion ConversionError Url String :=
    { into := Url.serialization
      tryFrom := fun url => invalid "gateway_urls" (text.parseUrl url) }
  apply (conversion.repeated_survives_iff urls).mpr
  intro url hmem
  change invalid "gateway_urls" (text.parseUrl url.serialization) = .ok url
  rw [hreads url hmem, invalid_ok]

/-- Only the empty list of gateways does not come back. -/
theorem ChainIdentifier.survives_iff {chain : ChainIdentifier}
    (hreads : text.ReadsChain chain) :
    (ChainIdentifier.proto text).Survives chain ↔ chain ≠ .gatewayUrls [] := by
  rw [Conversion.Survives, ChainIdentifier.proto]
  cases chain with
  | chainId id => simp [intoProto, tryFromProto]
  | gatewayUrl url =>
      have hurl := hreads [url] rfl url (List.mem_singleton_self url)
      simp [intoProto, tryFromProto, hurl]
  | gatewayUrls urls =>
      cases urls with
      | nil => simp [gatewayUrls_nil_missing]
      | cons url rest =>
          have hurls := urls_survive (hreads (url :: rest) rfl)
          simp only [intoProto, tryFromProto]
          rw [hurls]
          simp

theorem SecretId.survives_iff {value : SecretId}
    (hreads : text.Reads value) :
    (SecretId.proto text).Survives value ↔ value.chain ≠ .gatewayUrls [] := by
  rw [← ChainIdentifier.survives_iff hreads.chain, Conversion.Survives,
    SecretId.proto]
  simp only [intoProto, tryFromProto, okOr_some, ok_bind, invalid_ok,
    hreads.identityAddress, hreads.identityId]
  apply (ChainIdentifier.proto text).survives_map_iff
  intro left right heq
  exact congrArg SecretId.chain heq

theorem SecretRequest.survives_iff {value : SecretRequest}
    (hreads : text.Reads value.secretId) :
    (SecretRequest.proto text).Survives value ↔
      value.secretId.chain ≠ .gatewayUrls [] := by
  rw [← SecretId.survives_iff hreads, Conversion.Survives,
    SecretRequest.proto]
  simp only [intoProto, tryFromProto, Option.map_some, okOr_some, ok_bind]
  apply (SecretId.proto text).survives_map_iff
  intro left right heq
  exact congrArg SecretRequest.secretId heq

theorem secretIds_survive_iff {secretIds : List SecretId}
    (hreads : ∀ secretId ∈ secretIds, text.Reads secretId) :
    (SecretId.proto text).repeated.Survives secretIds ↔
      ∀ secretId ∈ secretIds, secretId.chain ≠ .gatewayUrls [] := by
  rw [Conversion.repeated_survives_iff]
  exact forall₂_congr fun secretId hmem =>
    SecretId.survives_iff (hreads secretId hmem)

theorem SecretsBox.survives_iff {value : SecretsBox}
    (hreads : ∀ secretId ∈ value.containedSecretIds, text.Reads secretId) :
    (SecretsBox.proto text).Survives value ↔
      ∀ secretId ∈ value.containedSecretIds,
        secretId.chain ≠ .gatewayUrls [] := by
  rw [← secretIds_survive_iff hreads, Conversion.Survives,
    SecretsBox.proto]
  apply (SecretId.proto text).repeated.survives_map_iff
  intro left right heq
  exact congrArg SecretsBox.containedSecretIds heq

theorem RawAttestation.fromProto_intoProto_iff (value : RawAttestation) :
    RawAttestation.fromProto value.intoProto = value ↔
      value.certificates ≠ some [] := by
  obtain ⟨platformType, evidence, certificates⟩ := value
  cases certificates with
  | none => simp [fromProto, intoProto]
  | some certificates =>
      cases certificates with
      | nil => simp [fromProto, intoProto]
      | cons certificate rest => simp [fromProto, intoProto]

/-- Only an empty list of certificates does not come back. -/
theorem AttestationBundle.fromProto_intoProto_iff (value : AttestationBundle) :
    AttestationBundle.fromProto value.intoProto = value ↔
      value.rawAttestation.certificates ≠ some [] := by
  rw [← RawAttestation.fromProto_intoProto_iff]
  simp only [fromProto, intoProto, Option.map_some, Option.getD_some]
  constructor
  · intro heq
    exact congrArg AttestationBundle.rawAttestation heq
  · intro heq
    rw [heq]

theorem EnvReport.survives_iff (value : EnvReport) :
    EnvReport.proto.Survives value ↔
      value.attestation.rawAttestation.certificates ≠ some [] := by
  have hsignature : (value.operatorSignature.map
      OperatorSignature.intoProto).map OperatorSignature.fromProto =
        value.operatorSignature := by
    cases value.operatorSignature <;> rfl
  rw [← AttestationBundle.fromProto_intoProto_iff, Conversion.Survives,
    EnvReport.proto]
  simp only [intoProto, tryFromProto, Option.map_some, okOr_some, ok_bind,
    hsignature, Except.ok.injEq]
  constructor
  · intro heq
    exact congrArg EnvReport.attestation heq
  · intro heq
    rw [heq]

/-- The request without its attestation claims. -/
def ClaimedPolicyRequest.cleared (value : ClaimedPolicyRequest Claims) :
    ClaimedPolicyRequest Claims :=
  { value with attestationClaims := none }

theorem ClaimedPolicyRequest.survives_iff {value : ClaimedPolicyRequest Claims}
    (hreads : ∀ secretId ∈ value.secretIds, text.Reads secretId) :
    ClaimedPolicyRequest.tryFromProto text (value.intoProto text) =
        .ok value.cleared ↔
      (∀ secretId ∈ value.secretIds, secretId.chain ≠ .gatewayUrls []) ∧
        value.envReport.attestation.rawAttestation.certificates ≠
          some [] := by
  rw [← secretIds_survive_iff hreads, ← EnvReport.survives_iff]
  simp only [intoProto, tryFromProto, Option.map_some, okOr_some, ok_bind]
  apply (SecretId.proto text).repeated.survives_map₂_iff EnvReport.proto
  intro left left' right right' heq
  cases heq
  exact ⟨rfl, rfl⟩

/-- The types of the exchange: a value comes back from its message exactly when
it holds no empty list of gateways and no empty list of certificates. -/
theorem secretExchange_survives_iff (text : TextForms) :
    (∀ value : SecretId, text.Reads value →
      ((SecretId.proto text).Survives value ↔
        value.chain ≠ .gatewayUrls [])) ∧
    (∀ value : SecretRequest, text.Reads value.secretId →
      ((SecretRequest.proto text).Survives value ↔
        value.secretId.chain ≠ .gatewayUrls [])) ∧
    (∀ value : SecretsBox,
      (∀ secretId ∈ value.containedSecretIds, text.Reads secretId) →
      ((SecretsBox.proto text).Survives value ↔
        ∀ secretId ∈ value.containedSecretIds,
          secretId.chain ≠ .gatewayUrls [])) ∧
    (∀ value : AttestationBundle,
      AttestationBundle.fromProto value.intoProto = value ↔
        value.rawAttestation.certificates ≠ some []) ∧
    (∀ value : EnvReport, EnvReport.proto.Survives value ↔
      value.attestation.rawAttestation.certificates ≠ some []) ∧
    (∀ (Claims : Type) (value : ClaimedPolicyRequest Claims),
      (∀ secretId ∈ value.secretIds, text.Reads secretId) →
      (ClaimedPolicyRequest.tryFromProto text (value.intoProto text) =
          .ok value.cleared ↔
        (∀ secretId ∈ value.secretIds, secretId.chain ≠ .gatewayUrls []) ∧
          value.envReport.attestation.rawAttestation.certificates ≠
            some [])) :=
  ⟨fun _ hreads => SecretId.survives_iff hreads,
    fun _ hreads => SecretRequest.survives_iff hreads,
    fun _ hreads => SecretsBox.survives_iff hreads,
    AttestationBundle.fromProto_intoProto_iff,
    EnvReport.survives_iff,
    fun _ _ hreads => ClaimedPolicyRequest.survives_iff hreads⟩

/-! ## An empty list of gateways -/

/-- The crates at the zero address and the identity zero. -/
def zeroText : TextForms where
  parseUrl := fun text => .ok { serialization := text }
  formatAddress := fun _ => "0x0000000000000000000000000000000000000000"
  parseAddress := fun _ => .ok fun _ => 0
  formatU256 := fun _ => "0"
  parseU256 := fun _ => .ok fun _ => 0

def zeroSecretId (chain : ChainIdentifier) : SecretId where
  chain := chain
  identityAddress := fun _ => 0
  identityId := fun _ => 0

theorem zeroText_reads (chain : ChainIdentifier) :
    zeroText.Reads (zeroSecretId chain) where
  chain := fun _ _ _ _ => rfl
  identityAddress := rfl
  identityId := rfl

def certifiedBundle (certificates : Option (List Bytes)) :
    AttestationBundle where
  rawAttestation := { platformType := "tdx", evidence := [1], certificates }
  detachedUserdata := []

/-- An empty list of gateways is answered with a missing field, and an empty
list of certificates comes back as no list. -/
theorem secretExchange_emptyLists_lost :
    SecretId.tryFromProto zeroText
        ((zeroSecretId (.gatewayUrls [])).intoProto zeroText) =
      .error (.missingField "identifier") ∧
    AttestationBundle.fromProto (certifiedBundle (some [])).intoProto =
      certifiedBundle none ∧
    ¬∀ value : SecretId, zeroText.Reads value →
      (SecretId.proto zeroText).Survives value := by
  refine ⟨rfl, by decide, ?_⟩
  intro hsurvives
  have hok := hsurvives (zeroSecretId (.gatewayUrls [])) (zeroText_reads _)
  cases hok

/-- A box with an identifier of each kind comes back. -/
theorem secretExchange_kinds_survive :
    (SecretsBox.proto zeroText).Survives
      { encryptedPayload := [1]
        senderPublicKey := []
        alg := "X25519_AES-GCM-SIV_Ed25519"
        containedSecretIds := [
          zeroSecretId (.chainId 1),
          zeroSecretId (.gatewayUrl ⟨"http://localhost:8545/"⟩),
          zeroSecretId (.gatewayUrls [⟨"http://localhost:8545/"⟩])] } := by
  apply ((secretExchange_survives_iff zeroText).2.2.1 _ ?_).mpr
  · decide
  · intro secretId hmem
    simp only [List.mem_cons, List.not_mem_nil, or_false] at hmem
    rcases hmem with rfl | rfl | rfl <;> exact zeroText_reads _

end NxccBridge.Interface
