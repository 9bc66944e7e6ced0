import NxccBridge.Core.LastWriter
import NxccBridge.Enclave.Crypto

/-!
# The enclave's secrets service

`node/enclave/src/secrets/mod.rs`, function by function.  The two maps are
partial functions.  A call takes its clock readings in seconds and the answers
of the attestation service and of the entropy source; it returns the new service
state with the result of the call.
-/

namespace NxccBridge.EnclaveSecrets

open Function
open NxccBridge.Framing
open NxccBridge.Interface
open NxccBridge.AuthorizationId
open NxccBridge.Crypto

/-- Represents a secret stored in the enclave's memory; expiry 0 means none. -/
structure StoredSecret where
  data : Bytes
  expiry : ℕ
  generationTimestamp : ℕ
  deriving DecidableEq

abbrev SecretsStorage := SecretId → Option StoredSecret

variable {Digest : Type*} [DecidableEq Digest]

structure Secrets (platform : Platform Digest) where
  ephemeralKxKeypair : KeyExchangeKeyPair platform
  secretsStorage : SecretsStorage
  authorizations : Digest → Option ℕ

variable {platform : Platform Digest}

/-- `Secrets::new_with_keypair`. -/
def Secrets.newWithKeypair (keys : KeyExchangeKeyPair platform) :
    Secrets platform where
  ephemeralKxKeypair := keys
  secretsStorage := fun _ => none
  authorizations := fun _ => none

/-- The clock as one call reads it: as its `current_time`, and again when it
checks authorizations.  The checks of a call share one reading. -/
structure CallClock where
  now : ℕ
  checked : ℕ
  deriving DecidableEq

/-- A clock that stands still during the call. -/
def CallClock.still (now : ℕ) : CallClock where
  now := now
  checked := now

/-- `expiry == 0 || expiry > current_time`. -/
def unexpired (expiry now : ℕ) : Bool := expiry == 0 || decide (now < expiry)

/-- The attestation service as the caller sees it: the claims it returns are
only logged. -/
abbrev AttestationOracle := AttestationBundle → Except String Unit

/-- On success the whole detached payload is considered trusted. -/
def verifyAttestation (service : AttestationOracle)
    (bundle : AttestationBundle) : Except String Bytes :=
  match service bundle with
  | .ok _ => .ok bundle.detachedUserdata
  | .error e => .error ("Attestation verification failed: " ++ e)

/-! ## Authorizations -/

/-- Lifetime of a grant in seconds. -/
def authorizationLifetime : ℕ := 3600

/-- `timestamp + 3600` on `u64`, which wraps in a release build. -/
def expiryTime (timestamp : ℕ) : ℕ :=
  (timestamp + authorizationLifetime) % 2 ^ 64

/-- Stores an authorization granted by the co-resident runner service. -/
def Secrets.storeAuthorization (self : Secrets platform)
    (report : PolicyExecutionReport) : Secrets platform :=
  if !report.decision then self
  else
    match platform.userDataFromCbor
        report.request.envReport.attestation.detachedUserdata with
    | .error _ => self
    | .ok userdata =>
        { self with
          authorizations := report.request.secretIds.foldl
            (fun authMap secretId =>
              update authMap
                (calculateAuthorizationId platform.sha256 platform.alloy
                  userdata.ephemeralPublicKey secretId report.request.consumer)
                (some (expiryTime report.timestamp)))
            self.authorizations }

/-- Checks if an authorization exists and is valid for the given node and
secret. -/
def Secrets.checkAuthorization (self : Secrets platform) (now : ℕ)
    (bundle : AttestationBundle) (secretId : SecretId)
    (consumer : ConsumerInfo) : Bool :=
  match platform.userDataFromCbor bundle.detachedUserdata with
  | .error _ => false
  | .ok userdata =>
      match self.authorizations
          (calculateAuthorizationId platform.sha256 platform.alloy
            userdata.ephemeralPublicKey secretId consumer) with
      | some expiry => decide (now < expiry)
      | none => false

/-! ## `put_secrets` -/

abbrev SecretsBundle := SecretsBox × EnvReport × ConsumerInfo

/-- The checks of the second loop on one verified bundle; `none` is one of its
`continue` statements. -/
def Secrets.openBundle (self : Secrets platform) (checked : ℕ)
    (bundle : SecretsBundle) (verifiedUserData : Bytes) :
    Option (List PackedSecret) :=
  match platform.userDataFromCbor verifiedUserData with
  | .error _ => none
  | .ok senderUserdata =>
      if senderUserdata.ephemeralPublicKey ≠ bundle.1.senderPublicKey then none
      else if bundle.1.containedSecretIds.all (fun secretId =>
          self.checkAuthorization checked bundle.2.1.attestation secretId
            bundle.2.2) then
        match decryptSecretsBox self.ephemeralKxKeypair bundle.1 with
        | .ok secrets => some secrets
        | .error _ => none
      else none

/-- The body of the storing loop; the number counts inserted entries. -/
def storeSecret (now : ℕ) (state : SecretsStorage × ℕ)
    (secret : PackedSecret) : SecretsStorage × ℕ :=
  let stored : StoredSecret :=
    { data := secret.data
      expiry := secret.expiry
      generationTimestamp := secret.generationTimestamp }
  if secret.expiry ≠ 0 ∧ secret.expiry ≤ now then state
  else
    match state.1 secret.secretId with
    | some existing =>
        if existing.generationTimestamp < secret.generationTimestamp then
          (update state.1 secret.secretId (some stored), state.2 + 1)
        else state
    | none => (update state.1 secret.secretId (some stored), state.2 + 1)

/-- The second loop on one bundle that passed verification. -/
def Secrets.processBundle (self : Secrets platform) (clock : CallClock)
    (state : SecretsStorage × ℕ) (verified : SecretsBundle × Bytes) :
    SecretsStorage × ℕ :=
  match self.openBundle clock.checked verified.1 verified.2 with
  | none => state
  | some secrets => secrets.foldl (storeSecret clock.now) state

/-- The first loop: bundles whose attestation does not verify are skipped. -/
def verifiedBundles (service : AttestationOracle)
    (bundles : List SecretsBundle) : List (SecretsBundle × Bytes) :=
  bundles.filterMap fun bundle =>
    match verifyAttestation service bundle.2.1.attestation with
    | .ok verifiedUserData => some (bundle, verifiedUserData)
    | .error _ => none

/-- Stores secrets received from peers after verifying authorization and
attestation binding; the result says whether anything was added. -/
def Secrets.putSecrets (self : Secrets platform) (clock : CallClock)
    (service : AttestationOracle) (bundles : List SecretsBundle) :
    Secrets platform × Except String Bool :=
  let state := (verifiedBundles service bundles).foldl
    (self.processBundle clock) (self.secretsStorage, 0)
  ({ self with secretsStorage := state.1 }, .ok (decide (0 < state.2)))

/-! ## `generate_secrets` -/

inductive GenerateError
  | report (message : String)
  | alreadyExists (secretId : SecretId)
  | entropy (message : String)
  deriving DecidableEq

def GenerateError.display (debug : SecretId → String) : GenerateError → String
  | .report message => message
  | .alreadyExists secretId => "Secret " ++ debug secretId ++ " already exists"
  | .entropy message => "Failed to generate secret: " ++ message

/-- One request with what `try_fill_bytes` returns should the loop draw for
it. -/
abbrev GenerateRequest := SecretId × ConsumerInfo × Except String Bytes

/-- The loop of `generate_secrets`; an error keeps the entries stored so far. -/
def generateLoop (authorized : SecretId → ConsumerInfo → Bool) (now : ℕ) :
    List GenerateRequest → SecretsStorage →
      SecretsStorage × Except GenerateError Unit
  | [], storage => (storage, .ok ())
  | (secretId, consumer, entropy) :: requests, storage =>
      if !authorized secretId consumer then
        generateLoop authorized now requests storage
      else if (storage secretId).isSome then
        (storage, .error (.alreadyExists secretId))
      else
        match entropy with
        | .error err => (storage, .error (.entropy err))
        | .ok secretData =>
            generateLoop authorized now requests
              (update storage secretId (some {
                data := secretData
                expiry := 0
                generationTimestamp := now }))

/-- Generates new secrets from entropy if authorized and not already existing.
`report` is the outcome of `get_report`. -/
def Secrets.generateSecrets (self : Secrets platform) (clock : CallClock)
    (report : Except String AttestationBundle)
    (requests : List GenerateRequest) :
    Secrets platform × Except GenerateError Unit :=
  match report with
  | .error e => (self, .error (.report e))
  | .ok selfReport =>
      let outcome := generateLoop
        (self.checkAuthorization clock.checked selfReport) clock.now requests
        self.secretsStorage
      ({ self with secretsStorage := outcome.1 }, outcome.2)

/-! ## Reading -/

/-- Retrieves secrets for a locally run worker: a map of secret names to secret
data. -/
def Secrets.getSecretsForLocalWorker (self : Secrets platform)
    (clock : CallClock) (report : Except String AttestationBundle)
    (secretIdsWithNames : List (SecretId × String))
    (consumer : ConsumerInfo) : Except String (String → Option Bytes) :=
  match report with
  | .error e => .error e
  | .ok selfReport =>
      .ok (secretIdsWithNames.foldl (fun workerSecrets (secretId, name) =>
        if self.checkAuthorization clock.checked selfReport secretId
            consumer then
          match self.secretsStorage secretId with
          | some stored =>
              if unexpired stored.expiry clock.now then
                update workerSecrets name (some stored.data)
              else workerSecrets
          | none => workerSecrets
        else workerSecrets) (fun _ => none))

/-- The loop of `get_secrets`: what is packed for the requester. -/
def Secrets.secretsToPack (self : Secrets platform) (clock : CallClock)
    (requester : AttestationBundle)
    (requests : List (SecretId × ConsumerInfo)) : List PackedSecret :=
  requests.filterMap fun (secretId, consumer) =>
    if !self.checkAuthorization clock.checked requester secretId consumer then
      none
    else
      match self.secretsStorage secretId with
      | some stored =>
          if unexpired stored.expiry clock.now then
            some {
              secretId := secretId
              data := stored.data
              expiry := stored.expiry
              generationTimestamp := stored.generationTimestamp }
          else none
      | none => none

/-- Retrieves secrets and packages them into an encrypted `SecretsBox` for the
requester. -/
def Secrets.getSecrets (self : Secrets platform) (clock : CallClock)
    (service : AttestationOracle) (nonce : Nonce)
    (requests : List (SecretId × ConsumerInfo)) (requester : EnvReport) :
    Except String SecretsBox :=
  match verifyAttestation service requester.attestation with
  | .error e => .error ("Requester attestation verification failed: " ++ e)
  | .ok verifiedUserdata =>
      match platform.userDataFromCbor verifiedUserdata with
      | .error e => .error ("Failed to parse requester userdata: " ++ e)
      | .ok requesterUserdata =>
          if requesterUserdata.ephemeralPublicKey.length ≠ 32 then
            .error
              ("Invalid ephemeral public key length in verified requester " ++
                "userdata: " ++
                toString requesterUserdata.ephemeralPublicKey.length)
          else
            let packed :=
              self.secretsToPack clock requester.attestation requests
            match encryptSecretsBox nonce self.ephemeralKxKeypair
                requesterUserdata.ephemeralPublicKey packed with
            | .ok secretsBox => .ok secretsBox
            | .error e =>
                if packed.isEmpty then
                  .error ("Failed to encrypt empty secrets box: " ++ e.display)
                else .error ("Failed to encrypt secrets box: " ++ e.display)

/-- Checks the status (presence and expiry) of requested secrets. -/
def Secrets.checkSecrets (self : Secrets platform) (now : ℕ)
    (ids : List SecretId) : List (SecretId × Bool × ℕ) :=
  ids.map fun secretId =>
    match self.secretsStorage secretId with
    | some secret => (secretId, unexpired secret.expiry now, secret.expiry)
    | none => (secretId, false, 0)

end NxccBridge.EnclaveSecrets
