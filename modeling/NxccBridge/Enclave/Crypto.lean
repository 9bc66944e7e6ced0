import NxccBridge.Enclave.AuthorizationId

/-!
# The secrets box

`node/enclave/src/crypto.rs` seals a list of secrets for one recipient: X25519
agreement, SHA-256 of the shared secret as the key, AES-GCM-SIV with both
public keys as associated data.  The crates it calls are the fields of
`Platform`; what an ideal AEAD promises is stated separately, so that each
result names what it relies on.
-/

namespace NxccBridge.Crypto

open Function
open NxccBridge.Framing
open NxccBridge.Interface
open NxccBridge.AuthorizationId

/-- One secret inside a box: identifier, data, expiry, generation timestamp. -/
structure PackedSecret where
  secretId : SecretId
  data : Bytes
  expiry : ℕ
  generationTimestamp : ℕ
  deriving DecidableEq

/-- The third-party code under the enclave.  `Digest` is the range of SHA-256;
keys of the AEAD are digests. -/
structure Platform (Digest : Type*) where
  sha256 : Bytes → Digest
  alloy : AlloyCbor
  /-- `ciborium::from_reader` at `UserData`. -/
  userDataFromCbor : Bytes → Except String UserData
  /-- `PublicKey::from(&StaticSecret)`. -/
  publicKey : Bytes → Bytes
  publicKey_length : ∀ secret, (publicKey secret).length = 32
  diffieHellman : Bytes → Bytes → Bytes
  /-- Key, nonce, message, associated data. -/
  aeadEncrypt : Digest → Bytes → Bytes → Bytes → Except String Bytes
  aeadDecrypt : Digest → Bytes → Bytes → Bytes → Except String Bytes
  encodeSecrets : List PackedSecret → Except String Bytes
  decodeSecrets : Bytes → Except String (List PackedSecret)

inductive CryptoError
  | invalidKeyLength (expected got : ℕ)
  | operationFailed (message : String)
  | serialization (message : String)
  | deserialization (message : String)
  deriving DecidableEq

/-- The `thiserror` display strings. -/
def CryptoError.display : CryptoError → String
  | .invalidKeyLength expected got =>
      "Invalid key length: expected " ++ toString expected ++ ", got " ++
        toString got
  | .operationFailed message => "Cryptography operation failed: " ++ message
  | .serialization message => "Serialization error: " ++ message
  | .deserialization message => "Deserialization error: " ++ message

def aesNonceSize : ℕ := 12

/-- What `generate_nonce` draws. -/
abbrev Nonce := {bytes : Bytes // bytes.length = aesNonceSize}

def boxAlg : String := "X25519_AES-GCM-SIV"

variable {Digest : Type*}

/-- An X25519 keypair; the public half is always that of the secret. -/
structure KeyExchangeKeyPair (platform : Platform Digest) where
  secret : Bytes
  publicKey : Bytes
  publicKey_eq : publicKey = platform.publicKey secret

variable {platform : Platform Digest}

theorem KeyExchangeKeyPair.publicKey_length (keys : KeyExchangeKeyPair platform) :
    keys.publicKey.length = 32 := by
  rw [keys.publicKey_eq]
  exact platform.publicKey_length _

def KeyExchangeKeyPair.diffieHellman (keys : KeyExchangeKeyPair platform)
    (theirPublic : Bytes) : Bytes :=
  platform.diffieHellman keys.secret theirPublic

def deriveSymmetricKey (platform : Platform Digest) (sharedSecret : Bytes) :
    Digest :=
  platform.sha256 sharedSecret

def encryptAead (platform : Platform Digest) (nonce : Nonce)
    (symmetricKey : Digest) (plaintext aad : Bytes) :
    Except CryptoError (Bytes × Bytes) :=
  match platform.aeadEncrypt symmetricKey nonce plaintext aad with
  | .ok ciphertext => .ok (nonce, ciphertext)
  | .error e => .error (.operationFailed ("AEAD encryption failed: " ++ e))

def decryptAead (platform : Platform Digest) (symmetricKey : Digest)
    (nonce ciphertext aad : Bytes) : Except CryptoError Bytes :=
  if nonce.length ≠ aesNonceSize then
    .error (.invalidKeyLength aesNonceSize nonce.length)
  else
    match platform.aeadDecrypt symmetricKey nonce ciphertext aad with
    | .ok plaintext => .ok plaintext
    | .error e => .error (.operationFailed ("AEAD decryption failed: " ++ e))

/-- Encrypts secrets into a `SecretsBox` for a recipient. -/
def encryptSecretsBox (nonce : Nonce) (ours : KeyExchangeKeyPair platform)
    (recipient : Bytes) (secrets : List PackedSecret) :
    Except CryptoError SecretsBox :=
  let symmetricKey := deriveSymmetricKey platform (ours.diffieHellman recipient)
  match platform.encodeSecrets secrets with
  | .error e => .error (.serialization e)
  | .ok payload =>
      let aad := recipient ++ ours.publicKey
      match encryptAead platform nonce symmetricKey payload aad with
      | .error e => .error e
      | .ok (nonce, ciphertext) =>
          .ok {
            encryptedPayload := nonce ++ ciphertext
            senderPublicKey := ours.publicKey
            alg := boxAlg
            containedSecretIds := secrets.map PackedSecret.secretId }

/-- Decrypts secrets from a `SecretsBox`. -/
def decryptSecretsBox (ours : KeyExchangeKeyPair platform)
    (secretsBox : SecretsBox) : Except CryptoError (List PackedSecret) :=
  if secretsBox.alg ≠ boxAlg then
    .error (.operationFailed
      ("Unsupported SecretsBox algorithm: " ++ secretsBox.alg))
  else if secretsBox.senderPublicKey.length ≠ 32 then
    .error (.invalidKeyLength 32 secretsBox.senderPublicKey.length)
  else
    let sender := secretsBox.senderPublicKey
    let symmetricKey := deriveSymmetricKey platform (ours.diffieHellman sender)
    if secretsBox.encryptedPayload.length < aesNonceSize then
      .error (.operationFailed "Encrypted payload too short")
    else
      let nonce := secretsBox.encryptedPayload.take aesNonceSize
      let ciphertext := secretsBox.encryptedPayload.drop aesNonceSize
      let aad := ours.publicKey ++ sender
      match decryptAead platform symmetricKey nonce ciphertext aad with
      | .error e => .error e
      | .ok plaintext =>
          match platform.decodeSecrets plaintext with
          | .ok secrets => .ok secrets
          | .error e => .error (.deserialization e)

/-! ## What ideal primitives give -/

/-- The key agreement is symmetric and the encodings and the AEAD undo each
other. -/
structure Platform.RoundTrips (platform : Platform Digest) : Prop where
  agreement : ∀ left right,
    platform.diffieHellman left (platform.publicKey right) =
      platform.diffieHellman right (platform.publicKey left)
  aead : ∀ {key nonce message aad ciphertext},
    platform.aeadEncrypt key nonce message aad = .ok ciphertext →
      platform.aeadDecrypt key nonce ciphertext aad = .ok message
  secrets : ∀ {secrets payload},
    platform.encodeSecrets secrets = .ok payload →
      platform.decodeSecrets payload = .ok secrets

/-- A sealed ciphertext opens to the sealed message or not at all, whatever
key, nonce and associated data are tried. -/
def Platform.IdealAead (platform : Platform Digest) : Prop :=
  ∀ {key nonce message aad ciphertext otherKey otherNonce otherAad opened},
    platform.aeadEncrypt key nonce message aad = .ok ciphertext →
    platform.aeadDecrypt otherKey otherNonce ciphertext otherAad = .ok opened →
      opened = message

/-- Everything a successful encryption fixes about the box. -/
theorem encryptSecretsBox_ok {nonce : Nonce}
    {ours : KeyExchangeKeyPair platform} {recipient : Bytes}
    {secrets : List PackedSecret} {secretsBox : SecretsBox}
    (hbox : encryptSecretsBox nonce ours recipient secrets = .ok secretsBox) :
    ∃ payload ciphertext,
      platform.encodeSecrets secrets = .ok payload ∧
      platform.aeadEncrypt
        (deriveSymmetricKey platform (ours.diffieHellman recipient)) nonce
        payload (recipient ++ ours.publicKey) = .ok ciphertext ∧
      secretsBox = {
        encryptedPayload := nonce.1 ++ ciphertext
        senderPublicKey := ours.publicKey
        alg := boxAlg
        containedSecretIds := secrets.map PackedSecret.secretId } := by
  simp only [encryptSecretsBox] at hbox
  split at hbox
  · cases hbox
  · rename_i payload hpayload
    split at hbox
    · cases hbox
    · rename_i sealedNonce ciphertext hsealed
      simp only [encryptAead] at hsealed
      split at hsealed
      · rename_i bytes hbytes
        obtain ⟨rfl, rfl⟩ := Prod.mk.inj (Except.ok.inj hsealed)
        exact ⟨payload, _, hpayload, hbytes, (Except.ok.inj hbox).symm⟩
      · cases hsealed

/-- Opening an encrypted box is opening its ciphertext: the framing checks of
`decrypt_secrets_box` all pass. -/
theorem decryptSecretsBox_framed (theirs ours : KeyExchangeKeyPair platform)
    (nonce : Nonce) (ciphertext : Bytes) (ids : List SecretId) :
    decryptSecretsBox theirs {
      encryptedPayload := nonce.1 ++ ciphertext
      senderPublicKey := ours.publicKey
      alg := boxAlg
      containedSecretIds := ids } =
      match decryptAead platform
        (deriveSymmetricKey platform (theirs.diffieHellman ours.publicKey))
        nonce ciphertext (theirs.publicKey ++ ours.publicKey) with
      | .error e => .error e
      | .ok plaintext =>
          match platform.decodeSecrets plaintext with
          | .ok secrets => .ok secrets
          | .error e => .error (.deserialization e) := by
  have hlong : ¬ (nonce.1 ++ ciphertext).length < aesNonceSize := by
    rw [List.length_append, nonce.2]
    omega
  have htake : (nonce.1 ++ ciphertext).take aesNonceSize = nonce.1 :=
    List.take_left' nonce.2
  have hdrop : (nonce.1 ++ ciphertext).drop aesNonceSize = ciphertext :=
    List.drop_left' nonce.2
  simp only [decryptSecretsBox, ours.publicKey_length, hlong, htake, hdrop,
    ne_eq, not_true_eq_false, if_false]

/-- The recipient recovers exactly the packed secrets. -/
theorem decrypt_encryptSecretsBox (hroundTrips : platform.RoundTrips)
    {nonce : Nonce} {ours theirs : KeyExchangeKeyPair platform}
    {secrets : List PackedSecret} {secretsBox : SecretsBox}
    (hbox : encryptSecretsBox nonce ours theirs.publicKey secrets =
      .ok secretsBox) :
    decryptSecretsBox theirs secretsBox = .ok secrets := by
  obtain ⟨payload, ciphertext, hpayload, hcipher, rfl⟩ :=
    encryptSecretsBox_ok hbox
  have hshared : theirs.diffieHellman ours.publicKey =
      ours.diffieHellman theirs.publicKey := by
    simp only [KeyExchangeKeyPair.diffieHellman, theirs.publicKey_eq,
      ours.publicKey_eq, hroundTrips.agreement]
  rw [decryptSecretsBox_framed, hshared]
  simp only [decryptAead, nonce.2, ne_eq, not_true_eq_false, if_false,
    hroundTrips.aead hcipher, hroundTrips.secrets hpayload]

/-- Whoever opens the box, with whatever keys, finds the packed secrets. -/
theorem eq_of_decrypt_encryptSecretsBox (hroundTrips : platform.RoundTrips)
    (hideal : platform.IdealAead) {nonce : Nonce}
    {ours theirs : KeyExchangeKeyPair platform} {recipient : Bytes}
    {secrets opened : List PackedSecret} {secretsBox : SecretsBox}
    (hbox : encryptSecretsBox nonce ours recipient secrets = .ok secretsBox)
    (hopened : decryptSecretsBox theirs secretsBox = .ok opened) :
    opened = secrets := by
  obtain ⟨payload, ciphertext, hpayload, hcipher, rfl⟩ :=
    encryptSecretsBox_ok hbox
  rw [decryptSecretsBox_framed] at hopened
  simp only [decryptAead, nonce.2, ne_eq, not_true_eq_false, if_false] at hopened
  split at hopened
  · cases hopened
  · rename_i plaintext hplaintext
    split at hplaintext
    · rename_i message hmessage
      have hsame : message = payload := hideal hcipher hmessage
      obtain rfl := Except.ok.inj hplaintext
      rw [hsame, hroundTrips.secrets hpayload] at hopened
      exact (Except.ok.inj hopened).symm
    · cases hplaintext

/-! ## A platform that can be run

Symbolic primitives for evaluating the model: SHA-256 is the identity, a
ciphertext carries its key, nonce and associated data in front of the message,
and the decoders know the listed user data keys and payloads. -/

/-- CBOR of `UserData` with no block hashes. -/
def cborUserData (key : Bytes) : Bytes :=
  Cbor.mapHead 2 ++ fieldName "ephemeral_public_key" ++
    Cbor.array cborByte key ++ fieldName "block_hashes" ++
    Cbor.array Cbor.uint []

def padKey (secret : Bytes) : Bytes := (secret ++ List.replicate 32 0).take 32

def cipherFrame (key nonce aad : Bytes) : Bytes :=
  Cbor.byteString key ++ (Cbor.byteString nonce ++ Cbor.byteString aad)

def symbolicAlloy : AlloyCbor where
  address := fun value => Cbor.byteString (List.ofFn value)
  u256 := fun value => Cbor.array Cbor.uint (List.ofFn value)
  address_selfDelimiting :=
    Cbor.byteString_selfDelimiting.comp List.ofFn_injective
  u256_selfDelimiting :=
    (Cbor.array_selfDelimiting Cbor.uint_selfDelimiting).comp
      List.ofFn_injective

def symbolicPlatform (keys : List Bytes) (payloads : List (List PackedSecret)) :
    Platform Bytes where
  sha256 := id
  alloy := symbolicAlloy
  userDataFromCbor := fun bytes =>
    match keys.find? (fun key => cborUserData key = bytes) with
    | some key => .ok { ephemeralPublicKey := key, blockHashes := [] }
    | none => .error "not a UserData item"
  publicKey := padKey
  publicKey_length := fun secret => by simp [padKey]
  diffieHellman := fun secret theirPublic =>
    List.zipWith (· + ·) (padKey secret) theirPublic
  aeadEncrypt := fun key nonce message aad =>
    .ok (cipherFrame key nonce aad ++ message)
  aeadDecrypt := fun key nonce ciphertext aad =>
    if cipherFrame key nonce aad <+: ciphertext then
      .ok (ciphertext.drop (cipherFrame key nonce aad).length)
    else .error "aead::Error"
  encodeSecrets := fun secrets =>
    if secrets ∈ payloads then .ok (List.replicate (payloads.idxOf secrets) 0)
    else .error "not a listed payload"
  decodeSecrets := fun bytes =>
    match payloads[bytes.length]? with
    | some secrets => .ok secrets
    | none => .error "not a listed payload"

private theorem cipherFrame_inj {key nonce aad key' nonce' aad' : Bytes}
    {rest rest' : Bytes}
    (heq : cipherFrame key nonce aad ++ rest =
      cipherFrame key' nonce' aad' ++ rest') : rest = rest' := by
  have hframe := Cbor.byteString_selfDelimiting.append
    (Cbor.byteString_selfDelimiting.append Cbor.byteString_selfDelimiting)
  exact (hframe (key, nonce, aad) (key', nonce', aad') rest rest' heq).2

theorem symbolicPlatform_roundTrips (keys : List Bytes)
    (payloads : List (List PackedSecret)) :
    (symbolicPlatform keys payloads).RoundTrips where
  agreement := fun left right => List.zipWith_comm_of_comm add_comm
  aead := by
    intro key nonce message aad ciphertext hsealed
    simp only [symbolicPlatform, Except.ok.injEq] at hsealed ⊢
    subst hsealed
    simp
  secrets := by
    intro secrets payload hpayload
    simp only [symbolicPlatform] at hpayload ⊢
    split_ifs at hpayload with hmem
    rw [← Except.ok.inj hpayload, List.length_replicate,
      List.getElem?_idxOf hmem]

theorem symbolicPlatform_idealAead (keys : List Bytes)
    (payloads : List (List PackedSecret)) :
    (symbolicPlatform keys payloads).IdealAead := by
  intro key nonce message aad ciphertext otherKey otherNonce otherAad opened
    hsealed hopened
  simp only [symbolicPlatform, Except.ok.injEq] at hsealed hopened
  subst hsealed
  split_ifs at hopened with hstarts
  obtain ⟨rest, hrest⟩ := hstarts
  rw [← hrest, List.drop_left, Except.ok.injEq] at hopened
  rw [← hopened]
  exact cipherFrame_inj hrest

def symbolicKeyPair (keys : List Bytes) (payloads : List (List PackedSecret))
    (secret : Bytes) : KeyExchangeKeyPair (symbolicPlatform keys payloads) where
  secret := secret
  publicKey := padKey secret
  publicKey_eq := rfl

/-- A report whose detached userdata attests `key`. -/
def symbolicReport (key : Bytes) : EnvReport where
  attestation := {
    rawAttestation := { platformType := "dummy", evidence := [], certificates := none }
    detachedUserdata := cborUserData key }
  operatorSignature := none

/-- The box that `encrypt_secrets_box` makes of the payload number `index`, but
for the cleartext list. -/
def symbolicBox (sender recipient : Bytes) (listed : List SecretId)
    (index : ℕ) : SecretsBox where
  encryptedPayload := List.replicate 12 0 ++
    cipherFrame (List.zipWith (· + ·) (padKey sender) (padKey recipient))
      (List.replicate 12 0) (padKey recipient ++ padKey sender) ++
    List.replicate index 0
  senderPublicKey := padKey sender
  alg := boxAlg
  containedSecretIds := listed

def sampleSecretId (identity : UInt64) : SecretId where
  chain := .chainId 1
  identityAddress := fun _ => 0
  identityId := fun _ => identity

/-- One secret of the identity 7. -/
def samplePayload (data : Byte) (generationTimestamp : ℕ) : List PackedSecret :=
  [{ secretId := sampleSecretId 7
     data := [data]
     expiry := 0
     generationTimestamp := generationTimestamp }]

def sampleConsumer (hash : Byte) : ConsumerInfo where
  bundleHash := [hash]
  signature := []

/-- A positive report that lets the holder of `key` provide or receive the
secret of the identity 7. -/
def sampleGrant (key : Bytes) : PolicyExecutionReport where
  request := {
    secretIds := [sampleSecretId 7]
    consumer := sampleConsumer 0
    envReport := symbolicReport key }
  decision := true
  timestamp := 1

end NxccBridge.Crypto
