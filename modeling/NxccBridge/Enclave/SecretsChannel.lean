import Mathlib.Data.Set.Insert
import NxccBridge.Core.Indexing
import NxccBridge.Core.Aead
import NxccBridge.Enclave.Crypto

/-!
# The secrets box as a channel

Who can open which box, when the AEAD opens exactly what was sealed.  The
associated data names the recipient before the sender, so it tells the two
directions apart.
-/

namespace NxccBridge.SecretsChannel

open NxccBridge.Aead
open NxccBridge.Framing
open NxccBridge.Indexing
open NxccBridge.Interface
open NxccBridge.Crypto

variable {Digest : Type*} {platform : Platform Digest}

/-! ## The boxes that were made -/

/-- A successful call of `encrypt_secrets_box`. -/
structure Sent (platform : Platform Digest) where
  nonce : Nonce
  ours : KeyExchangeKeyPair platform
  recipient : Octets 32
  secrets : List PackedSecret
  secretsBox : SecretsBox
  sealed : encryptSecretsBox nonce ours recipient.val secrets = .ok secretsBox

/-- The call of the AEAD under it. -/
def Sent.sealing (sent : Sent platform) :
    Sealing Digest Bytes Bytes Bytes Bytes where
  key := deriveSymmetricKey platform
    (sent.ours.diffieHellman sent.recipient.val)
  nonce := sent.nonce.val
  message := (platform.encodeSecrets sent.secrets).toOption.getD []
  aad := sent.recipient.val ++ sent.ours.publicKey
  ciphertext := sent.secretsBox.encryptedPayload.drop aesNonceSize

theorem Sent.encodeSecrets (sent : Sent platform) :
    platform.encodeSecrets sent.secrets = .ok sent.sealing.message := by
  obtain ⟨payload, ciphertext, hpayload, -, -⟩ :=
    encryptSecretsBox_ok sent.sealed
  simp [Sent.sealing, hpayload, Except.toOption]

theorem Sent.secretsBox_eq (sent : Sent platform) :
    sent.secretsBox = {
      encryptedPayload := sent.nonce.val ++ sent.sealing.ciphertext
      senderPublicKey := sent.ours.publicKey
      alg := boxAlg
      containedSecretIds := sent.secrets.map PackedSecret.secretId } := by
  obtain ⟨payload, ciphertext, -, -, hbox⟩ := encryptSecretsBox_ok sent.sealed
  have hciphertext : sent.sealing.ciphertext = ciphertext := by
    rw [Sent.sealing, hbox]
    exact List.drop_left' sent.nonce.property
  rw [hciphertext]
  exact hbox

/-- The agreement is symmetric, the encoding is undone, and the AEAD opens what
was sealed for these boxes and nothing else. -/
structure Ideal (platform : Platform Digest) (made : Set (Sent platform)) :
    Prop where
  agreement : ∀ left right,
    platform.diffieHellman left (platform.publicKey right) =
      platform.diffieHellman right (platform.publicKey left)
  secrets : ∀ {secrets payload},
    platform.encodeSecrets secrets = .ok payload →
      platform.decodeSecrets payload = .ok secrets
  aead : IdealAead
    (fun key nonce ciphertext aad =>
      (platform.aeadDecrypt key nonce ciphertext aad).toOption)
    (Sent.sealing '' made)

/-! ## What opens -/

/-- Everything a successful decryption has found. -/
theorem decryptSecretsBox_ok {keys : KeyExchangeKeyPair platform}
    {secretsBox : SecretsBox} {opened : List PackedSecret}
    (hopened : decryptSecretsBox keys secretsBox = .ok opened) :
    secretsBox.alg = boxAlg ∧
      secretsBox.senderPublicKey.length = 32 ∧
      aesNonceSize ≤ secretsBox.encryptedPayload.length ∧
      ∃ plaintext,
        platform.aeadDecrypt
          (deriveSymmetricKey platform
            (keys.diffieHellman secretsBox.senderPublicKey))
          (secretsBox.encryptedPayload.take aesNonceSize)
          (secretsBox.encryptedPayload.drop aesNonceSize)
          (keys.publicKey ++ secretsBox.senderPublicKey) = .ok plaintext ∧
        platform.decodeSecrets plaintext = .ok opened := by
  rw [decryptSecretsBox] at hopened
  split_ifs at hopened with halg hlength hshort
  refine ⟨not_not.mp halg, not_not.mp hlength, not_lt.mp hshort, ?_⟩
  simp only [decryptAead] at hopened
  have hnonce : (secretsBox.encryptedPayload.take aesNonceSize).length =
      aesNonceSize := by
    rw [List.length_take, min_eq_left (not_lt.mp hshort)]
  rw [if_neg (not_not.mpr hnonce)] at hopened
  cases hplaintext : platform.aeadDecrypt
      (deriveSymmetricKey platform
        (keys.diffieHellman secretsBox.senderPublicKey))
      (secretsBox.encryptedPayload.take aesNonceSize)
      (secretsBox.encryptedPayload.drop aesNonceSize)
      (keys.publicKey ++ secretsBox.senderPublicKey) with
  | error e => simp [hplaintext] at hopened
  | ok plaintext =>
      refine ⟨plaintext, rfl, ?_⟩
      cases hdecoded : platform.decodeSecrets plaintext with
      | error e => simp [hplaintext, hdecoded] at hopened
      | ok secrets => simpa [hplaintext, hdecoded] using hopened

variable {made : Set (Sent platform)}

/-- Whatever is opened is a box that its sender made for this recipient. -/
theorem sent_of_decrypt (hideal : Ideal platform made)
    {keys : KeyExchangeKeyPair platform} {secretsBox : SecretsBox}
    {opened : List PackedSecret}
    (hopened : decryptSecretsBox keys secretsBox = .ok opened) :
    ∃ sent ∈ made, sent.recipient.val = keys.publicKey ∧
      sent.ours.publicKey = secretsBox.senderPublicKey ∧
      sent.secretsBox.encryptedPayload = secretsBox.encryptedPayload ∧
      sent.secrets = opened := by
  obtain ⟨-, hlength, -, plaintext, hplaintext, hdecoded⟩ :=
    decryptSecretsBox_ok hopened
  obtain ⟨sent, hsent, hsealing⟩ := hideal.aead.only _ _ _ _ plaintext
    (congrArg Except.toOption hplaintext)
  have haad : sent.recipient.val ++ sent.ours.publicKey =
      keys.publicKey ++ secretsBox.senderPublicKey :=
    congrArg Sealing.aad hsealing
  have hkeys := List.append_inj haad (by
    rw [length_octets, keys.publicKey_length])
  have hnonce : sent.nonce.val =
      secretsBox.encryptedPayload.take aesNonceSize :=
    congrArg Sealing.nonce hsealing
  have hciphertext : sent.sealing.ciphertext =
      secretsBox.encryptedPayload.drop aesNonceSize :=
    congrArg Sealing.ciphertext hsealing
  have hmessage : sent.sealing.message = plaintext :=
    congrArg Sealing.message hsealing
  refine ⟨sent, hsent, hkeys.1, hkeys.2, ?_, ?_⟩
  · rw [sent.secretsBox_eq, hciphertext, hnonce, List.take_append_drop]
  · have hsame := hideal.secrets sent.encodeSecrets
    rw [hmessage, hdecoded] at hsame
    exact (Except.ok.inj hsame).symm

/-- The payload of a box opens for its recipient and under its sender's key
alone. -/
theorem keys_of_decrypt_sent (hideal : Ideal platform made)
    {sent : Sent platform} (hsent : sent ∈ made)
    {keys : KeyExchangeKeyPair platform} {secretsBox : SecretsBox}
    {opened : List PackedSecret}
    (hopened : decryptSecretsBox keys secretsBox = .ok opened)
    (hpayload : secretsBox.encryptedPayload =
      sent.secretsBox.encryptedPayload) :
    keys.publicKey = sent.recipient.val ∧
      secretsBox.senderPublicKey = sent.ours.publicKey := by
  obtain ⟨-, -, -, plaintext, hplaintext, -⟩ := decryptSecretsBox_ok hopened
  have hparts : secretsBox.encryptedPayload =
      sent.nonce.val ++ sent.sealing.ciphertext := by
    rw [hpayload, sent.secretsBox_eq]
  rw [hparts, List.take_left' sent.nonce.property,
    List.drop_left' sent.nonce.property] at hplaintext
  obtain ⟨-, haad, -⟩ := hideal.aead.unique ⟨sent, hsent, rfl⟩
    (congrArg Except.toOption hplaintext)
  exact List.append_inj haad (by
    rw [keys.publicKey_length, length_octets])

/-- The recipient finds the secrets that were packed. -/
theorem decrypt_sent (hideal : Ideal platform made) {sent : Sent platform}
    (hsent : sent ∈ made) {keys : KeyExchangeKeyPair platform}
    (hkeys : keys.publicKey = sent.recipient.val) :
    decryptSecretsBox keys sent.secretsBox = .ok sent.secrets := by
  have hshared : keys.diffieHellman sent.ours.publicKey =
      sent.ours.diffieHellman sent.recipient.val := by
    rw [← hkeys, KeyExchangeKeyPair.diffieHellman,
      KeyExchangeKeyPair.diffieHellman, keys.publicKey_eq,
      sent.ours.publicKey_eq, hideal.agreement]
  have hopens := hideal.aead.opens _ ⟨sent, hsent, rfl⟩
  have hplaintext : platform.aeadDecrypt
      (deriveSymmetricKey platform (keys.diffieHellman sent.ours.publicKey))
      sent.nonce.val sent.sealing.ciphertext
      (keys.publicKey ++ sent.ours.publicKey) =
        .ok sent.sealing.message := by
    rw [hshared, hkeys]
    change Except.toOption (platform.aeadDecrypt sent.sealing.key _ _
      sent.sealing.aad) = _ at hopens
    cases hresult : platform.aeadDecrypt sent.sealing.key sent.sealing.nonce
        sent.sealing.ciphertext sent.sealing.aad with
    | error e => simp [hresult, Except.toOption] at hopens
    | ok message =>
        obtain rfl : message = sent.sealing.message := by
          simpa [hresult, Except.toOption] using hopens
        exact hresult
  rw [sent.secretsBox_eq, decryptSecretsBox_framed]
  simp only [decryptAead, sent.nonce.property, ne_eq, not_true_eq_false,
    if_false, hplaintext, hideal.secrets sent.encodeSecrets]

/-! ## Slices and arrays

`decrypt_aead` and `decrypt_secrets_box` once more, with what their slices and
conversions do to a length they do not expect. -/

/-- `split_at`. -/
def splitAt (bytes : Bytes) (middle : ℕ) : Outcome (Bytes × Bytes) :=
  if middle ≤ bytes.length then
    .ok (bytes.take middle, bytes.drop middle)
  else .panic

/-- `GenericArray::from_slice`. -/
def fromSlice (length : ℕ) (bytes : Bytes) : Outcome (Octets length) :=
  if hlength : bytes.length = length then .ok ⟨bytes, hlength⟩ else .panic

/-- `try_into` at an array. -/
def tryInto (length : ℕ) (bytes : Bytes) :
    Except CryptoError (Octets length) :=
  if hlength : bytes.length = length then .ok ⟨bytes, hlength⟩
  else .error (.invalidKeyLength length bytes.length)

def decryptAeadOutcome (platform : Platform Digest) (symmetricKey : Digest)
    (nonce ciphertext aad : Bytes) : Outcome (Except CryptoError Bytes) :=
  if nonce.length ≠ aesNonceSize then
    .ok (.error (.invalidKeyLength aesNonceSize nonce.length))
  else do
    let nonceArr ← fromSlice aesNonceSize nonce
    match platform.aeadDecrypt symmetricKey nonceArr.val ciphertext aad with
    | .ok plaintext => .ok (.ok plaintext)
    | .error e =>
        .ok (.error (.operationFailed ("AEAD decryption failed: " ++ e)))

def decryptSecretsBoxOutcome (ours : KeyExchangeKeyPair platform)
    (secretsBox : SecretsBox) :
    Outcome (Except CryptoError (List PackedSecret)) :=
  if secretsBox.alg ≠ boxAlg then
    .ok (.error (.operationFailed
      ("Unsupported SecretsBox algorithm: " ++ secretsBox.alg)))
  else
    match tryInto 32 secretsBox.senderPublicKey with
    | .error e => .ok (.error e)
    | .ok sender =>
        let symmetricKey :=
          deriveSymmetricKey platform (ours.diffieHellman sender.val)
        if secretsBox.encryptedPayload.length < aesNonceSize then
          .ok (.error (.operationFailed "Encrypted payload too short"))
        else do
          let (nonce, ciphertext) ←
            splitAt secretsBox.encryptedPayload aesNonceSize
          let aad := ours.publicKey ++ sender.val
          match ← decryptAeadOutcome platform symmetricKey nonce ciphertext
              aad with
          | .error e => .ok (.error e)
          | .ok plaintext =>
              match platform.decodeSecrets plaintext with
              | .ok secrets => .ok (.ok secrets)
              | .error e => .ok (.error (.deserialization e))

theorem decryptAeadOutcome_eq (symmetricKey : Digest)
    (nonce ciphertext aad : Bytes) :
    decryptAeadOutcome platform symmetricKey nonce ciphertext aad =
      .ok (decryptAead platform symmetricKey nonce ciphertext aad) := by
  rw [decryptAeadOutcome, decryptAead]
  by_cases hnonce : nonce.length = aesNonceSize
  · rw [if_neg (not_not.mpr hnonce), if_neg (not_not.mpr hnonce), fromSlice,
      dif_pos hnonce, Outcome.ok_bind]
    cases platform.aeadDecrypt symmetricKey nonce ciphertext aad <;> rfl
  · rw [if_pos hnonce, if_pos hnonce]

/-- Every length that a slice or a conversion asks for was checked before. -/
theorem decryptSecretsBoxOutcome_eq (ours : KeyExchangeKeyPair platform)
    (secretsBox : SecretsBox) :
    decryptSecretsBoxOutcome ours secretsBox =
      .ok (decryptSecretsBox ours secretsBox) := by
  rw [decryptSecretsBoxOutcome, decryptSecretsBox]
  by_cases halg : secretsBox.alg = boxAlg
  · rw [if_neg (not_not.mpr halg), if_neg (not_not.mpr halg), tryInto]
    by_cases hlength : secretsBox.senderPublicKey.length = 32
    · rw [dif_pos hlength, if_neg (not_not.mpr hlength)]
      by_cases hshort : secretsBox.encryptedPayload.length < aesNonceSize
      · simp only [if_pos hshort]
      · simp only [if_neg hshort, splitAt, if_pos (not_lt.mp hshort),
          Outcome.ok_bind, decryptAeadOutcome_eq]
        cases decryptAead platform
            (deriveSymmetricKey platform
              (ours.diffieHellman secretsBox.senderPublicKey))
            (secretsBox.encryptedPayload.take aesNonceSize)
            (secretsBox.encryptedPayload.drop aesNonceSize)
            (ours.publicKey ++ secretsBox.senderPublicKey) with
        | error e => rfl
        | ok plaintext =>
            cases hdecoded : platform.decodeSecrets plaintext with
            | error e => simp [hdecoded]
            | ok secrets => simp [hdecoded]
    · rw [dif_neg hlength, if_pos hlength]
  · rw [if_pos halg, if_pos halg]

/-! ## The channel -/

/-- A decryption that returns an error. -/
def Rejects (keys : KeyExchangeKeyPair platform) (secretsBox : SecretsBox) :
    Prop :=
  ∃ e, decryptSecretsBoxOutcome keys secretsBox = .ok (.error e)

theorem rejects_of_not_ok {keys : KeyExchangeKeyPair platform}
    {secretsBox : SecretsBox}
    (hnever : ∀ opened, decryptSecretsBox keys secretsBox ≠ .ok opened) :
    Rejects keys secretsBox := by
  rw [Rejects, decryptSecretsBoxOutcome_eq]
  cases hresult : decryptSecretsBox keys secretsBox with
  | error e => exact ⟨e, rfl⟩
  | ok opened => exact absurd hresult (hnever opened)

/-- A sent box and a recipient; `made` are all the boxes that were sent. -/
structure Directed (made : Set (Sent platform)) (sent : Sent platform)
    (theirs : KeyExchangeKeyPair platform) : Prop where
  delivers : decryptSecretsBoxOutcome theirs sent.secretsBox =
    .ok (.ok sent.secrets)
  containedSecretIds : sent.secretsBox.containedSecretIds =
    sent.secrets.map PackedSecret.secretId
  otherRecipient : ∀ other : KeyExchangeKeyPair platform,
    other.publicKey ≠ theirs.publicKey → Rejects other sent.secretsBox
  otherSender : ∀ key, key ≠ sent.secretsBox.senderPublicKey →
    Rejects theirs { sent.secretsBox with senderPublicKey := key }
  otherPayload : ∀ payload, payload ≠ sent.secretsBox.encryptedPayload →
    (∀ other ∈ made, other.ours.publicKey = sent.ours.publicKey →
      other.recipient = sent.recipient →
        other.secretsBox.encryptedPayload ≠ payload) →
    Rejects theirs { sent.secretsBox with encryptedPayload := payload }
  reflected : sent.ours.publicKey ≠ theirs.publicKey →
    Rejects sent.ours sent.secretsBox ∧
      Rejects sent.ours
        { sent.secretsBox with senderPublicKey := theirs.publicKey }
  malformed : ∀ (keys : KeyExchangeKeyPair platform) secretsBox,
    secretsBox.alg ≠ boxAlg ∨ secretsBox.senderPublicKey.length ≠ 32 ∨
        secretsBox.encryptedPayload.length < aesNonceSize →
      Rejects keys secretsBox
  noPanic : ∀ (keys : KeyExchangeKeyPair platform) secretsBox,
    decryptSecretsBoxOutcome keys secretsBox ≠ .panic

theorem secretsBox_directed (hideal : Ideal platform made)
    {sent : Sent platform} (hsent : sent ∈ made)
    {theirs : KeyExchangeKeyPair platform}
    (htheirs : theirs.publicKey = sent.recipient.val) :
    Directed made sent theirs := by
  have hsender : sent.secretsBox.senderPublicKey = sent.ours.publicKey := by
    rw [sent.secretsBox_eq]
  constructor
  case delivers =>
    rw [decryptSecretsBoxOutcome_eq, decrypt_sent hideal hsent htheirs]
  case containedSecretIds => rw [sent.secretsBox_eq]
  case otherRecipient =>
    intro other hother
    refine rejects_of_not_ok fun opened hopened => hother ?_
    rw [htheirs]
    exact (keys_of_decrypt_sent hideal hsent hopened rfl).1
  case otherSender =>
    intro key hkey
    refine rejects_of_not_ok fun opened hopened => hkey ?_
    rw [hsender]
    exact (keys_of_decrypt_sent hideal hsent hopened rfl).2
  case otherPayload =>
    intro payload hpayload hother
    refine rejects_of_not_ok fun opened hopened => ?_
    obtain ⟨other, hmade, hrecipient, hsame, hopens, -⟩ :=
      sent_of_decrypt hideal hopened
    exact hother other hmade (hsame.trans hsender)
      (Subtype.ext (hrecipient.trans htheirs)) hopens
  case reflected =>
    intro hdistinct
    constructor
    all_goals
      refine rejects_of_not_ok fun opened hopened => hdistinct ?_
      rw [htheirs]
      exact (keys_of_decrypt_sent hideal hsent hopened rfl).1
  case malformed =>
    intro keys secretsBox hmalformed
    refine rejects_of_not_ok fun opened hopened => ?_
    obtain ⟨halg, hlength, hlong, -⟩ := decryptSecretsBox_ok hopened
    rcases hmalformed with hother | hother | hshort
    · exact hother halg
    · exact hother hlength
    · omega
  case noPanic =>
    intro keys secretsBox hpanic
    rw [decryptSecretsBoxOutcome_eq] at hpanic
    cases hpanic

/-! ## A channel that can be run

The symbolic platform with an AEAD that remembers what one sender has sealed for
one recipient. -/

theorem length_zeroNonce :
    (List.replicate 12 0 : Bytes).length = aesNonceSize := rfl

def zeroNonce : Nonce := ⟨List.replicate 12 0, length_zeroNonce⟩

def channelKey : Bytes := List.zipWith (· + ·) (padKey [1]) (padKey [2])

def channelAad : Bytes := padKey [2] ++ padKey [1]

def channelFrame : Bytes := cipherFrame channelKey zeroNonce.val channelAad

def channelPlatform (payloads : List (List PackedSecret)) : Platform Bytes :=
  { symbolicPlatform [] payloads with
    aeadDecrypt := fun key nonce ciphertext aad =>
      if ∃ secrets ∈ payloads, ciphertext =
          channelFrame ++ List.replicate (payloads.idxOf secrets) 0 then
        (symbolicPlatform [] payloads).aeadDecrypt key nonce ciphertext aad
      else .error "aead::Error" }

variable {payloads : List (List PackedSecret)}

theorem padKey_eq (payloads : List (List PackedSecret)) (secret : Bytes) :
    padKey secret = (channelPlatform payloads).publicKey secret := rfl

def channelKeyPair (payloads : List (List PackedSecret)) (secret : Bytes) :
    KeyExchangeKeyPair (channelPlatform payloads) where
  secret := secret
  publicKey := padKey secret
  publicKey_eq := padKey_eq payloads secret

def channelBox (payloads : List (List PackedSecret))
    (secrets : List PackedSecret) : SecretsBox where
  encryptedPayload := zeroNonce.val ++
    (channelFrame ++ List.replicate (payloads.idxOf secrets) 0)
  senderPublicKey := padKey [1]
  alg := boxAlg
  containedSecretIds := secrets.map PackedSecret.secretId

def channelSent (secrets : List PackedSecret) (hlisted : secrets ∈ payloads) :
    Sent (channelPlatform payloads) where
  nonce := zeroNonce
  ours := channelKeyPair payloads [1]
  recipient := ⟨padKey [2], rfl⟩
  secrets := secrets
  secretsBox := channelBox payloads secrets
  sealed := by
    simp only [encryptSecretsBox, channelPlatform, symbolicPlatform,
      if_pos hlisted]
    rfl

theorem channelSent_sealing (secrets : List PackedSecret)
    (hlisted : secrets ∈ payloads) :
    (channelSent secrets hlisted).sealing =
      ⟨channelKey, zeroNonce.val, List.replicate (payloads.idxOf secrets) 0,
        channelAad,
        channelFrame ++ List.replicate (payloads.idxOf secrets) 0⟩ := by
  have hencoded : (channelPlatform payloads).encodeSecrets secrets =
      .ok (List.replicate (payloads.idxOf secrets) 0) := if_pos hlisted
  simp only [Sent.sealing, channelSent, hencoded, Except.toOption,
    Option.getD_some]
  rfl

def channelMade (payloads : List (List PackedSecret)) :
    Set (Sent (channelPlatform payloads)) :=
  {sent | ∃ secrets, ∃ hlisted : secrets ∈ payloads,
    sent = channelSent secrets hlisted}

theorem channel_ideal (payloads : List (List PackedSecret)) :
    Ideal (channelPlatform payloads) (channelMade payloads) where
  agreement := (symbolicPlatform_roundTrips [] payloads).agreement
  secrets := (symbolicPlatform_roundTrips [] payloads).secrets
  aead := by
    constructor
    case opens =>
      rintro _ ⟨_, ⟨secrets, hlisted, rfl⟩, rfl⟩
      have hrecorded : ∃ other ∈ payloads,
          channelFrame ++ List.replicate (payloads.idxOf secrets) 0 =
            channelFrame ++ List.replicate (payloads.idxOf other) 0 :=
        ⟨secrets, hlisted, rfl⟩
      rw [channelSent_sealing]
      simp only [channelPlatform, if_pos hrecorded]
      simp [symbolicPlatform, channelFrame, Except.toOption]
    case only =>
      intro key nonce ciphertext aad message hopened
      simp only [channelPlatform] at hopened
      split_ifs at hopened with hrecorded
      · obtain ⟨secrets, hlisted, rfl⟩ := hrecorded
        refine ⟨_, ⟨secrets, hlisted, rfl⟩, ?_⟩
        rw [channelSent_sealing]
        simp only [symbolicPlatform] at hopened
        split_ifs at hopened with hstarts
        · obtain ⟨rest, hrest⟩ := hstarts
          have hframe := Cbor.byteString_selfDelimiting.append
            (Cbor.byteString_selfDelimiting.append
              Cbor.byteString_selfDelimiting)
          obtain ⟨hparts, hmessage⟩ :=
            hframe (key, nonce, aad) (channelKey, zeroNonce.val, channelAad)
              rest (List.replicate (payloads.idxOf secrets) 0) hrest
          obtain ⟨rfl, htail⟩ := Prod.mk.inj hparts
          obtain ⟨rfl, rfl⟩ := Prod.mk.inj htail
          have hopens : List.replicate (payloads.idxOf secrets) 0 =
              message := by
            simpa [channelFrame, Except.toOption] using hopened
          rw [hopens]
        · simp [Except.toOption] at hopened
      · simp [Except.toOption] at hopened
    case apart =>
      rintro _ ⟨_, ⟨first, hfirst, rfl⟩, rfl⟩ _ ⟨_, ⟨second, hsecond, rfl⟩, rfl⟩
        - hciphertext
      rw [channelSent_sealing, channelSent_sealing] at hciphertext ⊢
      rw [List.append_cancel_left hciphertext]

def twoPayloads : List (List PackedSecret) := [[], samplePayload 1 0]

/-- The box that carries a secret, out of two that were sealed. -/
theorem secretsBox_directed_two :
    Directed (channelMade twoPayloads)
      (channelSent (samplePayload 1 0) (by decide))
      (channelKeyPair twoPayloads [2]) :=
  secretsBox_directed (channel_ideal twoPayloads)
    ⟨samplePayload 1 0, by decide, rfl⟩ rfl

/-- The payload of a second box of the same sender opens in the first one. -/
theorem swapped_payload_opens :
    Ideal (channelPlatform twoPayloads) (channelMade twoPayloads) ∧
      channelSent [] (by decide) ∈ channelMade twoPayloads ∧
      (channelBox twoPayloads (samplePayload 1 0)).encryptedPayload ≠
        (channelBox twoPayloads []).encryptedPayload ∧
      ¬ Rejects (channelKeyPair twoPayloads [2])
        { channelBox twoPayloads [] with
          encryptedPayload :=
            (channelBox twoPayloads (samplePayload 1 0)).encryptedPayload } := by
  refine ⟨channel_ideal twoPayloads, ⟨[], by decide, rfl⟩, ?_, ?_⟩
  · intro hsame
    have hmessage := List.append_cancel_left (List.append_cancel_left hsame)
    exact absurd hmessage (by decide)
  · rintro ⟨e, herror⟩
    have hlisted : samplePayload 1 0 ∈ twoPayloads := by decide
    have hopens : decryptSecretsBox (channelKeyPair twoPayloads [2])
        (channelSent (samplePayload 1 0) hlisted).secretsBox =
        .ok (samplePayload 1 0) :=
      decrypt_sent (channel_ideal twoPayloads)
        ⟨samplePayload 1 0, hlisted, rfl⟩ rfl
    rw [decryptSecretsBoxOutcome_eq] at herror
    -- the cleartext list of identifiers is not read
    have hrejected : decryptSecretsBox (channelKeyPair twoPayloads [2])
        (channelSent (samplePayload 1 0) hlisted).secretsBox = .error e :=
      Outcome.ok.inj herror
    rw [hopens] at hrejected
    cases hrejected

end NxccBridge.SecretsChannel
