import Mathlib.Tactic
import NxccBridge.Core.Cbor
import NxccBridge.Interface.Types

/-!
# Authorization identifiers

The enclave files a grant under the SHA-256 hash of
`CBOR(secret id) || ephemeral key || CBOR(consumer info)`.  The key in the
middle has no length prefix, so the two CBOR items must delimit it from both
sides: the first because every item is self-delimiting, the second because its
leading `{"bundle_hash": ..` occurs nowhere else inside it.
-/

namespace NxccBridge.AuthorizationId

set_option maxRecDepth 4096

open Function
open NxccBridge.Framing
open NxccBridge.Cbor
open NxccBridge.Interface

/-- CBOR items of the `alloy` integer types, written by their own crate. -/
structure AlloyCbor where
  address : Address → Bytes
  u256 : U256 → Bytes
  address_selfDelimiting : SelfDelimiting address
  u256_selfDelimiting : SelfDelimiting u256

def fieldName (name : String) : Bytes := textString (utf8 name)

def cborUrl (url : Url) : Bytes := textString (utf8 url.serialization)

/-- The enum is untagged: each variant is written as its content. -/
def cborChainIdentifier : ChainIdentifier → Bytes
  | .chainId id => uint id
  | .gatewayUrl url => cborUrl url
  | .gatewayUrls urls => array cborUrl urls

def cborSecretId (alloy : AlloyCbor) (secretId : SecretId) : Bytes :=
  mapHead 3 ++ (fieldName "chain" ++ cborChainIdentifier secretId.chain) ++
    (fieldName "identity_address" ++ alloy.address secretId.identityAddress) ++
    (fieldName "identity_id" ++ alloy.u256 secretId.identityId)

/-- A `Vec<u8>` is an array of integers to serde. -/
def cborByte (byte : Byte) : Bytes := head 0 byte.val

def cborConsumerInfo (consumer : ConsumerInfo) : Bytes :=
  mapHead 2 ++ (fieldName "bundle_hash" ++ array cborByte consumer.bundleHash) ++
    (fieldName "signature" ++ array cborByte consumer.signature)

/-- The bytes fed to the hasher of `calculate_authorization_id`. -/
def authorizationPreimage (alloy : AlloyCbor) (ephemeralKey : Bytes)
    (secretId : SecretId) (consumer : ConsumerInfo) : Bytes :=
  cborSecretId alloy secretId ++ ephemeralKey ++ cborConsumerInfo consumer

/-! ## The two items are self-delimiting -/

theorem cborUrl_selfDelimiting : SelfDelimiting cborUrl :=
  textString_selfDelimiting.comp fun left right heq => by
    cases left; cases right
    simpa using utf8_injective heq

theorem cborByte_selfDelimiting : SelfDelimiting cborByte :=
  (head_selfDelimiting 0).comp Fin.val_injective

theorem cborChainIdentifier_selfDelimiting :
    SelfDelimiting cborChainIdentifier := by
  intro left right leftRest rightRest heq
  cases left with
  | chainId left =>
      cases right with
      | chainId right =>
          obtain ⟨hid, hrest⟩ := uint_selfDelimiting _ _ _ _ heq
          exact ⟨by rw [hid], hrest⟩
      | gatewayUrl url =>
          simp only [cborChainIdentifier, uint, cborUrl, textString, List.append_assoc] at heq
          exact absurd heq (head_ne_of_major (by decide) _ _ _ _)
      | gatewayUrls urls =>
          simp only [cborChainIdentifier, uint, array, List.append_assoc] at heq
          exact absurd heq (head_ne_of_major (by decide) _ _ _ _)
  | gatewayUrl left =>
      cases right with
      | chainId id =>
          simp only [cborChainIdentifier, uint, cborUrl, textString, List.append_assoc] at heq
          exact absurd heq (head_ne_of_major (by decide) _ _ _ _)
      | gatewayUrl right =>
          obtain ⟨hurl, hrest⟩ := cborUrl_selfDelimiting _ _ _ _ heq
          exact ⟨by rw [hurl], hrest⟩
      | gatewayUrls urls =>
          simp only [cborChainIdentifier, cborUrl, textString, array, List.append_assoc] at heq
          exact absurd heq (head_ne_of_major (by decide) _ _ _ _)
  | gatewayUrls left =>
      cases right with
      | chainId id =>
          simp only [cborChainIdentifier, uint, array, List.append_assoc] at heq
          exact absurd heq (head_ne_of_major (by decide) _ _ _ _)
      | gatewayUrl url =>
          simp only [cborChainIdentifier, cborUrl, textString, array, List.append_assoc] at heq
          exact absurd heq (head_ne_of_major (by decide) _ _ _ _)
      | gatewayUrls right =>
          obtain ⟨hurls, hrest⟩ :=
            array_selfDelimiting cborUrl_selfDelimiting _ _ _ _ heq
          exact ⟨by rw [hurls], hrest⟩

theorem cborSecretId_selfDelimiting (alloy : AlloyCbor) :
    SelfDelimiting (cborSecretId alloy) := by
  have hfields := (((cborChainIdentifier_selfDelimiting.labelled
      (fieldName "chain")).labelled (mapHead 3)).append
    (alloy.address_selfDelimiting.labelled
      (fieldName "identity_address"))).append
    (alloy.u256_selfDelimiting.labelled (fieldName "identity_id"))
  exact hfields.comp (f := fun secretId : SecretId =>
    ((secretId.chain, secretId.identityAddress), secretId.identityId))
    (fun left right heq => by
      cases left; cases right
      simp_all)

theorem cborConsumerInfo_selfDelimiting : SelfDelimiting cborConsumerInfo := by
  have hbytes := array_selfDelimiting cborByte_selfDelimiting
  have hfields := ((hbytes.labelled (fieldName "bundle_hash")).labelled
    (mapHead 2)).append (hbytes.labelled (fieldName "signature"))
  exact hfields.comp (f := fun consumer : ConsumerInfo =>
    (consumer.bundleHash, consumer.signature))
    (fun left right heq => by
      cases left; cases right
      simp_all)

/-! ## The consumer item carries a mark -/

/-- The head of the map and its first key. -/
def consumerMark : Bytes := mapHead 2 ++ fieldName "bundle_hash"

theorem consumerMark_eq : consumerMark =
    [162, 107, 98, 117, 110, 100, 108, 101, 95, 104, 97, 115, 104] := by
  decide

theorem consumerMark_starts (consumer : ConsumerInfo) :
    consumerMark <+: cborConsumerInfo consumer :=
  ⟨array cborByte consumer.bundleHash ++
    (fieldName "signature" ++ array cborByte consumer.signature), by
    simp [consumerMark, cborConsumerInfo, List.append_assoc]⟩

theorem cborByte_eq (byte : Byte) :
    cborByte byte = if byte.val < 24 then [byte] else [24, byte] := by
  have hwide : byte.val < 256 ^ 1 := by simp
  by_cases hsmall : byte.val < 24
  · simp [cborByte, head, argument, initialByte, additionalInfo, hsmall]
  · simp only [cborByte, head, argument, initialByte, additionalInfo,
      if_neg hsmall, if_pos hwide]
    simp [bigEndian, lowByte, Nat.mod_eq_of_lt byte.isLt]

/-- The integers of an array never contain the mark: a byte above 24 is
preceded by 24 and followed by the start of an element. -/
theorem elements_avoid_mark (bytes rest : Bytes)
    (hrest : rest.head? ≠ some 107) :
    Avoids consumerMark (bytes.flatMap cborByte) rest := by
  rw [consumerMark_eq]
  induction bytes with
  | nil => exact avoids_nil _ _
  | cons byte bytes ih =>
      rw [List.flatMap_cons]
      refine Avoids.append ?_ ih
      have hnext : (bytes.flatMap cborByte ++ rest).head? ≠ some 107 := by
        cases bytes with
        | nil => simpa using hrest
        | cons next bytes =>
            rw [List.flatMap_cons, cborByte_eq]
            split_ifs with hsmall
            · intro heq
              have hvalue : next = 107 := by simpa using heq
              rw [hvalue] at hsmall
              exact absurd hsmall (by decide)
            · simp
      rw [cborByte_eq]
      split_ifs with hsmall
      · refine avoids_of_forall_ne ?_ _
        intro symbol hsymbol
        rw [List.mem_singleton.mp hsymbol]
        rintro rfl
        exact absurd hsmall (by decide)
      · intro before after hsplit hafter hstarts
        rcases before with _ | ⟨first, _ | ⟨second, before⟩⟩
        · simp only [List.nil_append] at hsplit
          subst hsplit
          exact absurd (List.cons_prefix_cons.mp hstarts).1 (by decide)
        · simp only [List.cons_append, List.nil_append, List.cons.injEq] at hsplit
          obtain ⟨-, rfl⟩ := hsplit
          obtain ⟨-, hstarts⟩ := List.cons_prefix_cons.mp hstarts
          obtain ⟨tail, htail⟩ := hstarts
          have hhead := congrArg List.head? htail
          exact hnext (by simpa using hhead.symm)
        · simp_all

/-- The length bytes in front of the elements are too few to hold the mark. -/
theorem argument_avoids_mark (bytes rest : Bytes) :
    Avoids consumerMark (argument bytes.length)
      (bytes.flatMap cborByte ++ rest) := by
  rw [consumerMark_eq]
  cases bytes with
  | nil => exact avoids_nil _ _
  | cons byte bytes =>
      obtain ⟨next, tail, hcode, hnext⟩ : ∃ next tail,
          cborByte byte = next :: tail ∧ next.val ≤ 24 := by
        rw [cborByte_eq]
        split_ifs with hsmall
        · exact ⟨byte, [], rfl, Nat.le_of_lt hsmall⟩
        · exact ⟨24, [byte], rfl, by decide⟩
      have hmark : next ∉ ([162, 107, 98, 117, 110, 100, 108, 101, 95, 104,
          97, 115, 104] : Bytes) := by
        intro hmem
        have hall : ∀ symbol ∈ ([162, 107, 98, 117, 110, 100, 108, 101, 95,
          104, 97, 115, 104] : Bytes), 24 < symbol.val := by decide
        have := hall next hmem
        omega
      rw [List.flatMap_cons, hcode, List.cons_append, List.cons_append]
      generalize (byte :: bytes).length = count
      have hshort : ∀ width, width ≤ 8 → Avoids [162, 107, 98, 117, 110, 100,
          108, 101, 95, 104, 97, 115, 104] (bigEndian width count)
          (next :: (tail ++ bytes.flatMap cborByte ++ rest)) := by
        intro width hwidth
        refine avoids_of_length_lt ?_ hmark _
        simp only [length_bigEndian, List.length_cons, List.length_nil]
        omega
      unfold argument
      split_ifs
      · exact avoids_nil _ _
      · exact hshort 1 (by norm_num)
      · exact hshort 2 (by norm_num)
      · exact hshort 4 (by norm_num)
      · exact hshort 8 (by norm_num)
      · refine avoids_of_forall_ne ?_ _
        intro symbol hsymbol
        rcases List.mem_append.mp hsymbol with hone | hzero
        · rw [List.eq_of_mem_replicate hone]
          decide
        · rw [List.mem_singleton.mp hzero]
          decide

theorem byteArray_avoids_mark (bytes rest : Bytes)
    (hrest : rest.head? ≠ some 107) :
    Avoids consumerMark (array cborByte bytes) rest := by
  unfold array head
  rw [List.cons_append, ← List.singleton_append]
  refine Avoids.append ?_ (Avoids.append (argument_avoids_mark bytes rest)
    (elements_avoid_mark bytes rest hrest))
  rw [consumerMark_eq]
  refine avoids_of_forall_ne ?_ _
  intro symbol hsymbol
  rw [List.mem_singleton.mp hsymbol]
  intro heq
  have hval : 4 * 32 + additionalInfo bytes.length = 162 := congrArg Fin.val heq
  have hbound : additionalInfo bytes.length ≤ 28 := by
    unfold additionalInfo
    split_ifs <;> omega
  omega

theorem consumer_avoids_mark (consumer : ConsumerInfo) :
    Avoids consumerMark (cborConsumerInfo consumer).tail [] := by
  have htail : (cborConsumerInfo consumer).tail =
      consumerMark.tail ++ (array cborByte consumer.bundleHash ++
        (fieldName "signature" ++ array cborByte consumer.signature)) := by
    simp [cborConsumerInfo, consumerMark, mapHead, head, List.append_assoc]
  rw [htail]
  refine Avoids.append ?_ (Avoids.append ?_ (Avoids.append ?_ ?_))
  · rw [consumerMark_eq]
    exact avoids_of_forall_ne (by decide) _
  · refine byteArray_avoids_mark _ _ ?_
    rw [show fieldName "signature" = [105, 115, 105, 103, 110, 97, 116, 117,
      114, 101] by decide]
    simp
  · rw [consumerMark_eq]
    exact avoids_of_forall_ne (by decide) _
  · exact byteArray_avoids_mark _ _ (by simp)

/-- No consumer item is a proper suffix of another. -/
theorem consumer_suffix {left right : ConsumerInfo} {skipped : Bytes}
    (heq : cborConsumerInfo left = skipped ++ cborConsumerInfo right) :
    skipped = [] :=
  eq_nil_of_avoids heq (consumerMark_starts right)
    (by rw [consumerMark_eq]; simp) (consumer_avoids_mark left)

/-- Two grants with one preimage are the same grant. -/
theorem authorizationPreimage_inj (alloy : AlloyCbor)
    {leftKey rightKey : Bytes} {leftId rightId : SecretId}
    {leftConsumer rightConsumer : ConsumerInfo}
    (heq : authorizationPreimage alloy leftKey leftId leftConsumer =
      authorizationPreimage alloy rightKey rightId rightConsumer) :
    leftKey = rightKey ∧ leftId = rightId ∧ leftConsumer = rightConsumer := by
  simp only [authorizationPreimage, List.append_assoc] at heq
  obtain ⟨hid, htail⟩ := cborSecretId_selfDelimiting alloy _ _ _ _ heq
  have hkey : leftKey = rightKey := by
    rcases List.append_eq_append_iff.mp htail with
      ⟨skipped, hright, hleft⟩ | ⟨skipped, hleft, hright⟩
    · rw [hright, consumer_suffix hleft, List.append_nil]
    · rw [hleft, consumer_suffix hright, List.append_nil]
  subst hkey
  exact ⟨rfl, hid, cborConsumerInfo_selfDelimiting.injective
    (List.append_cancel_left htail)⟩

/-- `calculate_authorization_id` over the hasher `sha256`. -/
def calculateAuthorizationId {Digest : Type*} (sha256 : Bytes → Digest)
    (alloy : AlloyCbor) (ephemeralKey : Bytes) (secretId : SecretId)
    (consumer : ConsumerInfo) : Digest :=
  sha256 (authorizationPreimage alloy ephemeralKey secretId consumer)

/-- Without SHA-256 collisions, an identifier names one grant. -/
theorem calculateAuthorizationId_inj {Digest : Type*} {sha256 : Bytes → Digest}
    (hsha256 : Injective sha256) (alloy : AlloyCbor)
    {leftKey rightKey : Bytes} {leftId rightId : SecretId}
    {leftConsumer rightConsumer : ConsumerInfo}
    (heq : calculateAuthorizationId sha256 alloy leftKey leftId leftConsumer =
      calculateAuthorizationId sha256 alloy rightKey rightId rightConsumer) :
    leftKey = rightKey ∧ leftId = rightId ∧ leftConsumer = rightConsumer :=
  authorizationPreimage_inj alloy (hsha256 heq)

/-- The preimage determines the grant, so equal identifiers of different grants
are two different messages with one hash. -/
theorem authorizationId_determines_grant {Digest : Type*}
    (sha256 : Bytes → Digest) (alloy : AlloyCbor)
    (leftId rightId : SecretId) (leftKey rightKey : Bytes)
    (leftConsumer rightConsumer : ConsumerInfo) :
    (authorizationPreimage alloy leftKey leftId leftConsumer =
        authorizationPreimage alloy rightKey rightId rightConsumer ↔
      (leftId, leftKey, leftConsumer) = (rightId, rightKey, rightConsumer)) ∧
      (calculateAuthorizationId sha256 alloy leftKey leftId leftConsumer =
          calculateAuthorizationId sha256 alloy rightKey rightId rightConsumer ↔
        (leftId, leftKey, leftConsumer) = (rightId, rightKey, rightConsumer) ∨
          (authorizationPreimage alloy leftKey leftId leftConsumer ≠
              authorizationPreimage alloy rightKey rightId rightConsumer ∧
            sha256 (authorizationPreimage alloy leftKey leftId leftConsumer) =
              sha256 (authorizationPreimage alloy rightKey rightId
                rightConsumer))) := by
  have hpreimage : authorizationPreimage alloy leftKey leftId leftConsumer =
      authorizationPreimage alloy rightKey rightId rightConsumer ↔
      (leftId, leftKey, leftConsumer) =
        (rightId, rightKey, rightConsumer) := by
    constructor
    · intro heq
      obtain ⟨hkey, hid, hconsumer⟩ := authorizationPreimage_inj alloy heq
      rw [hkey, hid, hconsumer]
    · intro heq
      cases heq
      rfl
  refine ⟨hpreimage, ?_⟩
  rw [← hpreimage]
  constructor
  · intro hhash
    by_cases hsame : authorizationPreimage alloy leftKey leftId leftConsumer =
        authorizationPreimage alloy rightKey rightId rightConsumer
    · exact Or.inl hsame
    · exact Or.inr ⟨hsame, hhash⟩
  · intro hcases
    cases hcases with
    | inl hsame => exact congrArg sha256 hsame
    | inr hcollision => exact hcollision.2

end NxccBridge.AuthorizationId
