import NxccBridge.Enclave.Grants

/-!
# `put_secrets` as a last-writer store

Whatever the grouping into boxes and calls, `put_secrets` offers the unexpired
secrets of the bundles it admits, one by one, to a store that keeps the entry
with the largest generation timestamp.  Monotonicity and order independence
are facts about that store; what an entry needs in order to be offered is the
admission test.
-/

namespace NxccBridge.EnclaveSecrets

open Function
open NxccBridge.LastWriter
open NxccBridge.Framing
open NxccBridge.Interface
open NxccBridge.AuthorizationId
open NxccBridge.Crypto

variable {Digest : Type*} [DecidableEq Digest] {platform : Platform Digest}

/-- The secrets that one bundle of a call gets to the storing loop. -/
def Secrets.admitted (self : Secrets platform) (clock : CallClock)
    (service : AttestationOracle) (bundle : SecretsBundle) :
    List PackedSecret :=
  match verifyAttestation service bundle.2.1.attestation with
  | .ok verifiedUserData =>
      (self.openBundle clock.checked bundle verifiedUserData).getD []
  | .error _ => []

/-- A packed secret as an entry offered under its identifier. -/
def toOffer (secret : PackedSecret) : SecretId × StoredSecret :=
  (secret.secretId, {
    data := secret.data
    expiry := secret.expiry
    generationTimestamp := secret.generationTimestamp })

/-- The admitted secrets of a bundle that have not expired. -/
def Secrets.offersOf (self : Secrets platform) (clock : CallClock)
    (service : AttestationOracle) (bundle : SecretsBundle) :
    List (SecretId × StoredSecret) :=
  ((self.admitted clock service bundle).filter fun secret =>
    unexpired secret.expiry clock.now).map toOffer

/-- Everything one call offers to the store. -/
def Secrets.offers (self : Secrets platform) (clock : CallClock)
    (service : AttestationOracle) (bundles : List SecretsBundle) :
    List (SecretId × StoredSecret) :=
  bundles.flatMap (self.offersOf clock service)

omit [DecidableEq Digest] in
/-- What it takes for a bundle to get a secret to the storing loop. -/
theorem mem_admitted_iff {self : Secrets platform} {clock : CallClock}
    {service : AttestationOracle} {bundle : SecretsBundle}
    {secret : PackedSecret} :
    secret ∈ self.admitted clock service bundle ↔
      service bundle.2.1.attestation = .ok () ∧
      (∃ userdata,
        platform.userDataFromCbor bundle.2.1.attestation.detachedUserdata =
          .ok userdata ∧
        bundle.1.senderPublicKey = userdata.ephemeralPublicKey) ∧
      (∀ secretId ∈ bundle.1.containedSecretIds,
        self.checkAuthorization clock.checked bundle.2.1.attestation secretId
          bundle.2.2 = true) ∧
      ∃ secrets,
        decryptSecretsBox self.ephemeralKxKeypair bundle.1 = .ok secrets ∧
        secret ∈ secrets := by
  unfold Secrets.admitted verifyAttestation
  cases hservice : service bundle.2.1.attestation with
  | error e => simp
  | ok claims =>
      simp only [Secrets.openBundle, true_and]
      cases huserdata : platform.userDataFromCbor
          bundle.2.1.attestation.detachedUserdata with
      | error e => simp
      | ok userdata =>
          by_cases hkey : bundle.1.senderPublicKey =
              userdata.ephemeralPublicKey
          · rw [← List.all_eq_true]
            cases bundle.1.containedSecretIds.all fun secretId =>
                self.checkAuthorization clock.checked bundle.2.1.attestation
                  secretId
                  bundle.2.2 with
            | false => simp [hkey]
            | true =>
                cases decryptSecretsBox self.ephemeralKxKeypair bundle.1 <;>
                  simp [hkey]
          · simp [hkey, Ne.symm hkey]

omit [DecidableEq Digest] in
theorem admitted_eq {self : Secrets platform} {clock : CallClock}
    {service : AttestationOracle} {bundle : SecretsBundle}
    {userdata : UserData} {secrets : List PackedSecret}
    (hservice : service bundle.2.1.attestation = .ok ())
    (huserdata : platform.userDataFromCbor
      bundle.2.1.attestation.detachedUserdata = .ok userdata)
    (hkey : bundle.1.senderPublicKey = userdata.ephemeralPublicKey)
    (hall : ∀ secretId ∈ bundle.1.containedSecretIds,
      self.checkAuthorization clock.checked bundle.2.1.attestation secretId
        bundle.2.2 = true)
    (hopened : decryptSecretsBox self.ephemeralKxKeypair bundle.1 =
      .ok secrets) : self.admitted clock service bundle = secrets := by
  have hlist := List.all_eq_true.mpr hall
  simp only [Secrets.admitted, verifyAttestation, hservice, Secrets.openBundle,
    huserdata, hkey, ne_eq, not_true_eq_false, if_false, hlist, if_true,
    hopened, Option.getD_some]

omit [DecidableEq Digest] in
/-- A bundle whose sender is not attested, or whose listed identifiers are not
all authorized, brings nothing. -/
theorem admitted_eq_nil {self : Secrets platform} {clock : CallClock}
    {service : AttestationOracle} {bundle : SecretsBundle}
    (hrefused : ¬(service bundle.2.1.attestation = .ok () ∧
      ∀ secretId ∈ bundle.1.containedSecretIds,
        self.checkAuthorization clock.checked bundle.2.1.attestation secretId
          bundle.2.2 = true)) :
    self.admitted clock service bundle = [] := by
  apply List.eq_nil_iff_forall_not_mem.mpr
  intro secret hmem
  obtain ⟨hservice, -, hall, -⟩ := mem_admitted_iff.mp hmem
  exact hrefused ⟨hservice, hall⟩

theorem storeSecret_eq (now : ℕ) (state : SecretsStorage × ℕ)
    (secret : PackedSecret) :
    storeSecret now state secret =
      if unexpired secret.expiry now then
        offerCounted StoredSecret.generationTimestamp state (toOffer secret)
      else state := by
  by_cases hexpired : secret.expiry ≠ 0 ∧ secret.expiry ≤ now
  · have hlive : ¬ unexpired secret.expiry now = true := by
      simp only [unexpired, Bool.or_eq_true, beq_iff_eq, decide_eq_true_eq]
      omega
    rw [storeSecret, if_pos hexpired, if_neg hlive]
  · have hlive : unexpired secret.expiry now = true := by
      simp only [unexpired, Bool.or_eq_true, beq_iff_eq, decide_eq_true_eq]
      omega
    rw [storeSecret, if_neg hexpired, if_pos hlive, offerCounted]
    cases hstored : state.1 secret.secretId with
    | none => simp [toOffer, hstored]
    | some existing => simp [toOffer, hstored]

theorem foldl_storeSecret (now : ℕ) (secrets : List PackedSecret)
    (state : SecretsStorage × ℕ) :
    secrets.foldl (storeSecret now) state =
      ((secrets.filter fun secret => unexpired secret.expiry now).map
        toOffer).foldl (offerCounted StoredSecret.generationTimestamp) state := by
  induction secrets generalizing state with
  | nil => rfl
  | cons secret secrets ih =>
      rw [List.foldl_cons, ih, storeSecret_eq]
      by_cases hlive : unexpired secret.expiry now = true <;> simp [hlive]

omit [DecidableEq Digest] in
/-- The two loops of a call are one fold over its offers. -/
theorem foldl_processBundle (self : Secrets platform) (clock : CallClock)
    (service : AttestationOracle) (bundles : List SecretsBundle)
    (state : SecretsStorage × ℕ) :
    (verifiedBundles service bundles).foldl (self.processBundle clock) state =
      (self.offers clock service bundles).foldl
        (offerCounted StoredSecret.generationTimestamp) state := by
  induction bundles generalizing state with
  | nil => rfl
  | cons bundle bundles ih =>
      rw [Secrets.offers, List.flatMap_cons, List.foldl_append,
        ← Secrets.offers, ← ih]
      unfold verifiedBundles Secrets.offersOf Secrets.admitted
      rw [List.filterMap_cons]
      cases hverify : verifyAttestation service bundle.2.1.attestation with
      | error e => rfl
      | ok verifiedUserData =>
          simp only [List.foldl_cons, Secrets.processBundle]
          cases self.openBundle clock.checked bundle verifiedUserData with
          | none => rfl
          | some secrets => simp [foldl_storeSecret]

omit [DecidableEq Digest] in
theorem putSecrets_storage (self : Secrets platform) (clock : CallClock)
    (service : AttestationOracle) (bundles : List SecretsBundle) :
    (self.putSecrets clock service bundles).1.secretsStorage =
      (self.offers clock service bundles).foldl
        (offer StoredSecret.generationTimestamp) self.secretsStorage := by
  rw [Secrets.putSecrets, foldl_processBundle]
  exact foldl_offerCounted_fst _ _

omit [DecidableEq Digest] in
/-- Each identifier keeps the latest of its entry and what the call offers. -/
theorem putSecrets_isLatest (self : Secrets platform) (clock : CallClock)
    (service : AttestationOracle) (bundles : List SecretsBundle)
    (secretId : SecretId) :
    IsLatest StoredSecret.generationTimestamp (self.secretsStorage secretId)
      (offersFor secretId (self.offers clock service bundles))
      ((self.putSecrets clock service bundles).1.secretsStorage secretId) := by
  rw [putSecrets_storage]
  exact foldl_offer_isLatest _ _ _

omit [DecidableEq Digest] in
/-- The result of a call says whether some entry changed. -/
theorem putSecrets_result (self : Secrets platform) (clock : CallClock)
    (service : AttestationOracle) (bundles : List SecretsBundle) :
    (self.putSecrets clock service bundles).2 = .ok true ↔
      ∃ secretId,
        (self.putSecrets clock service bundles).1.secretsStorage secretId ≠
          self.secretsStorage secretId := by
  rw [putSecrets_storage, Secrets.putSecrets, foldl_processBundle]
  rw [← lt_foldl_offerCounted_iff_ne (self.offers clock service bundles)
    (self.secretsStorage, 0)]
  simp

end NxccBridge.EnclaveSecrets
