import NxccBridge.Enclave.Imports

/-!
# Which imports are authorized

`put_secrets` checks the authorization of the identifiers listed in clear on
the box and then stores the identifiers found inside the decrypted payload.
The sender chooses both lists.  The imports of a call are authorized exactly
when so is everything that is stored without being listed.
-/

namespace NxccBridge.EnclaveSecrets

open Function
open NxccBridge.LastWriter
open NxccBridge.Framing
open NxccBridge.Interface
open NxccBridge.AuthorizationId
open NxccBridge.Crypto

variable {Digest : Type*} [DecidableEq Digest] {platform : Platform Digest}

/-- A bundle may import `secretId`: its report was verified, the key attested
by its userdata sent the box, and a positive report of the run `steps` granted
that key this secret for the paired consumer, not yet expired. -/
structure ImportAuthorized (platform : Platform Digest)
    (steps : List SecretsStep) (clock : CallClock) (service : AttestationOracle)
    (bundle : SecretsBundle) (secretId : SecretId) : Prop where
  verified : service bundle.2.1.attestation = .ok ()
  granted : ∃ userdata,
    platform.userDataFromCbor bundle.2.1.attestation.detachedUserdata =
      .ok userdata ∧
    bundle.1.senderPublicKey = userdata.ephemeralPublicKey ∧
    Granted platform steps clock.checked userdata.ephemeralPublicKey secretId
      bundle.2.2

/-- Every entry that a bundle of the call inserts or overwrites is authorized
for that bundle. -/
def ImportsAuthorized (steps : List SecretsStep) (self : Secrets platform)
    (clock : CallClock) (service : AttestationOracle)
    (bundles : List SecretsBundle) : Prop :=
  ∀ before bundle after, bundles = before ++ bundle :: after →
    ∀ secretId,
      (self.putSecrets clock service
        (before ++ [bundle])).1.secretsStorage secretId ≠
        (self.putSecrets clock service before).1.secretsStorage secretId →
      ImportAuthorized platform steps clock service bundle secretId

/-- Every unexpired secret in the payload of an admitted bundle whose box does
not list it in clear is itself authorized, unless the stored entry or what
earlier admitted bundles of the call carry for its identifier is as new. -/
def UnlistedAuthorized (self : Secrets platform) (clock : CallClock)
    (service : AttestationOracle) (bundles : List SecretsBundle) : Prop :=
  ∀ before bundle after, bundles = before ++ bundle :: after →
    ∀ secret ∈ self.admitted clock service bundle,
      secret.secretId ∉ bundle.1.containedSecretIds →
      unexpired secret.expiry clock.now = true →
      (∀ stored, self.secretsStorage secret.secretId = some stored →
        stored.generationTimestamp < secret.generationTimestamp) →
      (∀ earlier ∈ before, ∀ other ∈ self.admitted clock service earlier,
        unexpired other.expiry clock.now = true →
        other.secretId = secret.secretId →
        other.generationTimestamp < secret.generationTimestamp) →
      self.checkAuthorization clock.checked bundle.2.1.attestation
        secret.secretId bundle.2.2 = true

/-! ## What a bundle changes -/

omit [DecidableEq Digest] in
/-- What one more bundle changes. -/
theorem putSecrets_concat_ne_iff (self : Secrets platform) (clock : CallClock)
    (service : AttestationOracle) (before : List SecretsBundle)
    (bundle : SecretsBundle) (secretId : SecretId) :
    (self.putSecrets clock service
        (before ++ [bundle])).1.secretsStorage secretId ≠
        (self.putSecrets clock service before).1.secretsStorage secretId ↔
      ∃ secret ∈ self.admitted clock service bundle,
        secret.secretId = secretId ∧ unexpired secret.expiry clock.now = true ∧
        (∀ stored, self.secretsStorage secretId = some stored →
          stored.generationTimestamp < secret.generationTimestamp) ∧
        (∀ earlier ∈ before, ∀ other ∈ self.admitted clock service earlier,
          unexpired other.expiry clock.now = true → other.secretId = secretId →
          other.generationTimestamp < secret.generationTimestamp) := by
  have hstorage : (self.putSecrets clock service
      (before ++ [bundle])).1.secretsStorage =
      (self.offersOf clock service bundle).foldl
        (offer StoredSecret.generationTimestamp)
        (self.putSecrets clock service before).1.secretsStorage := by
    simp [putSecrets_storage, Secrets.offers]
  rw [hstorage, (foldl_offer_isLatest _ _ secretId).ne_iff]
  have hearlier := putSecrets_isLatest self clock service before secretId
  constructor
  · rintro ⟨entry, hentry, hnewer⟩
    obtain ⟨secret, hsecret, heq⟩ :=
      List.mem_map.mp (mem_offersFor.mp hentry)
    obtain ⟨hadmitted, hlive⟩ := List.mem_filter.mp hsecret
    obtain ⟨hid, rfl⟩ := Prod.mk.inj heq
    obtain ⟨hstored, hothers⟩ := (hearlier.supersedes_iff _).mp hnewer
    refine ⟨secret, hadmitted, hid, hlive, hstored, ?_⟩
    intro earlier hmem other hother hotherLive hotherId
    refine hothers (toOffer other).2 (mem_offersFor.mpr ?_)
    refine List.mem_flatMap.mpr ⟨earlier, hmem, List.mem_map.mpr
      ⟨other, List.mem_filter.mpr ⟨hother, hotherLive⟩, ?_⟩⟩
    exact Prod.ext hotherId rfl
  · rintro ⟨secret, hadmitted, hid, hlive, hstored, hothers⟩
    refine ⟨(toOffer secret).2, mem_offersFor.mpr (List.mem_map.mpr
      ⟨secret, List.mem_filter.mpr ⟨hadmitted, hlive⟩, Prod.ext hid rfl⟩), ?_⟩
    refine (hearlier.supersedes_iff _).mpr ⟨hstored, ?_⟩
    intro entry hentry
    obtain ⟨earlier, hmem, hoffer⟩ :=
      List.mem_flatMap.mp (mem_offersFor.mp hentry)
    obtain ⟨other, hother, heq⟩ := List.mem_map.mp hoffer
    obtain ⟨hotherAdmitted, hotherLive⟩ := List.mem_filter.mp hother
    obtain ⟨hotherId, rfl⟩ := Prod.mk.inj heq
    exact hothers earlier hmem other hotherAdmitted hotherLive hotherId

/-- In every state the service can reach, all imports of a call are authorized
exactly when those are that their boxes do not list: the listed ones pass the
admission test. -/
theorem importsAuthorized_iff (hsha256 : Injective platform.sha256)
    {steps : List SecretsStep} {self : Secrets platform}
    (hreached : ReachedBy steps self) (clock : CallClock)
    (service : AttestationOracle) (bundles : List SecretsBundle) :
    ImportsAuthorized steps self clock service bundles ↔
      UnlistedAuthorized self clock service bundles := by
  constructor
  · intro himports before bundle after hsplit secret hadmitted _ hlive hstored
      hothers
    have hauthorized := himports before bundle after hsplit secret.secretId
      ((putSecrets_concat_ne_iff self clock service before bundle _).mpr
        ⟨secret, hadmitted, rfl, hlive, hstored, hothers⟩)
    obtain ⟨userdata, huserdata, -, hgranted⟩ := hauthorized.granted
    exact (checkAuthorization_iff_granted hsha256 hreached clock.checked _ _
      _).mpr
      ⟨userdata, huserdata, hgranted⟩
  · intro hunlisted before bundle after hsplit secretId hchanged
    obtain ⟨secret, hadmitted, rfl, hlive, hstored, hothers⟩ :=
      (putSecrets_concat_ne_iff self clock service before bundle _).mp hchanged
    obtain ⟨hverified, ⟨userdata, huserdata, hsender⟩, hlisted, -⟩ :=
      mem_admitted_iff.mp hadmitted
    have hcheck : self.checkAuthorization clock.checked bundle.2.1.attestation
        secret.secretId bundle.2.2 = true := by
      by_cases hclear : secret.secretId ∈ bundle.1.containedSecretIds
      · exact hlisted secret.secretId hclear
      · exact hunlisted before bundle after hsplit secret hadmitted hclear
          hlive hstored hothers
    obtain ⟨userdata', huserdata', hgranted⟩ :=
      (checkAuthorization_iff_granted hsha256 hreached clock.checked _ _
      _).mp hcheck
    obtain rfl : userdata = userdata' :=
      Except.ok.inj (huserdata.symm.trans huserdata')
    exact ⟨hverified, userdata, huserdata, hsender, hgranted⟩

/-! ## A box that lists nothing -/

def samplePlatform : Platform Bytes :=
  symbolicPlatform [padKey [2]] [samplePayload 1 5]

/-- The payload as the attested sender `[2]` seals it for the enclave `[1]`,
under a cleartext list of the sender's choice. -/
def sampleBundle (listed : List SecretId) : SecretsBundle :=
  (symbolicBox [2] [1] listed 0, symbolicReport (padKey [2]), sampleConsumer 0)

def sampleEnclave : Secrets samplePlatform :=
  .newWithKeypair (symbolicKeyPair _ _ [1])

/-- The sealed payload is what `encrypt_secrets_box` returns but for the list,
and the enclave stores its secret although no report was ever filed. -/
theorem importsAuthorized_unlisted :
    (encryptSecretsBox ⟨List.replicate 12 0, rfl⟩
        (symbolicKeyPair _ _ [2] : KeyExchangeKeyPair samplePlatform)
        (padKey [1]) (samplePayload 1 5) = .ok (sampleBundle [sampleSecretId 7]).1) ∧
      ReachedBy [] sampleEnclave ∧
      ¬ ImportsAuthorized [] sampleEnclave (.still 10) (fun _ => .ok ())
        [sampleBundle []] := by
  refine ⟨by decide +kernel, ⟨_, rfl⟩, fun himports => ?_⟩
  have hstored : (sampleEnclave.putSecrets (.still 10) (fun _ => .ok ())
      ([] ++ [sampleBundle []])).1.secretsStorage (sampleSecretId 7) ≠
      (sampleEnclave.putSecrets (.still 10) (fun _ => .ok ())
        []).1.secretsStorage (sampleSecretId 7) := by
    decide +kernel
  obtain ⟨userdata, -, -, hgranted⟩ :=
    (himports [] (sampleBundle []) [] rfl (sampleSecretId 7) hstored).granted
  obtain ⟨report, hmem, -⟩ := hgranted.exists_report
  exact List.not_mem_nil hmem

/-- With the report filed and the identifier listed, the import is
authorized. -/
theorem importsAuthorized_listed :
    ImportsAuthorized [.storeAuthorization (sampleGrant (padKey [2]))]
      (sampleEnclave.run [.storeAuthorization (sampleGrant (padKey [2]))])
      (.still 10) (fun _ => .ok ()) [sampleBundle [sampleSecretId 7]] := by
  refine (importsAuthorized_iff injective_id ⟨symbolicKeyPair _ _ [1], rfl⟩
    (.still 10) _ _).mpr ?_
  intro before bundle after hsplit secret hadmitted hunlisted
  have hmem : bundle ∈ [sampleBundle [sampleSecretId 7]] := by simp [hsplit]
  obtain rfl := List.mem_singleton.mp hmem
  have hall : ∀ secret ∈ (sampleEnclave.run
      [.storeAuthorization (sampleGrant (padKey [2]))]).admitted (.still 10)
        (fun _ => .ok ()) (sampleBundle [sampleSecretId 7]),
      secret.secretId ∈ [sampleSecretId 7] := by
    decide +kernel
  exact absurd (hall secret hadmitted) hunlisted

end NxccBridge.EnclaveSecrets
