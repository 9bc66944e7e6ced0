import NxccBridge.Daemon.Network
import NxccBridge.Daemon.Policies
import NxccBridge.Enclave.Release

/-!
# Answered in time or timed out

A request that times out has its secrets generated; a request that a response
reaches first is finalized with that response alone, because one response meets
the threshold.  The answer is then `Ok` exactly when the box of that response
goes through `put_secrets` and completes what was requested.  A box of an honest
responder need not: it can lack a requested secret, and its secrets are admitted
for the consumer of the first one.
-/

namespace NxccBridge.PendingRequests

open Function
open NxccBridge.LastWriter
open NxccBridge.Framing
open NxccBridge.Interface
open NxccBridge.Crypto
open NxccBridge.EnclaveSecrets
open NxccBridge.DaemonSecrets
open NxccBridge.Network

variable {Digest : Type*} [DecidableEq Digest] {platform : Platform Digest}
variable {Policy : Type*}

/-! ## The final check -/

/-- The entry is unexpired for the enclave and for the daemon of the call. -/
def Live (env : Env Policy) (stored : StoredSecret) : Prop :=
  unexpired stored.expiry env.checkSecrets.clock.now = true ∧
    unexpired stored.expiry env.now = true

omit [DecidableEq Digest] in
theorem mem_foundSet_iff (env : Env Policy) (enclave : Secrets platform)
    (ids : List SecretId) (secretId : SecretId) :
    secretId ∈ foundSet env.now
        (enclave.checkSecrets env.checkSecrets.clock.now ids) ↔
      secretId ∈ ids ∧ ∃ stored,
        enclave.secretsStorage secretId = some stored ∧ Live env stored := by
  simp only [foundSet, Secrets.checkSecrets, List.mem_filterMap, List.mem_map]
  constructor
  · rintro ⟨status, ⟨other, hmem, hstatus⟩, hfound⟩
    cases hstored : enclave.secretsStorage other with
    | none =>
        simp only [hstored] at hstatus
        subst hstatus
        simp at hfound
    | some stored =>
        simp only [hstored] at hstatus
        subst hstatus
        simp only [Bool.and_eq_true, Option.ite_none_right_eq_some,
          Option.some.injEq] at hfound
        obtain ⟨hlive, rfl⟩ := hfound
        exact ⟨hmem, stored, hstored, hlive⟩
  · rintro ⟨hmem, stored, hstored, hlive, hnow⟩
    refine ⟨_, ⟨secretId, hmem, rfl⟩, ?_⟩
    simp [hstored, hlive, hnow]

omit [DecidableEq Digest] in
theorem checkAndRespond_ok_iff (env : Env Policy) (enclave : Secrets platform)
    (requestId : ℕ) (ids : List SecretId) :
    checkAndRespond env enclave requestId ids = .ok () ↔
      env.checkSecrets.rpc = .answered ∧ ∀ secretId ∈ ids, ∃ stored,
        enclave.secretsStorage secretId = some stored ∧ Live env stored := by
  unfold checkAndRespond Env.enclaveCheckSecrets
  cases env.checkSecrets.rpc with
  | lost message => simp [Rpc.reply]
  | failed message => simp [Rpc.reply]
  | answered =>
      simp only [Rpc.reply, true_and]
      have hfound := mem_foundSet_iff env enclave ids
      constructor
      · intro hok secretId hmem
        split_ifs at hok with hall
        have hin := List.all_eq_true.mp hall secretId hmem
        exact ((hfound secretId).mp (of_decide_eq_true hin)).2
      · intro hpresent
        rw [if_pos]
        refine List.all_eq_true.mpr fun secretId hmem => decide_eq_true ?_
        exact (hfound secretId).mpr ⟨hmem, hpresent secretId hmem⟩

/-! ## Requests in the map are fresh -/

/-- With one response as the threshold a request leaves the map with its first
response. -/
structure Fresh (entry : PendingRequest) : Prop where
  nothing : entry.collectedBundles = []
  count : entry.responseCount = 0
  threshold : entry.threshold = responseThreshold

theorem run_fresh (keys : KeyExchangeKeyPair platform)
    (actions : List (Action Policy)) :
    EntriesSatisfy (fun _ => Fresh) (fun _ _ _ => True)
      ((NodeState.new keys).run actions) := by
  induction actions using List.reverseRecOn with
  | nil =>
      constructor
      · rintro requestId entry ⟨⟩
      · exact fun _ _ _ _ => trivial
  | append_singleton actions last ih =>
      rw [NodeState.run_concat]
      refine (step_effect _ last).entriesSatisfy ih ?_ ?_ ?_ ?_
      · exact fun requestId entry hnothing hcount hthreshold =>
          ⟨hnothing, hcount, hthreshold⟩
      · intro env requestId secretsBox envReport entry haction hvalid hfresh
          hbelow
        rw [hfresh.threshold, responseThreshold] at hbelow
        omega
      · exact fun _ _ _ _ _ _ _ _ _ => trivial
      · exact fun _ _ _ _ => trivial

/-! ## What an approval files -/

/-- An approved response files the listed secrets for the consumers registered
for them, and nothing for another consumer. -/
theorem checkResponse_authorizations (hsha256 : Injective platform.sha256)
    {env : Env Policy} {requestId : ℕ} {entry : PendingRequest}
    {envReport : EnvReport} {userdata : UserData}
    (huserdata : platform.userDataFromCbor
      envReport.attestation.detachedUserdata = .ok userdata)
    {ids : List SecretId} {enclave : Secrets platform}
    (hvalid : (checkResponse env requestId entry envReport ids enclave).2 =
      .ok true) (secretId : SecretId) (consumer : ConsumerInfo) :
    (secretId ∈ ids → entry.consumersById secretId = some consumer →
      ∃ timestamp, AdmittedAt env envReport secretId consumer timestamp ∧
        (checkResponse env requestId entry envReport ids
          enclave).1.authorizations (grantId platform
            userdata.ephemeralPublicKey secretId consumer) =
          some (expiryTime timestamp)) ∧
    ((secretId ∈ ids → entry.consumersById secretId ≠ some consumer) →
      (checkResponse env requestId entry envReport ids
        enclave).1.authorizations (grantId platform
          userdata.ephemeralPublicKey secretId consumer) =
        enclave.authorizations (grantId platform
          userdata.ephemeralPublicKey secretId consumer)) := by
  induction ids generalizing enclave with
  | nil => exact ⟨fun hmem => absurd hmem List.not_mem_nil, fun _ => rfl⟩
  | cons requested ids ih =>
      obtain ⟨registered, policy, timestamp, hregistered, hpolicy, hrun,
        hrest⟩ := checkResponse_cons_ok_true hvalid
      rw [hrest] at hvalid ⊢
      obtain ⟨hlisted, hunlisted⟩ := ih hvalid
      obtain ⟨hfiled, hother⟩ := storeAuthorization_apply hsha256 enclave
        (policyReport envReport requested registered timestamp)
        userdata.ephemeralPublicKey secretId consumer
      rw [covers_policyReport_iff huserdata] at hfiled hother
      constructor
      · intro hmem hconsumer
        by_cases htail : secretId ∈ ids
        · exact hlisted htail hconsumer
        · obtain rfl : secretId = requested := by
            simpa [htail] using hmem
          obtain rfl := Option.some.inj (hregistered.symm.trans hconsumer)
          refine ⟨timestamp, ⟨policy, hpolicy, hrun⟩, ?_⟩
          rw [hunlisted fun hin => absurd hin htail]
          exact hfiled ⟨rfl, rfl⟩
      · intro hne
        rw [hunlisted fun hin => hne (List.mem_cons_of_mem _ hin)]
        refine hother ?_
        rintro ⟨rfl, rfl⟩
        exact hne List.mem_cons_self hregistered

/-- After the approvals the enclave admits a listed secret for `consumer` if it
is the one registered for it and the approval has not expired, or if the
enclave had an authorization before. -/
def AdmittedFor (env putEnv : Env Policy) (enclave : Secrets platform)
    (entry : PendingRequest) (envReport : EnvReport) (consumer : ConsumerInfo)
    (secretId : SecretId) : Prop :=
  (entry.consumersById secretId = some consumer ∧
    ∃ timestamp, AdmittedAt env envReport secretId consumer timestamp ∧
      putEnv.putSecrets.clock.checked < expiryTime timestamp) ∨
  (entry.consumersById secretId ≠ some consumer ∧
    enclave.checkAuthorization putEnv.putSecrets.clock.checked
      envReport.attestation secretId consumer = true)

theorem checkAuthorization_approved_iff (hsha256 : Injective platform.sha256)
    {env : Env Policy} (putEnv : Env Policy) {requestId : ℕ}
    {entry : PendingRequest} {envReport : EnvReport} {userdata : UserData}
    (huserdata : platform.userDataFromCbor
      envReport.attestation.detachedUserdata = .ok userdata)
    {ids : List SecretId} {enclave : Secrets platform}
    (hvalid : (checkResponse env requestId entry envReport ids enclave).2 =
      .ok true) (consumer : ConsumerInfo) {secretId : SecretId}
    (hmem : secretId ∈ ids) :
    (checkResponse env requestId entry envReport ids
        enclave).1.checkAuthorization putEnv.putSecrets.clock.checked
        envReport.attestation secretId consumer = true ↔
      AdmittedFor env putEnv enclave entry envReport consumer secretId := by
  obtain ⟨hlisted, hother⟩ := checkResponse_authorizations hsha256 huserdata
    hvalid secretId consumer
  rw [checkAuthorization_iff, AdmittedFor, checkAuthorization_iff]
  simp only [huserdata, Except.ok.injEq, exists_and_left, exists_eq_left']
  by_cases hconsumer : entry.consumersById secretId = some consumer
  · obtain ⟨timestamp, hadmitted, hfiled⟩ := hlisted hmem hconsumer
    simp only [hconsumer, hfiled, true_and, not_true_eq_false, ne_eq,
      false_and, or_false, Option.some.injEq, exists_eq_left']
    constructor
    · exact fun hlive => ⟨timestamp, hadmitted, hlive⟩
    · rintro ⟨other, ⟨policy, hpolicy, hrun⟩, hlive⟩
      obtain ⟨policy', hpolicy', hrun'⟩ := hadmitted
      obtain rfl := Except.ok.inj (hpolicy.symm.trans hpolicy')
      obtain rfl := PolicyRun.satisfied.inj (hrun.symm.trans hrun')
      exact hlive
  · simp only [hconsumer, hother fun _ => hconsumer, false_and, false_or, ne_eq,
      not_false_eq_true, true_and]

/-! ## Honest responders -/

/-- A response to a request of the enclave `ours`: the box comes from
`get_secrets` of the responder's enclave, called with a report that attests the
key of `ours` and asked for each secret once; the report attests the key of the
responder's enclave. -/
def HonestResponse (ours : Secrets platform) (secretsBox : SecretsBox)
    (envReport : EnvReport) : Prop :=
  ∃ (responder : Secrets platform) (clock : CallClock)
    (service : AttestationOracle) (nonce : Nonce)
    (requests : List (SecretId × ConsumerInfo)) (requester : EnvReport)
    (userdata sender : UserData),
    (requests.map Prod.fst).Nodup ∧
    responder.getSecrets clock service nonce requests requester =
      .ok secretsBox ∧
    platform.userDataFromCbor requester.attestation.detachedUserdata =
      .ok userdata ∧
    userdata.ephemeralPublicKey = ours.ephemeralKxKeypair.publicKey ∧
    platform.userDataFromCbor envReport.attestation.detachedUserdata =
      .ok sender ∧
    sender.ephemeralPublicKey = responder.ephemeralKxKeypair.publicKey

omit [DecidableEq Digest] in
/-- Such a box opens at `ours`, lists what it holds and names its sender. -/
theorem HonestResponse.opens (hroundTrips : platform.RoundTrips)
    {ours : Secrets platform} {secretsBox : SecretsBox} {envReport : EnvReport}
    (hhonest : HonestResponse ours secretsBox envReport) :
    ∃ sender packed,
      platform.userDataFromCbor envReport.attestation.detachedUserdata =
        .ok sender ∧
      secretsBox.senderPublicKey = sender.ephemeralPublicKey ∧
      decryptSecretsBox ours.ephemeralKxKeypair secretsBox = .ok packed ∧
      secretsBox.containedSecretIds = packed.map PackedSecret.secretId ∧
      (packed.map PackedSecret.secretId).Nodup := by
  obtain ⟨responder, clock, service, nonce, requests, requester, userdata,
    sender, hnodup, hbox, huserdata, hkey, hsender, hown⟩ := hhonest
  obtain ⟨-, attested, hattested, hsealed⟩ := getSecrets_ok hbox
  obtain rfl := Except.ok.inj (huserdata.symm.trans hattested)
  rw [hkey] at hsealed
  refine ⟨sender, _, hsender, ?_,
    decrypt_encryptSecretsBox hroundTrips hsealed, ?_, ?_⟩
  · obtain ⟨payload, ciphertext, -, -, rfl⟩ := encryptSecretsBox_ok hsealed
    exact hown.symm
  · obtain ⟨payload, ciphertext, -, -, rfl⟩ := encryptSecretsBox_ok hsealed
    rfl
  · rw [secretsToPack_eq]
    exact (packed_ids_sublist _ requests).nodup hnodup

/-! ## One box in the store -/

/-- A packed secret that `put_secrets` takes over: unexpired, and newer than
the stored entry. -/
structure TakenOver (env : Env Policy) (storage : SecretsStorage)
    (packed : List PackedSecret) (secret : PackedSecret) : Prop where
  packed : secret ∈ packed
  live : unexpired secret.expiry env.putSecrets.clock.now = true
  newer : Supersedes StoredSecret.generationTimestamp
    (storage secret.secretId) (toOffer secret).2

/-- The box makes the identifier available, or leaves an entry alone that is. -/
def Completed (env : Env Policy) (storage : SecretsStorage)
    (packed : List PackedSecret) (secretId : SecretId) : Prop :=
  (∃ secret, TakenOver env storage packed secret ∧
    secret.secretId = secretId ∧ Live env (toOffer secret).2) ∨
  ((∀ secret, TakenOver env storage packed secret →
      secret.secretId ≠ secretId) ∧
    ∃ stored, storage secretId = some stored ∧ Live env stored)

section OneBundle

variable {env : Env Policy} {enclave : Secrets platform}
  {bundle : SecretsBundle} {packed : List PackedSecret}

omit [DecidableEq Digest] in
theorem mem_offers_singleton
    (hadmitted : enclave.admitted env.putSecrets.clock env.attestation bundle =
      packed) {secretId : SecretId} {stored : StoredSecret} :
    (secretId, stored) ∈ enclave.offers env.putSecrets.clock env.attestation
        [bundle] ↔
      ∃ secret ∈ packed,
        unexpired secret.expiry env.putSecrets.clock.now = true ∧
        toOffer secret = (secretId, stored) := by
  simp [Secrets.offers, Secrets.offersOf, hadmitted, and_assoc]

omit [DecidableEq Digest] in
theorem putSecrets_takenOver
    (hadmitted : enclave.admitted env.putSecrets.clock env.attestation bundle =
      packed) (hnodup : (packed.map PackedSecret.secretId).Nodup)
    {secret : PackedSecret}
    (htaken : TakenOver env enclave.secretsStorage packed secret) :
    (enclave.putSecrets env.putSecrets.clock env.attestation
      [bundle]).1.secretsStorage secret.secretId =
        some (toOffer secret).2 := by
  have hlatest := putSecrets_isLatest enclave env.putSecrets.clock
    env.attestation [bundle] secret.secretId
  obtain ⟨last, hlast, hle⟩ := hlatest.offered_le (toOffer secret).2
    (mem_offersFor.mpr ((mem_offers_singleton hadmitted).mpr
      ⟨secret, htaken.packed, htaken.live, rfl⟩))
  rcases hlatest.source with hsame | ⟨offered, hmem, hresult, -⟩
  · have hlt := htaken.newer last (hsame ▸ hlast)
    exact absurd hle (not_le.mpr hlt)
  · obtain ⟨other, hother, -, hoffer⟩ :=
      (mem_offers_singleton hadmitted).mp (mem_offersFor.mp hmem)
    obtain ⟨hid, hentry⟩ := Prod.mk.inj hoffer
    have heq := List.inj_on_of_nodup_map hnodup hother htaken.packed hid
    rw [hresult, ← hentry, heq]
    rfl

omit [DecidableEq Digest] in
theorem putSecrets_not_takenOver
    (hadmitted : enclave.admitted env.putSecrets.clock env.attestation bundle =
      packed) {secretId : SecretId}
    (hnone : ∀ secret, TakenOver env enclave.secretsStorage packed secret →
      secret.secretId ≠ secretId) :
    (enclave.putSecrets env.putSecrets.clock env.attestation
      [bundle]).1.secretsStorage secretId =
        enclave.secretsStorage secretId := by
  rcases (putSecrets_isLatest enclave env.putSecrets.clock env.attestation
    [bundle] secretId).source with hsame | ⟨offered, hmem, -, hnewer⟩
  · exact hsame
  · obtain ⟨secret, hpacked, hlive, hoffer⟩ :=
      (mem_offers_singleton hadmitted).mp (mem_offersFor.mp hmem)
    obtain ⟨rfl, rfl⟩ := Prod.mk.inj hoffer
    exact absurd rfl (hnone secret ⟨hpacked, hlive, hnewer⟩)

omit [DecidableEq Digest] in
theorem putSecrets_completed_iff
    (hadmitted : enclave.admitted env.putSecrets.clock env.attestation bundle =
      packed) (hnodup : (packed.map PackedSecret.secretId).Nodup)
    (secretId : SecretId) :
    (∃ stored, (enclave.putSecrets env.putSecrets.clock env.attestation
      [bundle]).1.secretsStorage secretId = some stored ∧ Live env stored) ↔
      Completed env enclave.secretsStorage packed secretId := by
  by_cases htaken : ∃ secret, TakenOver env enclave.secretsStorage packed secret ∧
      secret.secretId = secretId
  · obtain ⟨secret, htaken, rfl⟩ := htaken
    have hafter := putSecrets_takenOver hadmitted hnodup htaken
    constructor
    · rintro ⟨stored, hstored, hlive⟩
      obtain rfl := Option.some.inj (hafter.symm.trans hstored)
      exact Or.inl ⟨secret, htaken, rfl, hlive⟩
    · rintro (⟨other, hother, hid, hlive⟩ | ⟨hnone, -⟩)
      · have heq := List.inj_on_of_nodup_map hnodup hother.packed htaken.packed
          hid
        exact ⟨_, hafter, heq ▸ hlive⟩
      · exact absurd rfl (hnone secret htaken)
  · have hnone : ∀ secret,
        TakenOver env enclave.secretsStorage packed secret →
          secret.secretId ≠ secretId :=
      fun secret hsecret hid => htaken ⟨secret, hsecret, hid⟩
    rw [putSecrets_not_takenOver hadmitted hnone]
    constructor
    · exact fun hstored => Or.inr ⟨hnone, hstored⟩
    · rintro (⟨secret, hsecret, hid, -⟩ | ⟨-, hstored⟩)
      · exact absurd hid (hnone secret hsecret)
      · exact hstored

omit [DecidableEq Digest] in
theorem putSecrets_true_iff_takenOver
    (hadmitted : enclave.admitted env.putSecrets.clock env.attestation bundle =
      packed) (hnodup : (packed.map PackedSecret.secretId).Nodup) :
    (enclave.putSecrets env.putSecrets.clock env.attestation [bundle]).2 =
        .ok true ↔
      ∃ secret, TakenOver env enclave.secretsStorage packed secret := by
  rw [putSecrets_result]
  constructor
  · rintro ⟨secretId, hne⟩
    by_contra hnone
    exact hne (putSecrets_not_takenOver hadmitted fun secret htaken =>
      absurd ⟨secret, htaken⟩ hnone)
  · rintro ⟨secret, htaken⟩
    refine ⟨secret.secretId, ?_⟩
    rw [putSecrets_takenOver hadmitted hnodup htaken]
    intro hsame
    exact absurd (htaken.newer _ hsame.symm) (lt_irrefl _)

end OneBundle

/-! ## The threshold finalizer -/

omit [DecidableEq Digest] in
theorem finalizeRequestThreshold_ok_iff (env : Env Policy)
    (enclave : Secrets platform) (requestId : ℕ) (entry : PendingRequest) :
    (finalizeRequestThreshold env enclave requestId entry).2 = .ok () ↔
      entry.collectedBundles ≠ [] ∧ env.putSecrets.rpc = .answered ∧
      (enclave.putSecrets env.putSecrets.clock env.attestation
        (bundlesForEnclave entry)).2 = .ok true ∧
      checkAndRespond env
        (enclave.putSecrets env.putSecrets.clock env.attestation
          (bundlesForEnclave entry)).1 requestId entry.requestedIds =
            .ok () := by
  unfold finalizeRequestThreshold Env.enclavePutSecrets
  generalize enclave.putSecrets env.putSecrets.clock env.attestation
    (bundlesForEnclave entry) = outcome
  obtain ⟨after, result⟩ := outcome
  cases hbundles : entry.collectedBundles with
  | nil => simp
  | cons bundle bundles =>
      cases env.putSecrets.rpc with
      | lost message => simp [Rpc.reply]
      | failed message => simp [Rpc.reply]
      | answered =>
          cases result with
          | error e => simp [Rpc.reply]
          | ok stored => cases stored <;> simp [Rpc.reply]

/-- A fresh entry collects one bundle, for the consumer of the first identifier
in the box, and none if the box lists nothing. -/
theorem bundlesForEnclave_collect_nil {entry : PendingRequest}
    (hfresh : Fresh entry) {secretsBox : SecretsBox} {envReport : EnvReport}
    (hhead : secretsBox.containedSecretIds.head? = none) :
    bundlesForEnclave (entry.collect secretsBox envReport) = [] := by
  simp [bundlesForEnclave, PendingRequest.collect, hfresh.nothing, hhead]

theorem bundlesForEnclave_collect_first {entry : PendingRequest}
    (hfresh : Fresh entry) {secretsBox : SecretsBox} {envReport : EnvReport}
    {first : SecretId} (hhead : secretsBox.containedSecretIds.head? = some first)
    {consumer : ConsumerInfo}
    (hconsumer : entry.consumersById first = some consumer) :
    bundlesForEnclave (entry.collect secretsBox envReport) =
      [(secretsBox, envReport, consumer)] := by
  simp [bundlesForEnclave, PendingRequest.collect, hfresh.nothing, hhead,
    hconsumer]

/-- What it takes, of a first response, for its request to be answered `Ok`.
The calls to the enclave are answered and the attestation of the sender
verifies; the consumer of the first listed secret may use all of them; and the
box brings something new and leaves no requested secret missing or expired. -/
structure Suffices (env putEnv : Env Policy) (enclave : Secrets platform)
    (entry : PendingRequest) (secretsBox : SecretsBox) (envReport : EnvReport) :
    Prop where
  put_answered : putEnv.putSecrets.rpc = .answered
  check_answered : putEnv.checkSecrets.rpc = .answered
  attested : putEnv.attestation envReport.attestation = .ok ()
  one_consumer : ∃ first consumer,
    secretsBox.containedSecretIds.head? = some first ∧
    entry.consumersById first = some consumer ∧
    ∀ secretId ∈ secretsBox.containedSecretIds,
      AdmittedFor env putEnv enclave entry envReport consumer secretId
  completes : ∃ packed,
    decryptSecretsBox enclave.ephemeralKxKeypair secretsBox = .ok packed ∧
    (∃ secret, TakenOver putEnv enclave.secretsStorage packed secret) ∧
    ∀ secretId ∈ entry.requestedIds,
      Completed putEnv enclave.secretsStorage packed secretId

omit [DecidableEq Digest] in
/-- The threshold finalizer of an entry with one box, of which `packed` is
admitted. -/
theorem finalize_admitted_ok_iff {putEnv : Env Policy}
    {enclave : Secrets platform} {requestId : ℕ} {entry : PendingRequest}
    (hfresh : Fresh entry) {secretsBox : SecretsBox} {envReport : EnvReport}
    {first : SecretId} (hhead : secretsBox.containedSecretIds.head? = some first)
    {consumer : ConsumerInfo}
    (hconsumer : entry.consumersById first = some consumer)
    {packed : List PackedSecret}
    (hadmitted : enclave.admitted putEnv.putSecrets.clock putEnv.attestation
      (secretsBox, envReport, consumer) = packed)
    (hnodup : (packed.map PackedSecret.secretId).Nodup) :
    (finalizeRequestThreshold putEnv enclave requestId
      (entry.collect secretsBox envReport)).2 = .ok () ↔
      putEnv.putSecrets.rpc = .answered ∧
      putEnv.checkSecrets.rpc = .answered ∧
      (∃ secret, TakenOver putEnv enclave.secretsStorage packed secret) ∧
      ∀ secretId ∈ entry.requestedIds,
        Completed putEnv enclave.secretsStorage packed secretId := by
  have hbundles : (entry.collect secretsBox envReport).collectedBundles =
      [(secretsBox, envReport)] := by
    simp [PendingRequest.collect, hfresh.nothing]
  have hrequested : (entry.collect secretsBox envReport).requestedIds =
      entry.requestedIds := rfl
  rw [finalizeRequestThreshold_ok_iff, checkAndRespond_ok_iff,
    bundlesForEnclave_collect_first hfresh hhead hconsumer, hbundles,
    hrequested, putSecrets_true_iff_takenOver hadmitted hnodup]
  simp only [putSecrets_completed_iff hadmitted hnodup]
  constructor
  · rintro ⟨-, hput, htaken, hcheck, hcompleted⟩
    exact ⟨hput, hcheck, htaken, hcompleted⟩
  · rintro ⟨hput, hcheck, htaken, hcompleted⟩
    exact ⟨by simp, hput, htaken, hcheck, hcompleted⟩

/-- The threshold finalizer of a single response. -/
theorem finalize_response_ok_iff (hsha256 : Injective platform.sha256)
    (hroundTrips : platform.RoundTrips) {env : Env Policy}
    (putEnv : Env Policy) {enclave : Secrets platform} {requestId : ℕ}
    {entry : PendingRequest} (hfresh : Fresh entry) {secretsBox : SecretsBox}
    {envReport : EnvReport}
    (hhonest : HonestResponse enclave secretsBox envReport)
    (hvalid : (checkResponse env requestId entry envReport
      secretsBox.containedSecretIds enclave).2 = .ok true) :
    (finalizeRequestThreshold putEnv
      (checkResponse env requestId entry envReport
        secretsBox.containedSecretIds enclave).1 requestId
      (entry.collect secretsBox envReport)).2 = .ok () ↔
      Suffices env putEnv enclave entry secretsBox envReport := by
  obtain ⟨sender, packed, hsender, hkey, hopened, hlisted, hnodup⟩ :=
    hhonest.opens hroundTrips
  have hcheck := checkAuthorization_approved_iff hsha256 putEnv hsender hvalid
  have honly := checkResponse_onlyAuthorizes env requestId entry envReport
    secretsBox.containedSecretIds enclave
  have hadmits := checkResponse_ok_true_iff.mp hvalid
  generalize (checkResponse env requestId entry envReport
    secretsBox.containedSecretIds enclave).1 = after at hcheck honly ⊢
  cases hhead : secretsBox.containedSecretIds.head? with
  | none =>
      rw [finalizeRequestThreshold_ok_iff,
        bundlesForEnclave_collect_nil hfresh hhead]
      constructor
      · rintro ⟨-, -, hput, -⟩
        simp [Secrets.putSecrets, verifiedBundles] at hput
      · intro hsuffices
        obtain ⟨first, consumer, hfirst, -⟩ := hsuffices.one_consumer
        rw [hhead] at hfirst
        cases hfirst
  | some first =>
      obtain ⟨consumer, timestamp, hconsumer, -⟩ :=
        hadmits first (List.mem_of_mem_head? hhead)
      by_cases hadmission : putEnv.attestation envReport.attestation = .ok () ∧
          ∀ secretId ∈ secretsBox.containedSecretIds,
            AdmittedFor env putEnv enclave entry envReport consumer secretId
      · obtain ⟨hattested, hall⟩ := hadmission
        have hadmitted : after.admitted putEnv.putSecrets.clock
            putEnv.attestation (secretsBox, envReport, consumer) = packed := by
          refine admitted_eq hattested hsender hkey ?_ ?_
          · exact fun secretId hmem => (hcheck consumer hmem).mpr
              (hall secretId hmem)
          · rw [honly.keys, hopened]
        rw [finalize_admitted_ok_iff hfresh hhead hconsumer hadmitted hnodup,
          honly.storage]
        constructor
        · rintro ⟨hput, hanswered, htaken, hcompleted⟩
          exact ⟨hput, hanswered, hattested,
            ⟨first, consumer, hhead, hconsumer, hall⟩,
            packed, hopened, htaken, hcompleted⟩
        · intro hsuffices
          obtain ⟨other, hother, htaken, hcompleted⟩ := hsuffices.completes
          obtain rfl := Except.ok.inj (hopened.symm.trans hother)
          exact ⟨hsuffices.put_answered, hsuffices.check_answered, htaken,
            hcompleted⟩
      · have hadmitted : after.admitted putEnv.putSecrets.clock
            putEnv.attestation (secretsBox, envReport, consumer) = [] := by
          apply admitted_eq_nil
          rintro ⟨hattested, hall⟩
          exact hadmission ⟨hattested, fun secretId hin =>
            (hcheck consumer hin).mp (hall secretId hin)⟩
        rw [finalize_admitted_ok_iff hfresh hhead hconsumer hadmitted
          List.nodup_nil]
        constructor
        · rintro ⟨-, -, ⟨secret, hsecret⟩, -⟩
          exact absurd hsecret.packed List.not_mem_nil
        · intro hsuffices
          obtain ⟨other, registered, hother, hregister, hall⟩ :=
            hsuffices.one_consumer
          obtain rfl := Option.some.inj (hhead.symm.trans hother)
          obtain rfl := Option.some.inj (hconsumer.symm.trans hregister)
          exact absurd ⟨hsuffices.attested, hall⟩ hadmission

/-! ## The two runs -/

/-- A response with what it meets when it arrives. -/
structure Response (Policy : Type*) where
  env : Env Policy
  secretsBox : SecretsBox
  envReport : EnvReport

def Response.action (response : Response Policy) (requestId : ℕ) :
    Action Policy :=
  .response response.env requestId response.secretsBox response.envReport

/-- The request times out and is finalized. -/
def timeoutSteps (requestId : ℕ) (env : Env Policy) : List (Action Policy) :=
  [.timeout requestId, .finish env requestId]

/-- The responses arrive, the finalizer that they start finishes, and the time
runs out. -/
def arrivalSteps (requestId : ℕ) (responses : List (Response Policy))
    (putEnv env : Env Policy) : List (Action Policy) :=
  responses.map (Response.action · requestId) ++
    .finish putEnv requestId :: timeoutSteps requestId env

/-- `get_secrets` has returned `Ok` for the request. -/
def ReturnedOk (state : NodeState platform) (requestId : ℕ) : Prop :=
  .responded requestId (.ok ()) ∈ state.log

instance (state : NodeState platform) (requestId : ℕ) :
    Decidable (ReturnedOk state requestId) :=
  inferInstanceAs (Decidable (_ ∈ state.log))

/-- A request that is in the map has no finalizer and no answer yet. -/
structure Unanswered (state : NodeState platform) (requestId : ℕ)
    (entry : PendingRequest) : Prop where
  pending : state.service.pending requestId = some entry
  fresh : Fresh entry
  timer : requestId ∈ state.timers
  finalizers : ∀ task ∈ state.finalizers, task.1 ≠ requestId
  log : ∀ result, .responded requestId result ∉ state.log

theorem run_unanswered (keys : KeyExchangeKeyPair platform)
    (actions : List (Action Policy)) {requestId : ℕ} {entry : PendingRequest}
    (hpending : ((NodeState.new keys).run actions).service.pending requestId =
      some entry) :
    Unanswered ((NodeState.new keys).run actions) requestId entry := by
  have hconserved := run_conserved keys actions requestId
  have hfresh := (run_fresh keys actions).waiting requestId entry hpending
  generalize (NodeState.new keys).run actions = state
    at hpending hconserved hfresh
  have hwaiting := waiting_of_some hpending
  have hcreated := hconserved.created_le_one
  have hremoved := hconserved.waiting_or_removed
  have hstarted := hconserved.started
  have hrunning := hconserved.running_or_responded
  have htimers := hconserved.waiting_le
  have hresponded : state.log.countP (ServiceEvent.isResponded requestId) =
      0 := by omega
  have hnone : state.finalizers.countP (fun task => task.1 == requestId) =
      0 := by
    rw [← NodeState.running]
    omega
  rw [List.countP_eq_zero] at hresponded hnone
  exact {
    pending := hpending
    fresh := hfresh
    timer := List.count_pos_iff.mp (by omega)
    finalizers := fun task hmem => by simpa using hnone task hmem
    log := fun result hmem => by simpa using hresponded _ hmem }

/-- The finalizer of the last request handed over, when it has no other. -/
theorem finish_last {state : NodeState platform} {requestId : ℕ}
    {before : List (ℕ × Finalizer × PendingRequest)} {kind : Finalizer}
    {entry : PendingRequest}
    (hfinalizers : state.finalizers = before ++ [(requestId, kind, entry)])
    (hbefore : ∀ task ∈ before, task.1 ≠ requestId) (env : Env Policy) :
    state.step (.finish env requestId) =
      state.finalize env requestId kind entry := by
  have hfind : (state.finalizers.find? fun task => task.1 = requestId) =
      some (requestId, kind, entry) := by
    rw [hfinalizers, List.find?_append, List.find?_eq_none.mpr]
    · simp
    · simpa using hbefore
  simp only [NodeState.step, NodeState.act, hfind]

theorem finish_none (state : NodeState platform) {requestId : ℕ}
    (hnone : ∀ task ∈ state.finalizers, task.1 ≠ requestId) (env : Env Policy) :
    state.step (.finish env requestId) = state := by
  have hfind : (state.finalizers.find? fun task => task.1 = requestId) =
      none := List.find?_eq_none.mpr (by simpa using hnone)
  simp only [NodeState.step, NodeState.act, hfind]

/-- A response to a request that is not in the map does nothing. -/
theorem response_none {state : NodeState platform} {requestId : ℕ}
    (hgone : state.service.pending requestId = none)
    (response : Response Policy) :
    state.step (response.action requestId) = state := by
  simp [NodeState.step, Response.action, NodeState.act,
    handleIncomingSecretBatchResponse, hgone, NodeState.handOver]

theorem responses_none {state : NodeState platform} {requestId : ℕ}
    (hgone : state.service.pending requestId = none)
    (responses : List (Response Policy)) :
    state.run (responses.map (Response.action · requestId)) = state := by
  induction responses with
  | nil => rfl
  | cons response responses ih =>
      rw [List.map_cons, NodeState.run, List.foldl_cons,
        response_none hgone response]
      exact ih

/-- The state in which the first response leaves a node. -/
theorem response_first {state : NodeState platform} {requestId : ℕ}
    {entry : PendingRequest} (hunanswered : Unanswered state requestId entry)
    {response : Response Policy}
    (hvalid : (checkResponse response.env requestId entry response.envReport
      response.secretsBox.containedSecretIds state.enclave).2 = .ok true) :
    state.step (response.action requestId) = { state with
      enclave := (checkResponse response.env requestId entry response.envReport
        response.secretsBox.containedSecretIds state.enclave).1
      service := { state.service with
        pending := update state.service.pending requestId none }
      finalizers := state.finalizers ++ [(requestId, .threshold,
        entry.collect response.secretsBox response.envReport)]
      log := state.log ++
        [.removed requestId, .started requestId .threshold] } := by
  have hmet : entry.threshold ≤ entry.responseCount + 1 := by
    rw [hunanswered.fresh.threshold, responseThreshold]
    omega
  simp only [NodeState.step, Response.action, NodeState.act,
    handleIncomingSecretBatchResponse, hunanswered.pending]
  cases hcheck : checkResponse response.env requestId entry response.envReport
      response.secretsBox.containedSecretIds state.enclave with
  | mk enclave outcome =>
      obtain rfl : outcome = .ok true := by simpa [hcheck] using hvalid
      simp [PendingRequest.collect, hmet, NodeState.handOver]

/-- A finalizer answers `Ok` when its function does. -/
theorem returnedOk_finalize_iff {state : NodeState platform} {requestId : ℕ}
    (hlog : ∀ result, .responded requestId result ∉ state.log)
    (env : Env Policy) (kind : Finalizer) (entry : PendingRequest) :
    ReturnedOk (state.finalize env requestId kind entry) requestId ↔
      (match kind with
        | .threshold =>
            finalizeRequestThreshold env state.enclave requestId entry
        | .timeout =>
            finalizeRequestTimeout env state.enclave requestId entry).2 =
        .ok () := by
  simp only [ReturnedOk, NodeState.finalize, List.mem_append,
    List.mem_singleton, ServiceEvent.responded.injEq, true_and]
  constructor
  · rintro (hmem | hresult)
    · exact absurd hmem (hlog _)
    · exact hresult.symm
  · exact fun hresult => Or.inr hresult.symm

/-- The timeout of a request that was answered adds nothing. -/
theorem timeoutSteps_gone (state : NodeState platform) {requestId : ℕ}
    (hgone : state.service.pending requestId = none)
    (hfinalizers : ∀ task ∈ state.finalizers, task.1 ≠ requestId)
    (env : Env Policy) :
    (state.run (timeoutSteps requestId env)).log = state.log := by
  have htimeout : state.step (.timeout requestId : Action Policy) =
      { state with timers := state.timers.erase requestId } := by
    simp only [NodeState.step, NodeState.act, timeoutReached, hgone]
    split_ifs with htimer
    · rfl
    · rw [List.erase_of_not_mem htimer]
  simp only [timeoutSteps, NodeState.run, List.foldl_cons, List.foldl_nil,
    htimeout]
  rw [finish_none { state with timers := state.timers.erase requestId }
    hfinalizers]

/-- The first response decides: the others find the request gone, and so does
the timeout. -/
theorem arrivalSteps_cons {state : NodeState platform} {requestId : ℕ}
    {entry : PendingRequest} (hunanswered : Unanswered state requestId entry)
    {response : Response Policy}
    (hvalid : (checkResponse response.env requestId entry response.envReport
      response.secretsBox.containedSecretIds state.enclave).2 = .ok true)
    (responses : List (Response Policy)) (putEnv env : Env Policy) :
    ReturnedOk (state.run
      (arrivalSteps requestId (response :: responses) putEnv env)) requestId ↔
      (finalizeRequestThreshold putEnv
        (checkResponse response.env requestId entry response.envReport
          response.secretsBox.containedSecretIds state.enclave).1 requestId
        (entry.collect response.secretsBox response.envReport)).2 = .ok () := by
  have hfirst := response_first hunanswered hvalid
  have hlog : ∀ result, .responded requestId result ∉
      (state.step (response.action requestId)).log := by
    intro result hmem
    rw [hfirst] at hmem
    simp [hunanswered.log result] at hmem
  have hgone : (state.step (response.action requestId)).service.pending
      requestId = none := by
    rw [hfirst]
    simp
  have hfinalizers : (state.step (response.action requestId)).finalizers =
      state.finalizers ++ [(requestId, .threshold,
        entry.collect response.secretsBox response.envReport)] := by
    rw [hfirst]
  have henclave : (state.step (response.action requestId)).enclave =
      (checkResponse response.env requestId entry response.envReport
        response.secretsBox.containedSecretIds state.enclave).1 := by
    rw [hfirst]
  have hrun : state.run
      (arrivalSteps requestId (response :: responses) putEnv env) =
      (((state.step (response.action requestId)).run
        (responses.map (Response.action · requestId))).step
          (.finish putEnv requestId)).run (timeoutSteps requestId env) := by
    simp [arrivalSteps, NodeState.run, List.foldl_append]
  rw [responses_none hgone, finish_last hfinalizers hunanswered.finalizers]
    at hrun
  generalize state.step (response.action requestId) = arrived
    at hlog hgone hfinalizers henclave hrun
  have herase : (arrived.finalize putEnv requestId .threshold
      (entry.collect response.secretsBox
        response.envReport)).finalizers = state.finalizers := by
    simp only [NodeState.finalize, hfinalizers]
    rw [List.eraseP_append_right _ (by simpa using hunanswered.finalizers)]
    simp
  have hafter := timeoutSteps_gone (arrived.finalize putEnv requestId .threshold
    (entry.collect response.secretsBox response.envReport)) hgone
    (herase.symm ▸ hunanswered.finalizers) env
  rw [ReturnedOk, hrun, hafter, ← henclave]
  exact returnedOk_finalize_iff hlog putEnv .threshold _

/-- From every state of a run in which the request is in the map: if it would be
answered `Ok` after its timeout, then it is answered `Ok` with the responses of
honest responders, which its policies approved, exactly when none arrives or the
first one suffices. -/
theorem arrivals_keep_ok_iff (hsha256 : Injective platform.sha256)
    (hroundTrips : platform.RoundTrips) (keys : KeyExchangeKeyPair platform)
    (actions : List (Action Policy)) {requestId : ℕ} {entry : PendingRequest}
    (hpending : ((NodeState.new keys).run actions).service.pending requestId =
      some entry) (responses : List (Response Policy))
    (hhonest : ∀ response ∈ responses, HonestResponse
      ((NodeState.new keys).run actions).enclave response.secretsBox
      response.envReport)
    (happroved : ∀ response ∈ responses, (checkResponse response.env requestId
      entry response.envReport response.secretsBox.containedSecretIds
      ((NodeState.new keys).run actions).enclave).2 = .ok true)
    (putEnv env : Env Policy)
    (hdropped : ReturnedOk (((NodeState.new keys).run actions).run
      (timeoutSteps requestId env)) requestId) :
    ReturnedOk (((NodeState.new keys).run actions).run
        (arrivalSteps requestId responses putEnv env)) requestId ↔
      ∀ response, responses.head? = some response →
        Suffices response.env putEnv ((NodeState.new keys).run actions).enclave
          entry response.secretsBox response.envReport := by
  have hunanswered := run_unanswered keys actions hpending
  generalize (NodeState.new keys).run actions = state
    at hhonest happroved hdropped hunanswered ⊢
  cases responses with
  | nil =>
      have hsame : state.run (arrivalSteps requestId [] putEnv env) =
          state.run (timeoutSteps requestId env) := by
        rw [arrivalSteps, List.map_nil, List.nil_append, NodeState.run,
          List.foldl_cons, finish_none state hunanswered.finalizers]
        rfl
      rw [hsame]
      exact iff_of_true hdropped (by simp)
  | cons response responses =>
      have hvalid := happroved response List.mem_cons_self
      rw [arrivalSteps_cons hunanswered hvalid responses putEnv env,
        finalize_response_ok_iff hsha256 hroundTrips putEnv hunanswered.fresh
          (hhonest response List.mem_cons_self) hvalid]
      simp

/-! ## A box with one of two secrets -/

/-- A request for the secret of the identity 7 and one for that of the identity
8. -/
def twoRequests : Requests :=
  sampleRequests ++ [(sampleSecretId 8,
    [{ secretId := sampleSecretId 8, consumer := sampleConsumer 0 }])]

/-- Node 0 once it asked for the secrets. -/
def requestSteps (requests : Requests) : List (Action Unit) :=
  [.getSecrets (sampleEnv [0] 6 0) requests (symbolicReport (padKey [0]))]

/-- Node 2 holds the secret of the identity 7 only. -/
def sampleResponse : Response Unit where
  env := sampleEnv [0] 7 0
  secretsBox := symbolicBox [2] [0] [sampleSecretId 7] 0
  envReport := symbolicReport (padKey [2])

theorem sampleResponse_honest
    {ours : Secrets (symbolicPlatform [padKey [0], padKey [1], padKey [2]]
      [samplePayload 9 5])}
    (hkey : ours.ephemeralKxKeypair.publicKey = padKey [0]) :
    HonestResponse ours sampleResponse.secretsBox sampleResponse.envReport :=
  ⟨(((NetworkState.new sampleKeys).run crossedRun).nodes 2).enclave,
    .still 7, fun _ => .ok (), (sampleEnv [2] 7 2).nonce,
    [(sampleSecretId 7, sampleConsumer 0)], symbolicReport (padKey [0]),
    { ephemeralPublicKey := padKey [0], blockHashes := [] },
    { ephemeralPublicKey := padKey [2], blockHashes := [] },
    by decide, by decide +kernel, by decide +kernel, hkey.symm,
    by decide +kernel, by decide +kernel⟩

/-- The request that the steps of node 0 leave in its map. -/
def sampleEntry (requests : Requests)
    (hsome : (((NodeState.new (sampleKeys 0)).run
      (requestSteps requests)).service.pending 1).isSome = true) :
    PendingRequest :=
  (((NodeState.new (sampleKeys 0)).run
    (requestSteps requests)).service.pending 1).get hsome

/-- The box suffices for a request for nothing else. -/
theorem arrivals_keep_ok_whole :
    Suffices sampleResponse.env (sampleEnv [0] 8 0)
      ((NodeState.new (sampleKeys 0)).run (requestSteps sampleRequests)).enclave
      (sampleEntry sampleRequests (by decide +kernel))
      sampleResponse.secretsBox sampleResponse.envReport := by
  have hpending : ((NodeState.new (sampleKeys 0)).run
      (requestSteps sampleRequests)).service.pending 1 =
        some (sampleEntry sampleRequests (by decide +kernel)) :=
    (Option.some_get _).symm
  have hkeeps := arrivals_keep_ok_iff (fun _ _ heq => heq)
    (symbolicPlatform_roundTrips _ _) (sampleKeys 0)
    (requestSteps sampleRequests) hpending [sampleResponse]
    (List.forall_mem_singleton.mpr (sampleResponse_honest (by decide +kernel)))
    (List.forall_mem_singleton.mpr (by decide +kernel))
    (sampleEnv [0] 8 0) (sampleEnv [0] 9 0) (by decide +kernel)
  exact hkeeps.mp (by decide +kernel) sampleResponse rfl

/-- An honest partial box makes a request fail that its timeout would have
answered. -/
theorem partial_response_fails :
    ¬ ∀ (actions : List (Action Unit)) (requestId : ℕ) (entry : PendingRequest)
      (responses : List (Response Unit)) (putEnv env : Env Unit),
      ((NodeState.new (sampleKeys 0)).run actions).service.pending requestId =
        some entry →
      (∀ response ∈ responses, HonestResponse
        ((NodeState.new (sampleKeys 0)).run actions).enclave
        response.secretsBox response.envReport) →
      (∀ response ∈ responses, (checkResponse response.env requestId entry
        response.envReport response.secretsBox.containedSecretIds
        ((NodeState.new (sampleKeys 0)).run actions).enclave).2 = .ok true) →
      ReturnedOk (((NodeState.new (sampleKeys 0)).run actions).run
        (timeoutSteps requestId env)) requestId →
      ReturnedOk (((NodeState.new (sampleKeys 0)).run actions).run
        (arrivalSteps requestId responses putEnv env)) requestId := by
  intro hkeeps
  have hok := hkeeps (requestSteps twoRequests) 1
    (sampleEntry twoRequests (by decide +kernel)) [sampleResponse]
    (sampleEnv [0] 8 0) (sampleEnv [0] 9 0) (Option.some_get _).symm
    (List.forall_mem_singleton.mpr (sampleResponse_honest (by decide +kernel)))
    (List.forall_mem_singleton.mpr (by decide +kernel)) (by decide +kernel)
  exact absurd hok (by decide +kernel)

end NxccBridge.PendingRequests
