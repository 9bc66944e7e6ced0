import NxccBridge.Core.Provenance
import NxccBridge.Enclave.Convergence
import NxccBridge.Enclave.PolicyRelease
import NxccBridge.Enclave.SecretsChannel

/-!
# A federation of enclaves

Any number of enclaves, whose daemons call them in any order and with any
arguments, and carry, change, replay or invent the messages between them.  The
enclaves share their keys' attestation and nothing else.  A secret that one of
them holds was generated by one of them, and every enclave that passed it on had
a policy decide so, for the enclave that received it.
-/

namespace NxccBridge.Federation

open Function
open Relation
open NxccBridge.Aead
open NxccBridge.Crypto
open NxccBridge.EnclaveSecrets
open NxccBridge.Framing
open NxccBridge.Indexing
open NxccBridge.Interface
open NxccBridge.LastWriter
open NxccBridge.PolicyExecution (RunnerEnvironment policyReport)
open NxccBridge.PolicyRelease
open NxccBridge.Provenance
open NxccBridge.SecretsChannel

variable {Claims : Type} {Enclave : Type*} [DecidableEq Enclave]
  {Digest : Type*} [DecidableEq Digest] {platform : Platform Digest}

/-! ## Calls -/

/-- A call of an enclave, with what the environment supplies to it. -/
inductive Act (Claims : Type) (Enclave : Type*)
  | change (enclave : Enclave) (step : EnclaveStep Claims)
  | getSecrets (enclave : Enclave) (clock : CallClock)
      (service : AttestationOracle) (nonce : Nonce)
      (requests : List (SecretId × ConsumerInfo)) (requester : EnvReport)

/-- The attestation service that a call consults. -/
def Act.service : Act Claims Enclave → Option AttestationOracle
  | .change _ (.putSecrets _ service _) => some service
  | .change _ _ => none
  | .getSecrets _ _ service _ _ _ => some service

def stepOf (enclave : Enclave) :
    Act Claims Enclave → Option (EnclaveStep Claims)
  | .change called step => if called = enclave then some step else none
  | .getSecrets .. => none

def stepsOf (acts : List (Act Claims Enclave)) (enclave : Enclave) :
    List (EnclaveStep Claims) :=
  acts.filterMap (stepOf enclave)

variable (keys : Enclave → KeyExchangeKeyPair platform)

/-- An enclave starts afresh and is changed by its own calls. -/
def stateOf (acts : List (Act Claims Enclave)) (enclave : Enclave) :
    Secrets platform :=
  run (Secrets.newWithKeypair (keys enclave)) (stepsOf acts enclave)

/-! ## What calls do -/

/-- The call makes an entry from entropy, since a policy let the key have it
that the enclave reports for itself. -/
structure Generates (before : List (Act Claims Enclave))
    (act : Act Claims Enclave) (enclave : Enclave) (secretId : SecretId)
    (stored : StoredSecret) : Prop where
  free : (stateOf keys before enclave).secretsStorage secretId = none
  call : ∃ clock selfReport requests consumer userdata,
    act = .change enclave (.generateSecrets clock (.ok selfReport) requests) ∧
    clock.now = stored.generationTimestamp ∧
    (secretId, consumer, .ok stored.data) ∈ requests ∧
    platform.userDataFromCbor selfReport.detachedUserdata = .ok userdata ∧
    Decided platform (stepsOf before enclave) clock.checked
      userdata.ephemeralPublicKey secretId consumer
  lasting : stored.expiry = 0

/-- The call makes a box for a key. -/
structure Sends (before : List (Act Claims Enclave))
    (act : Act Claims Enclave) (enclave : Enclave) (sent : Sent platform) :
    Prop where
  ours : sent.ours = keys enclave
  call : ∃ clock service requests requester userdata,
    act = .getSecrets enclave clock service sent.nonce requests requester ∧
    (stateOf keys before enclave).getSecrets clock service sent.nonce requests
      requester = .ok sent.secretsBox ∧
    platform.userDataFromCbor requester.attestation.detachedUserdata =
      .ok userdata ∧
    sent.recipient.val = userdata.ephemeralPublicKey ∧
    sent.secrets = (stateOf keys before enclave).secretsToPack clock
      requester.attestation requests

/-- The call puts an unexpired entry into a box for the key of the receiver,
since a policy of the giver let that key have it. -/
structure Releases (before : List (Act Claims Enclave))
    (act : Act Claims Enclave) (giver receiver : Enclave)
    (secretId : SecretId) (stored : StoredSecret) : Prop where
  held : (stateOf keys before giver).secretsStorage secretId = some stored
  call : ∃ clock service nonce requests requester consumer userdata,
    act = .getSecrets giver clock service nonce requests requester ∧
    (secretId, consumer) ∈ requests ∧
    unexpired stored.expiry clock.now = true ∧
    service requester.attestation = .ok () ∧
    platform.userDataFromCbor requester.attestation.detachedUserdata =
      .ok userdata ∧
    userdata.ephemeralPublicKey = (keys receiver).publicKey ∧
    Decided platform (stepsOf before giver) clock.checked
      userdata.ephemeralPublicKey secretId consumer

/-! ## What the enclaves rely on -/

/-- The attestation vouches for the keys of the enclaves only. -/
def Attested (acts : List (Act Claims Enclave)) : Prop :=
  ∀ act ∈ acts, ∀ service, act.service = some service →
    ∀ (bundle : AttestationBundle) (userdata : UserData),
      service bundle = .ok () →
      platform.userDataFromCbor bundle.detachedUserdata = .ok userdata →
        ∃ enclave, userdata.ephemeralPublicKey = (keys enclave).publicKey

/-- If the ciphertext of a box opens at an enclave under a key that it shares
with an enclave, one of the enclaves has sealed it. -/
def Authored (before : List (Act Claims Enclave)) (enclave : Enclave)
    (secretsBox : SecretsBox) : Prop :=
  ∀ sender message, secretsBox.senderPublicKey = (keys sender).publicKey →
    platform.aeadDecrypt
      (deriveSymmetricKey platform
        ((keys enclave).diffieHellman (keys sender).publicKey))
      (secretsBox.encryptedPayload.take aesNonceSize)
      (secretsBox.encryptedPayload.drop aesNonceSize)
      ((keys enclave).publicKey ++ (keys sender).publicKey) = .ok message →
    ∃ author sent,
      Sometime (fun earlier act => Sends keys earlier act author sent)
        before ∧
      sent.sealing = {
        key := deriveSymmetricKey platform
          ((keys enclave).diffieHellman (keys sender).publicKey)
        nonce := secretsBox.encryptedPayload.take aesNonceSize
        message := message
        aad := (keys enclave).publicKey ++ (keys sender).publicKey
        ciphertext := secretsBox.encryptedPayload.drop aesNonceSize }

/-- No daemon submits a forgery. -/
def Unforged (acts : List (Act Claims Enclave)) : Prop :=
  ∀ before enclave clock service bundles after,
    acts = before ++ .change enclave (.putSecrets clock service bundles) ::
      after →
    ∀ bundle ∈ bundles, Authored keys before enclave bundle.1

structure Sound (acts : List (Act Claims Enclave)) : Prop where
  attested : Attested keys acts
  unforged : Unforged keys acts

variable {keys}

theorem Sound.of_append {before later : List (Act Claims Enclave)}
    (hsound : Sound keys (before ++ later)) : Sound keys before where
  attested := by
    intro act hact
    exact hsound.attested act (List.mem_append_left later hact)
  unforged := by
    intro earlier enclave clock service bundles after hsplit
    apply hsound.unforged earlier enclave clock service bundles (after ++ later)
    rw [hsplit, List.append_assoc, List.cons_append]

/-! ## One call -/

@[simp]
theorem stateOf_nil (enclave : Enclave) :
    stateOf keys ([] : List (Act Claims Enclave)) enclave =
      Secrets.newWithKeypair (keys enclave) := rfl

theorem stateOf_concat (before : List (Act Claims Enclave))
    (act : Act Claims Enclave) (enclave : Enclave) :
    stateOf keys (before ++ [act]) enclave =
      match stepOf enclave act with
      | some step => PolicyRelease.step (stateOf keys before enclave) step
      | none => stateOf keys before enclave := by
  cases hstep : stepOf enclave act with
  | none => simp [stateOf, stepsOf, hstep]
  | some step => simp [stateOf, stepsOf, hstep, run]

theorem reachedBy_stateOf (acts : List (Act Claims Enclave))
    (enclave : Enclave) :
    ReachedBy ((stepsOf acts enclave).flatMap calls)
      (stateOf keys acts enclave) :=
  ⟨keys enclave, run_eq_run _ _⟩

omit [DecidableEq Enclave] in
/-- An entry that generation adds was asked for and authorized. -/
theorem generateLoop_added (authorized : SecretId → ConsumerInfo → Bool)
    (now : ℕ) (requests : List GenerateRequest) (storage : SecretsStorage)
    {secretId : SecretId} {stored : StoredSecret}
    (hafter : (generateLoop authorized now requests storage).1 secretId =
      some stored) :
    storage secretId = some stored ∨
      storage secretId = none ∧
        ∃ consumer secretData,
          (secretId, consumer, .ok secretData) ∈ requests ∧
          authorized secretId consumer = true ∧
          stored = {
            data := secretData
            expiry := 0
            generationTimestamp := now } := by
  induction requests generalizing storage with
  | nil => exact Or.inl hafter
  | cons request requests ih =>
      obtain ⟨requested, consumer, entropy⟩ := request
      have hrest : ∀ {between : SecretsStorage},
          (generateLoop authorized now requests between).1 secretId =
            some stored →
          between secretId = storage secretId →
          storage secretId = some stored ∨
            storage secretId = none ∧
              ∃ other secretData, (secretId, other, .ok secretData) ∈
                  (requested, consumer, entropy) :: requests ∧
                authorized secretId other = true ∧ stored = {
                  data := secretData
                  expiry := 0
                  generationTimestamp := now } := by
        intro between hbetween hsame
        rw [← hsame]
        apply (ih between hbetween).imp id
        intro ⟨hfree, other, secretData, hmem, hother⟩
        exact ⟨hfree, other, secretData, List.mem_cons_of_mem _ hmem, hother⟩
      unfold generateLoop at hafter
      split_ifs at hafter with hdenied hexists
      · exact hrest hafter rfl
      · exact Or.inl hafter
      · cases entropy with
        | error err => exact Or.inl hafter
        | ok secretData =>
            have hfree : storage requested = none := by
              simpa using hexists
            by_cases hsame : secretId = requested
            · subst hsame
              have hkept : (generateLoop authorized now requests
                  (update storage secretId (some ⟨secretData, 0, now⟩))).1
                    secretId = some ⟨secretData, 0, now⟩ :=
                generateLoop_of_some authorized now requests (update_self ..)
              have hstored := Option.some.inj (hafter.symm.trans hkept)
              have hauthorized : authorized secretId consumer = true := by
                simpa using hdenied
              exact Or.inr ⟨hfree, consumer, secretData, List.mem_cons_self,
                hauthorized, hstored⟩
            · exact hrest hafter (update_of_ne hsame ..)

omit [DecidableEq Enclave] in
theorem run_storeAuthorization_storage (self : Secrets platform)
    (reports : List PolicyExecutionReport) :
    (self.run (reports.map .storeAuthorization)).secretsStorage =
      self.secretsStorage := by
  induction reports using List.reverseRecOn with
  | nil => rfl
  | append_singleton reports last ih =>
      rw [List.map_append, List.map_singleton, Secrets.run_concat,
        Secrets.step, storeAuthorization_storage, ih]

theorem executePolicy_storage (self : Secrets platform)
    (env : RunnerEnvironment Claims) (workerId : String)
    (contexts : List (ClaimedPolicyRequest Claims)) :
    (step self (.executePolicy env workerId contexts)).secretsStorage =
      self.secretsStorage := by
  rw [step_eq_run, calls]
  have hreports := run_storeAuthorization_storage self
    ((satisfied env workerId contexts).map
      (policyReport env.currentTime))
  rwa [List.map_map] at hreports

omit [DecidableEq Enclave] in
theorem step_keys (self : Secrets platform) (call : SecretsStep) :
    (self.step call).ephemeralKxKeypair = self.ephemeralKxKeypair := by
  cases call with
  | storeAuthorization report =>
      rw [Secrets.step, Secrets.storeAuthorization]
      split_ifs
      · rfl
      · split <;> rfl
  | putSecrets clock service bundles => rfl
  | generateSecrets clock report requests => cases report <;> rfl

/-- An enclave keeps the keys it started with. -/
theorem stateOf_keys (acts : List (Act Claims Enclave)) (enclave : Enclave) :
    (stateOf keys acts enclave).ephemeralKxKeypair = keys enclave := by
  rw [stateOf, run_eq_run]
  induction (stepsOf acts enclave).flatMap calls using List.reverseRecOn with
  | nil => rfl
  | append_singleton before last ih =>
      rw [Secrets.run_concat, step_keys, ih]

section Calls

variable (hsha256 : Injective platform.sha256)

include hsha256

/-- A grant of an enclave stems from a decision of a policy. -/
theorem decided_of_granted {acts : List (Act Claims Enclave)}
    {enclave : Enclave} {now : ℕ} {bundle : AttestationBundle}
    {secretId : SecretId} {consumer : ConsumerInfo}
    (hgranted : (stateOf keys acts enclave).checkAuthorization now bundle
      secretId consumer = true) :
    ∃ userdata, platform.userDataFromCbor bundle.detachedUserdata =
        .ok userdata ∧
      Decided platform (stepsOf acts enclave) now userdata.ephemeralPublicKey
        secretId consumer := by
  obtain ⟨userdata, huserdata, hgranted⟩ := (checkAuthorization_iff_granted
    hsha256 (reachedBy_stateOf acts enclave) now bundle secretId
    consumer).mp hgranted
  exact ⟨userdata, huserdata, decided_of_reported hgranted.exists_report⟩

theorem generates_of_added {before : List (Act Claims Enclave)}
    {enclave : Enclave} {clock : CallClock}
    {report : Except String AttestationBundle}
    {requests : List GenerateRequest} {secretId : SecretId}
    {stored : StoredSecret}
    (hafter : (step (stateOf keys before enclave)
      (.generateSecrets clock report requests : EnclaveStep Claims)
        ).secretsStorage secretId = some stored) :
    (stateOf keys before enclave).secretsStorage secretId = some stored ∨
      Generates keys before
        (.change enclave (.generateSecrets clock report requests)) enclave
        secretId stored := by
  cases report with
  | error e => exact Or.inl hafter
  | ok selfReport =>
      apply (generateLoop_added _ clock.now requests _ hafter).imp id
      intro ⟨hfree, consumer, secretData, hmem, hgranted, hstored⟩
      obtain ⟨userdata, huserdata, hdecided⟩ :=
        decided_of_granted hsha256 hgranted
      subst hstored
      exact {
        free := hfree
        call := ⟨clock, selfReport, requests, consumer, userdata, rfl, rfl,
          hmem, huserdata, hdecided⟩
        lasting := rfl }

theorem Sends.releases {before : List (Act Claims Enclave)}
    {act : Act Claims Enclave} {author receiver : Enclave}
    {sent : Sent platform} (hsends : Sends keys before act author sent)
    (hreceiver : sent.recipient.val = (keys receiver).publicKey)
    {secret : PackedSecret} (hsecret : secret ∈ sent.secrets) :
    Releases keys before act author receiver secret.secretId
      (toOffer secret).2 := by
  obtain ⟨clock, service, requests, requester, userdata, rfl, hbox, huserdata,
    hrecipient, hsecrets⟩ := hsends.call
  rw [hsecrets, secretsToPack_eq, List.mem_filterMap] at hsecret
  obtain ⟨⟨secretId, consumer⟩, hrequest, hpacked⟩ := hsecret
  obtain ⟨stored, hread, rfl⟩ := Option.map_eq_some_iff.mp hpacked
  obtain ⟨userdata', huserdata', hreleasable⟩ := (readable_eq_some_iff hsha256
    (reachedBy_stateOf before author) _ _ _ _ _).mp hread
  obtain rfl := Except.ok.inj (huserdata.symm.trans huserdata')
  exact {
    held := hreleasable.present
    call := ⟨clock, service, sent.nonce, requests, requester, consumer,
      userdata, rfl, hrequest, hreleasable.live, (getSecrets_ok hbox).1,
      huserdata, hrecipient.symm.trans hreceiver,
      decided_of_reported hreleasable.granted.exists_report⟩ }

end Calls

omit [DecidableEq Digest] in
theorem secrets_of_sealing (hroundTrips : platform.RoundTrips)
    {sent : Sent platform} {plaintext : Bytes} {opened : List PackedSecret}
    (hmessage : sent.sealing.message = plaintext)
    (hopened : platform.decodeSecrets plaintext = .ok opened) :
    sent.secrets = opened := by
  have hdecoded := hroundTrips.secrets sent.encodeSecrets
  rw [hmessage, hopened] at hdecoded
  exact (Except.ok.inj hdecoded).symm

/-- What an enclave imports, another one has put into a box for it. -/
theorem released_of_imported (hsha256 : Injective platform.sha256)
    (hroundTrips : platform.RoundTrips) {before : List (Act Claims Enclave)}
    {enclave : Enclave} {clock : CallClock} {service : AttestationOracle}
    {bundles : List SecretsBundle}
    (hsound : Sound keys
      (before ++ [.change enclave (.putSecrets clock service bundles)]))
    {secretId : SecretId} {stored : StoredSecret}
    (hafter : ((stateOf keys before enclave).putSecrets clock service
      bundles).1.secretsStorage secretId = some stored) :
    (stateOf keys before enclave).secretsStorage secretId = some stored ∨
      ∃ giver, Sometime (fun earlier act =>
        Releases keys earlier act giver enclave secretId stored) before := by
  have hsource := (putSecrets_isLatest (stateOf keys before enclave) clock
    service bundles secretId).source
  rw [hafter] at hsource
  apply hsource.imp Eq.symm
  intro ⟨entry, hentry, hstored, _⟩
  obtain rfl := Option.some.inj hstored
  obtain ⟨bundle, hbundle, hoffer⟩ :=
    List.mem_flatMap.mp (mem_offersFor.mp hentry)
  obtain ⟨secret, hsecret, hpair⟩ := List.mem_map.mp hoffer
  obtain ⟨hservice, ⟨userdata, huserdata, hsender⟩, -, opened, hopened,
    hmem⟩ := mem_admitted_iff.mp (List.mem_filter.mp hsecret).1
  -- the attested key is that of an enclave
  obtain ⟨sender, hkey⟩ := hsound.attested _
    (List.mem_append_right before (List.mem_singleton_self _)) service rfl _ _
    hservice huserdata
  rw [hkey] at hsender
  obtain ⟨-, -, -, plaintext, hplaintext, hdecoded⟩ :=
    decryptSecretsBox_ok hopened
  rw [stateOf_keys, hsender] at hplaintext
  obtain ⟨author, sent, hsent, hsealing⟩ := hsound.unforged before enclave clock
    service bundles [] rfl bundle hbundle sender plaintext hsender hplaintext
  have haad : sent.recipient.val ++ sent.ours.publicKey =
      (keys enclave).publicKey ++ (keys sender).publicKey :=
    congrArg Sealing.aad hsealing
  have hrecipient := (List.append_inj haad (by
    rw [length_octets, (keys enclave).publicKey_length])).1
  have hsecrets := secrets_of_sealing hroundTrips
    (congrArg Sealing.message hsealing) hdecoded
  rw [← hsecrets] at hmem
  obtain ⟨rfl, rfl⟩ := Prod.mk.inj hpair
  refine ⟨author, hsent.mono ?_⟩
  intro earlier act hsends
  exact hsends.releases hsha256 hrecipient hmem

/-! ## Any number of calls -/

variable (keys)

def hands : Hands (Act Claims Enclave) Enclave (SecretId × StoredSecret) where
  holds acts enclave item :=
    (stateOf keys acts enclave).secretsStorage item.1 = some item.2
  makes before act enclave item :=
    Generates keys before act enclave item.1 item.2
  passes before act giver receiver item :=
    Releases keys before act giver receiver item.1 item.2

variable {keys}

theorem hands_concat (hsha256 : Injective platform.sha256)
    (hroundTrips : platform.RoundTrips) (before : List (Act Claims Enclave))
    (act : Act Claims Enclave) (hsound : Sound keys (before ++ [act]))
    (holder : Enclave) (item : SecretId × StoredSecret)
    (hholds : (hands keys).holds (before ++ [act]) holder item) :
    (hands keys).holds before holder item ∨
      (hands keys).makes before act holder item ∨
        ∃ giver, Sometime (fun earlier event =>
          (hands keys).passes earlier event giver holder item) before := by
  simp only [hands, stateOf_concat] at hholds ⊢
  cases act with
  | getSecrets enclave clock service nonce requests requester =>
      exact Or.inl hholds
  | change enclave call =>
      by_cases hcalled : enclave = holder
      · subst hcalled
        simp only [stepOf, if_true] at hholds
        cases call with
        | executePolicy env workerId contexts =>
            rw [executePolicy_storage] at hholds
            exact Or.inl hholds
        | putSecrets clock service bundles =>
            exact (released_of_imported hsha256 hroundTrips hsound hholds).imp
              id Or.inr
        | generateSecrets clock report requests =>
            exact (generates_of_added hsha256 hholds).imp id Or.inl
      · simp only [stepOf, hcalled, if_false] at hholds
        exact Or.inl hholds

theorem hands_conserves (hsha256 : Injective platform.sha256)
    (hroundTrips : platform.RoundTrips) :
    (hands keys).Conserves
      (Sound keys : List (Act Claims Enclave) → Prop) where
  sound_of_append _ _ hsound := hsound.of_append
  nil _ _ hholds := by cases hholds
  concat := hands_concat hsha256 hroundTrips
  giver_holds _ _ _ _ _ hreleases := hreleases.held

/-- Whatever the daemons do: a secret that an enclave holds was generated by an
enclave that a policy let have it, and each enclave it went through held it and
released it to the next, since a policy let the next one have it.  And boxes are
made for enclaves only. -/
theorem secrets_stay (hsha256 : Injective platform.sha256)
    (hroundTrips : platform.RoundTrips) {acts : List (Act Claims Enclave)}
    (hsound : Sound keys acts) :
    (∀ enclave secretId stored,
      (stateOf keys acts enclave).secretsStorage secretId = some stored →
      ∃ maker,
        Sometime (fun before act =>
          Generates keys before act maker secretId stored) acts ∧
        ReflTransGen (fun giver receiver => Sometime (fun before act =>
          Releases keys before act giver receiver secretId stored) acts)
          maker enclave) ∧
    (∀ author sent,
      Sometime (fun before act => Sends keys before act author sent) acts →
      ∃ receiver, sent.recipient.val = (keys receiver).publicKey) := by
  constructor
  · intro enclave secretId stored hstored
    exact (hands_conserves hsha256 hroundTrips).traced acts hsound enclave
      (secretId, stored) hstored
  · intro author sent hsent
    obtain ⟨before, act, after, rfl, hsends⟩ := hsent
    obtain ⟨clock, service, requests, requester, userdata, rfl, hbox, huserdata,
      hrecipient, -⟩ := hsends.call
    obtain ⟨receiver, hkey⟩ := hsound.attested _
      (List.mem_append_right before List.mem_cons_self) service rfl _ _
      (getSecrets_ok hbox).1 huserdata
    exact ⟨receiver, hrecipient.trans hkey⟩

/-! ## Two enclaves -/

def pairKeys (enclave : Bool) : KeyExchangeKeyPair namesPlatform :=
  symbolicKeyPair _ _ (if enclave then [2] else [1])

def pairBox : SecretsBox := symbolicBox [1] [2] [sampleSecretId 7] 0

/-- The first enclave generates a secret and makes a box of it for the second
one, which imports it; each asks its policy before. -/
def pairActs : List (Act Unit Bool) :=
  [.change false (.executePolicy answeringEnvironment "policy-1"
      [contextOf [1], contextOf [2]]),
    .change false (.generateSecrets (.still 10)
      (.ok (symbolicReport (padKey [1])).attestation)
      [(sampleSecretId 7, sampleConsumer 0, .ok [1])]),
    .getSecrets false (.still 11) (fun _ => .ok ()) zeroNonce
      [(sampleSecretId 7, sampleConsumer 0)] (symbolicReport (padKey [2])),
    .change true (.executePolicy answeringEnvironment "policy-1"
      [contextOf [1], contextOf [2]]),
    .change true (.putSecrets (.still 12) (fun _ => .ok ())
      [(pairBox, symbolicReport (padKey [1]), sampleConsumer 0)])]

def pairSent : Sent namesPlatform where
  nonce := zeroNonce
  ours := pairKeys false
  recipient := ⟨padKey [2], by decide⟩
  secrets := samplePayload 1 10
  secretsBox := pairBox
  sealed := by decide +kernel

theorem pairActs_attested : Attested pairKeys pairActs := by
  intro act _ service _ bundle userdata _ huserdata
  have hlisted : userdata.ephemeralPublicKey = padKey [1] ∨
      userdata.ephemeralPublicKey = padKey [2] := by
    simp only [namesPlatform, symbolicPlatform] at huserdata
    split at huserdata
    · rename_i key hkey
      have hmem := List.mem_of_find?_eq_some hkey
      obtain rfl := Except.ok.inj huserdata
      simpa using hmem
    · cases huserdata
  cases hlisted with
  | inl hfirst => exact ⟨false, hfirst⟩
  | inr hsecond => exact ⟨true, hsecond⟩

theorem pairSent_sends :
    Sends pairKeys (pairActs.take 2) (.getSecrets false (.still 11)
      (fun _ => .ok ()) zeroNonce [(sampleSecretId 7, sampleConsumer 0)]
      (symbolicReport (padKey [2]))) false pairSent where
  ours := rfl
  call := ⟨.still 11, fun _ => .ok (), [(sampleSecretId 7, sampleConsumer 0)],
    symbolicReport (padKey [2]), ⟨padKey [2], []⟩, rfl, by decide +kernel,
    by decide +kernel, rfl, by decide +kernel⟩

theorem pairBox_authored :
    Authored pairKeys (pairActs.take 4) true pairBox := by
  intro sender message hsender hmessage
  cases sender with
  | true => exact absurd hsender (by decide)
  | false =>
      have hempty : namesPlatform.aeadDecrypt
          (deriveSymmetricKey namesPlatform
            ((pairKeys true).diffieHellman (pairKeys false).publicKey))
          (pairBox.encryptedPayload.take aesNonceSize)
          (pairBox.encryptedPayload.drop aesNonceSize)
          ((pairKeys true).publicKey ++ (pairKeys false).publicKey) =
            .ok [] := by
        decide +kernel
      obtain rfl := Except.ok.inj (hempty.symm.trans hmessage)
      refine ⟨false, pairSent, ⟨pairActs.take 2, _, _, rfl, pairSent_sends⟩, ?_⟩
      rw [Sent.sealing, Sealing.mk.injEq]
      decide +kernel

theorem pairActs_unforged : Unforged pairKeys pairActs := by
  intro before enclave clock service bundles after hsplit bundle hbundle
  match before, hsplit with
  | [_, _, _, _], hsplit =>
      simp only [pairActs, List.cons_append, List.nil_append, List.cons.injEq,
        Act.change.injEq, EnclaveStep.putSecrets.injEq] at hsplit
      obtain ⟨rfl, rfl, rfl, rfl, ⟨rfl, -, -, rfl⟩, -⟩ := hsplit
      obtain rfl := List.mem_singleton.mp hbundle
      exact pairBox_authored
  | _ :: _ :: _ :: _ :: _ :: rest, hsplit =>
      have hlength := congrArg List.length hsplit
      simp [pairActs] at hlength

theorem secrets_stay_pair :
    ∃ maker,
      Sometime (fun before act => Generates pairKeys before act maker
        (sampleSecretId 7) ⟨[1], 0, 10⟩) pairActs ∧
      ReflTransGen (fun giver receiver => Sometime (fun before act =>
        Releases pairKeys before act giver receiver (sampleSecretId 7)
          ⟨[1], 0, 10⟩) pairActs) maker true :=
  (secrets_stay injective_id (symbolicPlatform_roundTrips _ _)
    ⟨pairActs_attested, pairActs_unforged⟩).1 true (sampleSecretId 7)
      ⟨[1], 0, 10⟩ (by decide +kernel)

end NxccBridge.Federation
