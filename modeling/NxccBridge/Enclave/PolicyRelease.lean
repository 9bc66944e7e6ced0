import NxccBridge.Enclave.PolicyExecution
import NxccBridge.Enclave.Release

/-!
# From policies to released secrets

The enclave as a whole: the only call that files reports is the execution of a
policy.  Whatever secret a box or a worker receives, a policy worker has
answered `true` for it before, in time and for the key of the receiver.
-/

namespace NxccBridge.PolicyRelease

open Function
open NxccBridge.Crypto
open NxccBridge.EnclaveSecrets
open NxccBridge.Framing
open NxccBridge.Interface
open NxccBridge.PolicyExecution

variable {Claims : Type} {Digest : Type*} [DecidableEq Digest]
  {platform : Platform Digest}

/-! ## Runs of the enclave -/

/-- The calls that change the secrets service, with what the environment
supplies to each of them. -/
inductive EnclaveStep (Claims : Type)
  | executePolicy (env : RunnerEnvironment Claims) (workerId : String)
      (contexts : List (ClaimedPolicyRequest Claims))
  | putSecrets (clock : CallClock) (service : AttestationOracle)
      (bundles : List SecretsBundle)
  | generateSecrets (clock : CallClock)
      (report : Except String AttestationBundle)
      (requests : List GenerateRequest)

def step (self : Secrets platform) : EnclaveStep Claims → Secrets platform
  | .executePolicy env workerId contexts =>
      (executePolicy env self workerId contexts).1
  | .putSecrets clock service bundles =>
      (self.putSecrets clock service bundles).1
  | .generateSecrets clock report requests =>
      (self.generateSecrets clock report requests).1

def run (self : Secrets platform) (steps : List (EnclaveStep Claims)) :
    Secrets platform :=
  steps.foldl step self

/-- The contexts with the result `true`. -/
def satisfied (env : RunnerEnvironment Claims) (workerId : String)
    (contexts : List (ClaimedPolicyRequest Claims)) :
    List (ClaimedPolicyRequest Claims) :=
  let contexts := env.enhance 0 contexts
  match env.invokePolicy workerId contexts with
  | .error _ => []
  | .ok results =>
      if results.length ≠ contexts.length then []
      else ((contexts.zip results).filter Prod.snd).map Prod.fst

/-- The calls of the secrets service that a step makes. -/
def calls : EnclaveStep Claims → List SecretsStep
  | .executePolicy env workerId contexts =>
      (satisfied env workerId contexts).map fun context =>
        .storeAuthorization (policyReport env.currentTime context)
  | .putSecrets clock service bundles => [.putSecrets clock service bundles]
  | .generateSecrets clock report requests =>
      [.generateSecrets clock report requests]

theorem storeSatisfied_eq_run (currentTime : ℕ)
    (entries : List (ClaimedPolicyRequest Claims × Bool))
    (secrets : Secrets platform) :
    (storeSatisfied currentTime entries secrets).1 =
      secrets.run (((entries.filter Prod.snd).map Prod.fst).map fun context =>
        .storeAuthorization (policyReport currentTime context)) := by
  induction entries generalizing secrets with
  | nil => rfl
  | cons entry rest ih =>
      obtain ⟨context, result⟩ := entry
      cases result with
      | false => exact ih secrets
      | true => exact ih (secrets.storeAuthorization _)

/-- A step is the run of its calls. -/
theorem step_eq_run (self : Secrets platform) (act : EnclaveStep Claims) :
    step self act = self.run (calls act) := by
  cases act with
  | putSecrets clock service bundles => rfl
  | generateSecrets clock report requests => rfl
  | executePolicy env workerId contexts =>
      rw [step, executePolicy, calls, satisfied]
      cases env.invokePolicy workerId (env.enhance 0 contexts) with
      | error error => rfl
      | ok results =>
          by_cases hcount : results.length = (env.enhance 0 contexts).length
          · simp only [hcount, ne_eq, not_true_eq_false, if_false]
            exact storeSatisfied_eq_run env.currentTime _ self
          · simp only [ne_eq, hcount, not_false_eq_true, if_true]
            rfl

theorem run_eq_run (self : Secrets platform)
    (steps : List (EnclaveStep Claims)) :
    run self steps = self.run (steps.flatMap calls) := by
  induction steps generalizing self with
  | nil => rfl
  | cons first rest ih =>
      rw [List.flatMap_cons, Secrets.run, List.foldl_append, ← Secrets.run,
        ← Secrets.run, ← step_eq_run]
      exact ih (step self first)

/-- Where the executions read the clock of `chrono`, so are the reports of the
run stamped. -/
theorem stampedByClock_calls {steps : List (EnclaveStep Claims)}
    (hclock : ∀ env workerId contexts,
      .executePolicy env workerId contexts ∈ steps →
        env.currentTime ≤ lastUtcSecond) :
    StampedByClock (steps.flatMap calls) := by
  intro report hmem
  obtain ⟨act, hact, hcall⟩ := List.mem_flatMap.mp hmem
  cases act with
  | putSecrets clock service bundles => simp [calls] at hcall
  | generateSecrets clock self requests => simp [calls] at hcall
  | executePolicy env workerId contexts =>
      obtain ⟨context, -, hreport⟩ := List.mem_map.mp hcall
      obtain rfl := SecretsStep.storeAuthorization.inj hreport
      exact hclock env workerId contexts hact

/-! ## Decisions -/

/-- An execution of the run, younger than the lifetime, in which the policy
worker answered `true` for a context that covers the triple. -/
def Decided (platform : Platform Digest) (steps : List (EnclaveStep Claims))
    (now : ℕ) (key : Bytes) (secretId : SecretId) (consumer : ConsumerInfo) :
    Prop :=
  ∃ env workerId contexts results,
    EnclaveStep.executePolicy env workerId contexts ∈ steps ∧
      env.invokePolicy workerId (env.enhance 0 contexts) = .ok results ∧
      results.length = contexts.length ∧
      Satisfied platform env.currentTime contexts results key secretId
        consumer ∧
      now < env.currentTime + authorizationLifetime

omit [DecidableEq Digest] in
/-- A report that was filed stems from a decision. -/
theorem decided_of_reported {steps : List (EnclaveStep Claims)} {now : ℕ}
    {key : Bytes} {secretId : SecretId} {consumer : ConsumerInfo}
    (hreported : Reported platform (steps.flatMap calls) now key secretId
      consumer) :
    Decided platform steps now key secretId consumer := by
  obtain ⟨report, hmem, hcovers, hnow⟩ := hreported
  obtain ⟨act, hact, hcall⟩ := List.mem_flatMap.mp hmem
  cases act with
  | putSecrets clock service bundles => simp [calls] at hcall
  | generateSecrets clock self requests => simp [calls] at hcall
  | executePolicy env workerId contexts =>
      obtain ⟨context, hcontext, hreport⟩ := List.mem_map.mp hcall
      obtain rfl := SecretsStep.storeAuthorization.inj hreport
      rw [satisfied] at hcontext
      cases hinvoked : env.invokePolicy workerId (env.enhance 0 contexts) with
      | error error => simp [hinvoked] at hcontext
      | ok results =>
          have hlength : (env.enhance 0 contexts).length = contexts.length := by
            simpa using congrArg List.length (map_enhance env 0 contexts)
          by_cases hcount : results.length = contexts.length
          · simp only [hinvoked, hlength, hcount, ne_eq, not_true_eq_false,
              if_false, List.mem_map, List.mem_filter] at hcontext
            obtain ⟨entry, ⟨hentry, htrue⟩, rfl⟩ := hcontext
            refine ⟨env, workerId, contexts, results, hact, hinvoked, hcount,
              ?_, hnow⟩
            exact (satisfied_zip_iff (map_enhance env 0 contexts)).mp
              ⟨entry, hentry, htrue, hcovers⟩
          · simp [hinvoked, hlength, hcount] at hcontext

/-- Over every run of the enclave: what a box carries, to whoever opens it, and
what a worker is given was requested, and a policy worker has decided for it,
within the lifetime, for the key of the requester and the consumer. -/
theorem releases_decided (hsha256 : Injective platform.sha256)
    (hroundTrips : platform.RoundTrips) (hideal : platform.IdealAead)
    (keys : KeyExchangeKeyPair platform) (steps : List (EnclaveStep Claims))
    (clock : CallClock) :
    let self := run (Secrets.newWithKeypair keys) steps
    (∀ service nonce requests requester secretsBox
        (theirs : KeyExchangeKeyPair platform) opened,
      self.getSecrets clock service nonce requests requester = .ok secretsBox →
      decryptSecretsBox theirs secretsBox = .ok opened →
      ∃ userdata,
        platform.userDataFromCbor requester.attestation.detachedUserdata =
          .ok userdata ∧
        ∀ secret ∈ opened, ∃ consumer,
          (secret.secretId, consumer) ∈ requests ∧
            Decided platform steps clock.checked userdata.ephemeralPublicKey
              secret.secretId consumer) ∧
    (∀ selfReport secretIdsWithNames consumer workerSecrets name secretData,
      self.getSecretsForLocalWorker clock (.ok selfReport) secretIdsWithNames
        consumer = .ok workerSecrets →
      workerSecrets name = some secretData →
      ∃ userdata secretId,
        platform.userDataFromCbor selfReport.detachedUserdata = .ok userdata ∧
          (secretId, name) ∈ secretIdsWithNames ∧
          Decided platform steps clock.checked userdata.ephemeralPublicKey
            secretId consumer) := by
  have hreached : ReachedBy (steps.flatMap calls)
      (run (Secrets.newWithKeypair keys) steps) :=
    ⟨keys, run_eq_run _ steps⟩
  constructor
  · intro service nonce requests requester secretsBox theirs opened hbox hopened
    obtain ⟨-, userdata, packed, huserdata, hreleases⟩ :=
      boxReleases_of_getSecrets hsha256 hroundTrips hideal hreached hbox
    obtain rfl := hreleases.opened_eq theirs opened hopened
    refine ⟨userdata, huserdata, fun secret hmem => ?_⟩
    obtain ⟨consumer, stored, hrequest, -, -, hreported⟩ :=
      hreleases.sound secret hmem
    exact ⟨consumer, hrequest, decided_of_reported hreported⟩
  · intro selfReport secretIdsWithNames consumer workerSecrets name secretData
      hmap hvalue
    cases huserdata : platform.userDataFromCbor selfReport.detachedUserdata with
    | error e =>
        have hnone := getSecretsForLocalWorker_of_error hmap huserdata name
        rw [hnone] at hvalue
        cases hvalue
    | ok userdata =>
        have hreleases := mapReleases_of_getSecretsForLocalWorker hsha256
          hreached hmap huserdata
        obtain ⟨secretId, stored, hrequest, -, -, hreported⟩ :=
          hreleases.sound name secretData hvalue
        exact ⟨userdata, secretId, rfl, hrequest,
          decided_of_reported hreported⟩

/-! ## A policy that answers `true` twice -/

def answeringEnvironment : RunnerEnvironment Unit where
  verifyAndExtractClaims := fun _ _ => .error "no verifier"
  workerMap := fun _ => some "vm-1"
  vms := fun _ => some fun _ _ _ => .ok []
  toVec := fun _ => []
  resultsFromSlice := fun _ => .ok [true, true]
  currentTime := 1

def contextOf (key : Bytes) : ClaimedPolicyRequest Unit :=
  { (sampleGrant (padKey key)).request with attestationClaims := none }

/-- The policy lets the enclave `[1]` and the requester `[2]` have the secret,
which is generated then. -/
def answeredSteps : List (EnclaveStep Unit) :=
  [.executePolicy answeringEnvironment "policy-1"
      [contextOf [1], contextOf [2]],
    .generateSecrets (.still 10) (.ok (symbolicReport (padKey [1])).attestation)
      [(sampleSecretId 7, sampleConsumer 0, .ok [1])]]

theorem releases_decided_first :
    ∃ userdata, Decided namesPlatform answeredSteps 11
      (UserData.ephemeralPublicKey userdata) (sampleSecretId 7)
      (sampleConsumer 0) := by
  have hbox : (run (Secrets.newWithKeypair (symbolicKeyPair
      [padKey [1], padKey [2]] [samplePayload 1 10] [1]))
        answeredSteps).getSecrets (.still 11) (fun _ => .ok ())
      ⟨List.replicate 12 0, rfl⟩ [(sampleSecretId 7, sampleConsumer 0)]
      (symbolicReport (padKey [2])) =
      .ok (symbolicBox [1] [2] [sampleSecretId 7] 0) := by
    decide +kernel
  have hopened : decryptSecretsBox (symbolicKeyPair [padKey [1], padKey [2]]
      [samplePayload 1 10] [2]) (symbolicBox [1] [2] [sampleSecretId 7] 0) =
        .ok (samplePayload 1 10) := by
    decide +kernel
  obtain ⟨userdata, -, hdecided⟩ :=
    (releases_decided injective_id (symbolicPlatform_roundTrips _ _)
      (symbolicPlatform_idealAead _ _) _ answeredSteps
        (.still 11)).1 _ _ _ _ _ _ _ hbox hopened
  obtain ⟨consumer, hrequest, hdecided⟩ :=
    hdecided _ (List.mem_singleton_self _)
  have hconsumer : consumer = sampleConsumer 0 :=
    congrArg Prod.snd (List.mem_singleton.mp hrequest)
  exact ⟨userdata, hconsumer ▸ hdecided⟩

end NxccBridge.PolicyRelease
