import NxccBridge.Enclave.Imports

/-!
# The secret store over a run

Entries are never removed and change only towards later timestamps.  Imports
converge: the timestamps that a set of received entries leaves do not depend on
their order or grouping.  The entries do not either where the latest ones
agree; entries of one second that differ are resolved by arrival.
-/

namespace NxccBridge.EnclaveSecrets

open Function
open NxccBridge.LastWriter
open NxccBridge.Framing
open NxccBridge.Interface
open NxccBridge.AuthorizationId
open NxccBridge.Crypto

variable {Digest : Type*} [DecidableEq Digest] {platform : Platform Digest}

/-! ## Monotonicity -/

/-- Generation fills free identifiers only. -/
theorem generateLoop_of_some (authorized : SecretId → ConsumerInfo → Bool)
    (now : ℕ) (requests : List GenerateRequest) {storage : SecretsStorage}
    {secretId : SecretId} {entry : StoredSecret}
    (hentry : storage secretId = some entry) :
    (generateLoop authorized now requests storage).1 secretId = some entry := by
  induction requests generalizing storage with
  | nil => exact hentry
  | cons request requests ih =>
      obtain ⟨requested, consumer, entropy⟩ := request
      unfold generateLoop
      split_ifs with hdenied hexists
      · exact ih hentry
      · exact hentry
      · cases entropy with
        | error err => exact hentry
        | ok secretData =>
            refine ih ?_
            have hfree : storage requested = none := by
              simpa using hexists
            have hne : secretId ≠ requested := by
              rintro rfl
              rw [hfree] at hentry
              cases hentry
            rw [update_of_ne hne, hentry]

omit [DecidableEq Digest] in
theorem generateSecrets_of_some (self : Secrets platform) (clock : CallClock)
    (report : Except String AttestationBundle)
    (requests : List GenerateRequest) {secretId : SecretId}
    {entry : StoredSecret} (hentry : self.secretsStorage secretId = some entry) :
    (self.generateSecrets clock report requests).1.secretsStorage secretId =
      some entry := by
  cases report with
  | error e => exact hentry
  | ok selfReport => exact generateLoop_of_some _ clock.now requests hentry

theorem storeAuthorization_storage (self : Secrets platform)
    (report : PolicyExecutionReport) :
    (self.storeAuthorization report).secretsStorage = self.secretsStorage := by
  unfold Secrets.storeAuthorization
  split_ifs
  · rfl
  · split <;> rfl

theorem step_advances (self : Secrets platform) (step : SecretsStep)
    (secretId : SecretId) :
    Advances StoredSecret.generationTimestamp (self.secretsStorage secretId)
      ((self.step step).secretsStorage secretId) := by
  cases step with
  | storeAuthorization report =>
      rw [Secrets.step, storeAuthorization_storage]
      exact Advances.refl _
  | putSecrets clock service bundles =>
      exact (putSecrets_isLatest self clock service bundles secretId).advances
  | generateSecrets clock report requests =>
      intro entry hentry
      exact ⟨entry, generateSecrets_of_some self clock report requests hentry,
        Or.inl rfl⟩

theorem run_advances (self : Secrets platform) (steps : List SecretsStep)
    (secretId : SecretId) :
    Advances StoredSecret.generationTimestamp (self.secretsStorage secretId)
      ((self.run steps).secretsStorage secretId) := by
  induction steps using List.reverseRecOn with
  | nil => exact Advances.refl _
  | append_singleton steps last ih =>
      rw [Secrets.run_concat]
      exact ih.trans (step_advances _ last secretId)

/-- Over every run, from any state, the store only moves forward, step by step
and as a whole; generation changes no entry; and `put_secrets` answers `true`
exactly when it changed one. -/
theorem secretsStorage_monotone (self : Secrets platform)
    (steps : List SecretsStep) :
    (∀ secretId, Advances StoredSecret.generationTimestamp
      (self.secretsStorage secretId)
      ((self.run steps).secretsStorage secretId)) ∧
    (∀ step secretId, Advances StoredSecret.generationTimestamp
      ((self.run steps).secretsStorage secretId)
      (((self.run steps).step step).secretsStorage secretId)) ∧
    (∀ clock report requests secretId entry,
      (self.run steps).secretsStorage secretId = some entry →
      ((self.run steps).generateSecrets clock report
        requests).1.secretsStorage secretId = some entry) ∧
    (∀ clock service bundles,
      ((self.run steps).putSecrets clock service bundles).2 = .ok true ↔
        ∃ secretId,
          ((self.run steps).putSecrets clock service
            bundles).1.secretsStorage secretId ≠
            (self.run steps).secretsStorage secretId) :=
  ⟨run_advances self steps,
    fun step secretId => step_advances _ step secretId,
    fun clock report requests _ _ hentry =>
      generateSecrets_of_some _ clock report requests hentry,
    fun clock service bundles => putSecrets_result _ clock service bundles⟩

/-! ## Order independence -/

/-- What a run receives through `put_secrets`: the entries that pass the checks
of their call, in the order of arrival. -/
def Secrets.received (self : Secrets platform) :
    List SecretsStep → List (SecretId × StoredSecret)
  | [] => []
  | .putSecrets clock service bundles :: steps =>
      self.offers clock service bundles ++
        (self.step (.putSecrets clock service bundles)).received steps
  | step :: steps => (self.step step).received steps

/-- A run in which entries come in through `put_secrets` only. -/
def ImportsOnly (steps : List SecretsStep) : Prop :=
  ∀ clock report requests, .generateSecrets clock report requests ∉ steps

/-- A run of imports is one fold over what it receives. -/
theorem run_storage_of_importsOnly (self : Secrets platform)
    {steps : List SecretsStep} (himports : ImportsOnly steps) :
    (self.run steps).secretsStorage =
      (self.received steps).foldl (offer StoredSecret.generationTimestamp)
        self.secretsStorage := by
  induction steps generalizing self with
  | nil => rfl
  | cons step steps ih =>
      have hrest : ImportsOnly steps := fun clock report requests hmem =>
        himports clock report requests (List.mem_cons_of_mem _ hmem)
      have hrun : self.run (step :: steps) = (self.step step).run steps := rfl
      rw [hrun, ih _ hrest]
      cases step with
      | storeAuthorization report =>
          rw [Secrets.received, Secrets.step, storeAuthorization_storage]
          simp
      | putSecrets clock service bundles =>
          rw [Secrets.received, List.foldl_append, Secrets.step,
            putSecrets_storage]
      | generateSecrets clock report requests =>
          exact absurd (List.mem_cons_self ..) (himports clock report requests)

/-- Two stores that start alike and receive the same entries, in whatever order
and grouping, end with the same identifiers and timestamps, and with the same
entry wherever the latest received entries do not tie. -/
theorem imports_converge (left right : Secrets platform)
    (leftSteps rightSteps : List SecretsStep)
    (hstart : left.secretsStorage = right.secretsStorage)
    (hleft : ImportsOnly leftSteps) (hright : ImportsOnly rightSteps)
    (hsame : ∀ entry, entry ∈ left.received leftSteps ↔
      entry ∈ right.received rightSteps) (secretId : SecretId) :
    ((left.run leftSteps).secretsStorage secretId).map
        StoredSecret.generationTimestamp =
      ((right.run rightSteps).secretsStorage secretId).map
        StoredSecret.generationTimestamp ∧
    ((∀ first second,
        (secretId, first) ∈ left.received leftSteps →
        (secretId, second) ∈ left.received leftSteps →
        Supersedes StoredSecret.generationTimestamp
          (left.secretsStorage secretId) first →
        first.generationTimestamp = second.generationTimestamp →
        (∀ entry, (secretId, entry) ∈ left.received leftSteps →
          entry.generationTimestamp ≤ first.generationTimestamp) →
        first = second) →
      (left.run leftSteps).secretsStorage secretId =
        (right.run rightSteps).secretsStorage secretId) := by
  have hleftLatest : IsLatest StoredSecret.generationTimestamp _ _ _ :=
    foldl_offer_isLatest (left.received leftSteps) left.secretsStorage secretId
  have hrightLatest : IsLatest StoredSecret.generationTimestamp _ _ _ :=
    foldl_offer_isLatest (right.received rightSteps) left.secretsStorage
      secretId
  rw [← run_storage_of_importsOnly left hleft] at hleftLatest
  rw [hstart, ← run_storage_of_importsOnly right hright, ← hstart]
    at hrightLatest
  have hoffers : ∀ entry,
      entry ∈ offersFor secretId (left.received leftSteps) ↔
        entry ∈ offersFor secretId (right.received rightSteps) := by
    intro entry
    rw [mem_offersFor, mem_offersFor, hsame]
  refine ⟨hleftLatest.stamp_eq hrightLatest hoffers, fun hagree => ?_⟩
  refine hleftLatest.eq hrightLatest hoffers ?_
  intro first hfirst second hsecond hnewer htie htop
  exact hagree first second (mem_offersFor.mp hfirst)
    (mem_offersFor.mp hsecond) hnewer htie
    (fun entry hentry => htop entry (mem_offersFor.mpr hentry))

/-! ## Two entries of one second -/

def tiePlatform : Platform Bytes :=
  symbolicPlatform [padKey [2], padKey [3]]
    [samplePayload 1 5, samplePayload 2 5, samplePayload 3 6]

/-- An enclave that lets both senders provide the secret. -/
def tieEnclave : Secrets tiePlatform :=
  (Secrets.newWithKeypair (symbolicKeyPair _ _ [1])).run
    [.storeAuthorization (sampleGrant (padKey [2])),
      .storeAuthorization (sampleGrant (padKey [3]))]

/-- One call that brings payload number `index` from `sender`. -/
def tieImport (sender : Bytes) (index : ℕ) : SecretsStep :=
  .putSecrets (.still 10) (fun _ => .ok ())
    [(symbolicBox sender [1] [sampleSecretId 7] index,
      symbolicReport (padKey sender), sampleConsumer 0)]

/-- Two honest boxes of one second, received in two orders, leave two
stores. -/
theorem imports_diverge :
    (∀ entry,
      entry ∈ tieEnclave.received [tieImport [2] 0, tieImport [3] 1] ↔
        entry ∈ tieEnclave.received [tieImport [3] 1, tieImport [2] 0]) ∧
    (tieEnclave.run [tieImport [2] 0, tieImport [3] 1]).secretsStorage ≠
      (tieEnclave.run [tieImport [3] 1, tieImport [2] 0]).secretsStorage := by
  constructor
  · have hleft : tieEnclave.received [tieImport [2] 0, tieImport [3] 1] =
        (samplePayload 1 5 ++ samplePayload 2 5).map toOffer := by
      decide +kernel
    have hright : tieEnclave.received [tieImport [3] 1, tieImport [2] 0] =
        (samplePayload 2 5 ++ samplePayload 1 5).map toOffer := by
      decide +kernel
    intro entry
    rw [hleft, hright]
    simp [or_comm]
  · intro heq
    exact absurd (congrFun heq (sampleSecretId 7)) (by decide +kernel)

/-- With timestamps that differ both orders leave the later secret. -/
theorem imports_converge_later :
    (tieEnclave.run [tieImport [2] 0, tieImport [3] 2]).secretsStorage
        (sampleSecretId 7) =
      (tieEnclave.run [tieImport [3] 2, tieImport [2] 0]).secretsStorage
        (sampleSecretId 7) := by
  have hleft : tieEnclave.received [tieImport [2] 0, tieImport [3] 2] =
      (samplePayload 1 5 ++ samplePayload 3 6).map toOffer := by
    decide +kernel
  have hright : tieEnclave.received [tieImport [3] 2, tieImport [2] 0] =
      (samplePayload 3 6 ++ samplePayload 1 5).map toOffer := by
    decide +kernel
  refine (imports_converge tieEnclave tieEnclave _ _ rfl ?_ ?_ ?_
    (sampleSecretId 7)).2 ?_
  · simp [ImportsOnly, tieImport]
  · simp [ImportsOnly, tieImport]
  · intro entry
    rw [hleft, hright]
    simp [or_comm]
  · intro first second hfirst hsecond _ htie _
    rw [hleft] at hfirst hsecond
    simp only [samplePayload, toOffer, List.cons_append, List.nil_append,
      List.map_cons, List.map_nil, List.mem_cons, List.not_mem_nil, or_false,
      Prod.mk.injEq, true_and] at hfirst hsecond
    rcases hfirst with rfl | rfl <;> rcases hsecond with rfl | rfl
    · rfl
    · exact absurd htie (by decide)
    · exact absurd htie (by decide)
    · rfl

end NxccBridge.EnclaveSecrets
