import NxccBridge.Enclave.Imports

/-!
# Acquiring what is missing

`generate_secrets` serves its requests in order and stops at the first one it
cannot serve; what it stored until then stays.  Generation goes by presence,
imports by timestamp and `check_secrets` by expiry: the three agree on a free
identifier, and part on one whose entry has expired.
-/

namespace NxccBridge.EnclaveSecrets

open Function
open NxccBridge.LastWriter
open NxccBridge.Framing
open NxccBridge.Interface
open NxccBridge.Crypto

/-! ## The loop of `generate_secrets` -/

section Loop

variable (authorized : SecretId → ConsumerInfo → Bool) (now : ℕ)

/-- The authorized requests name free identifiers, and exactly these are filled,
each with what was drawn for it. -/
structure GeneratesExactly (requests : List GenerateRequest)
    (before after : SecretsStorage) : Prop where
  generated : ∀ secretId consumer entropy,
    (secretId, consumer, entropy) ∈ requests →
    authorized secretId consumer = true →
      before secretId = none ∧ ∃ secretData, entropy = .ok secretData ∧
        after secretId = some {
          data := secretData
          expiry := 0
          generationTimestamp := now }
  kept : ∀ secretId,
    (∀ consumer entropy, (secretId, consumer, entropy) ∈ requests →
      authorized secretId consumer = false) →
    after secretId = before secretId

/-- A request at which the loop stops. -/
structure StopsAt (storage : SecretsStorage) (request : GenerateRequest)
    (error : GenerateError) : Prop where
  authorized : authorized request.1 request.2.1 = true
  cause : ((storage request.1).isSome = true ∧
      error = .alreadyExists request.1) ∨
    (storage request.1 = none ∧
      ∃ err, request.2.2 = .error err ∧ error = .entropy err)

variable {authorized now}

theorem GeneratesExactly.nil (storage : SecretsStorage) :
    GeneratesExactly authorized now [] storage storage where
  generated := by simp
  kept := by simp

theorem GeneratesExactly.skip {secretId : SecretId} {consumer : ConsumerInfo}
    {entropy : Except String Bytes} {requests : List GenerateRequest}
    {before after : SecretsStorage}
    (hdenied : authorized secretId consumer = false)
    (hrest : GeneratesExactly authorized now requests before after) :
    GeneratesExactly authorized now ((secretId, consumer, entropy) :: requests)
      before after where
  generated := by
    intro requested other drawn hmem hauthorized
    cases List.mem_cons.mp hmem with
    | inl heq =>
        cases heq
        rw [hdenied] at hauthorized
        cases hauthorized
    | inr hmem => exact hrest.generated requested other drawn hmem hauthorized
  kept := by
    intro requested hnone
    apply hrest.kept
    intro other drawn hmem
    exact hnone other drawn (List.mem_cons_of_mem _ hmem)

theorem GeneratesExactly.fill {secretId : SecretId} {consumer : ConsumerInfo}
    {secretData : Bytes} {requests : List GenerateRequest}
    {before after : SecretsStorage}
    (hauthorized : authorized secretId consumer = true)
    (hfree : before secretId = none)
    (hrest : GeneratesExactly authorized now requests
      (update before secretId (some {
        data := secretData
        expiry := 0
        generationTimestamp := now })) after) :
    GeneratesExactly authorized now
      ((secretId, consumer, .ok secretData) :: requests) before after := by
  have hlater : ∀ other drawn, (secretId, other, drawn) ∈ requests →
      authorized secretId other = false := by
    intro other drawn hmem
    by_contra hother
    have hfilled := (hrest.generated secretId other drawn hmem
      (Bool.eq_true_of_not_eq_false hother)).1
    rw [update_self] at hfilled
    cases hfilled
  constructor
  · intro requested other drawn hmem hgranted
    cases List.mem_cons.mp hmem with
    | inl heq =>
        cases heq
        refine ⟨hfree, secretData, rfl, ?_⟩
        rw [hrest.kept secretId hlater, update_self]
    | inr hmem =>
        have hne : requested ≠ secretId := by
          intro heq
          rw [heq] at hmem hgranted
          rw [hlater other drawn hmem] at hgranted
          cases hgranted
        have hfilled := hrest.generated requested other drawn hmem hgranted
        rwa [update_of_ne hne] at hfilled
  · intro requested hnone
    have hne : requested ≠ secretId := by
      intro heq
      have hdenied := hnone consumer (.ok secretData) (by simp [heq])
      rw [heq, hauthorized] at hdenied
      cases hdenied
    rw [hrest.kept requested fun other drawn hmem =>
      hnone other drawn (List.mem_cons_of_mem _ hmem), update_of_ne hne]

theorem generateLoop_ok {requests : List GenerateRequest}
    {before after : SecretsStorage}
    (hloop : generateLoop authorized now requests before = (after, .ok ())) :
    GeneratesExactly authorized now requests before after := by
  induction requests generalizing before with
  | nil =>
      cases hloop
      exact GeneratesExactly.nil _
  | cons request requests ih =>
      obtain ⟨secretId, consumer, entropy⟩ := request
      unfold generateLoop at hloop
      split_ifs at hloop with hdenied hexists
      · exact (ih hloop).skip (by simpa using hdenied)
      · cases hloop
      · cases entropy with
        | error err => cases hloop
        | ok secretData =>
            exact (ih hloop).fill (by simpa using hdenied)
              (by simpa using hexists)

/-- A loop that stops has completed the requests in front of the one it stops
at, and left their result. -/
theorem generateLoop_error {requests : List GenerateRequest}
    {before after : SecretsStorage} {error : GenerateError}
    (hloop : generateLoop authorized now requests before =
      (after, .error error)) :
    ∃ served request rest, requests = served ++ request :: rest ∧
      generateLoop authorized now served before = (after, .ok ()) ∧
      StopsAt authorized after request error := by
  induction requests generalizing before with
  | nil => cases hloop
  | cons request requests ih =>
      obtain ⟨secretId, consumer, entropy⟩ := request
      unfold generateLoop at hloop
      split_ifs at hloop with hdenied hexists
      · obtain ⟨served, stop, rest, rfl, hserved, hstop⟩ := ih hloop
        refine ⟨(secretId, consumer, entropy) :: served, stop, rest, rfl, ?_,
          hstop⟩
        unfold generateLoop
        rw [if_pos hdenied, hserved]
      · cases hloop
        exact ⟨[], _, requests, rfl, rfl, by simpa using hdenied,
          Or.inl ⟨hexists, rfl⟩⟩
      · cases entropy with
        | error err =>
            cases hloop
            exact ⟨[], _, requests, rfl, rfl, by simpa using hdenied,
              Or.inr ⟨by simpa using hexists, err, rfl, rfl⟩⟩
        | ok secretData =>
            obtain ⟨served, stop, rest, rfl, hserved, hstop⟩ := ih hloop
            refine ⟨(secretId, consumer, .ok secretData) :: served, stop, rest,
              rfl, ?_, hstop⟩
            simp only [generateLoop, if_neg hdenied, if_neg hexists, hserved]

/-- Nothing was filled exactly when no request was authorized. -/
theorem GeneratesExactly.eq_iff {requests : List GenerateRequest}
    {before after : SecretsStorage}
    (hexactly : GeneratesExactly authorized now requests before after) :
    after = before ↔ ∀ secretId consumer entropy,
      (secretId, consumer, entropy) ∈ requests →
        authorized secretId consumer = false := by
  constructor
  · intro heq secretId consumer entropy hmem
    by_contra hgranted
    obtain ⟨hfree, secretData, -, hfilled⟩ := hexactly.generated secretId
      consumer entropy hmem (Bool.eq_true_of_not_eq_false hgranted)
    rw [heq, hfree] at hfilled
    cases hfilled
  · intro hnone
    funext secretId
    apply hexactly.kept
    intro consumer entropy hmem
    exact hnone secretId consumer entropy hmem

end Loop

variable {Digest : Type*} [DecidableEq Digest] {platform : Platform Digest}

omit [DecidableEq Digest] in
theorem generateSecrets_eq (self : Secrets platform) (clock : CallClock)
    (selfReport : AttestationBundle) (requests : List GenerateRequest) :
    (((self.generateSecrets clock (.ok selfReport) requests).1.secretsStorage,
      (self.generateSecrets clock (.ok selfReport) requests).2) :
        SecretsStorage × Except GenerateError Unit) =
      generateLoop (self.checkAuthorization clock.checked selfReport) clock.now
        requests self.secretsStorage := rfl

omit [DecidableEq Digest] in
/-- A successful call fills exactly the authorized identifiers.  A failed one
leaves what the requests in front of the failing one have filled, which is
nothing exactly when none of them was authorized. -/
theorem generateSecrets_effect (self : Secrets platform) (clock : CallClock)
    (report : Except String AttestationBundle)
    (requests : List GenerateRequest) :
    ((self.generateSecrets clock report requests).2 = .ok () →
      ∃ selfReport, report = .ok selfReport ∧
        GeneratesExactly (self.checkAuthorization clock.checked selfReport)
          clock.now requests self.secretsStorage
          (self.generateSecrets clock report requests).1.secretsStorage) ∧
    (∀ error, (self.generateSecrets clock report requests).2 = .error error →
      (∃ message, report = .error message ∧ error = .report message ∧
        (self.generateSecrets clock report requests).1.secretsStorage =
          self.secretsStorage) ∨
      ∃ selfReport served request rest, report = .ok selfReport ∧
        requests = served ++ request :: rest ∧
        GeneratesExactly (self.checkAuthorization clock.checked selfReport)
          clock.now served self.secretsStorage
          (self.generateSecrets clock report requests).1.secretsStorage ∧
        StopsAt (self.checkAuthorization clock.checked selfReport)
          (self.generateSecrets clock report requests).1.secretsStorage request
          error ∧
        ((self.generateSecrets clock report requests).1.secretsStorage =
            self.secretsStorage ↔
          ∀ secretId consumer entropy,
            (secretId, consumer, entropy) ∈ served →
              self.checkAuthorization clock.checked selfReport secretId
                consumer = false)) := by
  cases report with
  | error message =>
      constructor
      · intro hok
        cases hok
      · intro error herror
        cases herror
        exact Or.inl ⟨message, rfl, rfl, rfl⟩
  | ok selfReport =>
      have hloop := generateSecrets_eq self clock selfReport requests
      constructor
      · intro hok
        rw [hok] at hloop
        exact ⟨selfReport, rfl, generateLoop_ok hloop.symm⟩
      · intro error herror
        rw [herror] at hloop
        obtain ⟨served, request, rest, hsplit, hserved, hstop⟩ :=
          generateLoop_error hloop.symm
        have hexactly := generateLoop_ok hserved
        exact Or.inr ⟨selfReport, served, request, rest, rfl, hsplit, hexactly,
          hstop, hexactly.eq_iff⟩

/-! ### A list that fails at its second request -/

def generatingPlatform : Platform Bytes :=
  symbolicPlatform [padKey [1]] []

/-- An enclave that may generate the secrets of the identities 7 and 8 and holds
the second already. -/
def generatingEnclave : Secrets generatingPlatform :=
  (Secrets.newWithKeypair (symbolicKeyPair _ _ [1])).run
    [.storeAuthorization { sampleGrant (padKey [1]) with
        request := { (sampleGrant (padKey [1])).request with
          secretIds := [sampleSecretId 7, sampleSecretId 8] } },
      .generateSecrets (.still 10)
        (.ok (symbolicReport (padKey [1])).attestation)
        [(sampleSecretId 8, sampleConsumer 0, .ok [2])]]

/-- Both secrets are requested: the call fails, and the first stays. -/
theorem generateSecrets_partial :
    (generatingEnclave.generateSecrets (.still 20)
        (.ok (symbolicReport (padKey [1])).attestation)
        [(sampleSecretId 7, sampleConsumer 0, .ok [1]),
          (sampleSecretId 8, sampleConsumer 0, .ok [3])]).2 =
      .error (.alreadyExists (sampleSecretId 8)) ∧
    (generatingEnclave.generateSecrets (.still 20)
        (.ok (symbolicReport (padKey [1])).attestation)
        [(sampleSecretId 7, sampleConsumer 0, .ok [1]),
          (sampleSecretId 8, sampleConsumer 0,
            .ok [3])]).1.secretsStorage (sampleSecretId 7) ≠
      generatingEnclave.secretsStorage (sampleSecretId 7) := by
  constructor <;> decide +kernel

/-! ## Presence, expiry and timestamp -/

/-- `check_secrets` reports the secret present and unexpired. -/
def Secrets.ReportsAvailable (self : Secrets platform) (now : ℕ)
    (secretId : SecretId) : Prop :=
  ∃ expiry, (secretId, true, expiry) ∈ self.checkSecrets now [secretId]

/-- The entry under the identifier has expired and is still there. -/
def Secrets.HoldsExpired (self : Secrets platform) (now : ℕ)
    (secretId : SecretId) : Prop :=
  ∃ leftover, self.secretsStorage secretId = some leftover ∧
    unexpired leftover.expiry now = false

/-- If the secret is reported unavailable, then generating it succeeds and makes
it available. -/
def Secrets.GenerationAcquires (self : Secrets platform) (clock : CallClock)
    (selfReport : AttestationBundle) (request : GenerateRequest) : Prop :=
  ¬ self.ReportsAvailable clock.now request.1 →
    (self.generateSecrets clock (.ok selfReport) [request]).2 = .ok () ∧
      (self.generateSecrets clock (.ok selfReport) [request]).1.ReportsAvailable
        clock.now request.1

/-- If the secret is reported unavailable, then the import makes it
available. -/
def Secrets.ImportAcquires (self : Secrets platform) (clock : CallClock)
    (service : AttestationOracle) (bundles : List SecretsBundle)
    (secretId : SecretId) : Prop :=
  ¬ self.ReportsAvailable clock.now secretId →
    (self.putSecrets clock service bundles).1.ReportsAvailable clock.now
      secretId

omit [DecidableEq Digest] in
theorem reportsAvailable_iff (self : Secrets platform) (now : ℕ)
    (secretId : SecretId) :
    self.ReportsAvailable now secretId ↔
      ∃ entry, self.secretsStorage secretId = some entry ∧
        unexpired entry.expiry now = true := by
  simp only [Secrets.ReportsAvailable, Secrets.checkSecrets, List.map_cons,
    List.map_nil, List.mem_singleton]
  cases self.secretsStorage secretId with
  | none => simp
  | some entry =>
      simp only [Prod.mk.injEq, true_and, exists_and_left, exists_eq, and_true,
        Option.some.injEq, exists_eq_left']
      exact eq_comm

omit [DecidableEq Digest] in
/-- An unavailable secret is absent or an expired leftover. -/
theorem not_reportsAvailable_iff (self : Secrets platform) (now : ℕ)
    (secretId : SecretId) :
    ¬ self.ReportsAvailable now secretId ↔
      self.secretsStorage secretId = none ∨ self.HoldsExpired now secretId := by
  rw [reportsAvailable_iff, Secrets.HoldsExpired]
  cases self.secretsStorage secretId with
  | none => simp
  | some entry => simp

omit [DecidableEq Digest] in
/-- Generation acquires an absent secret if entropy is there, and never one whose
expired entry is still stored. -/
theorem generationAcquires_iff {self : Secrets platform} {clock : CallClock}
    {selfReport : AttestationBundle} {secretId : SecretId}
    {consumer : ConsumerInfo} (entropy : Except String Bytes)
    (hauthorized :
      self.checkAuthorization clock.checked selfReport secretId consumer =
        true) :
    self.GenerationAcquires clock selfReport (secretId, consumer, entropy) ↔
      ¬ self.HoldsExpired clock.now secretId ∧
        ((∃ secretData, entropy = .ok secretData) ∨
          self.ReportsAvailable clock.now secretId) := by
  have hdenied :
      ¬ (!self.checkAuthorization clock.checked selfReport secretId
        consumer) = true := by
    simp [hauthorized]
  constructor
  · intro hacquires
    by_cases havailable : self.ReportsAvailable clock.now secretId
    · refine ⟨?_, Or.inr havailable⟩
      intro hexpired
      exact (not_reportsAvailable_iff self clock.now secretId).mpr
        (Or.inr hexpired) havailable
    · obtain ⟨hok, -⟩ := hacquires havailable
      have hloop := generateLoop_ok (Prod.ext rfl hok :
        generateLoop (self.checkAuthorization clock.checked selfReport)
          clock.now [(secretId, consumer, entropy)] self.secretsStorage =
            (_, .ok ()))
      obtain ⟨hfree, secretData, hdrawn, -⟩ := hloop.generated secretId consumer
        entropy (List.mem_singleton_self _) hauthorized
      refine ⟨?_, Or.inl ⟨secretData, hdrawn⟩⟩
      intro hexpired
      obtain ⟨leftover, hleftover, -⟩ := hexpired
      rw [hfree] at hleftover
      cases hleftover
  · intro hcondition hmissing
    obtain ⟨hfresh, hdrawn⟩ := hcondition
    have hfree : self.secretsStorage secretId = none :=
      ((not_reportsAvailable_iff self clock.now
        secretId).mp hmissing).resolve_right hfresh
    obtain ⟨secretData, rfl⟩ := hdrawn.resolve_right hmissing
    have hloop : generateLoop
        (self.checkAuthorization clock.checked selfReport) clock.now
        [(secretId, consumer, .ok secretData)] self.secretsStorage =
        (update self.secretsStorage secretId (some {
          data := secretData
          expiry := 0
          generationTimestamp := clock.now }), .ok ()) := by
      simp only [generateLoop, if_neg hdenied, hfree, Option.isSome_none,
        Bool.false_eq_true, if_false]
    constructor
    · exact congrArg Prod.snd hloop
    · apply (reportsAvailable_iff _ clock.now secretId).mpr
      refine ⟨_, (congrFun (congrArg Prod.fst hloop) secretId).trans
        (update_self ..), rfl⟩

omit [DecidableEq Digest] in
theorem unexpired_of_mem_offers {self : Secrets platform} {clock : CallClock}
    {service : AttestationOracle} {bundles : List SecretsBundle}
    {offered : SecretId × StoredSecret}
    (hoffered : offered ∈ self.offers clock service bundles) :
    unexpired offered.2.expiry clock.now = true := by
  obtain ⟨bundle, -, hmem⟩ := List.mem_flatMap.mp hoffered
  obtain ⟨secret, hsecret, rfl⟩ := List.mem_map.mp hmem
  exact (List.mem_filter.mp hsecret).2

omit [DecidableEq Digest] in
/-- An import acquires what it offers, unless an expired entry is stored whose
timestamp no offer exceeds. -/
theorem importAcquires_iff {self : Secrets platform} {clock : CallClock}
    {service : AttestationOracle} {bundles : List SecretsBundle}
    {secretId : SecretId}
    (hoffered : ∃ entry,
      (secretId, entry) ∈ self.offers clock service bundles) :
    self.ImportAcquires clock service bundles secretId ↔
      ∀ leftover, self.secretsStorage secretId = some leftover →
        unexpired leftover.expiry clock.now = false →
          ∃ entry, (secretId, entry) ∈ self.offers clock service bundles ∧
            leftover.generationTimestamp < entry.generationTimestamp := by
  have hlatest := putSecrets_isLatest self clock service bundles secretId
  constructor
  · intro hacquires leftover hleftover hexpired
    have hmissing : ¬ self.ReportsAvailable clock.now secretId :=
      (not_reportsAvailable_iff self clock.now secretId).mpr
        (Or.inr ⟨leftover, hleftover, hexpired⟩)
    obtain ⟨last, hlast, hlive⟩ :=
      (reportsAvailable_iff _ clock.now secretId).mp (hacquires hmissing)
    cases hlatest.source with
    | inl hsame =>
        rw [hlast, hleftover] at hsame
        rw [Option.some.inj hsame, hexpired] at hlive
        cases hlive
    | inr htaken =>
        obtain ⟨entry, hmem, -, hnewer⟩ := htaken
        exact ⟨entry, mem_offersFor.mp hmem, hnewer leftover hleftover⟩
  · intro hcondition hmissing
    apply (reportsAvailable_iff _ clock.now secretId).mpr
    have htaken : ∃ entry ∈ offersFor secretId
        (self.offers clock service bundles),
        Supersedes StoredSecret.generationTimestamp
          (self.secretsStorage secretId) entry := by
      cases (not_reportsAvailable_iff self clock.now secretId).mp hmissing with
      | inl hfree =>
          obtain ⟨entry, hmem⟩ := hoffered
          refine ⟨entry, mem_offersFor.mpr hmem, ?_⟩
          rw [hfree]
          exact supersedes_none entry
      | inr hexpired =>
          obtain ⟨leftover, hleftover, hlate⟩ := hexpired
          obtain ⟨entry, hmem, hnewer⟩ := hcondition leftover hleftover hlate
          refine ⟨entry, mem_offersFor.mpr hmem, ?_⟩
          rw [hleftover]
          exact (supersedes_some leftover entry).mpr hnewer
    have hchanged := hlatest.ne_iff.mpr htaken
    obtain ⟨entry, hmem, hstored, -⟩ := hlatest.source.resolve_left hchanged
    exact ⟨entry, hstored, unexpired_of_mem_offers (mem_offersFor.mp hmem)⟩

/-- In every reachable state and at every time the three notions agree exactly on
identifiers without an expired entry: one that is reported unavailable can be
generated under a grant, given entropy, and one that is offered arrives, unless
an expired entry is in the way of the first or at least as late as the
second. -/
theorem acquisition_agrees_iff (keys : KeyExchangeKeyPair platform)
    (steps : List SecretsStep) (clock : CallClock) (secretId : SecretId) :
    (∀ selfReport consumer entropy,
      ((Secrets.newWithKeypair keys).run steps).checkAuthorization clock.checked
        selfReport secretId consumer = true →
      (((Secrets.newWithKeypair keys).run steps).GenerationAcquires clock
          selfReport (secretId, consumer, entropy) ↔
        ¬ ((Secrets.newWithKeypair keys).run steps).HoldsExpired clock.now
            secretId ∧
          ((∃ secretData, entropy = .ok secretData) ∨
            ((Secrets.newWithKeypair keys).run steps).ReportsAvailable clock.now
              secretId))) ∧
    (∀ service bundles,
      (∃ entry, (secretId, entry) ∈
        ((Secrets.newWithKeypair keys).run steps).offers clock service
          bundles) →
      (((Secrets.newWithKeypair keys).run steps).ImportAcquires clock service
          bundles secretId ↔
        ∀ leftover,
          ((Secrets.newWithKeypair keys).run steps).secretsStorage secretId =
            some leftover →
          unexpired leftover.expiry clock.now = false →
            ∃ entry, (secretId, entry) ∈
                ((Secrets.newWithKeypair keys).run steps).offers clock service
                  bundles ∧
              leftover.generationTimestamp < entry.generationTimestamp)) :=
  ⟨fun _ _ entropy hauthorized => generationAcquires_iff entropy hauthorized,
    fun _ _ hoffered => importAcquires_iff hoffered⟩

/-! ### An entry that expires at 20 -/

/-- The secret of the identity 7, once until 20 and twice without an expiry. -/
def stalePlatform : Platform Bytes :=
  symbolicPlatform [padKey [1], padKey [2]]
    [(samplePayload 1 5).map fun secret => { secret with expiry := 20 },
      samplePayload 2 5, samplePayload 3 6]

def staleKeys : KeyExchangeKeyPair stalePlatform := symbolicKeyPair _ _ [1]

/-- The enclave itself and the holder of the key `[2]` may provide the
secret. -/
def staleGrants : List SecretsStep :=
  [.storeAuthorization (sampleGrant (padKey [1])),
    .storeAuthorization (sampleGrant (padKey [2]))]

def staleBundle (index : ℕ) : SecretsBundle :=
  (symbolicBox [2] [1] [sampleSecretId 7] index, symbolicReport (padKey [2]),
    sampleConsumer 0)

/-- The enclave with the entry of the first payload. -/
def staleEnclave : Secrets stalePlatform :=
  (Secrets.newWithKeypair staleKeys).run
    (staleGrants ++ [.putSecrets (.still 10) (fun _ => .ok ()) [staleBundle 0]])

/-- At 30 the entry is reported unavailable; it can neither be generated, though
the grant is valid and entropy is there, nor be imported anew with the
timestamp it had. -/
theorem acquisition_expired :
    staleEnclave.checkSecrets 30 [sampleSecretId 7] =
      [(sampleSecretId 7, false, 20)] ∧
    staleEnclave.checkAuthorization 30 (symbolicReport (padKey [1])).attestation
      (sampleSecretId 7) (sampleConsumer 0) = true ∧
    ¬ staleEnclave.GenerationAcquires (.still 30)
      (symbolicReport (padKey [1])).attestation
      (sampleSecretId 7, sampleConsumer 0, .ok [9]) ∧
    (sampleSecretId 7,
        { data := [2], expiry := 0, generationTimestamp := 5 }) ∈
      staleEnclave.offers (.still 30) (fun _ => .ok ()) [staleBundle 1] ∧
    ¬ staleEnclave.ImportAcquires (.still 30) (fun _ => .ok ()) [staleBundle 1]
      (sampleSecretId 7) := by
  have hmissing : ¬ staleEnclave.ReportsAvailable 30 (sampleSecretId 7) := by
    intro havailable
    obtain ⟨expiry, hmem⟩ := havailable
    have hreport : staleEnclave.checkSecrets 30 [sampleSecretId 7] =
        [(sampleSecretId 7, false, 20)] := by decide +kernel
    rw [hreport] at hmem
    simp at hmem
  refine ⟨by decide +kernel, by decide +kernel, ?_, by decide +kernel, ?_⟩
  · intro hacquires
    have hfails : (staleEnclave.generateSecrets (.still 30)
        (.ok (symbolicReport (padKey [1])).attestation)
        [(sampleSecretId 7, sampleConsumer 0, .ok [9])]).2 =
        .error (.alreadyExists (sampleSecretId 7)) := by
      decide +kernel
    rw [(hacquires hmissing).1] at hfails
    cases hfails
  · intro hacquires
    obtain ⟨expiry, hmem⟩ := hacquires hmissing
    change _ ∈ (staleEnclave.putSecrets (.still 30) (fun _ => .ok ())
      [staleBundle 1]).1.checkSecrets 30 [sampleSecretId 7] at hmem
    have hreport : (staleEnclave.putSecrets (.still 30) (fun _ => .ok ())
        [staleBundle 1]).1.checkSecrets 30 [sampleSecretId 7] =
        [(sampleSecretId 7, false, 20)] := by decide +kernel
    rw [hreport] at hmem
    simp at hmem

/-- Before the import the secret is absent, and can be generated; after it, a
payload with a later timestamp replaces the expired entry. -/
theorem acquisition_absent :
    ((Secrets.newWithKeypair staleKeys).run staleGrants).GenerationAcquires
        (.still 30) (symbolicReport (padKey [1])).attestation
        (sampleSecretId 7, sampleConsumer 0, .ok [9]) ∧
      staleEnclave.ImportAcquires (.still 30) (fun _ => .ok ()) [staleBundle 2]
        (sampleSecretId 7) := by
  constructor
  · apply ((acquisition_agrees_iff staleKeys staleGrants (.still 30)
      (sampleSecretId 7)).1 _ _ _ (by decide +kernel)).mpr
    refine ⟨?_, Or.inl ⟨[9], rfl⟩⟩
    intro hexpired
    obtain ⟨leftover, hleftover, -⟩ := hexpired
    have hfree : ((Secrets.newWithKeypair staleKeys).run
        staleGrants).secretsStorage (sampleSecretId 7) = none := by
      decide +kernel
    rw [hfree] at hleftover
    cases hleftover
  · have hoffer : (sampleSecretId 7,
        { data := [3], expiry := 0, generationTimestamp := 6 }) ∈
        staleEnclave.offers (.still 30) (fun _ => .ok ()) [staleBundle 2] := by
      decide +kernel
    have hstored : staleEnclave.secretsStorage (sampleSecretId 7) =
        some { data := [1], expiry := 20, generationTimestamp := 5 } := by
      decide +kernel
    apply ((acquisition_agrees_iff staleKeys _ (.still 30)
      (sampleSecretId 7)).2 _ _ ⟨_, hoffer⟩).mpr
    intro leftover hleftover _
    have hleftover' : staleEnclave.secretsStorage (sampleSecretId 7) =
        some leftover := hleftover
    rw [hstored] at hleftover'
    cases hleftover'
    exact ⟨_, hoffer, by decide⟩

end NxccBridge.EnclaveSecrets
