import NxccBridge.Enclave.Secrets

/-!
# The authorization table over a run

Every entry of the table was filed by a positive policy report, under the
identifier of a triple that the report covers.  Since identifiers do not
collide, a lookup for a triple answers for that triple.
-/

namespace NxccBridge.EnclaveSecrets

open Function
open NxccBridge.Framing
open NxccBridge.Interface
open NxccBridge.AuthorizationId
open NxccBridge.Crypto

variable {Digest : Type*} [DecidableEq Digest] {platform : Platform Digest}

/-! ## Runs of the service -/

/-- The calls that change the service, with what the environment supplies to
each of them. -/
inductive SecretsStep
  | storeAuthorization (report : PolicyExecutionReport)
  | putSecrets (clock : CallClock) (service : AttestationOracle)
      (bundles : List SecretsBundle)
  | generateSecrets (clock : CallClock)
      (report : Except String AttestationBundle)
      (requests : List GenerateRequest)

def Secrets.step (self : Secrets platform) : SecretsStep → Secrets platform
  | .storeAuthorization report => self.storeAuthorization report
  | .putSecrets clock service bundles =>
      (self.putSecrets clock service bundles).1
  | .generateSecrets clock report requests =>
      (self.generateSecrets clock report requests).1

/-- The state after a list of calls, oldest first. -/
def Secrets.run (self : Secrets platform) (steps : List SecretsStep) :
    Secrets platform :=
  steps.foldl Secrets.step self

@[simp]
theorem Secrets.run_nil (self : Secrets platform) : self.run [] = self := rfl

@[simp]
theorem Secrets.run_concat (self : Secrets platform)
    (steps : List SecretsStep) (last : SecretsStep) :
    self.run (steps ++ [last]) = (self.run steps).step last := by
  simp [Secrets.run]

/-- The state is reached from a fresh service by the calls of `steps`. -/
def ReachedBy (steps : List SecretsStep) (self : Secrets platform) : Prop :=
  ∃ keys, self = (Secrets.newWithKeypair keys).run steps

/-! ## Grants -/

/-- The triple that a positive report covers. -/
structure Covers (platform : Platform Digest) (report : PolicyExecutionReport)
    (key : Bytes) (secretId : SecretId) (consumer : ConsumerInfo) : Prop where
  positive : report.decision = true
  userdata : ∃ userdata, platform.userDataFromCbor
    report.request.envReport.attestation.detachedUserdata = .ok userdata ∧
      userdata.ephemeralPublicKey = key
  secretId_mem : secretId ∈ report.request.secretIds
  consumer_eq : report.request.consumer = consumer

/-- The identifier under which a grant for the triple is filed. -/
def grantId (platform : Platform Digest) (key : Bytes) (secretId : SecretId)
    (consumer : ConsumerInfo) : Digest :=
  calculateAuthorizationId platform.sha256 platform.alloy key secretId consumer

/-- The wrapped expiry never exceeds the intended one. -/
theorem expiryTime_le (timestamp : ℕ) :
    expiryTime timestamp ≤ timestamp + authorizationLifetime :=
  Nat.mod_le _ _

omit [DecidableEq Digest] in
/-- A check is a lookup of the triple with the key of the detached userdata. -/
theorem checkAuthorization_iff (self : Secrets platform) (now : ℕ)
    (bundle : AttestationBundle) (secretId : SecretId)
    (consumer : ConsumerInfo) :
    self.checkAuthorization now bundle secretId consumer = true ↔
      ∃ userdata expiry,
        platform.userDataFromCbor bundle.detachedUserdata = .ok userdata ∧
        self.authorizations (grantId platform userdata.ephemeralPublicKey
          secretId consumer) = some expiry ∧ now < expiry := by
  unfold Secrets.checkAuthorization grantId
  cases platform.userDataFromCbor bundle.detachedUserdata with
  | error e => simp
  | ok userdata =>
      cases hlookup : self.authorizations (calculateAuthorizationId
          platform.sha256 platform.alloy userdata.ephemeralPublicKey secretId
          consumer) with
      | none => simp [hlookup]
      | some expiry => simp [hlookup]

private theorem foldl_update_apply {Id : Type*} (grant : SecretId → Id)
    [DecidableEq Id] (expiry : ℕ) (secretIds : List SecretId)
    (authMap : Id → Option ℕ) (id : Id) :
    (secretIds.foldl (fun authMap secretId =>
      update authMap (grant secretId) (some expiry)) authMap) id =
        if ∃ secretId ∈ secretIds, grant secretId = id then some expiry
        else authMap id := by
  induction secretIds generalizing authMap with
  | nil => simp
  | cons secretId secretIds ih =>
      rw [List.foldl_cons, ih]
      by_cases htail : ∃ secretId ∈ secretIds, grant secretId = id
      · rw [if_pos htail, if_pos]
        obtain ⟨other, hmem, heq⟩ := htail
        exact ⟨other, List.mem_cons_of_mem _ hmem, heq⟩
      · rw [if_neg htail]
        by_cases hhead : grant secretId = id
        · subst hhead
          simp
        · rw [update_of_ne (Ne.symm hhead), if_neg]
          simpa [hhead] using htail

/-- A report files the triples it covers and touches no other. -/
theorem storeAuthorization_apply (hsha256 : Injective platform.sha256)
    (self : Secrets platform) (report : PolicyExecutionReport) (key : Bytes)
    (secretId : SecretId) (consumer : ConsumerInfo) :
    (Covers platform report key secretId consumer →
      (self.storeAuthorization report).authorizations
        (grantId platform key secretId consumer) =
          some (expiryTime report.timestamp)) ∧
    (¬ Covers platform report key secretId consumer →
      (self.storeAuthorization report).authorizations
        (grantId platform key secretId consumer) =
          self.authorizations (grantId platform key secretId consumer)) := by
  unfold Secrets.storeAuthorization
  cases hdecision : report.decision with
  | false =>
      refine ⟨fun hcovers => ?_, fun _ => by simp⟩
      rw [hcovers.positive] at hdecision
      cases hdecision
  | true =>
      cases huserdata : platform.userDataFromCbor
          report.request.envReport.attestation.detachedUserdata with
      | error e =>
          refine ⟨fun hcovers => ?_, fun _ => by simp⟩
          obtain ⟨userdata, hok, -⟩ := hcovers.userdata
          rw [huserdata] at hok
          cases hok
      | ok userdata =>
          simp only [Bool.not_true, Bool.false_eq_true, if_false,
            foldl_update_apply]
          constructor
          · intro hcovers
            obtain ⟨other, hok, rfl⟩ := hcovers.userdata
            rw [huserdata] at hok
            obtain rfl := Except.ok.inj hok
            rw [if_pos ⟨secretId, hcovers.secretId_mem, by
              rw [hcovers.consumer_eq]; rfl⟩]
          · intro hcovers
            rw [if_neg]
            rintro ⟨other, hmem, heq⟩
            obtain ⟨hkey, hid, hconsumer⟩ :=
              calculateAuthorizationId_inj hsha256 platform.alloy heq
            subst hid
            exact hcovers ⟨hdecision, ⟨userdata, huserdata, hkey⟩, hmem,
              hconsumer⟩

/-- The other calls leave the table alone. -/
theorem step_authorizations (self : Secrets platform) (step : SecretsStep)
    (hstep : ∀ report, step ≠ .storeAuthorization report) :
    (self.step step).authorizations = self.authorizations := by
  cases step with
  | storeAuthorization report => exact absurd rfl (hstep report)
  | putSecrets clock service bundles => rfl
  | generateSecrets clock report requests =>
      cases report with
      | error e => rfl
      | ok selfReport => rfl

/-- `report` is the last one of the run that covers the triple. -/
def LastReport (platform : Platform Digest) (steps : List SecretsStep)
    (key : Bytes) (secretId : SecretId) (consumer : ConsumerInfo)
    (report : PolicyExecutionReport) : Prop :=
  ∃ before after, steps = before ++ .storeAuthorization report :: after ∧
    Covers platform report key secretId consumer ∧
    ∀ other, .storeAuthorization other ∈ after →
      ¬ Covers platform other key secretId consumer

omit [DecidableEq Digest] in
theorem LastReport.mem {steps : List SecretsStep} {key : Bytes}
    {secretId : SecretId} {consumer : ConsumerInfo}
    {report : PolicyExecutionReport}
    (hlast : LastReport platform steps key secretId consumer report) :
    .storeAuthorization report ∈ steps := by
  obtain ⟨before, after, rfl, -⟩ := hlast
  simp

omit [DecidableEq Digest] in
theorem lastReport_concat_iff {steps : List SecretsStep} {last : SecretsStep}
    {key : Bytes} {secretId : SecretId} {consumer : ConsumerInfo}
    {report : PolicyExecutionReport} :
    LastReport platform (steps ++ [last]) key secretId consumer report ↔
      (last = .storeAuthorization report ∧
        Covers platform report key secretId consumer) ∨
      (LastReport platform steps key secretId consumer report ∧
        ∀ other, last = .storeAuthorization other →
          ¬ Covers platform other key secretId consumer) := by
  constructor
  · rintro ⟨before, after, heq, hcovers, hafter⟩
    rcases List.eq_nil_or_concat' after with rfl | ⟨after, final, rfl⟩
    · exact Or.inl ⟨(List.append_inj' heq rfl).2 |> List.cons.inj |>.1, hcovers⟩
    · rw [← List.cons_append, ← List.append_assoc] at heq
      obtain ⟨hsteps, hlast⟩ := List.append_inj' heq rfl
      obtain rfl := (List.cons.inj hlast).1
      refine Or.inr ⟨⟨before, after, hsteps, hcovers, fun other hmem =>
        hafter other (by simp [hmem])⟩, fun other hother => ?_⟩
      exact hafter other (by simp [hother])
  · rintro (⟨rfl, hcovers⟩ | ⟨⟨before, after, rfl, hcovers, hafter⟩, hlast⟩)
    · exact ⟨steps, [], rfl, hcovers, by simp⟩
    · refine ⟨before, after ++ [last], by simp, hcovers, fun other hmem => ?_⟩
      rcases List.mem_append.mp hmem with hmem | hmem
      · exact hafter other hmem
      · exact hlast other (List.mem_singleton.mp hmem).symm

/-- The table holds, for each triple, the expiry of the last report that covers
it. -/
theorem authorizations_eq_some_iff (hsha256 : Injective platform.sha256)
    {steps : List SecretsStep} {self : Secrets platform}
    (hreached : ReachedBy steps self) (key : Bytes) (secretId : SecretId)
    (consumer : ConsumerInfo) (expiry : ℕ) :
    self.authorizations (grantId platform key secretId consumer) =
        some expiry ↔
      ∃ report, LastReport platform steps key secretId consumer report ∧
        expiryTime report.timestamp = expiry := by
  obtain ⟨keys, rfl⟩ := hreached
  induction steps using List.reverseRecOn with
  | nil => simp [Secrets.newWithKeypair, LastReport]
  | append_singleton steps last ih =>
      simp only [Secrets.run_concat, lastReport_concat_iff]
      by_cases hfiles : ∃ report, last = .storeAuthorization report ∧
          Covers platform report key secretId consumer
      · obtain ⟨report, rfl, hcovers⟩ := hfiles
        rw [Secrets.step,
          (storeAuthorization_apply hsha256 _ report key secretId
            consumer).1 hcovers]
        constructor
        · intro heq
          exact ⟨report, Or.inl ⟨rfl, hcovers⟩, Option.some.inj heq⟩
        · rintro ⟨other, ⟨hother, -⟩ | ⟨-, hnot⟩, heq⟩
          · rw [SecretsStep.storeAuthorization.inj hother, heq]
          · exact absurd hcovers (hnot report rfl)
      · have hkeeps : (((Secrets.newWithKeypair keys).run steps).step
            last).authorizations (grantId platform key secretId consumer) =
            ((Secrets.newWithKeypair keys).run steps).authorizations
              (grantId platform key secretId consumer) := by
          by_cases hstore : ∃ report, last = .storeAuthorization report
          · obtain ⟨report, rfl⟩ := hstore
            exact (storeAuthorization_apply hsha256 _ report key secretId
              consumer).2 fun hcovers => hfiles ⟨report, rfl, hcovers⟩
          · rw [step_authorizations _ _ fun report heq => hstore ⟨report, heq⟩]
        rw [hkeeps, ih]
        refine exists_congr fun report => and_congr_left fun _ => ?_
        constructor
        · intro hlast
          exact Or.inr ⟨hlast, fun other hother hcovers =>
            hfiles ⟨other, hother, hcovers⟩⟩
        · rintro (⟨hlast, hcovers⟩ | ⟨hlast, -⟩)
          · exact absurd ⟨report, hlast, hcovers⟩ hfiles
          · exact hlast

/-- A grant for the triple that is still valid at `now`: the last report that
covers it has not expired. -/
def Granted (platform : Platform Digest) (steps : List SecretsStep) (now : ℕ)
    (key : Bytes) (secretId : SecretId) (consumer : ConsumerInfo) : Prop :=
  ∃ report, LastReport platform steps key secretId consumer report ∧
    now < expiryTime report.timestamp

omit [DecidableEq Digest] in
/-- Every valid grant comes from an earlier positive report that covers exactly
its triple, less than the lifetime ago. -/
theorem Granted.exists_report {steps : List SecretsStep} {now : ℕ} {key : Bytes}
    {secretId : SecretId} {consumer : ConsumerInfo}
    (hgranted : Granted platform steps now key secretId consumer) :
    ∃ report, .storeAuthorization report ∈ steps ∧
      Covers platform report key secretId consumer ∧
      now < report.timestamp + authorizationLifetime := by
  obtain ⟨report, ⟨before, after, rfl, hcovers, -⟩, hnow⟩ := hgranted
  have hle := expiryTime_le report.timestamp
  exact ⟨report, by simp, hcovers, lt_of_lt_of_le hnow hle⟩

/-- In every reachable state a check passes exactly when a valid grant covers
the triple with the attested key. -/
theorem checkAuthorization_iff_granted (hsha256 : Injective platform.sha256)
    {steps : List SecretsStep} {self : Secrets platform}
    (hreached : ReachedBy steps self) (now : ℕ) (bundle : AttestationBundle)
    (secretId : SecretId) (consumer : ConsumerInfo) :
    self.checkAuthorization now bundle secretId consumer = true ↔
      ∃ userdata,
        platform.userDataFromCbor bundle.detachedUserdata = .ok userdata ∧
        Granted platform steps now userdata.ephemeralPublicKey secretId
          consumer := by
  rw [checkAuthorization_iff]
  refine exists_congr fun userdata => ?_
  constructor
  · rintro ⟨expiry, huserdata, hgrant, hnow⟩
    obtain ⟨report, hlast, rfl⟩ :=
      (authorizations_eq_some_iff hsha256 hreached _ _ _ _).mp hgrant
    exact ⟨huserdata, report, hlast, hnow⟩
  · rintro ⟨huserdata, report, hlast, hnow⟩
    exact ⟨_, huserdata, (authorizations_eq_some_iff hsha256 hreached _ _ _
      _).mpr ⟨report, hlast, rfl⟩, hnow⟩

end NxccBridge.EnclaveSecrets
