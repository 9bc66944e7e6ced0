import NxccBridge.Attestation.Providers

/-!
# The attestation service

`AttestationService::verify_attestation` tries the providers registered for the
platform in order.  A verified quote lets the contents of the detached userdata
be trusted, and the block list in it goes through the freshness step.
-/

namespace NxccBridge.Attestation

open NxccBridge.Framing
open NxccBridge.Indexing (Octets)
open NxccBridge.Interface
open NxccBridge.Freshness

inductive AttestationError
  | noProvidersAvailable (platform : String)
  | allProvidersFailed (message : String)
  | verificationFailed (message : String)
  /-- An error of another crate, passed on by `?`. -/
  | other (message : String)
  deriving DecidableEq

def AttestationError.display : AttestationError → String
  | noProvidersAvailable platform =>
      "No providers available for platform: " ++ platform
  | allProvidersFailed message =>
      "All providers failed for platform: " ++ message
  | verificationFailed message => "Verification failed: " ++ message
  | other message => message

/-- The registered providers by platform type, and the freshness service. -/
structure AttestationService (Collateral : Type) where
  crates : Crates
  providers : String → Option (List (AttestationProvider Collateral))
  freshnessService : FreshnessService
  /-- The clock when a freshness proof is built. -/
  createdAt : ℕ

variable {Collateral : Type}

namespace AttestationService

variable (service : AttestationService Collateral)

/-- The proof built from an attested block list. -/
def attestedProof (blockHashes : List BlockInfo) : FreshnessProof :=
  FreshnessProof.new service.crates.sha256 service.createdAt blockHashes
    service.freshnessService.config

/-- What follows once a provider has verified the quote. -/
def freshnessStep (userdata : UserData) : Except AttestationError Unit :=
  if userdata.blockHashes ≠ [] then
    match service.freshnessService.verifyFreshnessProof service.crates.sha256
      (service.attestedProof userdata.blockHashes) with
    | .error message =>
        .error (.verificationFailed
          ("Freshness proof verification failed: " ++ message))
    | .ok checked => .ok checked
  else if service.freshnessService.config.enabled = true then
    .error (.verificationFailed
      "Freshness proof missing but required by policy")
  else .ok ()

/-- The loop over the providers, with the last error seen. -/
def tryProviders (bundle : AttestationBundle) :
    List (AttestationProvider Collateral) → Option String →
      Except AttestationError StandardizedClaims
  | [], lastError =>
      .error (.allProvidersFailed (lastError.getD "All providers failed"))
  | provider :: rest, lastError =>
      match provider.verifyAttestation service.crates bundle with
      | .ok (.verified claims) =>
          match service.crates.userDataFromCbor bundle.detachedUserdata with
          | .error message => .error (.other message)
          | .ok userdata =>
              match service.freshnessStep userdata with
              | .error error => .error error
              | .ok () => .ok claims
      | .ok .unsupported => tryProviders bundle rest lastError
      | .ok (.failed error) =>
          -- definitive failure, the other providers are not tried
          .error (.allProvidersFailed error)
      | .error message => tryProviders bundle rest (some message)

def verifyAttestation (bundle : AttestationBundle) :
    Except AttestationError StandardizedClaims :=
  match service.providers bundle.rawAttestation.platformType with
  | none =>
      .error (.noProvidersAvailable bundle.rawAttestation.platformType)
  | some providers => service.tryProviders bundle providers none

/-- The outcomes after which the next provider is tried. -/
def PassesOn (bundle : AttestationBundle)
    (provider : AttestationProvider Collateral) : Prop :=
  provider.verifyAttestation service.crates bundle = .ok .unsupported ∨
    ∃ message,
      provider.verifyAttestation service.crates bundle = .error message

/-- Some provider of a list verifies the bundle and all before it pass. -/
def VerifiedBy (bundle : AttestationBundle) (claims : StandardizedClaims)
    (providers : List (AttestationProvider Collateral)) : Prop :=
  ∃ before provider after, providers = before ++ provider :: after ∧
    provider.verifyAttestation service.crates bundle =
      .ok (.verified claims) ∧
    ∀ earlier ∈ before, service.PassesOn bundle earlier

/-- The freshness step accepts the attested block list. -/
def FreshnessAccepted (userdata : UserData) : Prop :=
  (userdata.blockHashes ≠ [] ∧
      service.freshnessService.verifyFreshnessProof service.crates.sha256
        (service.attestedProof userdata.blockHashes) = .ok ()) ∨
    (userdata.blockHashes = [] ∧
      service.freshnessService.config.enabled = false)

variable {service}

theorem freshnessStep_eq_ok_iff {userdata : UserData} :
    service.freshnessStep userdata = .ok () ↔
      service.FreshnessAccepted userdata := by
  rw [freshnessStep, FreshnessAccepted]
  by_cases hblocks : userdata.blockHashes = []
  · cases henabled : service.freshnessService.config.enabled <;>
      simp [hblocks]
  · rw [if_pos hblocks]
    cases hverify : service.freshnessService.verifyFreshnessProof
        service.crates.sha256 (service.attestedProof userdata.blockHashes) with
    | error message => simp [hblocks]
    | ok checked => simp [hblocks]

theorem not_verifiedBy_nil {bundle : AttestationBundle}
    {claims : StandardizedClaims} : ¬service.VerifiedBy bundle claims [] := by
  rintro ⟨before, provider, after, hproviders, -⟩
  simp at hproviders

/-- The first provider verifies, or it passes and a later one verifies. -/
theorem verifiedBy_cons {bundle : AttestationBundle}
    {claims : StandardizedClaims} {provider : AttestationProvider Collateral}
    {rest : List (AttestationProvider Collateral)} :
    service.VerifiedBy bundle claims (provider :: rest) ↔
      provider.verifyAttestation service.crates bundle =
          .ok (.verified claims) ∨
        (service.PassesOn bundle provider ∧
          service.VerifiedBy bundle claims rest) := by
  constructor
  · rintro ⟨before, verifier, after, hproviders, hverified, hbefore⟩
    cases before with
    | nil =>
        simp only [List.nil_append, List.cons.injEq] at hproviders
        exact Or.inl (hproviders.1 ▸ hverified)
    | cons first others =>
        simp only [List.cons_append, List.cons.injEq] at hproviders
        have hfirst := hbefore first List.mem_cons_self
        exact Or.inr ⟨hproviders.1 ▸ hfirst, others, verifier, after,
          hproviders.2, hverified, fun earlier hearlier =>
            hbefore earlier (List.mem_cons_of_mem _ hearlier)⟩
  · rintro (hverified | ⟨hpasses, before, verifier, after, hproviders,
      hverified, hbefore⟩)
    · exact ⟨[], provider, rest, rfl, hverified, by simp⟩
    · refine ⟨provider :: before, verifier, after, by rw [hproviders]; rfl,
        hverified, ?_⟩
      intro earlier hearlier
      rcases List.mem_cons.mp hearlier with rfl | hlater
      · exact hpasses
      · exact hbefore earlier hlater

/-- The userdata parses and its block list passes the freshness step. -/
def UserdataAccepted (service : AttestationService Collateral)
    (bundle : AttestationBundle) : Prop :=
  ∃ userdata,
    service.crates.userDataFromCbor bundle.detachedUserdata = .ok userdata ∧
      service.FreshnessAccepted userdata

theorem tryProviders_eq_ok_iff {bundle : AttestationBundle}
    {claims : StandardizedClaims}
    {providers : List (AttestationProvider Collateral)}
    {lastError : Option String} :
    service.tryProviders bundle providers lastError = .ok claims ↔
      service.VerifiedBy bundle claims providers ∧
        service.UserdataAccepted bundle := by
  induction providers generalizing lastError with
  | nil => simp [tryProviders, not_verifiedBy_nil]
  | cons provider rest ih =>
      rw [verifiedBy_cons, tryProviders]
      cases houtcome : provider.verifyAttestation service.crates bundle with
      | error message => simp [ih, PassesOn, houtcome]
      | ok result =>
          cases result with
          | unsupported => simp [ih, PassesOn, houtcome]
          | failed error => simp [PassesOn, houtcome]
          | verified verifiedClaims =>
              simp only [UserdataAccepted, ← freshnessStep_eq_ok_iff]
              cases huserdata : service.crates.userDataFromCbor
                  bundle.detachedUserdata with
              | error message => simp
              | ok userdata =>
                  cases hstep : service.freshnessStep userdata with
                  | error error => simp [hstep]
                  | ok checked => simp [hstep, PassesOn, houtcome]

theorem verifyAttestation_eq_ok_iff {bundle : AttestationBundle}
    {claims : StandardizedClaims} :
    service.verifyAttestation bundle = .ok claims ↔
      ∃ providers,
        service.providers bundle.rawAttestation.platformType =
            some providers ∧
          service.VerifiedBy bundle claims providers ∧
          service.UserdataAccepted bundle := by
  rw [verifyAttestation]
  cases service.providers bundle.rawAttestation.platformType with
  | none => simp
  | some providers => simp [tryProviders_eq_ok_iff]

/-- The chain accepts exactly what its first provider to decide verifies, with
userdata that parses and is fresh; the evidence then commits to that userdata. -/
theorem verifyAttestation_chain (service : AttestationService Collateral)
    (bundle : AttestationBundle) (claims : StandardizedClaims) :
    (service.verifyAttestation bundle = .ok claims ↔
      (∃ before provider after,
        service.providers bundle.rawAttestation.platformType =
            some (before ++ provider :: after) ∧
          provider.verifyAttestation service.crates bundle =
            .ok (.verified claims) ∧
          ∀ earlier ∈ before,
            earlier.verifyAttestation service.crates bundle =
                .ok .unsupported ∨
              ∃ message, earlier.verifyAttestation service.crates bundle =
                .error message) ∧
      ∃ userdata,
        service.crates.userDataFromCbor bundle.detachedUserdata =
            .ok userdata ∧
          ((userdata.blockHashes ≠ [] ∧
              service.freshnessService.verifyFreshnessProof
                service.crates.sha256
                (service.attestedProof userdata.blockHashes) = .ok ()) ∨
            (userdata.blockHashes = [] ∧
              service.freshnessService.config.enabled = false))) ∧
    (service.verifyAttestation bundle = .ok claims →
      ∃ providers provider,
        service.providers bundle.rawAttestation.platformType =
            some providers ∧ provider ∈ providers ∧
          provider.verifyAttestation service.crates bundle =
            .ok (.verified claims) ∧
          provider.EvidenceBound service.crates bundle) := by
  constructor
  · rw [verifyAttestation_eq_ok_iff]
    constructor
    · rintro ⟨providers, hproviders, ⟨before, provider, after, rfl, hverified,
        hbefore⟩, huserdata⟩
      exact ⟨⟨before, provider, after, hproviders, hverified, hbefore⟩,
        huserdata⟩
    · rintro ⟨⟨before, provider, after, hproviders, hverified, hbefore⟩,
        huserdata⟩
      exact ⟨_, hproviders, ⟨before, provider, after, rfl, hverified,
        hbefore⟩, huserdata⟩
  · intro haccepted
    obtain ⟨providers, hproviders, ⟨before, provider, after, rfl, hverified,
      -⟩, -⟩ := verifyAttestation_eq_ok_iff.mp haccepted
    exact ⟨_, provider, hproviders, by simp, hverified,
      AttestationProvider.evidenceBound hverified⟩

/-! ### A quote of a TDX machine -/

def zeroOctets (n : ℕ) : Octets n :=
  ⟨List.replicate n 0, List.length_replicate⟩

def tdxUserdata : UserData where
  ephemeralPublicKey := List.replicate 32 1
  blockHashes := [sampleBlock 1 7 1]

/-- The report data starts with the hash of the userdata, whose bytes are
`[1]`. -/
def tdxReport : TdReport10 where
  teeTcbSvn := zeroOctets 16
  mrSeam := zeroOctets 48
  tdAttributes := zeroOctets 8
  mrTd := zeroOctets 48
  mrConfigId := zeroOctets 48
  mrOwner := zeroOctets 48
  rtMr0 := zeroOctets 48
  rtMr1 := zeroOctets 48
  rtMr2 := zeroOctets 48
  rtMr3 := zeroOctets 48
  reportData := ⟨(sampleSha256 [1]).val ++ List.replicate 32 0, by
    rw [List.length_append, (sampleSha256 [1]).property,
      List.length_replicate]⟩

/-- The machine has signed the quote `[4, 0]`. -/
def tdxProvider : TdxQvlProvider Unit where
  getCollateral _ _ := .ok ()
  verify quote _ _ :=
    if quote = [4, 0] then
      .ok { status := "UpToDate", report := .td10 tdxReport }
    else .error "Invalid signature"
  Genuine quote report := quote = [4, 0] ∧ report = .td10 tdxReport
  verify_genuine := by
    intro quote collateral now verifiedReport hverify
    split_ifs at hverify with hquote
    rw [← Except.ok.inj hverify]
    exact ⟨hquote, rfl⟩
  pccsUrl := none
  now := 1000
  timestamp := 1000
  iterationOrder := List.reverse
  iterationOrder_perm := List.reverse_perm

/-- A provider that finds no device, and the one that verifies quotes. -/
def tdxProviders : List (AttestationProvider Unit) :=
  [.other fun _ => .error "No device"] ++ [.tdxQvl tdxProvider]

def tdxService : AttestationService Unit where
  crates :=
    { sha256 := sampleSha256
      userDataFromCbor := fun bytes =>
        if bytes = [1] then .ok tdxUserdata else .error "Semantic error"
      nullEvidenceFromJson := fun _ => .error "expected value" }
  providers platform := if platform = "tdx" then some tdxProviders else none
  freshnessService :=
    { gatewayProvider :=
        ⟨fun _ chainIds => .ok (chainIds.map (sampleBlock · 7 1))⟩
      config :=
        { maxBlockAgeSeconds := 300
          requiredChains := [1]
          minBlocks := 1
          enabled := true } }
  createdAt := 1000

def tdxBundle : AttestationBundle where
  rawAttestation :=
    { platformType := "tdx"
      evidence := [4, 0]
      certificates := none }
  detachedUserdata := [1]

/-- The second provider verifies the quote, which is genuine, and the listed
block is the latest. -/
theorem verifyAttestation_chain_tdx :
    tdxService.verifyAttestation tdxBundle =
        .ok (tdxProvider.extractStandardizedClaims
          (TdxQvlProvider.quoteData "UpToDate" tdxReport)) ∧
      (AttestationProvider.tdxQvl tdxProvider).EvidenceBound
        tdxService.crates tdxBundle := by
  have hchain := verifyAttestation_chain tdxService tdxBundle
    (tdxProvider.extractStandardizedClaims
      (TdxQvlProvider.quoteData "UpToDate" tdxReport))
  have hverified : tdxProvider.verifyAttestation tdxService.crates tdxBundle =
      .ok (.verified (tdxProvider.extractStandardizedClaims
        (TdxQvlProvider.quoteData "UpToDate" tdxReport))) := by
    decide +kernel
  have haccepted := hchain.1.mpr ⟨⟨[.other fun _ => .error "No device"], _, [],
    rfl, hverified, ?_⟩, tdxUserdata, rfl,
    Or.inl ⟨by decide, by decide +kernel⟩⟩
  · refine ⟨haccepted, ?_⟩
    obtain ⟨providers, provider, hproviders, hmem, hdecided, hbound⟩ :=
      hchain.2 haccepted
    obtain rfl : tdxProviders = providers := Option.some.inj hproviders
    rcases List.mem_cons.mp hmem with rfl | hmem
    · cases hdecided
    · rwa [List.mem_singleton.mp hmem] at hbound
  · intro earlier hmem
    rw [List.mem_singleton.mp hmem]
    exact Or.inr ⟨_, rfl⟩

end AttestationService

end NxccBridge.Attestation
