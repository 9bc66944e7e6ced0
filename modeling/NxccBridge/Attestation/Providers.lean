import NxccBridge.Attestation.FreshnessVerifier

/-!
# Attestation providers

The two providers of `node/attestation/src/providers`: the null provider for
systems without TEE hardware, and the TDX provider that verifies quotes with
`dcap-qvl`.  Each checks the quote and the binding of the detached userdata.
-/

namespace NxccBridge.Attestation

open NxccBridge.Framing
open NxccBridge.LittleEndian
open NxccBridge.Indexing
open NxccBridge.Interface
open NxccBridge.Freshness

structure Measurement where
  val : Bytes
  alg : String
  measurementType : Option String
  vendor : Option String
  version : Option String
  deriving DecidableEq

/-- The claims a provider fills in. -/
structure StandardizedClaims where
  iat : ℕ
  eatNonce : Option Bytes
  ueid : Option Bytes
  oemid : Option String
  hwmodel : Option String
  hwversion : Option String
  dbgstat : ℕ
  oemboot : Option Bool
  swname : Option String
  swversion : Option String
  measurements : List Measurement
  eatProfile : String
  deriving DecidableEq

inductive VerificationResult
  | verified (claims : StandardizedClaims)
  | unsupported
  | failed (error : String)
  deriving DecidableEq

structure NullAttestationEvidence where
  userdataHash : Bytes
  ephemeralKey : Bytes
  nonce : Option Bytes
  deriving DecidableEq

/-- The crates the providers call. -/
structure Crates where
  sha256 : Bytes → Sha256Digest
  /-- `ciborium::from_reader` at `UserData`. -/
  userDataFromCbor : Bytes → Except String UserData
  /-- `serde_json::from_slice` at `NullAttestationEvidence`. -/
  nullEvidenceFromJson : Bytes → Except String NullAttestationEvidence

/-- Hash of the serialized user data for quote binding. -/
def hashUserdata (crates : Crates) (serializedUserdata : Bytes) :
    Sha256Digest := crates.sha256 serializedUserdata

/-! ## The null provider -/

/-- The clock and the random bytes of one verification. -/
structure NullAttestationProvider where
  timestamp : ℕ
  platformMeasurement : Octets 32
  appMeasurement : Octets 48

namespace NullAttestationProvider

def extractEphemeralKeyFromUserdata (crates : Crates) (userdata : Bytes) :
    Except String (Octets 32) :=
  match crates.userDataFromCbor userdata with
  | .error message => .error message
  | .ok userData =>
      if hlength : userData.ephemeralPublicKey.length = 32 then
        .ok ⟨userData.ephemeralPublicKey, hlength⟩
      else
        .error ("Invalid ephemeral key length: expected 32 bytes, got " ++
          toString userData.ephemeralPublicKey.length)

def createNullClaims (provider : NullAttestationProvider)
    (userdataHash : Bytes) : StandardizedClaims where
  iat := provider.timestamp
  eatNonce := some userdataHash
  ueid := none
  oemid := some "nxcc-null"
  hwmodel := some "null"
  hwversion := some "1.0"
  dbgstat := 0
  oemboot := some true
  swname := some "nxcc-null-attestation"
  swversion := some "1.0"
  measurements :=
    [{ val := provider.platformMeasurement.val
       alg := "sha-256"
       measurementType := some "platform"
       vendor := some "nxcc"
       version := some "1.0" },
     { val := provider.appMeasurement.val
       alg := "sha-384"
       measurementType := some "application"
       vendor := some "nxcc-null"
       version := some "1.0" }]
  eatProfile := "urn:nxcc:profile:null-v1"

def verifyAttestation (crates : Crates) (provider : NullAttestationProvider)
    (bundle : AttestationBundle) : Except String VerificationResult :=
  if bundle.rawAttestation.platformType ≠ "null" then .ok .unsupported
  else
    match crates.nullEvidenceFromJson bundle.rawAttestation.evidence with
    | .error message =>
        .ok (.failed ("Failed to parse null attestation evidence: " ++
          message))
    | .ok evidence =>
        match extractEphemeralKeyFromUserdata crates
          bundle.detachedUserdata with
        | .error _ => .ok (.failed "Failed to parse requester userdata")
        | .ok ephemeralKeyFromUserdata =>
            let computedUserdataHash :=
              hashUserdata crates bundle.detachedUserdata
            if evidence.userdataHash ≠ computedUserdataHash.val then
              .ok (.failed "Userdata hash mismatch in null attestation")
            else if evidence.ephemeralKey ≠ ephemeralKeyFromUserdata.val then
              .ok (.failed
                "Ephemeral key mismatch between evidence and userdata")
            else
              .ok (.verified
                (provider.createNullClaims computedUserdataHash.val))

end NullAttestationProvider

/-! ## The TDX provider -/

/-- The fields of a `dcap_qvl` TD report that the provider reads. -/
structure TdReport10 where
  teeTcbSvn : Octets 16
  mrSeam : Octets 48
  tdAttributes : Octets 8
  mrTd : Octets 48
  mrConfigId : Octets 48
  mrOwner : Octets 48
  rtMr0 : Octets 48
  rtMr1 : Octets 48
  rtMr2 : Octets 48
  rtMr3 : Octets 48
  reportData : Octets 64

inductive Report
  | sgxEnclave
  | td10 (report : TdReport10)
  | td15 (base : TdReport10)

structure VerifiedReport where
  status : String
  report : Report

/-- The TD report of a verified quote, which a TDX 1.5 report extends. -/
def Report.base : Report → Option TdReport10
  | .sgxEnclave => none
  | .td10 report => some report
  | .td15 base => some base

/-- The TDX provider with the `dcap_qvl` crate, the environment and the clock
of one verification. -/
structure TdxQvlProvider (Collateral : Type) where
  getCollateral : String → Bytes → Except String Collateral
  verify : Bytes → Collateral → ℕ → Except String VerifiedReport
  /-- The quotes that genuine hardware signs, each with its report. -/
  Genuine : Bytes → Report → Prop
  verify_genuine : ∀ {quote collateral now verifiedReport},
    verify quote collateral now = .ok verifiedReport →
      Genuine quote verifiedReport.report
  pccsUrl : Option String
  now : ℕ
  timestamp : ℕ
  /-- The order in which a `HashMap` is iterated. -/
  iterationOrder : List (String × Bytes) → List (String × Bytes)
  iterationOrder_perm : ∀ entries, (iterationOrder entries).Perm entries

structure TdxAttestationClaims where
  mrtd : Bytes
  rtmr0 : Bytes
  rtmr1 : Bytes
  rtmr2 : Bytes
  rtmr3 : Bytes
  mrConfigId : Bytes
  mrOwner : Bytes
  mrSeam : Bytes
  debugEnabled : Bool
  tdAttributes : UInt64
  seamAttributes : UInt64
  tcbSvn : Bytes
  reportData : Bytes
  userData : Bytes
  ephemeralKey : Option Bytes
  quoteVersion : ℕ
  teeType : ℕ
  attKeyType : ℕ
  hasValidSignature : Bool
  signaturePresent : Bool
  certChainPresent : Bool

/-- `str::contains`. -/
def containsText (text pattern : String) : Bool :=
  decide (pattern.toList <:+: text.toList)

namespace TdxQvlProvider

variable {Collateral : Type}

def defaultPccsUrl : String :=
  "https://api.trustedservices.intel.com/sgx/certification/v4/"

def quoteData (status : String) (report : TdReport10) :
    TdxAttestationClaims where
  mrtd := report.mrTd.val
  rtmr0 := report.rtMr0.val
  rtmr1 := report.rtMr1.val
  rtmr2 := report.rtMr2.val
  rtmr3 := report.rtMr3.val
  mrConfigId := report.mrConfigId.val
  mrOwner := report.mrOwner.val
  mrSeam := report.mrSeam.val
  debugEnabled := (report.tdAttributes.val.getD 0 0).val % 2 != 0
  tdAttributes := u64.fromLeBytes report.tdAttributes.val
  seamAttributes := 0
  tcbSvn := report.teeTcbSvn.val
  reportData := report.reportData.val
  userData := []
  ephemeralKey :=
    if (report.reportData.val.take 32).any (fun b => b != 0) then
      some (report.reportData.val.take 32)
    else none
  quoteVersion := 4
  teeType := 0x81
  attKeyType := 2
  hasValidSignature := status == "UpToDate"
  signaturePresent := true
  certChainPresent := true

def verifyWithDcapQvl (provider : TdxQvlProvider Collateral) (quote : Bytes) :
    Except String TdxAttestationClaims :=
  match provider.getCollateral (provider.pccsUrl.getD defaultPccsUrl) quote with
  | .error message => .error ("Failed to get collateral: " ++ message)
  | .ok collateral =>
      match provider.verify quote collateral provider.now with
      | .error message => .error ("Quote verification failed: " ++ message)
      | .ok verifiedReport =>
          match verifiedReport.report with
          | .td10 report => .ok (quoteData verifiedReport.status report)
          | .td15 base => .ok (quoteData verifiedReport.status base)
          | .sgxEnclave => .error "Expected TDX report but got SGX report"

def intelMeasurement (measurementType : String) (value : Bytes) :
    Measurement where
  val := value
  alg := "sha-384"
  measurementType := some measurementType
  vendor := some "intel"
  version := none

def extractStandardizedClaims (provider : TdxQvlProvider Collateral)
    (claims : TdxAttestationClaims) : StandardizedClaims :=
  let measurements :=
    [("rtmr0", claims.rtmr0), ("rtmr1", claims.rtmr1),
     ("rtmr2", claims.rtmr2), ("rtmr3", claims.rtmr3),
     ("mr_config_id", claims.mrConfigId), ("mr_owner", claims.mrOwner),
     ("mr_seam", claims.mrSeam), ("tcb_svn", claims.tcbSvn)]
  let hardwareSecurityLevel := if claims.debugEnabled then 1 else 3
  { iat := provider.timestamp
    eatNonce := some claims.reportData
    ueid := some (if 32 ≤ claims.mrtd.length then claims.mrtd.take 32
      else claims.mrtd)
    oemid := some "intel-tdx-qvl"
    hwmodel := some "tdx"
    hwversion := some "1.0"
    dbgstat := if hardwareSecurityLevel = 1 then 4 else 0
    oemboot := some true
    swname := none
    swversion := none
    measurements := intelMeasurement "application" claims.mrtd ::
      (provider.iterationOrder measurements).map fun entry =>
        intelMeasurement entry.1 entry.2
    eatProfile := "urn:nxcc:profile:tdx-v1" }

def verifyAttestation (crates : Crates) (provider : TdxQvlProvider Collateral)
    (bundle : AttestationBundle) : Except String VerificationResult :=
  match provider.verifyWithDcapQvl bundle.rawAttestation.evidence with
  | .ok quoteData =>
      let receivedUserdataHash := hashUserdata crates bundle.detachedUserdata
      if quoteData.reportData.length < 32 ∨
          quoteData.reportData.take 32 ≠ receivedUserdataHash.val then
        .ok (.failed "Userdata hash mismatch")
      else .ok (.verified (provider.extractStandardizedClaims quoteData))
  | .error message =>
      if containsText message "not available" ∨
          containsText message "unsupported" ∨
          containsText message "collateral" then
        .ok .unsupported
      else .ok (.failed message)

end TdxQvlProvider

/-! ## Any provider -/

/-- A registered provider: one of the two above, or any implementation of the
trait with any outcome. -/
inductive AttestationProvider (Collateral : Type)
  | null (provider : NullAttestationProvider)
  | tdxQvl (provider : TdxQvlProvider Collateral)
  | other (outcome : AttestationBundle → Except String VerificationResult)

variable {Collateral : Type}

def AttestationProvider.verifyAttestation (crates : Crates)
    (bundle : AttestationBundle) :
    AttestationProvider Collateral → Except String VerificationResult
  | null provider => provider.verifyAttestation crates bundle
  | tdxQvl provider => provider.verifyAttestation crates bundle
  | other outcome => outcome bundle

/-- The evidence of a bundle commits to its detached userdata: null evidence by
the hash and the key it carries, a TDX quote by the data of its report. -/
def AttestationProvider.EvidenceBound (crates : Crates)
    (bundle : AttestationBundle) : AttestationProvider Collateral → Prop
  | null _ => ∃ evidence userdata,
      crates.nullEvidenceFromJson bundle.rawAttestation.evidence =
          .ok evidence ∧
        crates.userDataFromCbor bundle.detachedUserdata = .ok userdata ∧
        evidence.userdataHash = (crates.sha256 bundle.detachedUserdata).val ∧
        userdata.ephemeralPublicKey.length = 32 ∧
        evidence.ephemeralKey = userdata.ephemeralPublicKey
  | tdxQvl provider => ∃ report base,
      provider.Genuine bundle.rawAttestation.evidence report ∧
        report.base = some base ∧
        base.reportData.val.take 32 =
          (crates.sha256 bundle.detachedUserdata).val
  | other _ => True

theorem NullAttestationProvider.evidenceBound {crates : Crates}
    {bundle : AttestationBundle} {provider : NullAttestationProvider}
    {claims : StandardizedClaims}
    (hverified : provider.verifyAttestation crates bundle =
      .ok (.verified claims)) :
    (AttestationProvider.null provider :
      AttestationProvider Collateral).EvidenceBound crates bundle := by
  by_cases hplatform : bundle.rawAttestation.platformType = "null"
  swap
  · simp [NullAttestationProvider.verifyAttestation, hplatform] at hverified
  simp only [NullAttestationProvider.verifyAttestation, hplatform, ne_eq,
    not_true_eq_false, if_false] at hverified
  cases hevidence : crates.nullEvidenceFromJson
      bundle.rawAttestation.evidence with
  | error message => simp [hevidence] at hverified
  | ok evidence =>
      simp only [hevidence, extractEphemeralKeyFromUserdata] at hverified
      cases huserdata : crates.userDataFromCbor bundle.detachedUserdata with
      | error message => simp [huserdata] at hverified
      | ok userdata =>
          simp only [huserdata] at hverified
          by_cases hlength : userdata.ephemeralPublicKey.length = 32
          · simp only [hlength, dif_pos] at hverified
            split_ifs at hverified with hhash hkey
            · exact ⟨evidence, userdata, hevidence, huserdata, hhash,
                hlength, hkey⟩
            · simp at hverified
            · simp at hverified
          · simp [hlength] at hverified

theorem TdxQvlProvider.verifyWithDcapQvl_eq_ok
    {provider : TdxQvlProvider Collateral} {quote : Bytes}
    {claims : TdxAttestationClaims}
    (hclaims : provider.verifyWithDcapQvl quote = .ok claims) :
    ∃ report base, provider.Genuine quote report ∧
      report.base = some base ∧ claims.reportData = base.reportData.val := by
  rw [TdxQvlProvider.verifyWithDcapQvl] at hclaims
  cases hcollateral : provider.getCollateral
      (provider.pccsUrl.getD defaultPccsUrl) quote with
  | error message => simp [hcollateral] at hclaims
  | ok collateral =>
      simp only [hcollateral] at hclaims
      cases hverify : provider.verify quote collateral provider.now with
      | error message => simp [hverify] at hclaims
      | ok verifiedReport =>
          simp only [hverify] at hclaims
          have hgenuine := provider.verify_genuine hverify
          cases hreport : verifiedReport.report with
          | sgxEnclave => simp [hreport] at hclaims
          | td10 report =>
              simp only [hreport, Except.ok.injEq] at hclaims
              exact ⟨_, report, hgenuine, by rw [hreport]; rfl,
                by rw [← hclaims]; rfl⟩
          | td15 base =>
              simp only [hreport, Except.ok.injEq] at hclaims
              exact ⟨_, base, hgenuine, by rw [hreport]; rfl,
                by rw [← hclaims]; rfl⟩

theorem TdxQvlProvider.evidenceBound {crates : Crates}
    {bundle : AttestationBundle} {provider : TdxQvlProvider Collateral}
    {claims : StandardizedClaims}
    (hverified : provider.verifyAttestation crates bundle =
      .ok (.verified claims)) :
    (AttestationProvider.tdxQvl provider).EvidenceBound crates bundle := by
  rw [TdxQvlProvider.verifyAttestation] at hverified
  cases hclaims : provider.verifyWithDcapQvl
      bundle.rawAttestation.evidence with
  | error message =>
      simp only [hclaims] at hverified
      split_ifs at hverified
      all_goals simp at hverified
  | ok claims =>
      simp only [hclaims] at hverified
      split_ifs at hverified with hmismatch
      · simp at hverified
      · obtain ⟨report, base, hgenuine, hbase, hdata⟩ :=
          verifyWithDcapQvl_eq_ok hclaims
        rw [not_or, hdata, not_not] at hmismatch
        exact ⟨report, base, hgenuine, hbase, hmismatch.2⟩

/-- A provider verifies only evidence that is bound to the userdata. -/
theorem AttestationProvider.evidenceBound {crates : Crates}
    {bundle : AttestationBundle} {provider : AttestationProvider Collateral}
    {claims : StandardizedClaims}
    (hverified : provider.verifyAttestation crates bundle =
      .ok (.verified claims)) :
    provider.EvidenceBound crates bundle := by
  cases provider with
  | null provider => exact NullAttestationProvider.evidenceBound hverified
  | tdxQvl provider => exact TdxQvlProvider.evidenceBound hverified
  | other outcome => exact trivial

end NxccBridge.Attestation
