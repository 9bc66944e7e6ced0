import NxccBridge.Attestation.TdxGrammar
import NxccBridge.Core.Buffer

/-!
# The producers of TDX quotes

`node/attestation/src/tdx/hardware.rs`: the simulator, which writes a quote of
random measurements by offsets, and the check that the hardware path makes of a
quote that the device returns.  Both know quotes of version 5, which the parser
rejects.
-/

namespace NxccBridge.TdxSimulator

open NxccBridge.Buffer
open NxccBridge.Framing
open NxccBridge.Indexing
open NxccBridge.LittleEndian
open NxccBridge.TdxParser

structure TdxSimulatorConfig where
  mrtd : Octets 48
  debugEnabled : Bool
  quoteVersion : UInt16
  deriving DecidableEq

def defaultMrtd : Octets 48 := ⟨List.replicate 48 0x42, rfl⟩

/-- What the generator draws for one quote.  Of a field that is filled in part
the rest is used. -/
structure QuoteRandomness where
  reserved : Octets 4
  qeVendorId : Octets 16
  user20 : Octets 20
  tcbSvn : Octets 16
  mrSeam : Octets 48
  mrSignerSeam : Octets 48
  seamAttrs : Octets 8
  tdAttrs : Octets 8
  xfam : Octets 8
  mrtd : Octets 48
  mrConfigId : Octets 48
  mrOwner : Octets 48
  mrOwnerConfig : Octets 48
  rtmr : Fin 4 → Octets 48
  rd64 : Octets 64
  sigExtra : Fin 128
  sigData : Octets (64 + sigExtra.val)

/-- The bytes that fit in front, and random ones behind them. -/
def randomPadded {length : ℕ} (front : Bytes) (random : Octets length) :
    Octets length :=
  ⟨front.take length ++ random.val.drop front.length, by
    simp only [List.length_append, List.length_take, List.length_drop,
      random.property]
    omega⟩

/-- Set or clear bit 0 of the first byte. -/
def setDebugBit (debug : Bool) (bytes : Bytes) : Bytes :=
  bytes.modifyHead fun first => if debug then first ||| 1 else first &&& 254

theorem length_setDebugBit (debug : Bool) (bytes : Bytes) :
    (setDebugBit debug bytes).length = bytes.length := by
  rw [setDebugBit, List.length_modifyHead]

section Quote

variable (cfg : TdxSimulatorConfig) (random : QuoteRandomness)
variable (reportData : Bytes)

def tdAttrs : Octets 8 :=
  ⟨setDebugBit cfg.debugEnabled random.tdAttrs.val, by
    rw [length_setDebugBit, random.tdAttrs.property]⟩

/-- The default is replaced; of a configured value the last bytes vary. -/
def mrtd : Octets 48 :=
  if cfg.mrtd = defaultMrtd then random.mrtd
  else randomPadded (cfg.mrtd.val.take 44) random.mrtd

def headerBytes : Bytes :=
  u16.toLeBytes cfg.quoteVersion ++ [0x02, 0x00] ++ u32.toLeBytes 0x00000081 ++
    random.reserved.val ++ random.qeVendorId.val ++
    (randomPadded reportData random.user20).val

/-- The copies into the body, with the offsets of the source. -/
def bodyCopies : List Copy :=
  [⟨0, 16, random.tcbSvn.val⟩, ⟨16, 64, random.mrSeam.val⟩,
    ⟨64, 112, random.mrSignerSeam.val⟩, ⟨112, 120, random.seamAttrs.val⟩,
    ⟨120, 128, (tdAttrs cfg random).val⟩, ⟨128, 136, random.xfam.val⟩,
    ⟨136, 184, (mrtd cfg random).val⟩, ⟨184, 232, random.mrConfigId.val⟩,
    ⟨232, 280, random.mrOwner.val⟩, ⟨280, 328, random.mrOwnerConfig.val⟩] ++
  (List.finRange 4).map (fun i =>
    ⟨328 + i.val * 48, 328 + i.val * 48 + 48, (random.rtmr i).val⟩) ++
  [⟨520, 584, (randomPadded reportData random.rd64).val⟩]

def makeMockQuote : Outcome Bytes := do
  let body ← copyAll (bodyCopies cfg random reportData)
    (List.replicate 584 0)
  .ok (headerBytes cfg random reportData ++ body ++
    u32.toLeBytes (UInt32.ofNat random.sigData.val.length) ++
    random.sigData.val)

end Quote

/-- `format!("0x{:08x}", value)`. -/
def hexPadded (value : UInt32) : String :=
  "0x" ++ String.ofList
    (List.leftpad 8 '0' (Nat.toDigits 16 value.toNat))

/-- Minimal structural checks: version and TEE type at fixed offsets. -/
def simpleQuoteSanity (quote : Bytes) : Outcome Unit := do
  if quote.length < 48 then
    .err ("quote too small: " ++ toString quote.length)
  else do
    let version ← index quote 0 2
    let teeType ← index quote 4 8
    let version := u16.fromLeBytes version
    let teeType := u32.fromLeBytes teeType
    if version ≠ 4 ∧ version ≠ 5 then
      .err ("unexpected quote version: " ++ toString version)
    else if teeType ≠ 0x00000081 then
      .err ("unexpected TEE type " ++ hexPadded teeType ++
        " (expect 0x00000081 for TDX)")
    else .ok ()

/-! ## The quote that is written -/

section Quote

variable (cfg : TdxSimulatorConfig) (random : QuoteRandomness)
variable (reportData : Bytes)

def mockHeader : TdxQuoteHeader where
  version := cfg.quoteVersion
  attKeyType := 2
  teeType := teeTypeTdx
  reserved := u32.fromLeBytes random.reserved.val
  vendorId := random.qeVendorId
  userData := randomPadded reportData random.user20

def mockReport : TdReport where
  tcbSvn := random.tcbSvn
  mrSeam := random.mrSeam
  mrSignerSeam := random.mrSignerSeam
  seamAttributes := u64.fromLeBytes random.seamAttrs.val
  tdAttributes := u64.fromLeBytes (tdAttrs cfg random).val
  xfam := u64.fromLeBytes random.xfam.val
  mrtd := mrtd cfg random
  mrConfigId := random.mrConfigId
  mrOwner := random.mrOwner
  mrOwnerConfig := random.mrOwnerConfig
  rtmr := random.rtmr
  reportData := randomPadded reportData random.rd64

/-- The quote whose bytes the simulator writes. -/
def mockQuote : TdxQuote where
  header := mockHeader cfg random reportData
  tdReport := mockReport cfg random reportData
  signatureLen := UInt32.ofNat random.sigData.val.length
  signature := none
  rawSignatureData := random.sigData.val

theorem headerBytes_eq :
    headerBytes cfg random reportData =
      (mockHeader cfg random reportData).toBytes := by
  have hkey : u16.toLeBytes 2 = [0x02, 0x00] := by decide
  simp only [headerBytes, TdxQuoteHeader.toBytes, mockHeader, hkey,
    u32.toLeBytes_fromLeBytes random.reserved.property]
  rfl

/-- The copies follow one another as the parser reads the report. -/
theorem bodyCopies_adjacent :
    Adjacent 0 (bodyCopies cfg random reportData) := by
  simp [bodyCopies, Adjacent, List.finRange_succ]

theorem bodyCopies_sources :
    (bodyCopies cfg random reportData).flatMap Copy.source =
      (mockReport cfg random reportData).toBytes := by
  have hword : ∀ octets : Octets 8,
      u64.toLeBytes (u64.fromLeBytes octets.val) = octets.val :=
    fun octets => u64.toLeBytes_fromLeBytes octets.property
  simp [bodyCopies, TdReport.toBytes, mockReport, List.finRange_succ, hword]

theorem makeMockQuote_eq :
    makeMockQuote cfg random reportData =
      .ok (mockQuote cfg random reportData).toBytes := by
  have hlength : (List.replicate 584 (0 : Byte)).length =
      ((bodyCopies cfg random reportData).flatMap Copy.source).length := by
    rw [bodyCopies_sources, TdReport.length_toBytes, List.length_replicate]
  rw [makeMockQuote, copyAll_eq (bodyCopies_adjacent cfg random reportData)
    hlength, Outcome.ok_bind, bodyCopies_sources, headerBytes_eq]
  rfl

end Quote

/-! ## What the parser reads -/

/-- Bit 0 of a little-endian word is bit 0 of its first byte. -/
theorem debugBit_fromLeBytes (first : Byte) {rest : Bytes}
    (hlength : (first :: rest).length = 8) :
    (u64.fromLeBytes (first :: rest) &&& 1 ≠ 0) ↔ first.val % 2 = 1 := by
  have hlt : decode (first :: rest) < 2 ^ 64 :=
    (decode_lt (first :: rest)).trans_le (by
      rw [hlength]
      norm_num)
  have hnat : (u64.fromLeBytes (first :: rest)).toNat =
      first.val + 256 * decode rest := by
    rw [Word.fromLeBytes]
    exact UInt64.toNat_ofNat_of_lt' hlt
  rw [ne_eq, ← UInt64.toNat_inj, UInt64.toNat_and, hnat]
  simp only [UInt64.toNat_one, UInt64.toNat_zero, Nat.and_one_is_mod]
  omega

theorem setDebugBit_mod_two (debug : Bool) (first : Byte) :
    (if debug then first ||| 1 else first &&& 254).val % 2 = 1 ↔
      debug = true := by
  revert first
  cases debug
  · decide +kernel
  · decide +kernel

theorem debugBit_tdAttrs (cfg : TdxSimulatorConfig)
    (random : QuoteRandomness) :
    (u64.fromLeBytes (tdAttrs cfg random).val &&& 1 ≠ 0) ↔
      cfg.debugEnabled = true := by
  have hlength := (tdAttrs cfg random).property
  cases hbytes : random.tdAttrs.val with
  | nil =>
      have height := random.tdAttrs.property
      rw [hbytes] at height
      cases height
  | cons first rest =>
      have hattrs : (tdAttrs cfg random).val =
          (if cfg.debugEnabled then first ||| 1 else first &&& 254) ::
            rest := by
        simp only [tdAttrs, setDebugBit, hbytes, List.modifyHead_cons]
      rw [hattrs] at hlength ⊢
      rw [debugBit_fromLeBytes _ hlength]
      exact setDebugBit_mod_two cfg.debugEnabled first

/-- The parsed quote holds what the simulator was asked for. -/
structure ReadsBack (cfg : TdxSimulatorConfig) (random : QuoteRandomness)
    (reportData : Bytes) (quote : TdxQuote) : Prop where
  reportData : reportData <+: quote.tdReport.reportData.val
  debug : quote.tdReport.tdAttributes &&& 1 ≠ 0 ↔ cfg.debugEnabled = true
  mrtd : cfg.mrtd ≠ defaultMrtd →
    quote.tdReport.mrtd.val.take 44 = cfg.mrtd.val.take 44
  signature : quote.rawSignatureData = random.sigData.val

def ParsesBack (cfg : TdxSimulatorConfig) (random : QuoteRandomness)
    (reportData : Bytes) : Prop :=
  ∃ bytes quote, makeMockQuote cfg random reportData = .ok bytes ∧
    TdxQuote.parse bytes = .ok quote ∧ ReadsBack cfg random reportData quote

theorem readsBack_mockQuote (cfg : TdxSimulatorConfig)
    (random : QuoteRandomness) {reportData : Bytes}
    (hlength : reportData.length ≤ 64) (signature : Option QuoteSignature) :
    ReadsBack cfg random reportData
      { mockQuote cfg random reportData with signature } := by
  constructor
  · change reportData <+: reportData.take 64 ++ _
    rw [List.take_of_length_le hlength]
    exact List.prefix_append _ _
  · exact debugBit_tdAttrs cfg random
  · intro hconfigured
    change (mrtd cfg random).val.take 44 = _
    rw [mrtd, if_neg hconfigured]
    change ((cfg.mrtd.val.take 44).take 48 ++ _).take 44 = _
    rw [List.take_take, List.take_append_of_le_length (by simp),
      List.take_take]
    norm_num
  · rfl

/-- A quote of the simulator is parsed exactly when it is of version 4. -/
theorem parsesBack_iff (cfg : TdxSimulatorConfig) (random : QuoteRandomness)
    {reportData : Bytes} (hlength : reportData.length ≤ 64) :
    ParsesBack cfg random reportData ↔ cfg.quoteVersion = 4 := by
  have hsigData : random.sigData.val.length < 192 := by
    rw [random.sigData.property]
    omega
  have htotal :
      (mockQuote cfg random reportData).toBytes.length < 2 ^ 63 := by
    simp only [TdxQuote.toBytes, List.length_append,
      TdxQuoteHeader.length_toBytes, TdReport.length_toBytes,
      Word.length_toLeBytes, u32_width]
    change 48 + 584 + 4 + random.sigData.val.length < 2 ^ 63
    omega
  constructor
  · rintro ⟨bytes, quote, hmake, hparse, -⟩
    rw [makeMockQuote_eq] at hmake
    cases hmake
    have hversion := ((TdxQuote.parse_returns htotal).of_ok hparse).version
    have hself := TdxQuote.at_toBytes_iff.mp (at_zero_iff.mpr
      (List.prefix_refl (mockQuote cfg random reportData).toBytes))
    rw [← (header_fields hself.1).1] at hversion
    exact hversion
  · intro hversion
    have hsignature : (UInt32.ofNat random.sigData.val.length).toNat =
        random.sigData.val.length :=
      UInt32.toNat_ofNat_of_lt' (by
        rw [UInt32.size]
        omega)
    obtain ⟨signature, hparse⟩ := TdxQuote.parse_toBytes htotal hversion rfl
      hsignature
    exact ⟨_, _, makeMockQuote_eq cfg random reportData, hparse,
      readsBack_mockQuote cfg random hlength signature⟩

/-! ## The check of the hardware path -/

theorem simpleQuoteSanity_eq_ok_iff (quote : Bytes) :
    simpleQuoteSanity quote = .ok () ↔
      48 ≤ quote.length ∧
        (versionField quote = 4 ∨ versionField quote = 5) ∧
        teeTypeField quote = 0x00000081 := by
  rw [simpleQuoteSanity]
  split_ifs with hshort
  · simp [Nat.not_le_of_lt hshort]
  · rw [index_ok (by omega) (by omega), Outcome.ok_bind,
      index_ok (by omega) (by omega), Outcome.ok_bind]
    change (if versionField quote ≠ 4 ∧ versionField quote ≠ 5 then _
      else if teeTypeField quote ≠ 0x00000081 then _ else _) = _ ↔ _
    split_ifs with hversion hteeType
    · simp [hversion.1, hversion.2]
    · simp [hteeType]
    · simp only [true_iff]
      exact ⟨by omega, by tauto, not_not.mp hteeType⟩

/-- The parser reads a header and rejects its version or type. -/
def RejectedByHeader (quote : Bytes) : Prop :=
  ∃ header next message,
    TdxQuoteHeader.parse quote 0 = .ok (header, next) ∧
    header.validate = .err message ∧ TdxQuote.parse quote = .err message

theorem not_rejectedByHeader_iff {quote : Bytes}
    (hquote : quote.length < 2 ^ 63)
    (hsanity : simpleQuoteSanity quote = .ok ()) :
    ¬ RejectedByHeader quote ↔ versionField quote = 4 := by
  obtain ⟨hlong, -, hteeType⟩ := (simpleQuoteSanity_eq_ok_iff quote).mp hsanity
  obtain ⟨header, hheader, hat⟩ := TdxQuoteHeader.parse_ok 0 hquote (by omega)
  obtain ⟨hversionField, hteeTypeField⟩ := header_fields hat
  constructor
  · intro haccepted
    by_contra hversion
    apply haccepted
    have hvalidate : header.validate =
        .err ("Unsupported quote version: " ++ toString header.version) :=
      if_pos (hversionField ▸ hversion)
    refine ⟨header, _, _, hheader, hvalidate, ?_⟩
    rw [TdxQuote.parse, hheader, Outcome.ok_bind]
    simp only [hvalidate]
    rfl
  · rintro hversion ⟨other, next, message, hother, hvalidate, -⟩
    cases hheader.symm.trans hother
    rw [validate_ok (hversionField.trans hversion)
      (hteeTypeField.trans hteeType)] at hvalidate
    cases hvalidate

/-- The simulator and the parser, and the check of the hardware path and the
parser, agree on a quote exactly when it is of version 4. -/
theorem producers_agree_iff (cfg : TdxSimulatorConfig)
    (random : QuoteRandomness) (reportData : Bytes)
    (hlength : reportData.length ≤ 64) (quote : Bytes)
    (hquote : quote.length < 2 ^ 63)
    (hsanity : simpleQuoteSanity quote = .ok ()) :
    (ParsesBack cfg random reportData ↔ cfg.quoteVersion = 4) ∧
      (¬ RejectedByHeader quote ↔ versionField quote = 4) :=
  ⟨parsesBack_iff cfg random hlength,
    not_rejectedByHeader_iff hquote hsanity⟩

/-- Draws that are all zero, and the shortest signature. -/
def zeroRandomness : QuoteRandomness where
  reserved := ⟨List.replicate 4 0, rfl⟩
  qeVendorId := ⟨List.replicate 16 0, rfl⟩
  user20 := ⟨List.replicate 20 0, rfl⟩
  tcbSvn := ⟨List.replicate 16 0, rfl⟩
  mrSeam := ⟨List.replicate 48 0, rfl⟩
  mrSignerSeam := ⟨List.replicate 48 0, rfl⟩
  seamAttrs := ⟨List.replicate 8 0, rfl⟩
  tdAttrs := ⟨List.replicate 8 0, rfl⟩
  xfam := ⟨List.replicate 8 0, rfl⟩
  mrtd := ⟨List.replicate 48 0, rfl⟩
  mrConfigId := ⟨List.replicate 48 0, rfl⟩
  mrOwner := ⟨List.replicate 48 0, rfl⟩
  mrOwnerConfig := ⟨List.replicate 48 0, rfl⟩
  rtmr := fun _ => ⟨List.replicate 48 0, rfl⟩
  rd64 := ⟨List.replicate 64 0, rfl⟩
  sigExtra := 0
  sigData := ⟨List.replicate 64 0, rfl⟩

def versionFourConfig : TdxSimulatorConfig where
  mrtd := defaultMrtd
  debugEnabled := true
  quoteVersion := 4

def versionFourQuote : Bytes :=
  (mockQuote versionFourConfig zeroRandomness []).toBytes

theorem versionFour_accepted :
    ParsesBack versionFourConfig zeroRandomness [] ∧
      ¬ RejectedByHeader versionFourQuote := by
  have hagree := producers_agree_iff versionFourConfig zeroRandomness []
    (Nat.zero_le 64) versionFourQuote (by decide +kernel) (by decide +kernel)
  exact ⟨hagree.1.mpr rfl, hagree.2.mpr (by decide +kernel)⟩

def versionFiveConfig : TdxSimulatorConfig where
  mrtd := defaultMrtd
  debugEnabled := false
  quoteVersion := 5

/-- A quote of version 5, which the simulator writes and the hardware path
passes. -/
def versionFiveQuote : Bytes :=
  (mockQuote versionFiveConfig zeroRandomness []).toBytes

theorem versionFive_rejected :
    makeMockQuote versionFiveConfig zeroRandomness [] =
      .ok versionFiveQuote ∧
    simpleQuoteSanity versionFiveQuote = .ok () ∧
    TdxQuote.parse versionFiveQuote =
      .err "Unsupported quote version: 5" ∧
    RejectedByHeader versionFiveQuote ∧
    ¬ ParsesBack versionFiveConfig zeroRandomness [] := by
  have hlength : versionFiveQuote.length < 2 ^ 63 := by decide +kernel
  have hsanity : simpleQuoteSanity versionFiveQuote = .ok () := by
    decide +kernel
  refine ⟨makeMockQuote_eq _ _ _, hsanity, by decide +kernel, ?_, ?_⟩
  · by_contra haccepted
    have hversion := (not_rejectedByHeader_iff hlength hsanity).mp haccepted
    exact absurd hversion (by decide +kernel)
  · intro hparses
    have hempty : ([] : Bytes).length ≤ 64 := Nat.zero_le 64
    have hversion := (parsesBack_iff versionFiveConfig zeroRandomness
      hempty).mp hparses
    exact absurd hversion (by decide)

end NxccBridge.TdxSimulator
