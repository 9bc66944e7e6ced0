import NxccBridge.Attestation.TdxParser

/-!
# What the TDX quote parser accepts

Each reading function returns the value whose bytes stand at the cursor, so the
parsed fields put back in order are the bytes that were read.
-/

namespace NxccBridge.TdxParser

open NxccBridge.Framing
open NxccBridge.LittleEndian
open NxccBridge.Indexing

/-! ## Reading at the cursor -/

section Cursor

variable {data : Bytes} (offset : ℕ)

theorem parseWordLe_ok {W : Type} (word : Word W) (name : String)
    (hdata : data.length < 2 ^ 63)
    (hrange : offset + word.width ≤ data.length) :
    ∃ value, parseWordLe data offset word name =
        .ok (value, offset + word.width) ∧
      At data offset (word.toLeBytes value) := by
  have hadd : usizeAdd offset word.width = .ok (offset + word.width) :=
    usizeAdd_ok (by rw [usizeLimit]; omega)
  refine ⟨word.fromLeBytes (slice data offset (offset + word.width)), ?_, ?_⟩
  · rw [parseWordLe, hadd, Outcome.ok_bind, if_neg (by omega),
      index_ok (by omega) hrange, Outcome.ok_bind, Outcome.ok_bind]
  · have hlength : (slice data offset (offset + word.width)).length =
        word.width := by
      rw [length_slice]
      omega
    rw [word.toLeBytes_fromLeBytes hlength]
    exact at_slice (Nat.le_add_right _ _) hrange

theorem parseU16Le_ok (hdata : data.length < 2 ^ 63)
    (hrange : offset + 2 ≤ data.length) :
    ∃ value, parseU16Le data offset = .ok (value, offset + 2) ∧
      At data offset (u16.toLeBytes value) :=
  parseWordLe_ok offset u16 "u16" hdata hrange

theorem parseU32Le_ok (hdata : data.length < 2 ^ 63)
    (hrange : offset + 4 ≤ data.length) :
    ∃ value, parseU32Le data offset = .ok (value, offset + 4) ∧
      At data offset (u32.toLeBytes value) :=
  parseWordLe_ok offset u32 "u32" hdata hrange

theorem parseU64Le_ok (hdata : data.length < 2 ^ 63)
    (hrange : offset + 8 ≤ data.length) :
    ∃ value, parseU64Le data offset = .ok (value, offset + 8) ∧
      At data offset (u64.toLeBytes value) :=
  parseWordLe_ok offset u64 "u64" hdata hrange

theorem parseBytes_ok (len : ℕ) (hdata : data.length < 2 ^ 63)
    (hrange : offset + len ≤ data.length) :
    ∃ bytes : Octets len,
      parseBytes data offset len = .ok (bytes.val, offset + len) ∧
        At data offset bytes.val := by
  have hadd : usizeAdd offset len = .ok (offset + len) :=
    usizeAdd_ok (by rw [usizeLimit]; omega)
  refine ⟨⟨slice data offset (offset + len), by
    rw [length_slice]
    omega⟩, ?_, at_slice (Nat.le_add_right _ _) hrange⟩
  rw [parseBytes, hadd, Outcome.ok_bind, if_neg (by omega),
    index_ok (by omega) hrange, Outcome.ok_bind, Outcome.ok_bind]

theorem parseArray_ok (len : ℕ) (hdata : data.length < 2 ^ 63)
    (hrange : offset + len ≤ data.length) :
    ∃ array, parseArray data offset len = .ok (array, offset + len) ∧
      At data offset array.val := by
  obtain ⟨bytes, hparse, hat⟩ :=
    parseBytes_ok offset len hdata hrange
  refine ⟨bytes, ?_, hat⟩
  rw [parseArray, hparse]
  simp only [Outcome.ok_bind, intoArray_ok bytes.property]

/-! ## Header and report -/

def TdxQuoteHeader.toBytes (header : TdxQuoteHeader) : Bytes :=
  u16.toLeBytes header.version ++ u16.toLeBytes header.attKeyType ++
    u32.toLeBytes header.teeType ++ u32.toLeBytes header.reserved ++
    header.vendorId.val ++ header.userData.val

def TdReport.toBytes (report : TdReport) : Bytes :=
  report.tcbSvn.val ++ report.mrSeam.val ++ report.mrSignerSeam.val ++
    u64.toLeBytes report.seamAttributes ++
    u64.toLeBytes report.tdAttributes ++ u64.toLeBytes report.xfam ++
    report.mrtd.val ++ report.mrConfigId.val ++ report.mrOwner.val ++
    report.mrOwnerConfig.val ++
    (report.rtmr 0).val ++ (report.rtmr 1).val ++ (report.rtmr 2).val ++
    (report.rtmr 3).val ++ report.reportData.val

@[simp]
theorem TdxQuoteHeader.length_toBytes (header : TdxQuoteHeader) :
    header.toBytes.length = 48 := by
  simp [TdxQuoteHeader.toBytes, u16, u32]

@[simp]
theorem TdReport.length_toBytes (report : TdReport) :
    report.toBytes.length = 584 := by
  simp [TdReport.toBytes, u64]

theorem TdxQuoteHeader.parse_ok (hdata : data.length < 2 ^ 63)
    (hrange : offset + 48 ≤ data.length) :
    ∃ header,
      TdxQuoteHeader.parse data offset = .ok (header, offset + 48) ∧
        At data offset header.toBytes := by
  obtain ⟨version, hversion, hversionAt⟩ :=
    parseU16Le_ok offset hdata (by omega)
  obtain ⟨attKeyType, hattKeyType, hattKeyTypeAt⟩ :=
    parseU16Le_ok (offset + 2) hdata (by omega)
  obtain ⟨teeType, hteeType, hteeTypeAt⟩ :=
    parseU32Le_ok (offset + 4) hdata (by omega)
  obtain ⟨reserved, hreserved, hreservedAt⟩ :=
    parseU32Le_ok (offset + 8) hdata (by omega)
  obtain ⟨vendorId, hvendorId, hvendorIdAt⟩ :=
    parseBytes_ok (offset + 12) 16 hdata (by omega)
  obtain ⟨userData, huserData, huserDataAt⟩ :=
    parseBytes_ok (offset + 28) 20 hdata (by omega)
  refine ⟨⟨version, attKeyType, teeType, reserved, vendorId, userData⟩,
    ?_, ?_⟩
  · have hadd : usizeAdd offset 48 = .ok (offset + 48) :=
      usizeAdd_ok (by rw [usizeLimit]; omega)
    rw [TdxQuoteHeader.parse, hadd, Outcome.ok_bind, if_neg (by omega)]
    simp only [Outcome.ok_bind, Nat.add_assoc, Nat.reduceAdd, hversion,
      hattKeyType, hteeType, hreserved, hvendorId, huserData,
      intoArray_ok vendorId.property, intoArray_ok userData.property]
  · simp only [TdxQuoteHeader.toBytes, at_append_iff, List.length_append,
      Word.length_toLeBytes, length_octets, u16_width, u32_width,
      Nat.reduceAdd]
    exact ⟨⟨⟨⟨⟨hversionAt, hattKeyTypeAt⟩, hteeTypeAt⟩, hreservedAt⟩,
      hvendorIdAt⟩, huserDataAt⟩

theorem TdReport.parse_ok (hdata : data.length < 2 ^ 63)
    (hrange : offset + 584 ≤ data.length) :
    ∃ report,
      TdReport.parse data offset = .ok (report, offset + 584) ∧
        At data offset report.toBytes := by
  obtain ⟨tcbSvn, htcbSvn, htcbSvnAt⟩ :=
    parseArray_ok offset 16 hdata (by omega)
  obtain ⟨mrSeam, hmrSeam, hmrSeamAt⟩ :=
    parseArray_ok (offset + 16) 48 hdata (by omega)
  obtain ⟨mrSignerSeam, hmrSignerSeam, hmrSignerSeamAt⟩ :=
    parseArray_ok (offset + 64) 48 hdata (by omega)
  obtain ⟨seamAttributes, hseamAttributes, hseamAttributesAt⟩ :=
    parseU64Le_ok (offset + 112) hdata (by omega)
  obtain ⟨tdAttributes, htdAttributes, htdAttributesAt⟩ :=
    parseU64Le_ok (offset + 120) hdata (by omega)
  obtain ⟨xfam, hxfam, hxfamAt⟩ :=
    parseU64Le_ok (offset + 128) hdata (by omega)
  obtain ⟨mrtd, hmrtd, hmrtdAt⟩ :=
    parseArray_ok (offset + 136) 48 hdata (by omega)
  obtain ⟨mrConfigId, hmrConfigId, hmrConfigIdAt⟩ :=
    parseArray_ok (offset + 184) 48 hdata (by omega)
  obtain ⟨mrOwner, hmrOwner, hmrOwnerAt⟩ :=
    parseArray_ok (offset + 232) 48 hdata (by omega)
  obtain ⟨mrOwnerConfig, hmrOwnerConfig, hmrOwnerConfigAt⟩ :=
    parseArray_ok (offset + 280) 48 hdata (by omega)
  obtain ⟨rtmr0, hrtmr0, hrtmr0At⟩ :=
    parseArray_ok (offset + 328) 48 hdata (by omega)
  obtain ⟨rtmr1, hrtmr1, hrtmr1At⟩ :=
    parseArray_ok (offset + 376) 48 hdata (by omega)
  obtain ⟨rtmr2, hrtmr2, hrtmr2At⟩ :=
    parseArray_ok (offset + 424) 48 hdata (by omega)
  obtain ⟨rtmr3, hrtmr3, hrtmr3At⟩ :=
    parseArray_ok (offset + 472) 48 hdata (by omega)
  obtain ⟨reportData, hreportData, hreportDataAt⟩ :=
    parseArray_ok (offset + 520) 64 hdata (by omega)
  refine ⟨⟨tcbSvn, mrSeam, mrSignerSeam, seamAttributes, tdAttributes, xfam,
    mrtd, mrConfigId, mrOwner, mrOwnerConfig, ![rtmr0, rtmr1, rtmr2, rtmr3],
    reportData⟩, ?_, ?_⟩
  · have hadd : usizeAdd offset 584 = .ok (offset + 584) :=
      usizeAdd_ok (by rw [usizeLimit]; omega)
    rw [TdReport.parse, hadd, Outcome.ok_bind, if_neg (by omega)]
    simp only [Outcome.ok_bind, Nat.add_assoc, Nat.reduceAdd, htcbSvn,
      hmrSeam, hmrSignerSeam, hseamAttributes, htdAttributes, hxfam, hmrtd,
      hmrConfigId, hmrOwner, hmrOwnerConfig, hrtmr0, hrtmr1, hrtmr2, hrtmr3,
      hreportData]
  · simp only [TdReport.toBytes, at_append_iff, List.length_append,
      Word.length_toLeBytes, length_octets, u64_width, Nat.reduceAdd]
    exact ⟨⟨⟨⟨⟨⟨⟨⟨⟨⟨⟨⟨⟨⟨htcbSvnAt, hmrSeamAt⟩, hmrSignerSeamAt⟩,
      hseamAttributesAt⟩, htdAttributesAt⟩, hxfamAt⟩, hmrtdAt⟩,
      hmrConfigIdAt⟩, hmrOwnerAt⟩, hmrOwnerConfigAt⟩, hrtmr0At⟩, hrtmr1At⟩,
      hrtmr2At⟩, hrtmr3At⟩, hreportDataAt⟩

theorem TdxQuoteHeader.parse_err (hdata : data.length < 2 ^ 63)
    (hoffset : offset ≤ data.length) (hshort : data.length < offset + 48) :
    TdxQuoteHeader.parse data offset =
      .err "Insufficient data for quote header" := by
  have hadd : usizeAdd offset 48 = .ok (offset + 48) :=
    usizeAdd_ok (by rw [usizeLimit]; omega)
  rw [TdxQuoteHeader.parse, hadd, Outcome.ok_bind, if_pos hshort]

theorem TdReport.parse_err (hdata : data.length < 2 ^ 63)
    (hoffset : offset ≤ data.length) (hshort : data.length < offset + 584) :
    TdReport.parse data offset = .err "Insufficient data for TD report" := by
  have hadd : usizeAdd offset 584 = .ok (offset + 584) :=
    usizeAdd_ok (by rw [usizeLimit]; omega)
  rw [TdReport.parse, hadd, Outcome.ok_bind, if_pos hshort]

theorem parseU32Le_err (hdata : data.length < 2 ^ 63)
    (hoffset : offset ≤ data.length) (hshort : data.length < offset + 4) :
    parseU32Le data offset = .err "Insufficient data for u32" := by
  have hadd : usizeAdd offset u32.width = .ok (offset + 4) :=
    usizeAdd_ok (by rw [usizeLimit, u32_width]; omega)
  rw [parseU32Le, parseWordLe, hadd, Outcome.ok_bind, if_pos hshort]
  rfl

end Cursor

/-! ## The signature section -/

/-- The part of a signature section in front of the certificate. -/
def QuoteSignature.bodyBytes (signature : QuoteSignature) : Bytes :=
  signature.ecdsaSignature.val ++ signature.ecdsaPublicKey.val ++
    u16.toLeBytes signature.certDataType ++
    u32.toLeBytes signature.certDataSize ++ signature.qeReport.val ++
    signature.qeSignature.val ++ u16.toLeBytes signature.qeAuthDataSize ++
    signature.qeAuthData

def QuoteSignature.certificateBytes (signature : QuoteSignature) : Bytes :=
  u16.toLeBytes signature.certType ++ u32.toLeBytes signature.certSize ++
    signature.certData

/-- The layout of a signature section: fixed fields and authentication data of
its declared size, then no certificate in fewer than six remaining bytes, or a
certificate of its declared size. -/
def SignatureLayout (sig : Bytes) (signature : QuoteSignature) : Prop :=
  signature.qeAuthData.length = signature.qeAuthDataSize.toNat ∧
    ((signature.bodyBytes <+: sig ∧
        sig.length < signature.bodyBytes.length + 6 ∧
        signature.certType = 0 ∧ signature.certSize = 0 ∧
        signature.certData = []) ∨
      (signature.bodyBytes ++ signature.certificateBytes <+: sig ∧
        signature.certData.length = signature.certSize.toNat))

section Signature

variable {sig : Bytes} {o : ℕ}

/-- A field is read if it fits, and stands at its offset. -/
theorem readField_returns (hsig : sig.length < 2 ^ 63) (ho : o ≤ sig.length)
    {len : ℕ} (hlen : len < 2 ^ 63) :
    (readField sig o len).Returns fun field =>
      field.1.length = len ∧ At sig o field.1 ∧ field.2 = o + len ∧
        o + len ≤ sig.length := by
  have hadd : usizeAdd o len = .ok (o + len) :=
    usizeAdd_ok (by rw [usizeLimit]; omega)
  rw [readField, checkBounds, hadd, Outcome.ok_bind]
  by_cases hshort : sig.length < o + len
  · rw [if_pos hshort]
    exact Outcome.Returns.err
  · rw [if_neg hshort, Outcome.ok_bind, Outcome.ok_bind,
      index_ok (by omega) (by omega), Outcome.ok_bind]
    apply Outcome.Returns.ok
    refine ⟨?_, at_slice (by omega) (by omega), rfl, by omega⟩
    rw [length_slice]
    omega

theorem readField_at (hsig : sig.length < 2 ^ 63) {bytes : Bytes}
    (hat : At sig o bytes) :
    readField sig o bytes.length = .ok (bytes, o + bytes.length) := by
  have hrange := hat.1
  have hadd : usizeAdd o bytes.length = .ok (o + bytes.length) :=
    usizeAdd_ok (by rw [usizeLimit]; omega)
  rw [readField, checkBounds, hadd, Outcome.ok_bind, if_neg (by omega),
    Outcome.ok_bind, Outcome.ok_bind, index_at hat, Outcome.ok_bind]

theorem readArray_returns (hsig : sig.length < 2 ^ 63) (ho : o ≤ sig.length)
    {len : ℕ} (hlen : len < 2 ^ 63) :
    (readArray sig o len).Returns fun array =>
      At sig o array.1.val ∧ array.2 = o + len ∧ o + len ≤ sig.length := by
  apply Outcome.Returns.bind (readField_returns hsig ho hlen)
  rintro ⟨bytes, next⟩ ⟨hlength, hat, hnext, hrange⟩
  simp only [intoArray_ok hlength, Outcome.ok_bind]
  exact Outcome.Returns.ok ⟨hat, hnext, hrange⟩

theorem readArray_at (hsig : sig.length < 2 ^ 63) {len : ℕ}
    {array : Octets len} (hat : At sig o array.val) :
    readArray sig o len = .ok (array, o + len) := by
  have hfield : readField sig o len = .ok (array.val, o + len) := by
    have hread := readField_at hsig hat
    rwa [length_octets] at hread
  rw [readArray, hfield]
  simp only [Outcome.ok_bind, intoArray_ok array.property]

theorem readWord_returns {W : Type} (word : Word W)
    (hwidth : word.width < 2 ^ 63) (hsig : sig.length < 2 ^ 63)
    (ho : o ≤ sig.length) :
    (readWord word sig o).Returns fun value =>
      At sig o (word.toLeBytes value.1) ∧ value.2 = o + word.width ∧
        o + word.width ≤ sig.length := by
  apply Outcome.Returns.bind (readArray_returns hsig ho hwidth)
  rintro ⟨bytes, next⟩ ⟨hat, hnext, hrange⟩
  refine Outcome.Returns.ok ⟨?_, hnext, hrange⟩
  rw [word.toLeBytes_fromLeBytes bytes.property]
  exact hat

theorem readWord_at {W : Type} (word : Word W) (hsig : sig.length < 2 ^ 63)
    {value : W} (hat : At sig o (word.toLeBytes value)) :
    readWord word sig o = .ok (value, o + word.width) := by
  have harray : readArray sig o word.width =
      .ok (⟨word.toLeBytes value, word.length_toLeBytes value⟩,
        o + word.width) := readArray_at hsig hat
  rw [readWord, harray]
  simp only [Outcome.ok_bind, Word.fromLeBytes_toLeBytes]

/-- A certificate behind an offset, or none for lack of its six-byte head. -/
def CertificateLayout (sig : Bytes) (o : ℕ)
    (certificate : UInt16 × UInt32 × Bytes) : Prop :=
  (sig.length < o + 6 ∧ certificate = (0, 0, [])) ∨
    (At sig o (u16.toLeBytes certificate.1 ++
        u32.toLeBytes certificate.2.1 ++ certificate.2.2) ∧
      certificate.2.2.length = certificate.2.1.toNat)

theorem parseCertificate_returns (hsig : sig.length < 2 ^ 63)
    (ho : o ≤ sig.length) :
    (parseCertificate sig o).Returns (CertificateLayout sig o) := by
  have hadd : ∀ start len, start ≤ sig.length → len < 2 ^ 63 →
      usizeAdd start len = .ok (start + len) := by
    intro start len hstart hlen
    exact usizeAdd_ok (by rw [usizeLimit]; omega)
  rw [parseCertificate, hadd o 6 ho (by omega), Outcome.ok_bind]
  by_cases hhead : o + 6 ≤ sig.length
  · have htype : (slice sig o (o + 2)).length = 2 := by
      rw [length_slice]
      omega
    have hsize : (slice sig (o + 2) (o + 6)).length = 4 := by
      rw [length_slice]
      omega
    rw [if_pos hhead, hadd o 2 ho (by omega), Outcome.ok_bind,
      index_ok (by omega) (by omega), Outcome.ok_bind, intoArray_ok htype,
      Outcome.ok_bind, hadd (o + 2) 4 (by omega) (by omega), Outcome.ok_bind,
      index_ok (by omega) (by omega), Outcome.ok_bind, intoArray_ok hsize,
      Outcome.ok_bind]
    have hcertSize := (u32.fromLeBytes (slice sig (o + 2) (o + 6))).toNat_lt
    dsimp only
    apply Outcome.Returns.bind
      (readField_returns hsig (by omega) (by omega))
    rintro ⟨certData, next⟩ ⟨hlength, hat, -, -⟩
    apply Outcome.Returns.ok
    refine Or.inr ⟨?_, hlength⟩
    simp only [at_append_iff, Word.length_toLeBytes, List.length_append,
      u16_width, u32_width, Nat.reduceAdd]
    rw [u16.toLeBytes_fromLeBytes htype, u32.toLeBytes_fromLeBytes hsize]
    exact ⟨⟨at_slice (by omega) (by omega), at_slice (by omega) (by omega)⟩,
      hat⟩
  · rw [if_neg hhead]
    exact Outcome.Returns.ok (Or.inl ⟨by omega, rfl⟩)

theorem parseCertificate_at (hsig : sig.length < 2 ^ 63)
    (ho : o ≤ sig.length) {certificate : UInt16 × UInt32 × Bytes}
    (hlayout : CertificateLayout sig o certificate) :
    parseCertificate sig o = .ok certificate := by
  obtain ⟨certType, certSize, certData⟩ := certificate
  have hadd : ∀ start len, start ≤ sig.length → len < 2 ^ 63 →
      usizeAdd start len = .ok (start + len) := by
    intro start len hstart hlen
    exact usizeAdd_ok (by rw [usizeLimit]; omega)
  rw [parseCertificate, hadd o 6 ho (by omega), Outcome.ok_bind]
  rcases hlayout with ⟨hshort, hnone⟩ | ⟨hat, hlength⟩
  · rw [if_neg (by omega), hnone]
  · simp only [at_append_iff, Word.length_toLeBytes, List.length_append,
      u16_width, u32_width, Nat.reduceAdd] at hat hlength
    obtain ⟨⟨htypeAt, hsizeAt⟩, hdataAt⟩ := hat
    have hrange := hdataAt.1
    have htype : index sig o (o + 2) = .ok (u16.toLeBytes certType) := by
      simpa using index_at htypeAt
    have hsize : index sig (o + 2) (o + 2 + 4) =
        .ok (u32.toLeBytes certSize) := by
      simpa using index_at hsizeAt
    have hdata : readField sig (o + 2 + 4) certSize.toNat =
        .ok (certData, o + 2 + 4 + certSize.toNat) := by
      rw [← hlength]
      exact readField_at hsig hdataAt
    rw [if_pos (by omega), hadd o 2 ho (by omega), Outcome.ok_bind, htype,
      Outcome.ok_bind, intoArray_ok (by simp), Outcome.ok_bind,
      hadd (o + 2) 4 (by omega) (by omega), Outcome.ok_bind, hsize,
      Outcome.ok_bind, intoArray_ok (by simp), Outcome.ok_bind]
    simp only [Word.fromLeBytes_toLeBytes, hdata, Outcome.ok_bind]

/-- The fields of a body stand one after another. -/
theorem at_bodyBytes_iff {signature : QuoteSignature} :
    At sig 0 signature.bodyBytes ↔
      At sig 0 signature.ecdsaSignature.val ∧
        At sig 64 signature.ecdsaPublicKey.val ∧
        At sig 128 (u16.toLeBytes signature.certDataType) ∧
        At sig 130 (u32.toLeBytes signature.certDataSize) ∧
        At sig 134 signature.qeReport.val ∧
        At sig 518 signature.qeSignature.val ∧
        At sig 582 (u16.toLeBytes signature.qeAuthDataSize) ∧
        At sig 584 signature.qeAuthData := by
  simp only [QuoteSignature.bodyBytes, at_append_iff, List.length_append,
    Word.length_toLeBytes, length_octets, u16_width, u32_width,
    Nat.reduceAdd, Nat.zero_add, and_assoc]

theorem length_bodyBytes (signature : QuoteSignature) :
    signature.bodyBytes.length = 584 + signature.qeAuthData.length := by
  simp only [QuoteSignature.bodyBytes, List.length_append,
    Word.length_toLeBytes, length_octets, u16_width, u32_width,
    Nat.reduceAdd]

theorem signatureLayout_iff {signature : QuoteSignature} :
    SignatureLayout sig signature ↔
      signature.qeAuthData.length = signature.qeAuthDataSize.toNat ∧
        At sig 0 signature.bodyBytes ∧
        CertificateLayout sig (584 + signature.qeAuthDataSize.toNat)
          (signature.certType, signature.certSize, signature.certData) := by
  rw [SignatureLayout]
  refine and_congr_right fun hauth => ?_
  have hlength := length_bodyBytes signature
  simp only [CertificateLayout, ← at_zero_iff, at_append_iff,
    QuoteSignature.certificateBytes, Prod.mk.injEq, Nat.zero_add, hlength,
    hauth]
  tauto

theorem QuoteSignature.parse_returns (hsig : sig.length < 2 ^ 63) :
    (QuoteSignature.parse sig).Returns (SignatureLayout sig) := by
  have hbound : ∀ len, len ≤ 2 ^ 32 → len < 2 ^ 63 := by
    intro len hlen
    omega
  apply Outcome.Returns.bind
    (readArray_returns hsig (Nat.zero_le _) (by omega))
  rintro ⟨ecdsaSignature, _⟩ ⟨hecdsaSignature, rfl, hrange⟩
  dsimp only at hrange ⊢
  apply Outcome.Returns.bind (readArray_returns hsig hrange (by omega))
  rintro ⟨ecdsaPublicKey, _⟩ ⟨hecdsaPublicKey, rfl, hrange⟩
  dsimp only at hrange ⊢
  apply Outcome.Returns.bind (readWord_returns u16 (by simp) hsig hrange)
  rintro ⟨certDataType, _⟩ ⟨hcertDataType, rfl, hrange⟩
  dsimp only at hrange ⊢
  apply Outcome.Returns.bind (readWord_returns u32 (by simp) hsig hrange)
  rintro ⟨certDataSize, _⟩ ⟨hcertDataSize, rfl, hrange⟩
  dsimp only at hrange ⊢
  apply Outcome.Returns.bind (readArray_returns hsig hrange (by omega))
  rintro ⟨qeReport, _⟩ ⟨hqeReport, rfl, hrange⟩
  dsimp only at hrange ⊢
  apply Outcome.Returns.bind (readArray_returns hsig hrange (by omega))
  rintro ⟨qeSignature, _⟩ ⟨hqeSignature, rfl, hrange⟩
  dsimp only at hrange ⊢
  apply Outcome.Returns.bind (readWord_returns u16 (by simp) hsig hrange)
  rintro ⟨qeAuthDataSize, _⟩ ⟨hqeAuthDataSize, rfl, hrange⟩
  dsimp only at hrange ⊢
  have hsize := qeAuthDataSize.toNat_lt
  apply Outcome.Returns.bind (readField_returns hsig hrange (by omega))
  rintro ⟨qeAuthData, _⟩ ⟨hauth, hqeAuthData, rfl, hrange⟩
  dsimp only at hauth hrange ⊢
  apply Outcome.Returns.bind (parseCertificate_returns hsig hrange)
  rintro ⟨certType, certSize, certData⟩ hcertificate
  simp only [u16_width, u32_width, Nat.zero_add, Nat.reduceAdd] at *
  apply Outcome.Returns.ok
  rw [signatureLayout_iff, at_bodyBytes_iff]
  exact ⟨hauth, ⟨hecdsaSignature, hecdsaPublicKey, hcertDataType,
    hcertDataSize, hqeReport, hqeSignature, hqeAuthDataSize, hqeAuthData⟩,
    hcertificate⟩

/-- A signature section is parsed exactly if it has the layout. -/
theorem QuoteSignature.parse_eq_ok_iff (hsig : sig.length < 2 ^ 63)
    {signature : QuoteSignature} :
    QuoteSignature.parse sig = .ok signature ↔
      SignatureLayout sig signature := by
  constructor
  · exact (QuoteSignature.parse_returns hsig).of_ok
  · intro hlayout
    obtain ⟨hauth, hbody, hcertificate⟩ := signatureLayout_iff.mp hlayout
    obtain ⟨hecdsaSignature, hecdsaPublicKey, hcertDataType, hcertDataSize,
      hqeReport, hqeSignature, hqeAuthDataSize, hqeAuthData⟩ :=
        at_bodyBytes_iff.mp hbody
    have hrange := hqeAuthData.1
    have hfield := readField_at hsig hqeAuthData
    rw [hauth] at hfield hrange
    rw [QuoteSignature.parse]
    simp only [readArray_at hsig hecdsaSignature, Outcome.ok_bind,
      Nat.zero_add, readArray_at hsig hecdsaPublicKey, Nat.reduceAdd,
      readWord_at u16 hsig hcertDataType, u16_width,
      readWord_at u32 hsig hcertDataSize, u32_width,
      readArray_at hsig hqeReport, readArray_at hsig hqeSignature,
      readWord_at u16 hsig hqeAuthDataSize, hfield,
      parseCertificate_at hsig hrange hcertificate]

/-- The signature structure is present exactly if the data has its layout. -/
theorem parseSignature_ok (hsig : sig.length < 2 ^ 63) :
    ∃ signature?, parseSignature sig = .ok signature? ∧ ∀ signature,
      signature? = some signature ↔ SignatureLayout sig signature := by
  have hreturns := QuoteSignature.parse_returns hsig
  have hiff : ∀ signature, QuoteSignature.parse sig = .ok signature ↔
      SignatureLayout sig signature := by
    intro signature
    exact QuoteSignature.parse_eq_ok_iff hsig
  rw [parseSignature]
  by_cases hlong : 134 ≤ sig.length
  · rw [if_pos hlong]
    cases hparse : QuoteSignature.parse sig with
    | ok parsed =>
        refine ⟨some parsed, rfl, ?_⟩
        intro signature
        rw [← hiff, hparse, Option.some.injEq, Outcome.ok.injEq]
    | err message =>
        refine ⟨none, rfl, ?_⟩
        intro signature
        rw [← hiff, hparse]
        simp
    | panic => exact absurd hparse hreturns.ne_panic
  · rw [if_neg hlong]
    refine ⟨none, rfl, ?_⟩
    intro signature
    simp only [reduceCtorEq, false_iff]
    intro hlayout
    have hrange := (signatureLayout_iff.mp hlayout).2.1.1
    rw [length_bodyBytes] at hrange
    omega

end Signature

/-! ## The quote -/

section Quote

/-- The parsed parts of a quote put back in order. -/
def TdxQuote.toBytes (quote : TdxQuote) : Bytes :=
  quote.header.toBytes ++ quote.tdReport.toBytes ++
    u32.toLeBytes quote.signatureLen ++ quote.rawSignatureData

def versionField (b : Bytes) : UInt16 := u16.fromLeBytes (slice b 0 2)

def teeTypeField (b : Bytes) : UInt32 := u32.fromLeBytes (slice b 4 8)

/-- The little-endian `u32` at offset 632. -/
def signatureLength (b : Bytes) : ℕ :=
  (u32.fromLeBytes (slice b 632 636)).toNat

variable {b : Bytes}

theorem word_at {W : Type} (word : Word W) {offset : ℕ} {value : W}
    (hat : At b offset (word.toLeBytes value)) :
    word.fromLeBytes (slice b offset (offset + word.width)) = value := by
  have hslice := hat.2
  rw [word.length_toLeBytes] at hslice
  rw [hslice, word.fromLeBytes_toLeBytes]

theorem header_fields {header : TdxQuoteHeader}
    (hat : At b 0 header.toBytes) :
    header.version = versionField b ∧ header.teeType = teeTypeField b := by
  simp only [TdxQuoteHeader.toBytes, at_append_iff, List.length_append,
    Word.length_toLeBytes, u16_width, u32_width, Nat.zero_add,
    Nat.reduceAdd] at hat
  obtain ⟨⟨⟨⟨⟨hversion, -⟩, hteeType⟩, -⟩, -⟩, -⟩ := hat
  exact ⟨(word_at u16 hversion).symm, (word_at u32 hteeType).symm⟩

theorem validate_returns (header : TdxQuoteHeader) :
    header.validate.Returns fun _ =>
      header.version = quoteVersion4 ∧ header.teeType = teeTypeTdx := by
  rw [TdxQuoteHeader.validate]
  by_cases hversion : header.version = quoteVersion4
  · by_cases hteeType : header.teeType = teeTypeTdx
    · rw [if_neg (not_not.mpr hversion), if_neg (not_not.mpr hteeType)]
      exact Outcome.Returns.ok ⟨hversion, hteeType⟩
    · rw [if_neg (not_not.mpr hversion), if_pos hteeType]
      exact Outcome.Returns.err
  · rw [if_pos hversion]
    exact Outcome.Returns.err

theorem validate_ok {header : TdxQuoteHeader}
    (hversion : header.version = quoteVersion4)
    (hteeType : header.teeType = teeTypeTdx) : header.validate = .ok () := by
  rw [TdxQuoteHeader.validate, if_neg (not_not.mpr hversion),
    if_neg (not_not.mpr hteeType)]

/-- What a parsed quote says about the bytes it was parsed from. -/
structure QuoteOf (b : Bytes) (quote : TdxQuote) : Prop where
  version : versionField b = quoteVersion4
  teeType : teeTypeField b = teeTypeTdx
  signatureLen : quote.signatureLen.toNat = signatureLength b
  rawLength : quote.rawSignatureData.length = signatureLength b
  bytes : At b 0 quote.toBytes
  signature : ∀ signature, quote.signature = some signature ↔
    SignatureLayout quote.rawSignatureData signature

theorem TdxQuote.parse_returns (hb : b.length < 2 ^ 63) :
    (TdxQuote.parse b).Returns (QuoteOf b) := by
  rw [TdxQuote.parse]
  by_cases hheaderRange : 0 + 48 ≤ b.length
  swap
  · rw [TdxQuoteHeader.parse_err 0 hb (Nat.zero_le _) (by omega)]
    exact Outcome.Returns.err
  obtain ⟨header, hheader, hheaderAt⟩ :=
    TdxQuoteHeader.parse_ok 0 hb hheaderRange
  simp only [hheader, Outcome.ok_bind]
  apply Outcome.Returns.bind (validate_returns header)
  rintro - ⟨hversion, hteeType⟩
  by_cases hreportRange : 0 + 48 + 584 ≤ b.length
  swap
  · rw [TdReport.parse_err (0 + 48) hb hheaderRange (by omega)]
    exact Outcome.Returns.err
  obtain ⟨report, hreport, hreportAt⟩ :=
    TdReport.parse_ok (0 + 48) hb hreportRange
  simp only [hreport, Outcome.ok_bind]
  by_cases hlengthRange : 0 + 48 + 584 + 4 ≤ b.length
  swap
  · rw [parseU32Le_err (0 + 48 + 584) hb hreportRange (by omega)]
    exact Outcome.Returns.err
  obtain ⟨signatureLen, hsignatureLen, hsignatureLenAt⟩ :=
    parseU32Le_ok (0 + 48 + 584) hb hlengthRange
  have hsize := signatureLen.toNat_lt
  simp only [hsignatureLen, Outcome.ok_bind, Nat.reduceAdd] at *
  rw [usizeAdd_ok (by rw [usizeLimit]; omega), Outcome.ok_bind]
  by_cases hshort : b.length < 636 + signatureLen.toNat
  · rw [if_pos hshort, usizeSub_ok hlengthRange, Outcome.ok_bind]
    exact Outcome.Returns.err
  have hfits : 636 + signatureLen.toNat ≤ b.length := not_lt.mp hshort
  have hraw := at_slice (Nat.le_add_right 636 signatureLen.toNat) hfits
  rw [if_neg hshort, index_ok (Nat.le_add_right _ _) hfits, Outcome.ok_bind]
  have hrawLength : (slice b 636 (636 + signatureLen.toNat)).length =
      signatureLen.toNat := by
    rw [length_slice]
    omega
  obtain ⟨signature?, hparse, hsignature⟩ :=
    parseSignature_ok (hrawLength ▸ lt_of_lt_of_le hsize (by norm_num))
  rw [hparse, Outcome.ok_bind]
  apply Outcome.Returns.ok
  obtain ⟨hversionField, hteeTypeField⟩ := header_fields hheaderAt
  have hlengthField : signatureLen.toNat = signatureLength b :=
    congrArg UInt32.toNat (word_at u32 hsignatureLenAt).symm
  constructor
  · exact hversionField ▸ hversion
  · exact hteeTypeField ▸ hteeType
  · exact hlengthField
  · exact hrawLength.trans hlengthField
  · simp only [TdxQuote.toBytes, at_append_iff, List.length_append,
      TdxQuoteHeader.length_toBytes, TdReport.length_toBytes,
      Word.length_toLeBytes, u32_width, Nat.zero_add, Nat.reduceAdd]
    exact ⟨⟨⟨hheaderAt, hreportAt⟩, hsignatureLenAt⟩, hraw⟩
  · exact hsignature

theorem TdxQuote.parse_ok (hb : b.length < 2 ^ 63)
    (hrange : 636 + signatureLength b ≤ b.length)
    (hversion : versionField b = quoteVersion4)
    (hteeType : teeTypeField b = teeTypeTdx) :
    ∃ quote, TdxQuote.parse b = .ok quote := by
  obtain ⟨header, hheader, hheaderAt⟩ :=
    TdxQuoteHeader.parse_ok 0 hb (by omega)
  obtain ⟨report, hreport, hreportAt⟩ :=
    TdReport.parse_ok (0 + 48) hb (by omega)
  obtain ⟨signatureLen, hsignatureLen, hsignatureLenAt⟩ :=
    parseU32Le_ok (0 + 48 + 584) hb (by omega)
  obtain ⟨hversionField, hteeTypeField⟩ := header_fields hheaderAt
  have hlengthField : signatureLen.toNat = signatureLength b :=
    congrArg UInt32.toNat (word_at u32 hsignatureLenAt).symm
  have hvalidate : header.validate = .ok () :=
    validate_ok (hversionField.trans hversion) (hteeTypeField.trans hteeType)
  have hadd : usizeAdd (0 + 48 + 584 + 4) signatureLen.toNat =
      .ok (636 + signatureLen.toNat) :=
    usizeAdd_ok (by rw [usizeLimit]; omega)
  have hrawLength : (slice b (0 + 48 + 584 + 4)
      (636 + signatureLen.toNat)).length < 2 ^ 63 := by
    rw [length_slice]
    omega
  obtain ⟨signature?, hparse, -⟩ := parseSignature_ok hrawLength
  rw [TdxQuote.parse]
  simp only [hheader, Outcome.ok_bind, hvalidate, hreport, hsignatureLen,
    hadd]
  rw [if_neg (by omega), index_ok (by omega) (by omega), Outcome.ok_bind,
    hparse, Outcome.ok_bind]
  exact ⟨_, rfl⟩

theorem word_at_unique {W : Type} (word : Word W) {data : Bytes} {offset : ℕ}
    {left right : W} (hleft : At data offset (word.toLeBytes left))
    (hright : At data offset (word.toLeBytes right)) : left = right :=
  word.toLeBytes_injective (at_unique hleft hright (by simp))

theorem TdxQuoteHeader.at_unique {data : Bytes} {offset : ℕ}
    {left right : TdxQuoteHeader} (hleft : At data offset left.toBytes)
    (hright : At data offset right.toBytes) : left = right := by
  simp only [TdxQuoteHeader.toBytes, at_append_iff, List.length_append,
    Word.length_toLeBytes, length_octets, u16_width, u32_width,
    Nat.reduceAdd] at hleft hright
  obtain ⟨⟨⟨⟨⟨hversion, hattKeyType⟩, hteeType⟩, hreserved⟩, hvendorId⟩,
    huserData⟩ := hleft
  obtain ⟨⟨⟨⟨⟨hversion', hattKeyType'⟩, hteeType'⟩, hreserved'⟩,
    hvendorId'⟩, huserData'⟩ := hright
  cases left
  cases right
  simp only [TdxQuoteHeader.mk.injEq]
  exact ⟨word_at_unique u16 hversion hversion',
    word_at_unique u16 hattKeyType hattKeyType',
    word_at_unique u32 hteeType hteeType',
    word_at_unique u32 hreserved hreserved',
    octets_at_unique hvendorId hvendorId',
    octets_at_unique huserData huserData'⟩

/-- The bytes at an offset are those of one report. -/
theorem TdReport.at_unique {data : Bytes} {offset : ℕ} {left right : TdReport}
    (hleft : At data offset left.toBytes)
    (hright : At data offset right.toBytes) : left = right := by
  simp only [TdReport.toBytes, at_append_iff, List.length_append,
    Word.length_toLeBytes, length_octets, u64_width, Nat.reduceAdd]
    at hleft hright
  obtain ⟨⟨⟨⟨⟨⟨⟨⟨⟨⟨⟨⟨⟨⟨htcbSvn, hmrSeam⟩, hmrSignerSeam⟩,
    hseamAttributes⟩, htdAttributes⟩, hxfam⟩, hmrtd⟩, hmrConfigId⟩,
    hmrOwner⟩, hmrOwnerConfig⟩, hrtmr0⟩, hrtmr1⟩, hrtmr2⟩, hrtmr3⟩,
    hreportData⟩ := hleft
  obtain ⟨⟨⟨⟨⟨⟨⟨⟨⟨⟨⟨⟨⟨⟨htcbSvn', hmrSeam'⟩, hmrSignerSeam'⟩,
    hseamAttributes'⟩, htdAttributes'⟩, hxfam'⟩, hmrtd'⟩, hmrConfigId'⟩,
    hmrOwner'⟩, hmrOwnerConfig'⟩, hrtmr0'⟩, hrtmr1'⟩, hrtmr2'⟩, hrtmr3'⟩,
    hreportData'⟩ := hright
  have hrtmr : left.rtmr = right.rtmr := by
    funext register
    fin_cases register
    · exact octets_at_unique hrtmr0 hrtmr0'
    · exact octets_at_unique hrtmr1 hrtmr1'
    · exact octets_at_unique hrtmr2 hrtmr2'
    · exact octets_at_unique hrtmr3 hrtmr3'
  cases left
  cases right
  simp only [TdReport.mk.injEq]
  exact ⟨octets_at_unique htcbSvn htcbSvn', octets_at_unique hmrSeam hmrSeam',
    octets_at_unique hmrSignerSeam hmrSignerSeam',
    word_at_unique u64 hseamAttributes hseamAttributes',
    word_at_unique u64 htdAttributes htdAttributes',
    word_at_unique u64 hxfam hxfam', octets_at_unique hmrtd hmrtd',
    octets_at_unique hmrConfigId hmrConfigId',
    octets_at_unique hmrOwner hmrOwner',
    octets_at_unique hmrOwnerConfig hmrOwnerConfig', hrtmr,
    octets_at_unique hreportData hreportData'⟩

theorem TdxQuote.at_toBytes_iff {data : Bytes} {quote : TdxQuote} :
    At data 0 quote.toBytes ↔
      At data 0 quote.header.toBytes ∧ At data 48 quote.tdReport.toBytes ∧
        At data 632 (u32.toLeBytes quote.signatureLen) ∧
        At data 636 quote.rawSignatureData := by
  simp only [TdxQuote.toBytes, at_append_iff, List.length_append,
    TdxQuoteHeader.length_toBytes, TdReport.length_toBytes,
    Word.length_toLeBytes, u32_width, Nat.zero_add, Nat.reduceAdd, and_assoc]

/-- A quote of the version and type of the parser is read back from its
bytes. -/
theorem TdxQuote.parse_toBytes {quote : TdxQuote}
    (hlength : quote.toBytes.length < 2 ^ 63)
    (hversion : quote.header.version = quoteVersion4)
    (hteeType : quote.header.teeType = teeTypeTdx)
    (hsignature :
      quote.signatureLen.toNat = quote.rawSignatureData.length) :
    ∃ signature?, TdxQuote.parse quote.toBytes =
      .ok { quote with signature := signature? } := by
  have hself : At quote.toBytes 0 quote.toBytes :=
    at_zero_iff.mpr List.prefix_rfl
  obtain ⟨hheader, hreport, hlen, hraw⟩ := at_toBytes_iff.mp hself
  obtain ⟨hversionField, hteeTypeField⟩ := header_fields hheader
  have hlengthField : signatureLength quote.toBytes =
      quote.rawSignatureData.length := by
    rw [← hsignature]
    exact congrArg UInt32.toNat (word_at u32 hlen)
  obtain ⟨parsed, hparsed⟩ := TdxQuote.parse_ok hlength
    (hlengthField ▸ hraw.1) (hversionField.symm.trans hversion)
    (hteeTypeField.symm.trans hteeType)
  have hof := (TdxQuote.parse_returns hlength).of_ok hparsed
  obtain ⟨hheader', hreport', hlen', hraw'⟩ := at_toBytes_iff.mp hof.bytes
  refine ⟨parsed.signature, hparsed.trans (congrArg Outcome.ok ?_)⟩
  have hsame := Indexing.at_unique hraw' hraw (hof.rawLength.trans hlengthField)
  calc parsed =
        ⟨parsed.header, parsed.tdReport, parsed.signatureLen,
          parsed.signature, parsed.rawSignatureData⟩ := rfl
    _ = { quote with signature := parsed.signature } := by
        rw [TdxQuoteHeader.at_unique hheader' hheader,
          TdReport.at_unique hreport' hreport,
          word_at_unique u32 hlen' hlen, hsame]

/-- The parser never panics, accepts exactly the quotes of its version and type
whose signature is complete, and keeps every byte of them. -/
theorem TdxQuote.parse_grammar (b : Bytes) (hb : b.length < 2 ^ 63) :
    TdxQuote.parse b ≠ .panic ∧
    ((∃ quote, TdxQuote.parse b = .ok quote) ↔
      636 ≤ b.length ∧ versionField b = 4 ∧ teeTypeField b = 0x81 ∧
        636 + signatureLength b ≤ b.length) ∧
    ∀ quote, TdxQuote.parse b = .ok quote →
      quote.header.toBytes ++ quote.tdReport.toBytes ++
          u32.toLeBytes quote.signatureLen ++ quote.rawSignatureData =
        b.take (636 + signatureLength b) ∧
      quote.signatureLen.toNat = signatureLength b ∧
      (quote.signature.isSome = true ↔
        ∃ signature, SignatureLayout quote.rawSignatureData signature) ∧
      ∀ signature, quote.signature = some signature →
        SignatureLayout quote.rawSignatureData signature := by
  have hreturns := TdxQuote.parse_returns hb
  refine ⟨hreturns.ne_panic, ⟨?_, ?_⟩, ?_⟩
  · rintro ⟨quote, hquote⟩
    have hof := hreturns.of_ok hquote
    have hrange := hof.bytes.1
    simp only [TdxQuote.toBytes, List.length_append,
      TdxQuoteHeader.length_toBytes, TdReport.length_toBytes,
      Word.length_toLeBytes, u32_width, hof.rawLength] at hrange
    exact ⟨by omega, hof.version, hof.teeType, by omega⟩
  · rintro ⟨-, hversion, hteeType, hrange⟩
    exact TdxQuote.parse_ok hb hrange hversion hteeType
  · intro quote hquote
    have hof := hreturns.of_ok hquote
    refine ⟨?_, hof.signatureLen, ?_, fun signature =>
      (hof.signature signature).mp⟩
    · have htake := List.prefix_iff_eq_take.mp (at_zero_iff.mp hof.bytes)
      simp only [TdxQuote.toBytes, List.length_append,
        TdxQuoteHeader.length_toBytes, TdReport.length_toBytes,
        Word.length_toLeBytes, u32_width, hof.rawLength] at htake
      exact htake
    · simp only [Option.isSome_iff_exists, hof.signature]

/-- A signature section: two bytes of authentication data, and a certificate of
three bytes. -/
def sampleSignature : QuoteSignature where
  ecdsaSignature := ⟨List.replicate 64 1, List.length_replicate⟩
  ecdsaPublicKey := ⟨List.replicate 64 2, List.length_replicate⟩
  certDataType := 6
  certDataSize := 461
  qeReport := ⟨List.replicate 384 3, List.length_replicate⟩
  qeSignature := ⟨List.replicate 64 4, List.length_replicate⟩
  qeAuthDataSize := 2
  qeAuthData := [7, 8]
  certType := 5
  certSize := 3
  certData := [9, 10, 11]

def sampleSignatureBytes : Bytes :=
  sampleSignature.bodyBytes ++ sampleSignature.certificateBytes

/-- Version, key type and TEE type, then zeros up to the signature. -/
def sampleQuoteBytes : Bytes :=
  [4, 0, 2, 0, 0x81, 0, 0, 0] ++ List.replicate 624 0 ++ u32.toLeBytes 595 ++
    sampleSignatureBytes

theorem TdxQuote.parse_sampleQuoteBytes :
    sampleQuoteBytes.length < 2 ^ 63 ∧
      ∃ quote, TdxQuote.parse sampleQuoteBytes = .ok quote ∧
        quote.toBytes = sampleQuoteBytes ∧
        quote.signature.isSome = true := by
  have hlength : sampleQuoteBytes.length < 2 ^ 63 := by decide +kernel
  obtain ⟨-, hok, hbytes⟩ := TdxQuote.parse_grammar sampleQuoteBytes hlength
  obtain ⟨quote, hquote⟩ := hok.mpr (by decide +kernel)
  obtain ⟨htake, -, hsome, -⟩ := hbytes quote hquote
  have hwhole : sampleQuoteBytes.take (636 + signatureLength sampleQuoteBytes) =
      sampleQuoteBytes := by
    decide +kernel
  rw [hwhole] at htake
  refine ⟨hlength, quote, hquote, htake, hsome.mpr ⟨sampleSignature, ?_⟩⟩
  have hraw : quote.rawSignatureData = sampleSignatureBytes := by
    have hdrop := congrArg (List.drop 636) htake
    rw [List.drop_left' (by simp [TdxQuoteHeader.length_toBytes,
      TdReport.length_toBytes])] at hdrop
    rw [hdrop]
    decide +kernel
  rw [hraw]
  exact ⟨rfl, Or.inr ⟨List.prefix_rfl, rfl⟩⟩

end Quote

end NxccBridge.TdxParser
