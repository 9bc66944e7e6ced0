import NxccBridge.Core.Indexing
import NxccBridge.Core.LittleEndian

/-!
# The TDX quote parser

`node/attestation/src/tdx/parser.rs` reads a quote field by field, with an
offset cursor for the header and the TD report and with explicit bounds checks
for the signature section.  Every index and every addition on offsets is one
that could panic.
-/

namespace NxccBridge.TdxParser

open NxccBridge.Framing
open NxccBridge.LittleEndian
open NxccBridge.Indexing

def teeTypeTdx : UInt32 := 0x81
def quoteVersion4 : UInt16 := 4

/-- TDX quote header, 48 bytes. -/
structure TdxQuoteHeader where
  version : UInt16
  attKeyType : UInt16
  teeType : UInt32
  reserved : UInt32
  vendorId : Octets 16
  userData : Octets 20
  deriving DecidableEq

/-- TD report, 584 bytes. -/
structure TdReport where
  tcbSvn : Octets 16
  mrSeam : Octets 48
  mrSignerSeam : Octets 48
  seamAttributes : UInt64
  tdAttributes : UInt64
  xfam : UInt64
  mrtd : Octets 48
  mrConfigId : Octets 48
  mrOwner : Octets 48
  mrOwnerConfig : Octets 48
  rtmr : Fin 4 → Octets 48
  reportData : Octets 64
  deriving DecidableEq

structure QuoteSignature where
  ecdsaSignature : Octets 64
  ecdsaPublicKey : Octets 64
  certDataType : UInt16
  certDataSize : UInt32
  qeReport : Octets 384
  qeSignature : Octets 64
  qeAuthDataSize : UInt16
  qeAuthData : Bytes
  certType : UInt16
  certSize : UInt32
  certData : Bytes
  deriving DecidableEq

structure TdxQuote where
  header : TdxQuoteHeader
  tdReport : TdReport
  signatureLen : UInt32
  signature : Option QuoteSignature
  rawSignatureData : Bytes
  deriving DecidableEq

/-! ## Parsing functions -/

section Cursor

variable (data : Bytes) (offset : ℕ)

/-- Reads a word at the cursor and moves it. -/
def parseWordLe {W : Type} (word : Word W) (name : String) :
    Outcome (W × ℕ) := do
  let stop ← usizeAdd offset word.width
  if data.length < stop then .err ("Insufficient data for " ++ name)
  else do
    let bytes ← index data offset stop
    let next ← usizeAdd offset word.width
    .ok (word.fromLeBytes bytes, next)

def parseU16Le : Outcome (UInt16 × ℕ) := parseWordLe data offset u16 "u16"
def parseU32Le : Outcome (UInt32 × ℕ) := parseWordLe data offset u32 "u32"
def parseU64Le : Outcome (UInt64 × ℕ) := parseWordLe data offset u64 "u64"

def parseBytes (len : ℕ) : Outcome (Bytes × ℕ) := do
  let stop ← usizeAdd offset len
  if data.length < stop then
    .err ("Insufficient data for " ++ toString len ++ " bytes")
  else do
    let bytes ← index data offset stop
    let next ← usizeAdd offset len
    .ok (bytes, next)

def TdxQuoteHeader.parse : Outcome (TdxQuoteHeader × ℕ) := do
  let stop ← usizeAdd offset 48
  if data.length < stop then .err "Insufficient data for quote header"
  else do
    let (version, offset) ← parseU16Le data offset
    let (attKeyType, offset) ← parseU16Le data offset
    let (teeType, offset) ← parseU32Le data offset
    let (reserved, offset) ← parseU32Le data offset
    let (vendorId, offset) ← parseBytes data offset 16
    let (userData, offset) ← parseBytes data offset 20
    let vendorId ← intoArray 16 vendorId
    let userData ← intoArray 20 userData
    .ok ({ version, attKeyType, teeType, reserved, vendorId, userData },
      offset)

def TdxQuoteHeader.validate (header : TdxQuoteHeader) : Outcome Unit :=
  if header.version ≠ quoteVersion4 then
    .err ("Unsupported quote version: " ++ toString header.version)
  else if header.teeType ≠ teeTypeTdx then
    .err ("Invalid TEE type: expected TDX (0x81), got 0x" ++
      String.ofList (Nat.toDigits 16 header.teeType.toNat))
  else .ok ()

/-- `parse_bytes(..)?.try_into().unwrap()`. -/
def parseArray (len : ℕ) : Outcome (Octets len × ℕ) := do
  let (bytes, offset) ← parseBytes data offset len
  let array ← intoArray len bytes
  .ok (array, offset)

def TdReport.parse : Outcome (TdReport × ℕ) := do
  let stop ← usizeAdd offset 584
  if data.length < stop then .err "Insufficient data for TD report"
  else do
    let (tcbSvn, offset) ← parseArray data offset 16
    let (mrSeam, offset) ← parseArray data offset 48
    let (mrSignerSeam, offset) ← parseArray data offset 48
    let (seamAttributes, offset) ← parseU64Le data offset
    let (tdAttributes, offset) ← parseU64Le data offset
    let (xfam, offset) ← parseU64Le data offset
    let (mrtd, offset) ← parseArray data offset 48
    let (mrConfigId, offset) ← parseArray data offset 48
    let (mrOwner, offset) ← parseArray data offset 48
    let (mrOwnerConfig, offset) ← parseArray data offset 48
    let (rtmr0, offset) ← parseArray data offset 48
    let (rtmr1, offset) ← parseArray data offset 48
    let (rtmr2, offset) ← parseArray data offset 48
    let (rtmr3, offset) ← parseArray data offset 48
    let (reportData, offset) ← parseArray data offset 64
    .ok ({ tcbSvn, mrSeam, mrSignerSeam, seamAttributes, tdAttributes, xfam,
           mrtd, mrConfigId, mrOwner, mrOwnerConfig,
           rtmr := ![rtmr0, rtmr1, rtmr2, rtmr3], reportData }, offset)

end Cursor

/-! ## The signature section -/

def checkBounds (sig : Bytes) (offset len : ℕ) : Outcome Unit := do
  let stop ← usizeAdd offset len
  if sig.length < stop then .err "Signature section truncated" else .ok ()

/-- `sig[o..o + len]` after its bounds check, and the next offset. -/
def readField (sig : Bytes) (o len : ℕ) : Outcome (Bytes × ℕ) := do
  checkBounds sig o len
  let stop ← usizeAdd o len
  let bytes ← index sig o stop
  .ok (bytes, stop)

def readArray (sig : Bytes) (o len : ℕ) : Outcome (Octets len × ℕ) := do
  let (bytes, o) ← readField sig o len
  let array ← intoArray len bytes
  .ok (array, o)

/-- A word of a section, from the array of its bytes. -/
def readWord {W : Type} (word : Word W) (sig : Bytes) (o : ℕ) :
    Outcome (W × ℕ) := do
  let (bytes, o) ← readArray sig o word.width
  .ok (word.fromLeBytes bytes.val, o)

/-- The certificate blob, which may be missing. -/
def parseCertificate (sig : Bytes) (o : ℕ) :
    Outcome (UInt16 × UInt32 × Bytes) := do
  let headerStop ← usizeAdd o 6
  if headerStop ≤ sig.length then do
    let typeStop ← usizeAdd o 2
    let certType ← index sig o typeStop
    let certType ← intoArray 2 certType
    let sizeStop ← usizeAdd typeStop 4
    let certSize ← index sig typeStop sizeStop
    let certSize ← intoArray 4 certSize
    let certSize := u32.fromLeBytes certSize.val
    let (certData, _) ← readField sig sizeStop certSize.toNat
    .ok (u16.fromLeBytes certType.val, certSize, certData)
  else .ok (0, 0, [])

def QuoteSignature.parse (sig : Bytes) : Outcome QuoteSignature := do
  let (ecdsaSignature, o) ← readArray sig 0 64
  let (ecdsaPublicKey, o) ← readArray sig o 64
  let (certDataType, o) ← readWord u16 sig o
  let (certDataSize, o) ← readWord u32 sig o
  let (qeReport, o) ← readArray sig o 384
  let (qeSignature, o) ← readArray sig o 64
  let (qeAuthDataSize, o) ← readWord u16 sig o
  let (qeAuthData, o) ← readField sig o qeAuthDataSize.toNat
  let (certType, certSize, certData) ← parseCertificate sig o
  .ok { ecdsaSignature, ecdsaPublicKey, certDataType, certDataSize, qeReport,
        qeSignature, qeAuthDataSize, qeAuthData, certType, certSize, certData }

/-! ## The quote -/

/-- The signature structure, tried if there is enough data. -/
def parseSignature (rawSignatureData : Bytes) :
    Outcome (Option QuoteSignature) :=
  if 134 ≤ rawSignatureData.length then
    (QuoteSignature.parse rawSignatureData).okOption
  else .ok none

def TdxQuote.parse (quoteBytes : Bytes) : Outcome TdxQuote := do
  let (header, offset) ← TdxQuoteHeader.parse quoteBytes 0
  header.validate
  let (tdReport, offset) ← TdReport.parse quoteBytes offset
  let (signatureLen, offset) ← parseU32Le quoteBytes offset
  let stop ← usizeAdd offset signatureLen.toNat
  if quoteBytes.length < stop then do
    let available ← usizeSub quoteBytes.length offset
    .err ("Truncated signature: need " ++ toString signatureLen.toNat ++
      ", have " ++ toString available)
  else do
    let rawSignatureData ← index quoteBytes offset stop
    -- bytes after the signature are only logged
    let signature ← parseSignature rawSignatureData
    .ok { header, tdReport, signatureLen, signature, rawSignatureData }

end NxccBridge.TdxParser
