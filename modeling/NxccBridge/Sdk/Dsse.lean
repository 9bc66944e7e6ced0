import NxccBridge.Core.Base64
import NxccBridge.Core.Buffer
import NxccBridge.Core.LengthPrefix
import NxccBridge.Core.RoundTrip
import NxccBridge.Core.Utf16

/-!
# Signed envelopes of the command line

`pae` and `signDsse` of `sdk/cli/src/utils/crypto.ts`.  The bytes that are
signed are put together from what viem's `toBytes` makes of the payload and its
type, the payload in the envelope from what `Buffer.from` makes of it.
-/

namespace NxccBridge.Dsse

open NxccBridge.Buffer
open NxccBridge.Framing
open NxccBridge.LengthPrefix
open NxccBridge.RoundTrip
open NxccBridge.Text
open NxccBridge.Utf16

/-! ## Hexadecimal texts -/

def hexValue (unit : CodeUnit) : Option (Fin 16) :=
  let number := unit.val
  if 48 ≤ number ∧ number ≤ 57 then some (Fin.ofNat 16 (number - 48))
  else if 65 ≤ number ∧ number ≤ 70 then some (Fin.ofNat 16 (number - 55))
  else if 97 ≤ number ∧ number ≤ 102 then some (Fin.ofNat 16 (number - 87))
  else none

/-- `0x` and hexadecimal digits only, maybe none. -/
def isHex : Units → Bool
  | zero :: x :: digits =>
      zero = 48 && x = 120 && digits.all fun unit => (hexValue unit).isSome
  | _ => false

def nibble (high low : Fin 16) : Byte :=
  ⟨high.val * 16 + low.val, by omega⟩

/-- The bytes of pairs of digits.  An odd digit at the end is dropped. -/
def pairBytes : List (Fin 16) → Bytes
  | high :: low :: rest => nibble high low :: pairBytes rest
  | [_] => []
  | [] => []

/-- viem's bytes of a hexadecimal text, a zero in front of an odd number of
digits. -/
def hexToBytes (text : Units) : Bytes :=
  let digits := (text.drop 2).filterMap hexValue
  pairBytes (if digits.length % 2 = 1 then 0 :: digits else digits)

/-- `Buffer.from(text, "hex")`, which stops at the first unit that is no
digit. -/
def bufferFromHex (text : Units) : Bytes :=
  pairBytes ((text.takeWhile fun unit => (hexValue unit).isSome).filterMap
    hexValue)

/-! ## Signing -/

/-- What the code uses of viem: the bytes of a text, and the address of the
account of a private key unless it is none. -/
structure Viem where
  toBytes : Units → Bytes
  privateKeyToAccount : Units → Except String Units

/-- Documented: a text is read as hexadecimal if it looks like it, else it is
encoded in UTF-8. -/
structure Viem.Documented (viem : Viem) : Prop where
  hex : ∀ text, isHex text = true → viem.toBytes text = hexToBytes text
  utf8 : ∀ text, isHex text = false → viem.toBytes text = textBytes text

structure DsseSignatureEntry where
  keyid : Option Units
  sig : Units
  deriving DecidableEq

structure DsseEnvelope where
  payload : Units
  payloadType : Units
  signatures : List DsseSignatureEntry
  deriving DecidableEq

/-- The call of `signMessage`, and the envelope that is made of its answer. -/
structure Signing where
  privateKey : Units
  raw : Bytes
  envelope : Units → DsseEnvelope

def toBase64 (bytes : Bytes) : Units :=
  (Base64.encode bytes).map fun byte => Fin.ofNat 65536 byte.val

def pae (viem : Viem) (type payload : Units) : Except String Bytes :=
  let typeBytes := viem.toBytes type
  let payloadBytes := viem.toBytes payload
  let paeParts := [
    viem.toBytes (units "DSSEv1"),
    viem.toBytes (units " "),
    viem.toBytes (units (toString typeBytes.length)),
    viem.toBytes (units " "),
    typeBytes,
    viem.toBytes (units " "),
    viem.toBytes (units (toString payloadBytes.length)),
    viem.toBytes (units " "),
    payloadBytes]
  let totalLength := (paeParts.map List.length).sum
  concatenate totalLength paeParts

def signDsse (viem : Viem) (payload payloadType signerKey : Units) :
    Except String Signing := do
  let address ← viem.privateKeyToAccount signerKey
  let dataToSign ← pae viem payloadType payload
  .ok {
    privateKey := signerKey
    raw := dataToSign
    envelope := fun signature =>
      let sigEntry := {
        keyid := some address
        sig := toBase64 (bufferFromHex (signature.drop 2)) }
      { payload := toBase64 (textBytes payload)
        payloadType
        signatures := [sigEntry] } }

/-! ## What a text looks like -/

theorem isHex_eq_true {text : Units} (hhex : isHex text = true) :
    ∃ digits, text = 48 :: 120 :: digits ∧
      ∀ unit ∈ digits, (hexValue unit).isSome := by
  match text, hhex with
  | zero :: x :: digits, hhex =>
      simp only [isHex, Bool.and_eq_true, decide_eq_true_eq,
        List.all_eq_true] at hhex
      obtain ⟨⟨hzero, hx⟩, hdigits⟩ := hhex
      exact ⟨digits, by rw [hzero, hx], hdigits⟩

theorem isAscii_of_hexValue {unit : CodeUnit}
    (hdigit : (hexValue unit).isSome) : isAscii unit := by
  simp only [hexValue] at hdigit
  split_ifs at hdigit with hnumber hupper hlower
  · exact decide_eq_true (by omega)
  · exact decide_eq_true (by omega)
  · exact decide_eq_true (by omega)
  · exact absurd hdigit (by simp)

theorem length_textBytes_of_isHex {text : Units} (hhex : isHex text = true) :
    (textBytes text).length = text.length := by
  obtain ⟨digits, rfl, hdigits⟩ := isHex_eq_true hhex
  apply length_textBytes_of_ascii
  rw [List.forall_mem_cons, List.forall_mem_cons]
  exact ⟨by decide, by decide, fun unit hunit =>
    isAscii_of_hexValue (hdigits unit hunit)⟩

theorem length_pairBytes :
    ∀ digits : List (Fin 16), (pairBytes digits).length = digits.length / 2
  | [] => rfl
  | [_] => by simp [pairBytes]
  | high :: low :: rest => by
      rw [pairBytes, List.length_cons, length_pairBytes rest,
        List.length_cons, List.length_cons]
      omega

/-- A hexadecimal text has fewer bytes than the text is long. -/
theorem length_hexToBytes_lt {text : Units} (hhex : isHex text = true) :
    (hexToBytes text).length < text.length := by
  obtain ⟨digits, rfl, -⟩ := isHex_eq_true hhex
  have hfilter := List.length_filterMap_le hexValue digits
  simp only [hexToBytes, List.drop_succ_cons, List.drop_zero,
    List.length_cons, length_pairBytes]
  split_ifs
  · rw [List.length_cons]
    omega
  · omega

theorem isHex_decimal (number : ℕ) :
    isHex (units (toString number)) = false := by
  by_contra hhex
  rw [Bool.not_eq_false] at hhex
  obtain ⟨digits, htext, -⟩ := isHex_eq_true hhex
  have hmem : (120 : CodeUnit) ∈ units (toString number) := by
    rw [htext]
    simp
  obtain ⟨char, hchar, hunit⟩ := List.mem_flatMap.mp hmem
  have hdigit := isDigit_of_mem_toString hchar
  have hle : char.toNat ≤ 57 := (Char.isDigit_iff_toNat.mp hdigit).2
  rw [encodeChar, if_pos (by omega), List.mem_singleton] at hunit
  have hval : 120 = char.toNat % 65536 := congrArg Fin.val hunit
  omega

section Documented

variable {viem : Viem}

theorem toBytes_eq_textBytes_iff (hviem : viem.Documented) (text : Units) :
    viem.toBytes text = textBytes text ↔ isHex text = false := by
  constructor
  · intro heq
    by_contra hhex
    rw [Bool.not_eq_false] at hhex
    have hlength := length_hexToBytes_lt hhex
    rw [← hviem.hex text hhex, heq, length_textBytes_of_isHex hhex] at hlength
    exact absurd hlength (Nat.lt_irrefl _)
  · exact hviem.utf8 text

theorem toBytes_units (hviem : viem.Documented) {text : String}
    (hplain : isHex (units text) = false) :
    viem.toBytes (units text) = utf8 text := by
  rw [hviem.utf8 _ hplain, textBytes_units]

end Documented

/-! ## The pre-authentication encoding -/

/-- The encoding of a type and a payload, as bytes. -/
def preAuthentication (type payload : Bytes) : Bytes :=
  utf8 "DSSEv1 " ++ decimal type.length ++ utf8 " " ++ type ++ utf8 " " ++
    decimal payload.length ++ utf8 " " ++ payload

theorem utf8_space : utf8 " " = [space] := by
  rw [utf8_eq_flatMap]
  rfl

theorem preAuthentication_injective {type payload type' payload' : Bytes}
    (heq : preAuthentication type payload = preAuthentication type' payload') :
    type = type' ∧ payload = payload' := by
  have hframes := decimalFrame_selfDelimiting.append
    (decimalFrame_selfDelimiting.labelled [space])
  have hlayout : ∀ type payload, preAuthentication type payload =
      utf8 "DSSEv1 " ++ (decimalFrame type ++
        ([space] ++ decimalFrame payload)) := by
    intro type payload
    simp only [preAuthentication, decimalFrame, utf8_space, List.append_assoc]
  rw [hlayout, hlayout] at heq
  have hbody := List.append_cancel_left heq
  have hpair : (type, payload) = (type', payload') := hframes.injective hbody
  exact Prod.mk.inj hpair

theorem utf8_heading : utf8 "DSSEv1" ++ utf8 " " = utf8 "DSSEv1 " := by
  rw [utf8_eq_flatMap, utf8_eq_flatMap, utf8_eq_flatMap, ← List.flatMap_append]
  rfl

theorem pae_eq {viem : Viem} (hviem : viem.Documented)
    (type payload : Units) :
    pae viem type payload =
      .ok (preAuthentication (viem.toBytes type) (viem.toBytes payload)) := by
  have hheading : viem.toBytes (units "DSSEv1") = utf8 "DSSEv1" :=
    toBytes_units hviem (by decide)
  have hspace : viem.toBytes (units " ") = utf8 " " :=
    toBytes_units hviem (by decide)
  have hnumber : ∀ number : ℕ,
      viem.toBytes (units (toString number)) = decimal number :=
    fun number => toBytes_units hviem (isHex_decimal number)
  simp only [pae, hheading, hspace, hnumber]
  rw [← List.length_flatten, concatenate_eq]
  simp only [List.flatten_cons, List.flatten_nil, List.append_nil,
    preAuthentication, ← utf8_heading, List.append_assoc]

/-! ## What a signature binds -/

/-- The arguments of `signDsse`. -/
structure Request where
  payload : Units
  payloadType : Units
  signerKey : Units
  deriving DecidableEq

def Request.sign (viem : Viem) (request : Request) : Except String Signing :=
  signDsse viem request.payload request.payloadType request.signerKey

/-- The encoding of the type and of the very bytes in the envelope is
signed. -/
structure Signing.Exact (signing : Signing) (request : Request) : Prop where
  carried : ∀ signature,
    (signing.envelope signature).payload = toBase64 (textBytes request.payload)
  signed : signing.raw = preAuthentication (textBytes request.payloadType)
    (textBytes request.payload)

def Request.SameDocument (left right : Request) : Prop :=
  left.payloadType = right.payloadType ∧ left.payload = right.payload

instance decidableSameDocument (left right : Request) :
    Decidable (left.SameDocument right) :=
  inferInstanceAs (Decidable (_ ∧ _))

/-- The signatures of two requests bind what they are asked for. -/
def Binds (viem : Viem) (left right : Request) : Prop :=
  ∀ leftSigning rightSigning, left.sign viem = .ok leftSigning →
    right.sign viem = .ok rightSigning →
      (leftSigning.raw = rightSigning.raw → left.SameDocument right) ∧
        leftSigning.Exact left ∧ rightSigning.Exact right

/-- Neither text looks like hexadecimal. -/
def Request.Plain (request : Request) : Prop :=
  isHex request.payloadType = false ∧ isHex request.payload = false

/-- The texts with U+FFFD for the unpaired surrogates. -/
def Request.toWellFormed (request : Request) : Units × Units :=
  (Utf16.toWellFormed request.payloadType,
    Utf16.toWellFormed request.payload)

section Binding

variable {viem : Viem} {request left right : Request} {signing : Signing}

/-- A request that is signed at all is signed over viem's bytes. -/
theorem raw_of_sign (hviem : viem.Documented)
    (hsign : request.sign viem = .ok signing) :
    signing.raw = preAuthentication (viem.toBytes request.payloadType)
        (viem.toBytes request.payload) ∧
      ∀ signature, (signing.envelope signature).payload =
        toBase64 (textBytes request.payload) := by
  rw [Request.sign, signDsse, pae_eq hviem, bind_eq_ok_iff] at hsign
  obtain ⟨address, -, hsign⟩ := hsign
  rw [ok_bind, Except.ok.injEq] at hsign
  subst hsign
  exact ⟨rfl, fun _ => rfl⟩

theorem exact_iff (hviem : viem.Documented)
    (hsign : request.sign viem = .ok signing) :
    signing.Exact request ↔ request.Plain := by
  obtain ⟨hraw, hcarried⟩ := raw_of_sign hviem hsign
  constructor
  · intro hexact
    obtain ⟨htype, hpayload⟩ :=
      preAuthentication_injective (hraw.symm.trans hexact.signed)
    exact ⟨(toBytes_eq_textBytes_iff hviem _).mp htype,
      (toBytes_eq_textBytes_iff hviem _).mp hpayload⟩
  · intro hplain
    refine ⟨hcarried, ?_⟩
    rw [hraw, hviem.utf8 _ hplain.1, hviem.utf8 _ hplain.2]

/-- Plain texts are signed alike exactly when they are the same up to unpaired
surrogates. -/
theorem raw_eq_iff {leftSigning rightSigning : Signing}
    (hleft : leftSigning.Exact left) (hright : rightSigning.Exact right) :
    leftSigning.raw = rightSigning.raw ↔
      left.toWellFormed = right.toWellFormed := by
  rw [hleft.signed, hright.signed, Request.toWellFormed, Request.toWellFormed,
    Prod.mk.injEq, ← textBytes_eq_iff, ← textBytes_eq_iff]
  constructor
  · exact preAuthentication_injective
  · rintro ⟨htype, hpayload⟩
    rw [htype, hpayload]

theorem exists_sign (hviem : viem.Documented) (request : Request)
    {address : Units}
    (haccount : viem.privateKeyToAccount request.signerKey = .ok address) :
    ∃ signing, request.sign viem = .ok signing := by
  rw [Request.sign, signDsse, haccount, pae_eq hviem]
  exact ⟨_, rfl⟩

end Binding

/-- Signatures bind type and payload exactly for texts that viem does not take
for hexadecimal and that differ in more than unpaired surrogates. -/
theorem signatures_bind_iff {viem : Viem} (hviem : viem.Documented)
    {left right : Request} {leftAddress rightAddress : Units}
    (hleft : viem.privateKeyToAccount left.signerKey = .ok leftAddress)
    (hright : viem.privateKeyToAccount right.signerKey = .ok rightAddress) :
    Binds viem left right ↔
      left.Plain ∧ right.Plain ∧
        (left.toWellFormed = right.toWellFormed → left.SameDocument right) := by
  constructor
  · intro hbinds
    obtain ⟨leftSigning, hleftSign⟩ := exists_sign hviem left hleft
    obtain ⟨rightSigning, hrightSign⟩ := exists_sign hviem right hright
    obtain ⟨hsame, hleftExact, hrightExact⟩ :=
      hbinds leftSigning rightSigning hleftSign hrightSign
    refine ⟨(exact_iff hviem hleftSign).mp hleftExact,
      (exact_iff hviem hrightSign).mp hrightExact, fun hwellFormed => ?_⟩
    exact hsame ((raw_eq_iff hleftExact hrightExact).mpr hwellFormed)
  · rintro ⟨hleftPlain, hrightPlain, hsame⟩ leftSigning rightSigning
      hleftSign hrightSign
    have hleftExact := (exact_iff hviem hleftSign).mpr hleftPlain
    have hrightExact := (exact_iff hviem hrightSign).mpr hrightPlain
    exact ⟨fun hraw => hsame ((raw_eq_iff hleftExact hrightExact).mp hraw),
      hleftExact, hrightExact⟩

/-! ## A payload that looks like hexadecimal -/

def testKey : Units :=
  units "0xac0974bec39a17e36ba4a6b4d238ff944bacb478cbed5efcae784d7bf4f2ff80"

/-- viem as documented, with the account of one private key. -/
def testViem : Viem where
  toBytes := fun text =>
    if isHex text then hexToBytes text else textBytes text
  privateKeyToAccount := fun key =>
    if key = testKey then
      .ok (units "0xf39Fd6e51aad88F6F4ce6aB8827279cffFb92266")
    else .error "invalid private key"

theorem testViem_documented : testViem.Documented where
  hex := fun _ hhex => if_pos hhex
  utf8 := fun _ hplain => if_neg (by rw [hplain]; exact Bool.false_ne_true)

theorem testViem_testKey : testViem.privateKeyToAccount testKey =
    .ok (units "0xf39Fd6e51aad88F6F4ce6aB8827279cffFb92266") := by
  simp only [testViem, if_true]

def textRequest (payload : Units) : Request where
  payload := payload
  payloadType := units "text/plain"
  signerKey := testKey

theorem binds_emptyObject_emptyArray :
    Binds testViem (textRequest (units "\x7b\x7d"))
      (textRequest (units "[]")) :=
  (signatures_bind_iff testViem_documented testViem_testKey testViem_testKey).mpr
    ⟨⟨by decide, by decide⟩, ⟨by decide, by decide⟩, by decide⟩

/-- The payloads `0x41` and `A` are signed alike, and one byte of the first is
signed where its envelope carries four. -/
theorem not_binds_hexadecimal :
    testViem.Documented ∧
      ¬ Binds testViem (textRequest (units "0x41")) (textRequest (units "A")) ∧
      ∃ leftSigning rightSigning,
        (textRequest (units "0x41")).sign testViem = .ok leftSigning ∧
        (textRequest (units "A")).sign testViem = .ok rightSigning ∧
        leftSigning.raw = rightSigning.raw ∧
        leftSigning.raw = preAuthentication (utf8 "text/plain") [0x41] ∧
        ∀ signature, (leftSigning.envelope signature).payload =
          toBase64 [0x30, 0x78, 0x34, 0x31] := by
  obtain ⟨leftSigning, hleft⟩ := exists_sign testViem_documented
    (textRequest (units "0x41")) testViem_testKey
  obtain ⟨rightSigning, hright⟩ := exists_sign testViem_documented
    (textRequest (units "A")) testViem_testKey
  obtain ⟨hleftRaw, hleftCarried⟩ := raw_of_sign testViem_documented hleft
  obtain ⟨hrightRaw, -⟩ := raw_of_sign testViem_documented hright
  have htype : testViem.toBytes (units "text/plain") = utf8 "text/plain" :=
    toBytes_units testViem_documented (by decide)
  have hhex : testViem.toBytes (units "0x41") = [0x41] := by decide
  have hletter : testViem.toBytes (units "A") = [0x41] := by decide
  have hpayload : textBytes (units "0x41") = [0x30, 0x78, 0x34, 0x31] := by
    decide
  rw [textRequest, htype, hhex] at hleftRaw
  rw [textRequest, htype, hletter] at hrightRaw
  rw [textRequest, hpayload] at hleftCarried
  have hsame : leftSigning.raw = rightSigning.raw := by
    rw [hleftRaw, hrightRaw]
  refine ⟨testViem_documented, ?_, leftSigning, rightSigning, hleft, hright,
    hsame, hleftRaw, hleftCarried⟩
  intro hbinds
  have hdocument := (hbinds _ _ hleft hright).1 hsame
  exact absurd hdocument.2 (by decide)

end NxccBridge.Dsse
