import Mathlib.Algebra.GroupWithZero.Nat
import Mathlib.Data.Vector.Basic
import NxccBridge.Core.Base64
import NxccBridge.Core.Json
import NxccBridge.Core.JsonSites

/-!
# Secrets in the keys of a Zenroom worker

`inject_secrets` and `derive_secret` of `vm/zenroom/src/vmm/mod.rs`.  An object
with a `$secret` key anywhere in the keys is replaced by the text of the secret
that it names, or of a key derived from it, as long as the bytes of all of them
fit the operator's limit.
-/

namespace NxccBridge.SecretInjection

open NxccBridge.Framing
open NxccBridge.JsonSites
open NxccBridge.RoundTrip
open NxccBridge.Serde

/-- The part of the Zenroom configuration that is about secrets. -/
structure SecretsConfig where
  maxTotalSecretsBytes : ℕ
  maxDerivedKeyLen : ℕ
  requireKdf : Bool
  deriving DecidableEq

/-- What the code calls: HKDF-SHA256, which fills a buffer of the given length
or fails, and the lower case of the standard library. -/
structure Primitives where
  hkdfSha256 : (salt secret info : Bytes) → (length : ℕ) →
    Option (List.Vector Byte length)
  toLowercase : String → String

/-! ## Encodings -/

inductive Encoding
  | hex
  | base64
  deriving DecidableEq

def Encoding.ofName : String → Option Encoding
  | "hex" => some .hex
  | "base64" => some .base64
  | _ => none

def hexDigits (byte : Byte) : Bytes :=
  [Json.hexDigit (byte.val / 16), Json.hexDigit (byte.val % 16)]

def asciiText (bytes : Bytes) : String :=
  String.ofList (bytes.map fun byte => Char.ofNat byte.val)

def Encoding.encode : Encoding → Bytes → String
  | .hex, bytes => asciiText (bytes.flatMap hexDigits)
  | .base64, bytes => asciiText (Base64.encode bytes)

/-! ## What an object asks for -/

def asStr : JsonValue → Option String
  | .string text => some text
  | _ => none

def asU64 : JsonValue → Option ℕ
  | .posInt number => some number.toNat
  | _ => none

/-- A member that is a string, else the default. -/
def textMember (members : Members) (name default : String) : String :=
  ((members.lookup name).bind asStr).getD default

def hasSecret (members : Members) : Bool :=
  (members.lookup "$secret").isSome

def kdfInfo (fields : Members) : String := textMember fields "info" ""

def kdfSalt (fields : Members) : String := textMember fields "salt" ""

def kdfLength (fields : Members) : ℕ :=
  ((fields.lookup "len").bind asU64).getD 32

def usizeMax : ℕ := 2 ^ 64 - 1

def saturatingAdd (left right : ℕ) : ℕ := min (left + right) usizeMax

section Injection

variable (config : SecretsConfig) (primitives : Primitives)
variable (secrets : String → Option Bytes)

def encodingName (members : Members) : String :=
  primitives.toLowercase (textMember members "encoding" "base64")

/-! ## The code -/

def deriveSecret (secret : Bytes) : JsonValue → Except String Bytes
  | .object fields =>
      if config.maxDerivedKeyLen < kdfLength fields then
        .error ("Derived key length " ++ toString (kdfLength fields) ++
          " exceeds max " ++ toString config.maxDerivedKeyLen)
      else
        match primitives.hkdfSha256 (utf8 (kdfSalt fields)) secret
            (utf8 (kdfInfo fields)) (kdfLength fields) with
        | some okm => .ok okm.toList
        | none => .error "HKDF expand failed"
  | _ => .error "kdf must be an object"

/-- The bytes to inject for an object. -/
def derivedBytes (members : Members) : Except String Bytes := do
  let secretName ← okOr "Invalid $secret value"
    ((members.lookup "$secret").bind asStr)
  let secret ← okOr ("Missing secret '" ++ secretName ++ "'")
    (secrets secretName)
  match members.lookup "kdf" with
  | none =>
      if config.requireKdf then
        .error "HKDF is required for secret injection"
      else .ok secret
  | some kdf => deriveSecret config primitives secret kdf

/-- The bytes injected so far and those of one more object. -/
def charge (total length : ℕ) : Except String ℕ :=
  if config.maxTotalSecretsBytes < saturatingAdd total length then
    .error ("Total derived secrets size " ++
      toString (saturatingAdd total length) ++ " exceeds max " ++
      toString config.maxTotalSecretsBytes)
  else .ok (saturatingAdd total length)

def encodedBytes (members : Members) (derived : Bytes) :
    Except String String :=
  match Encoding.ofName (encodingName primitives members) with
  | some encoding => .ok (encoding.encode derived)
  | none => .error ("Unsupported encoding '" ++
      encodingName primitives members ++ "'")

/-- The branch for an object with a `$secret` key. -/
def injectSecret (members : Members) (total : ℕ) :
    Except String (JsonValue × ℕ) := do
  let derived ← derivedBytes config primitives secrets members
  let total ← charge config total derived.length
  let encoded ← encodedBytes primitives members derived
  .ok (.string encoded, total)

/-- The members of an object stand in the order of the map, by name. -/
def injectSecrets (value : JsonValue) (totalBytes : ℕ) :
    Except String (JsonValue × ℕ) :=
  replaceSites hasSecret (injectSecret config primitives secrets) value
    totalBytes

/-! ## What is asked for -/

/-- The HKDF output that an object asks for. -/
inductive Derived (members : Members) : Bytes → Prop
  | intro {name : String} {secret : Bytes} {fields : Members}
      {okm : List.Vector Byte (kdfLength fields)}
      (hname : members.lookup "$secret" = some (.string name))
      (hsecret : secrets name = some secret)
      (hkdf : members.lookup "kdf" = some (.object fields))
      (hlength : kdfLength fields ≤ config.maxDerivedKeyLen)
      (hokm : primitives.hkdfSha256 (utf8 (kdfSalt fields)) secret
        (utf8 (kdfInfo fields)) (kdfLength fields) = some okm) :
      Derived members okm.toList

/-- The secret that an object names, where the operator allows that. -/
inductive Plain (members : Members) : Bytes → Prop
  | intro {name : String} {secret : Bytes}
      (hname : members.lookup "$secret" = some (.string name))
      (hsecret : secrets name = some secret)
      (hkdf : members.lookup "kdf" = none)
      (hallowed : config.requireKdf = false) : Plain members secret

def Requested (members : Members) (bytes : Bytes) : Prop :=
  Plain config secrets members bytes ∨
    Derived config primitives secrets members bytes

/-- Why an object is refused whatever was injected before. -/
inductive Refused (members : Members) : Prop
  | invalidName
      (hname : ∀ name, members.lookup "$secret" ≠ some (.string name))
  | missingSecret {name : String}
      (hname : members.lookup "$secret" = some (.string name))
      (hmissing : secrets name = none)
  | kdfRequired (hrequired : config.requireKdf = true)
      (hkdf : members.lookup "kdf" = none)
  | kdfNotObject {kdf : JsonValue} (hkdf : members.lookup "kdf" = some kdf)
      (hobject : ∀ fields, kdf ≠ .object fields)
  | kdfTooLong {fields : Members}
      (hkdf : members.lookup "kdf" = some (.object fields))
      (hlength : config.maxDerivedKeyLen < kdfLength fields)
  | kdfRejected {name : String} {secret : Bytes} {fields : Members}
      (hname : members.lookup "$secret" = some (.string name))
      (hsecret : secrets name = some secret)
      (hkdf : members.lookup "kdf" = some (.object fields))
      (hexpand : primitives.hkdfSha256 (utf8 (kdfSalt fields)) secret
        (utf8 (kdfInfo fields)) (kdfLength fields) = none)
  | unsupportedEncoding
      (hencoding : Encoding.ofName (encodingName primitives members) = none)

variable {config primitives secrets}

/-! ## One object -/

theorem lookup_asStr_eq_some_iff {members : Members} {name text : String} :
    (members.lookup name).bind asStr = some text ↔
      members.lookup name = some (.string text) := by
  cases members.lookup name with
  | none => simp
  | some value => cases value <;> simp [asStr]

theorem deriveSecret_eq_ok_iff {secret bytes : Bytes} {kdf : JsonValue} :
    deriveSecret config primitives secret kdf = .ok bytes ↔
      ∃ (fields : Members) (okm : List.Vector Byte (kdfLength fields)),
        kdf = .object fields ∧
        kdfLength fields ≤ config.maxDerivedKeyLen ∧
        primitives.hkdfSha256 (utf8 (kdfSalt fields)) secret
          (utf8 (kdfInfo fields)) (kdfLength fields) = some okm ∧
        okm.toList = bytes := by
  cases kdf with
  | object fields =>
      rw [deriveSecret]
      split_ifs with hlong
      · simp [hlong]
      · cases hexpand : primitives.hkdfSha256 (utf8 (kdfSalt fields)) secret
          (utf8 (kdfInfo fields)) (kdfLength fields) with
        | none => simp [hexpand]
        | some okm => simp [hexpand, Nat.le_of_not_lt hlong]
  | _ => simp [deriveSecret]

theorem derivedBytes_eq_ok_iff {members : Members} {bytes : Bytes} :
    derivedBytes config primitives secrets members = .ok bytes ↔
      Requested config primitives secrets members bytes := by
  constructor
  · intro hderived
    rw [derivedBytes, bind_eq_ok_iff] at hderived
    obtain ⟨name, hname, hderived⟩ := hderived
    rw [bind_eq_ok_iff] at hderived
    obtain ⟨secret, hsecret, hderived⟩ := hderived
    rw [okOr_eq_ok_iff, lookup_asStr_eq_some_iff] at hname
    rw [okOr_eq_ok_iff] at hsecret
    cases hkdf : members.lookup "kdf" with
    | none =>
        rw [hkdf] at hderived
        dsimp only at hderived
        split_ifs at hderived with hrequired
        cases hderived
        exact Or.inl (.intro hname hsecret hkdf
          (Bool.eq_false_iff.mpr hrequired))
    | some kdf =>
        rw [hkdf] at hderived
        obtain ⟨fields, okm, rfl, hlength, hokm, rfl⟩ :=
          deriveSecret_eq_ok_iff.mp hderived
        exact Or.inr (.intro hname hsecret hkdf hlength hokm)
  · intro hrequested
    cases hrequested with
    | inl hplain =>
        cases hplain with
        | intro hname hsecret hkdf hallowed =>
            simp [derivedBytes, hname, hsecret, hkdf, hallowed, asStr]
    | inr hderived =>
        cases hderived with
        | intro hname hsecret hkdf hlength hokm =>
            simp only [derivedBytes, hname, hsecret, hkdf, asStr,
              Option.bind_some, okOr_some, ok_bind]
            exact deriveSecret_eq_ok_iff.mpr ⟨_, _, rfl, hlength, hokm, rfl⟩

/-- A secret as it is, where the operator wants a derived key. -/
example :
    derivedBytes ⟨65536, 64, true⟩ ⟨fun _ _ _ _ => none, id⟩
      (fun _ => some [1, 2, 3]) [("$secret", .string "SECRET_A")] =
        .error "HKDF is required for secret injection" := by
  decide +kernel

/-- What is asked for comes from a known secret. -/
theorem Requested.secret {members : Members} {bytes : Bytes}
    (hrequested : Requested config primitives secrets members bytes) :
    ∃ name secret, members.lookup "$secret" = some (.string name) ∧
      secrets name = some secret := by
  cases hrequested with
  | inl hplain =>
      cases hplain with
      | intro hname hsecret hkdf hallowed => exact ⟨_, _, hname, hsecret⟩
  | inr hderived =>
      cases hderived with
      | intro hname hsecret hkdf hlength hokm => exact ⟨_, _, hname, hsecret⟩

/-- A `kdf` member is an object that asks for a length within the limit. -/
theorem Requested.derived {members : Members} {bytes : Bytes} {kdf : JsonValue}
    (hrequested : Requested config primitives secrets members bytes)
    (hkdf : members.lookup "kdf" = some kdf) :
    Derived config primitives secrets members bytes := by
  cases hrequested with
  | inl hplain =>
      cases hplain with
      | intro hname hsecret hnone hallowed =>
          rw [hkdf] at hnone
          cases hnone
  | inr hderived => exact hderived

theorem Derived.object {members : Members} {bytes : Bytes}
    (hderived : Derived config primitives secrets members bytes) :
    ∃ fields, members.lookup "kdf" = some (.object fields) ∧
      kdfLength fields ≤ config.maxDerivedKeyLen ∧
      bytes.length = kdfLength fields := by
  cases hderived with
  | intro hname hsecret hkdf hlength hokm =>
      exact ⟨_, hkdf, hlength, List.Vector.toList_length _⟩

theorem Refused.not_requested {members : Members} {bytes : Bytes}
    (hrefused : Refused config primitives secrets members)
    (hrequested : Requested config primitives secrets members bytes) :
    Encoding.ofName (encodingName primitives members) = none := by
  have hok := derivedBytes_eq_ok_iff.mpr hrequested
  obtain ⟨name, secret, hname, hsecret⟩ := hrequested.secret
  cases hrefused with
  | invalidName hinvalid => exact absurd hname (hinvalid name)
  | missingSecret hother hmissing =>
      cases hname.symm.trans hother
      cases hsecret.symm.trans hmissing
  | kdfRequired hrequired hnone =>
      simp [derivedBytes, hname, hsecret, hnone, hrequired, asStr] at hok
  | kdfNotObject hkdf hobject =>
      obtain ⟨fields, hfields, -⟩ := (hrequested.derived hkdf).object
      exact absurd (Option.some.inj (hkdf.symm.trans hfields))
        (hobject fields)
  | kdfTooLong hkdf hlength =>
      obtain ⟨fields, hfields, hbound, -⟩ := (hrequested.derived hkdf).object
      cases hkdf.symm.trans hfields
      exact absurd hbound (Nat.not_le_of_lt hlength)
  | kdfRejected hother hsame hkdf hexpand =>
      cases hname.symm.trans hother
      cases hsecret.symm.trans hsame
      simp only [derivedBytes, hname, hsecret, hkdf, asStr, Option.bind_some,
        okOr_some, ok_bind, deriveSecret, hexpand] at hok
      split_ifs at hok
  | unsupportedEncoding hencoding => exact hencoding

/-- An object that is not refused asks for something that can be encoded. -/
theorem exists_requested_of_not_refused {members : Members}
    (hgranted : ¬ Refused config primitives secrets members) :
    ∃ bytes, Requested config primitives secrets members bytes := by
  cases hlookup : members.lookup "$secret" with
  | none => exact absurd (.invalidName (by simp [hlookup])) hgranted
  | some value =>
  cases hname : asStr value with
  | none =>
      apply absurd (Refused.invalidName _) hgranted
      intro name hother
      cases hlookup.symm.trans hother
      cases hname
  | some name =>
  have hsecretName := lookup_asStr_eq_some_iff.mp
    ((congrArg (Option.bind · asStr) hlookup).trans hname)
  cases hsecret : secrets name with
  | none => exact absurd (.missingSecret hsecretName hsecret) hgranted
  | some secret =>
  cases hkdf : members.lookup "kdf" with
  | none =>
      refine ⟨secret, Or.inl (.intro hsecretName hsecret hkdf ?_)⟩
      rw [Bool.eq_false_iff]
      intro hrequired
      exact hgranted (.kdfRequired hrequired hkdf)
  | some kdf =>
  cases kdf with
  | object fields =>
      have hlength : kdfLength fields ≤ config.maxDerivedKeyLen :=
        Nat.le_of_not_lt fun hlong => hgranted (.kdfTooLong hkdf hlong)
      cases hexpand : primitives.hkdfSha256 (utf8 (kdfSalt fields)) secret
          (utf8 (kdfInfo fields)) (kdfLength fields) with
      | none =>
          exact absurd (.kdfRejected hsecretName hsecret hkdf hexpand) hgranted
      | some okm =>
          exact ⟨_, Or.inr (.intro hsecretName hsecret hkdf hlength hexpand)⟩
  | _ => exact absurd (.kdfNotObject hkdf (by simp)) hgranted

theorem charge_eq_ok_iff {total length next : ℕ} :
    charge config total length = .ok next ↔
      saturatingAdd total length ≤ config.maxTotalSecretsBytes ∧
        next = saturatingAdd total length := by
  rw [charge]
  split_ifs with hexceeds
  · simp [Nat.not_le_of_lt hexceeds]
  · rw [Except.ok.injEq, eq_comm]
    exact (and_iff_right (Nat.le_of_not_lt hexceeds)).symm

/-- An object is replaced when it is not refused and its bytes fit. -/
theorem injectSecret_eq_ok_iff {members : Members} {total next : ℕ}
    {value : JsonValue} :
    injectSecret config primitives secrets members total =
        .ok (value, next) ↔
      ∃ bytes encoding,
        Requested config primitives secrets members bytes ∧
        Encoding.ofName (encodingName primitives members) = some encoding ∧
        saturatingAdd total bytes.length ≤ config.maxTotalSecretsBytes ∧
        value = .string (encoding.encode bytes) ∧
        next = saturatingAdd total bytes.length := by
  constructor
  · intro hok
    rw [injectSecret, bind_eq_ok_iff] at hok
    obtain ⟨bytes, hbytes, hok⟩ := hok
    rw [bind_eq_ok_iff] at hok
    obtain ⟨reached, hcharge, hok⟩ := hok
    rw [charge_eq_ok_iff] at hcharge
    rw [encodedBytes] at hok
    cases hencoding : Encoding.ofName (encodingName primitives members) with
    | none =>
        rw [hencoding] at hok
        cases hok
    | some encoding =>
        rw [hencoding] at hok
        cases hok
        exact ⟨bytes, encoding, derivedBytes_eq_ok_iff.mp hbytes, rfl,
          hcharge.1, rfl, hcharge.2⟩
  · rintro ⟨bytes, encoding, hrequested, hencoding, hfits, rfl, rfl⟩
    have hcharge := charge_eq_ok_iff.mpr ⟨hfits, rfl⟩
    rw [injectSecret, derivedBytes_eq_ok_iff.mpr hrequested, ok_bind, hcharge,
      ok_bind, encodedBytes, hencoding]
    rfl

theorem injectSecret_eq_error_iff {members : Members} {total : ℕ} :
    (∃ message,
        injectSecret config primitives secrets members total =
          .error message) ↔
      Refused config primitives secrets members ∨
        ∃ bytes, Requested config primitives secrets members bytes ∧
          config.maxTotalSecretsBytes < saturatingAdd total bytes.length := by
  constructor
  · rintro ⟨message, herror⟩
    by_contra hgranted
    rw [not_or] at hgranted
    obtain ⟨bytes, hrequested⟩ :=
      exists_requested_of_not_refused hgranted.1
    cases hencoding : Encoding.ofName (encodingName primitives members) with
    | none => exact hgranted.1 (.unsupportedEncoding hencoding)
    | some encoding =>
        have hfits : saturatingAdd total bytes.length ≤
            config.maxTotalSecretsBytes :=
          Nat.le_of_not_lt fun hexceeds =>
            hgranted.2 ⟨bytes, hrequested, hexceeds⟩
        have hok := injectSecret_eq_ok_iff.mpr
          ⟨bytes, encoding, hrequested, hencoding, hfits, rfl, rfl⟩
        cases herror.symm.trans hok
  · intro hfails
    cases hresult : injectSecret config primitives secrets members total with
    | error message => exact ⟨message, rfl⟩
    | ok result =>
        obtain ⟨bytes, encoding, hrequested, hencoding, hfits, -, -⟩ :=
          injectSecret_eq_ok_iff.mp hresult
        cases hfails with
        | inl hrefused =>
            rw [hrefused.not_requested hrequested] at hencoding
            cases hencoding
        | inr hexceeds =>
            obtain ⟨other, hother, hexceeds⟩ := hexceeds
            have hsame := (derivedBytes_eq_ok_iff.mpr hother).symm.trans
              (derivedBytes_eq_ok_iff.mpr hrequested)
            cases hsame
            exact absurd hfits (Nat.not_le_of_lt hexceeds)

/-! ## All objects -/

variable (config primitives secrets)

/-- The bytes injected for an object that is not refused. -/
def bytesOf (members : Members) : Bytes :=
  (derivedBytes config primitives secrets members).toOption.getD []

def encodingOf (members : Members) : Encoding :=
  (Encoding.ofName (encodingName primitives members)).getD .base64

variable {config primitives secrets}

theorem bytesOf_eq {members : Members} {bytes : Bytes}
    (hrequested : Requested config primitives secrets members bytes) :
    bytesOf config primitives secrets members = bytes := by
  rw [bytesOf, derivedBytes_eq_ok_iff.mpr hrequested]
  rfl

theorem encodingOf_eq {members : Members} {encoding : Encoding}
    (hencoding :
      Encoding.ofName (encodingName primitives members) = some encoding) :
    encodingOf primitives members = encoding := by
  rw [encodingOf, hencoding]
  rfl

/-- The text of each object, by a function of its members. -/
def injectedText (bytes : Members → Bytes) (encoding : Members → Encoding)
    (members : Members) : JsonValue :=
  .string ((encoding members).encode (bytes members))

/-- The number of bytes that some objects stand for. -/
def injectedLength (bytes : Members → Bytes) (visited : List Members) : ℕ :=
  (visited.map fun members => (bytes members).length).sum

theorem injectedLength_cons (bytes : Members → Bytes) (members : Members)
    (rest : List Members) :
    injectedLength bytes (members :: rest) =
      (bytes members).length + injectedLength bytes rest := by
  rw [injectedLength, List.map_cons, List.sum_cons, injectedLength]

theorem saturatingAdd_le_usizeMax (total length : ℕ) :
    saturatingAdd total length ≤ usizeMax :=
  Nat.min_le_right _ _

theorem saturatingAdd_saturatingAdd (total first second : ℕ) :
    saturatingAdd (saturatingAdd total first) second =
      saturatingAdd total (first + second) := by
  simp only [saturatingAdd]
  omega

variable (config primitives secrets) in
/-- What an object asks for is known and can be encoded. -/
def Granted (bytes : Members → Bytes) (encoding : Members → Encoding)
    (members : Members) : Prop :=
  Requested config primitives secrets members (bytes members) ∧
    Encoding.ofName (encodingName primitives members) =
      some (encoding members)

/-- A loop that succeeds was granted every object and counts their bytes. -/
theorem visitAll_eq_ok {visited : List Members} {total reached : ℕ}
    (htotal : total ≤ usizeMax)
    (hok : visitAll (injectSecret config primitives secrets) visited total =
      .ok reached) :
    (∀ members ∈ visited, Granted config primitives secrets
      (bytesOf config primitives secrets) (encodingOf primitives) members) ∧
    reached = saturatingAdd total
      (injectedLength (bytesOf config primitives secrets) visited) ∧
    (total ≤ config.maxTotalSecretsBytes →
      reached ≤ config.maxTotalSecretsBytes) := by
  induction visited generalizing total with
  | nil =>
      cases hok
      exact ⟨List.forall_mem_nil _, (min_eq_left htotal).symm, id⟩
  | cons members rest ih =>
      rw [visitAll, bind_eq_ok_iff] at hok
      obtain ⟨⟨value, next⟩, hact, hrest⟩ := hok
      obtain ⟨bytes, encoding, hrequested, hencoding, hfits, -, rfl⟩ :=
        injectSecret_eq_ok_iff.mp hact
      have hbytes := bytesOf_eq hrequested
      have hgranted : Granted config primitives secrets
          (bytesOf config primitives secrets) (encodingOf primitives)
          members := by
        rw [Granted, hbytes, encodingOf_eq hencoding]
        exact ⟨hrequested, hencoding⟩
      obtain ⟨hall, hreached, hbound⟩ := ih (saturatingAdd_le_usizeMax _ _) hrest
      refine ⟨List.forall_mem_cons.mpr ⟨hgranted, hall⟩, ?_,
        fun _ => hbound hfits⟩
      rw [hreached, saturatingAdd_saturatingAdd, injectedLength_cons, hbytes]

/-- A loop succeeds when every object is granted and the bytes fit. -/
theorem visitAll_of_granted {visited : List Members} {total : ℕ}
    {bytes : Members → Bytes} {encoding : Members → Encoding}
    (htotal : total ≤ usizeMax)
    (hgranted : ∀ members ∈ visited,
      Granted config primitives secrets bytes encoding members)
    (hfits : saturatingAdd total (injectedLength bytes visited) ≤
      config.maxTotalSecretsBytes) :
    visitAll (injectSecret config primitives secrets) visited total =
      .ok (saturatingAdd total (injectedLength bytes visited)) := by
  induction visited generalizing total with
  | nil => exact congrArg Except.ok (min_eq_left htotal).symm
  | cons members rest ih =>
      obtain ⟨⟨hrequested, hencoding⟩, hrest⟩ :=
        List.forall_mem_cons.mp hgranted
      rw [injectedLength_cons, ← saturatingAdd_saturatingAdd] at hfits ⊢
      have hfirst : saturatingAdd total (bytes members).length ≤
          config.maxTotalSecretsBytes := by
        simp only [saturatingAdd] at hfits ⊢
        omega
      have hact := injectSecret_eq_ok_iff.mpr
        ⟨_, _, hrequested, hencoding, hfirst, rfl, rfl⟩
      rw [visitAll, hact, ok_bind]
      exact ih (saturatingAdd_le_usizeMax _ _) hrest hfits

/-- The recursion is a loop over the objects in the order in which they stand,
and what an object is replaced by does not depend on the others. -/
theorem injectSecrets_eq (value : JsonValue) (total : ℕ) :
    injectSecrets config primitives secrets value total =
      (visitAll (injectSecret config primitives secrets)
        (sites hasSecret value) total).map
        (substitute hasSecret (injectedText
          (bytesOf config primitives secrets) (encodingOf primitives))
          value, ·) := by
  apply replaceSites_eq
  intro members total value next hok
  obtain ⟨bytes, encoding, hrequested, hencoding, -, rfl, -⟩ :=
    injectSecret_eq_ok_iff.mp hok
  rw [injectedText, bytesOf_eq hrequested, encodingOf_eq hencoding]

theorem hasSecret_iff (members : Members) :
    hasSecret members = true ↔ "$secret" ∈ members.map Prod.fst := by
  rw [hasSecret, List.lookup_isSome_iff, List.mem_map]
  apply exists_congr
  intro member
  rw [beq_iff_eq, eq_comm]

/-- No object with a secret is left, whatever the texts are. -/
theorem hasSecret_eq_false_of_occurs (bytes : Members → Bytes)
    (encoding : Members → Encoding) (value : JsonValue) (members : Members)
    (hoccurs : Occurs (.object members)
      (substitute hasSecret (injectedText bytes encoding) value)) :
    hasSecret members = false := by
  apply not_isSite_of_occurs_substitute _ _ value members hoccurs
  · intro left right hnames
    rw [Bool.eq_iff_iff, hasSecret_iff, hasSecret_iff, hnames]
  · intro members part htext
    cases htext with
    | child hchild hinside => exact absurd hchild List.not_mem_nil

variable (config primitives secrets) in
/-- The value `result` and the number of bytes `total` that an injection into
`value` gives. -/
structure ExactInjection (value result : JsonValue) (total : ℕ)
    (bytes : Members → Bytes) (encoding : Members → Encoding) : Prop where
  none_left : ∀ members, Occurs (.object members) result →
    hasSecret members = false
  outside : result =
    substitute hasSecret (injectedText bytes encoding) value
  requested : ∀ members ∈ sites hasSecret value,
    Granted config primitives secrets bytes encoding members
  /-- A sum above the largest `usize` would be a text that no memory holds. -/
  growth : total = injectedLength bytes (sites hasSecret value) ∨
    usizeMax ≤ config.maxTotalSecretsBytes ∧
      usizeMax < injectedLength bytes (sites hasSecret value)
  bounded : total ≤ config.maxTotalSecretsBytes
  derived : config.requireKdf = true →
    ∀ members ∈ sites hasSecret value,
      Derived config primitives secrets members (bytes members) ∧
        (bytes members).length ≤ config.maxDerivedKeyLen

variable (config primitives secrets) in
/-- The traversal reaches an object that is refused or does not fit. -/
def ReachesFailure (value : JsonValue) : Prop :=
  ∃ before members after bytes encoding,
    sites hasSecret value = before ++ members :: after ∧
    (∀ earlier ∈ before,
      Granted config primitives secrets bytes encoding earlier) ∧
    saturatingAdd 0 (injectedLength bytes before) ≤
      config.maxTotalSecretsBytes ∧
    (Refused config primitives secrets members ∨
      Requested config primitives secrets members (bytes members) ∧
        config.maxTotalSecretsBytes < saturatingAdd 0
          (injectedLength bytes before + (bytes members).length))

theorem exactInjection_of_eq_ok {value result : JsonValue} {total : ℕ}
    (hok : injectSecrets config primitives secrets value 0 =
      .ok (result, total)) :
    ExactInjection config primitives secrets value result total
      (bytesOf config primitives secrets) (encodingOf primitives) := by
  rw [injectSecrets_eq] at hok
  cases hloop : visitAll (injectSecret config primitives secrets)
      (sites hasSecret value) 0 with
  | error message =>
      rw [hloop] at hok
      cases hok
  | ok reached =>
      rw [hloop] at hok
      cases hok
      obtain ⟨hgranted, hreached, hbound⟩ :=
        visitAll_eq_ok (Nat.zero_le _) hloop
      have hbounded := hbound (Nat.zero_le _)
      rw [saturatingAdd, Nat.zero_add] at hreached
      refine ⟨hasSecret_eq_false_of_occurs _ _ value, rfl, hgranted, ?_,
        hbounded, ?_⟩
      · omega
      · intro hrequired members hmembers
        cases (hgranted members hmembers).1 with
        | inl hplain =>
            cases hplain with
            | intro hname hsecret hkdf hallowed =>
                rw [hrequired] at hallowed
                cases hallowed
        | inr hderived =>
            obtain ⟨fields, -, hlength, hbytes⟩ := hderived.object
            exact ⟨hderived, hbytes ▸ hlength⟩

theorem injectSecrets_eq_error_iff (value : JsonValue) :
    (∃ message, injectSecrets config primitives secrets value 0 =
        .error message) ↔
      ReachesFailure config primitives secrets value := by
  have hmap : ∀ message,
      injectSecrets config primitives secrets value 0 = .error message ↔
        visitAll (injectSecret config primitives secrets)
          (sites hasSecret value) 0 = .error message := by
    intro message
    rw [injectSecrets_eq]
    cases visitAll (injectSecret config primitives secrets)
      (sites hasSecret value) 0 <;> simp [Except.map]
  constructor
  · rintro ⟨message, herror⟩
    obtain ⟨before, members, after, reached, hsites, hbefore, hact⟩ :=
      visitAll_eq_error_iff.mp ((hmap message).mp herror)
    obtain ⟨hgranted, rfl, hbound⟩ := visitAll_eq_ok (Nat.zero_le _) hbefore
    refine ⟨before, members, after, _, _, hsites, hgranted,
      hbound (Nat.zero_le _), ?_⟩
    cases injectSecret_eq_error_iff.mp ⟨message, hact⟩ with
    | inl hrefused => exact Or.inl hrefused
    | inr hexceeds =>
        obtain ⟨bytes, hrequested, hexceeds⟩ := hexceeds
        rw [saturatingAdd_saturatingAdd] at hexceeds
        rw [bytesOf_eq hrequested]
        exact Or.inr ⟨hrequested, hexceeds⟩
  · rintro ⟨before, members, after, bytes, encoding, hsites, hgranted, hfits,
      hfails⟩
    have hbefore := visitAll_of_granted (Nat.zero_le _) hgranted hfits
    have hact : ∃ message,
        injectSecret config primitives secrets members
          (saturatingAdd 0 (injectedLength bytes before)) =
            .error message := by
      apply injectSecret_eq_error_iff.mpr
      cases hfails with
      | inl hrefused => exact Or.inl hrefused
      | inr hexceeds =>
          rw [← saturatingAdd_saturatingAdd] at hexceeds
          exact Or.inr ⟨_, hexceeds⟩
    obtain ⟨message, hact⟩ := hact
    exact ⟨message, (hmap message).mpr (visitAll_eq_error_iff.mpr
      ⟨before, members, after, _, hsites, hbefore, hact⟩)⟩

end Injection

/-- An injection that succeeds replaces exactly the objects with a secret,
each by the text of what it asks for, within the operator's limits; it fails
exactly when the traversal reaches an object that is refused or one whose bytes
do not fit. -/
theorem injectSecrets_exact (config : SecretsConfig) (primitives : Primitives)
    (secrets : String → Option Bytes) (value : JsonValue) :
    (∀ result total,
      injectSecrets config primitives secrets value 0 = .ok (result, total) →
        ∃ bytes encoding, ExactInjection config primitives secrets value
          result total bytes encoding) ∧
    ((∃ message, injectSecrets config primitives secrets value 0 =
        .error message) ↔
      ReachesFailure config primitives secrets value) := by
  constructor
  · intro result total hok
    exact ⟨_, _, exactInjection_of_eq_ok hok⟩
  · exact injectSecrets_eq_error_iff value

/-- The secret of three bytes one level down. -/
example :
    injectSecrets ⟨65536, 64, false⟩ ⟨fun _ _ _ _ => none, id⟩
      (fun name => if name = "SECRET_A" then some [1, 2, 3] else none)
      (.object [("key", .object [("$secret", .string "SECRET_A")])]) 0 =
        .ok (.object [("key", .string "AQID")], 3) := by
  rfl

end NxccBridge.SecretInjection
