import NxccBridge.Core.Buffer
import NxccBridge.Core.LengthPrefix
import NxccBridge.Core.RoundTrip
import NxccBridge.Core.Utf16

/-!
# Key derivation in the SDK

`deriveKey` of `sdk/lib/src/crypto/deriveKey.ts`: an HKDF key for a purpose and
a path.  The purpose and the items of the path, each behind its length, are the
`info` string that separates the derived keys.
-/

namespace NxccBridge.DeriveKey

open NxccBridge.Buffer
open NxccBridge.Framing
open NxccBridge.LengthPrefix
open NxccBridge.RoundTrip
open NxccBridge.Utf16

/-- An argument at run time: of its declared type or of another one. -/
inductive Argument (A : Type)
  | given (value : A)
  | foreign
  deriving DecidableEq

/-- A number as `Number.isInteger` and a template literal see it. -/
structure JsNumber where
  integer : Option ℤ
  text : String
  deriving DecidableEq

def JsNumber.ofNat (value : ℕ) : JsNumber := ⟨some value, toString value⟩

inductive PathItem
  /-- `null` or `undefined`. -/
  | nullish
  | text (text : Units)
  | bytes (bytes : Bytes)
  | foreign
  deriving DecidableEq

/-- The optional last argument; a field that is not set is `none`. -/
structure Options where
  length : Option JsNumber
  hash : Option String
  salt : Option (Argument Bytes)
  deriving DecidableEq

structure Arguments (Key : Type) where
  /-- `none` is a value that counts as false. -/
  base : Option (Argument Key)
  purpose : Argument Units
  path : Argument (List PathItem)
  options : Options
  deriving DecidableEq

structure HkdfParams where
  hash : String
  salt : Bytes
  info : Bytes
  deriving DecidableEq

/-- A call of `crypto.subtle.deriveBits`. -/
structure DeriveBits (Key : Type) where
  params : HkdfParams
  base : Key
  bits : ℕ
  deriving DecidableEq

/-! ## Checks -/

def hashOutputSizes : String → Option ℕ
  | "SHA-256" => some 32
  | "SHA-384" => some 48
  | "SHA-512" => some 64
  | _ => none

def requireHash (hashAlgorithm : String) : Except String ℕ :=
  match hashOutputSizes hashAlgorithm with
  | some size => .ok size
  | none => .error (s!"Unsupported hash algorithm: {hashAlgorithm}. " ++
      "Supported: SHA-256, SHA-384, SHA-512")

-- a key whose type is not "secret" only causes a warning on the console
def requireBase {Key : Type} : Option (Argument Key) → Except String Key
  | none => .error "Base key is required"
  | some .foreign => .error "Base must be a CryptoKey instance"
  | some (.given base) => .ok base

def requirePurpose : Argument Units → Except String Units
  | .foreign => .error "Purpose must be a non-empty string"
  | .given purpose =>
      if trim purpose = [] then .error "Purpose must be a non-empty string"
      else .ok purpose

def requireLength (hashAlgorithm : String) (hkdfMaxOutput : ℕ)
    (length : JsNumber) : Except String ℕ :=
  let text := length.text
  let message := s!"Invalid length: {text}. Must be an integer between " ++
    s!"1-{hkdfMaxOutput} bytes (HKDF-{hashAlgorithm} limit)"
  match length.integer with
  | none => .error message
  | some value =>
      if 0 < value ∧ value ≤ hkdfMaxOutput then .ok value.toNat
      else .error message

def requirePath : Argument (List PathItem) → Except String (List PathItem)
  | .foreign => .error "Path must be an array"
  | .given path => .ok path

def requireSalt : Option (Argument Bytes) → Except String Bytes
  | some .foreign => .error "Salt must be a Uint8Array"
  | some (.given salt) => .ok salt
  | none => .ok []

/-! ## The info string -/

def maxInfoSize : ℕ := 1024 * 1024

def u32be (length : ℕ) : Except String Bytes :=
  if 0xffffffff < length then
    .error s!"Invalid length: {length}. Must be a non-negative integer ≤ 2^32-1"
  else .ok (Cbor.bigEndian 4 length)

def itemData (index : ℕ) : PathItem → Except String Bytes
  | .nullish =>
      .error s!"Path item at index {index} cannot be null or undefined"
  | .foreign =>
      .error s!"Path item at index {index} must be a string or Uint8Array"
  | .text text => .ok (textBytes text)
  | .bytes bytes => .ok bytes

def itemParts (index : ℕ) (item : PathItem) : Except String (List Bytes) := do
  let data ← itemData index item
  let size := data.length
  if size = 0 then
    .error s!"Path item at index {index} cannot be empty"
  else if 0xffffffff < size then
    .error s!"Path item at index {index} is too large ({size} bytes)"
  else
    let lengthPrefix ← u32be size
    .ok [lengthPrefix, data]

def pathParts : ℕ → List PathItem → Except String (List Bytes)
  | _, [] => .ok []
  | index, item :: rest => do
      let parts ← itemParts index item
      let others ← pathParts (index + 1) rest
      .ok (parts ++ others)

def purposeParts (purpose : Units) : Except String (List Bytes) := do
  let encodedPurpose := textBytes purpose
  let lengthPrefix ← u32be encodedPurpose.length
  .ok [lengthPrefix, encodedPurpose]

/-- The total length of the parts, checked while it is summed up. -/
def totalLength : ℕ → List Bytes → Except String ℕ
  | total, [] => .ok total
  | total, part :: rest =>
      let total := total + part.length
      if maxInfoSize < total then
        .error s!"Total info size exceeds maximum {maxInfoSize} bytes"
      else totalLength total rest

/-- The `info` for a purpose and a path. -/
def infoOf (purpose : Units) (path : List PathItem) : Except String Bytes := do
  let front ← purposeParts purpose
  let behind ← pathParts 0 path
  let infoParts := front ++ behind
  let totalInfoLength ← totalLength 0 infoParts
  concatenate totalInfoLength infoParts

/-- All that `deriveKey` does before it calls `deriveBits`. -/
def prepare {Key : Type} (arguments : Arguments Key) :
    Except String (DeriveBits Key) := do
  let hashAlgorithm := arguments.options.hash.getD "SHA-256"
  let hashOutputSize ← requireHash hashAlgorithm
  let hkdfMaxOutput := 255 * hashOutputSize
  let length := arguments.options.length.getD (.ofNat hashOutputSize)
  let base ← requireBase arguments.base
  let purpose ← requirePurpose arguments.purpose
  let length ← requireLength hashAlgorithm hkdfMaxOutput length
  let path ← requirePath arguments.path
  let salt ← requireSalt arguments.options.salt
  let concatenatedInfo ← infoOf purpose path
  .ok ⟨⟨hashAlgorithm, salt, concatenatedInfo⟩, base, length * 8⟩

def deriveKey {Key : Type}
    (deriveBits : DeriveBits Key → Except String Bytes)
    (arguments : Arguments Key) : Except String Bytes := do
  let call ← prepare arguments
  match deriveBits call with
  | .ok derivedBits => .ok derivedBits
  | .error errorMessage => .error s!"Key derivation failed: {errorMessage}"

/-! ## What the checks accept -/

theorem requireHash_eq_ok_iff {hashAlgorithm : String} {size : ℕ} :
    requireHash hashAlgorithm = .ok size ↔
      hashOutputSizes hashAlgorithm = some size := by
  rw [requireHash]
  cases hashOutputSizes hashAlgorithm <;> simp

theorem requireBase_eq_ok_iff {Key : Type} {base : Option (Argument Key)}
    {key : Key} : requireBase base = .ok key ↔ base = some (.given key) := by
  rcases base with _ | _ | _ <;> simp [requireBase]

theorem requirePurpose_eq_ok_iff {argument : Argument Units}
    {purpose : Units} :
    requirePurpose argument = .ok purpose ↔
      argument = .given purpose ∧ trim purpose ≠ [] := by
  cases argument with
  | foreign => simp [requirePurpose]
  | given text =>
      by_cases hblank : trim text = []
      · simp only [requirePurpose, hblank, if_true, reduceCtorEq, false_iff,
          Argument.given.injEq, not_and, not_not]
        rintro rfl
        exact hblank
      · simp only [requirePurpose, hblank, if_false, Except.ok.injEq,
          Argument.given.injEq, ne_eq, iff_self_and]
        rintro rfl
        exact hblank

theorem requireLength_eq_ok_iff {hashAlgorithm : String}
    {hkdfMaxOutput bytes : ℕ} {length : JsNumber} :
    requireLength hashAlgorithm hkdfMaxOutput length = .ok bytes ↔
      length.integer = some (bytes : ℤ) ∧ 0 < bytes ∧
        bytes ≤ hkdfMaxOutput := by
  rw [requireLength]
  cases length.integer with
  | none => simp
  | some value =>
      simp only [Option.some.injEq]
      split_ifs with hrange
      · rw [Except.ok.injEq]
        omega
      · simp only [false_iff]
        omega

theorem requirePath_eq_ok_iff {argument : Argument (List PathItem)}
    {path : List PathItem} :
    requirePath argument = .ok path ↔ argument = .given path := by
  cases argument <;> simp [requirePath]

/-- The bytes that an item stands for, when it is of one of the two types. -/
def PathItem.data? : PathItem → Option Bytes
  | .text units => some (textBytes units)
  | .bytes data => some data
  | .nullish => none
  | .foreign => none

theorem itemData_eq_ok_iff {index : ℕ} {item : PathItem} {data : Bytes} :
    itemData index item = .ok data ↔ item.data? = some data := by
  cases item <;> simp [itemData, PathItem.data?]

theorem u32be_eq_ok_iff {length : ℕ} {bytes : Bytes} :
    u32be length = .ok bytes ↔
      length < 256 ^ 4 ∧ Cbor.bigEndian 4 length = bytes := by
  rw [u32be]
  split_ifs with hlarge
  · simp only [false_iff, not_and]
    omega
  · simp only [Except.ok.injEq, iff_and_self]
    omega

/-- A frame as the two parts that are pushed for it. -/
def frameParts (data : Framed 4) : List Bytes :=
  [Cbor.bigEndian 4 data.val.length, data.val]

theorem flatten_frameParts_single (data : Framed 4) :
    (frameParts data).flatten = binaryFrame 4 data := by
  rw [frameParts, List.flatten_cons, List.flatten_singleton, binaryFrame]

theorem flatten_frameParts (items : List (Framed 4)) :
    (items.flatMap frameParts).flatten = items.flatMap (binaryFrame 4) := by
  induction items with
  | nil => rfl
  | cons item rest ih =>
      rw [List.flatMap_cons, List.flatten_append, ih, List.flatMap_cons,
        flatten_frameParts_single]

theorem purposeParts_eq_ok_iff {purpose : Units} {parts : List Bytes} :
    purposeParts purpose = .ok parts ↔
      ∃ data : Framed 4, textBytes purpose = data.val ∧
        parts = frameParts data := by
  simp only [purposeParts, bind_eq_ok_iff, u32be_eq_ok_iff, Except.ok.injEq]
  constructor
  · rintro ⟨header, ⟨hsize, rfl⟩, rfl⟩
    exact ⟨⟨_, hsize⟩, rfl, rfl⟩
  · rintro ⟨⟨data, hsize⟩, rfl, rfl⟩
    exact ⟨_, ⟨hsize, rfl⟩, rfl⟩

theorem itemParts_eq_ok_iff {index : ℕ} {item : PathItem}
    {parts : List Bytes} :
    itemParts index item = .ok parts ↔
      ∃ data : Framed 4, item.data? = some data.val ∧ data.val ≠ [] ∧
        parts = frameParts data := by
  simp only [itemParts, bind_eq_ok_iff, itemData_eq_ok_iff]
  constructor
  · rintro ⟨data, hdata, hparts⟩
    split_ifs at hparts with hempty hlarge
    obtain ⟨header, hheader, hparts⟩ := bind_eq_ok_iff.mp hparts
    obtain ⟨hsize, rfl⟩ := u32be_eq_ok_iff.mp hheader
    rw [Except.ok.injEq] at hparts
    refine ⟨⟨data, hsize⟩, hdata, ?_, hparts.symm⟩
    exact fun hnil => hempty (List.length_eq_zero_iff.mpr hnil)
  · rintro ⟨⟨data, hsize⟩, hdata, hnonempty, rfl⟩
    have hheader := u32be_eq_ok_iff.mpr ⟨hsize, rfl⟩
    have hempty : ¬ data.length = 0 := by
      rwa [List.length_eq_zero_iff]
    have hlarge : ¬ 0xffffffff < data.length := by omega
    exact ⟨data, hdata, by
      rw [if_neg hempty, if_neg hlarge, hheader]
      rfl⟩

theorem pathParts_eq_ok_iff {index : ℕ} {path : List PathItem}
    {parts : List Bytes} :
    pathParts index path = .ok parts ↔
      ∃ items : List (Framed 4),
        path.map PathItem.data? = items.map (fun item => some item.val) ∧
          (∀ item ∈ items, item.val ≠ []) ∧
            parts = items.flatMap frameParts := by
  induction path generalizing index parts with
  | nil =>
      rw [pathParts, Except.ok.injEq]
      constructor
      · rintro rfl
        exact ⟨[], rfl, by simp, rfl⟩
      · rintro ⟨items, hitems, -, rfl⟩
        rw [List.map_eq_nil_iff.mp hitems.symm, List.flatMap_nil]
  | cons item rest ih =>
      simp only [pathParts, bind_eq_ok_iff, itemParts_eq_ok_iff, ih,
        Except.ok.injEq]
      constructor
      · rintro ⟨_, ⟨data, hdata, hnonempty, rfl⟩, _, ⟨items, hitems, hall, rfl⟩,
          rfl⟩
        refine ⟨data :: items, ?_, ?_, rfl⟩
        · rw [List.map_cons, List.map_cons, hdata, hitems]
        · exact List.forall_mem_cons.mpr ⟨hnonempty, hall⟩
      · rintro ⟨items, hitems, hall, rfl⟩
        cases items with
        | nil => simp at hitems
        | cons data items =>
            rw [List.map_cons, List.map_cons, List.cons.injEq] at hitems
            rw [List.forall_mem_cons] at hall
            exact ⟨_, ⟨data, hitems.1, hall.1, rfl⟩, _,
              ⟨items, hitems.2, hall.2, rfl⟩, rfl⟩

/-- The first item that is refused decides the message, with its index. -/
theorem pathParts_eq_error_iff {index : ℕ} {path : List PathItem}
    {message : String} :
    pathParts index path = .error message ↔
      ∃ before item after, path = before ++ item :: after ∧
        (∃ parts, pathParts index before = .ok parts) ∧
        itemParts (index + before.length) item = .error message := by
  induction path generalizing index with
  | nil => simp [pathParts]
  | cons item rest ih =>
      cases hitem : itemParts index item with
      | error failure =>
          rw [pathParts, hitem, error_bind, Except.error.injEq]
          constructor
          · rintro rfl
            exact ⟨[], item, rest, rfl, ⟨[], rfl⟩, hitem⟩
          · rintro ⟨before, other, after, hpath, ⟨parts, hparts⟩, hother⟩
            cases before with
            | nil =>
                obtain ⟨rfl, rfl⟩ := List.cons.inj hpath
                exact Except.error.inj (hitem.symm.trans hother)
            | cons first before =>
                obtain ⟨rfl, -⟩ := List.cons.inj hpath
                rw [pathParts, hitem] at hparts
                cases hparts
      | ok parts =>
          have hrest : pathParts index (item :: rest) = .error message ↔
              pathParts (index + 1) rest = .error message := by
            rw [pathParts, hitem, ok_bind]
            cases pathParts (index + 1) rest <;> simp
          rw [hrest, ih]
          constructor
          · rintro ⟨before, other, after, rfl, ⟨others, hothers⟩, hother⟩
            refine ⟨item :: before, other, after, rfl, ⟨parts ++ others, ?_⟩,
              ?_⟩
            · rw [pathParts, hitem, ok_bind, hothers, ok_bind]
            · rwa [List.length_cons, Nat.add_comm before.length,
                ← Nat.add_assoc]
          · rintro ⟨before, other, after, hpath, ⟨others, hothers⟩, hother⟩
            cases before with
            | nil =>
                obtain ⟨rfl, -⟩ := List.cons.inj hpath
                cases hitem.symm.trans hother
            | cons first before =>
                obtain ⟨rfl, rfl⟩ := List.cons.inj hpath
                obtain ⟨_, -, hlater⟩ := bind_eq_ok_iff.mp hothers
                obtain ⟨later, hlater, -⟩ := bind_eq_ok_iff.mp hlater
                refine ⟨before, other, after, rfl, ⟨later, hlater⟩, ?_⟩
                rwa [List.length_cons, Nat.add_comm before.length,
                  ← Nat.add_assoc] at hother

/-- The sum is cut short exactly when it ends above the limit. -/
theorem totalLength_eq_ok_iff {total result : ℕ} {parts : List Bytes}
    (hstart : total ≤ maxInfoSize) :
    totalLength total parts = .ok result ↔
      total + parts.flatten.length ≤ maxInfoSize ∧
        result = total + parts.flatten.length := by
  induction parts generalizing total with
  | nil =>
      simp only [totalLength, Except.ok.injEq, List.flatten_nil,
        List.length_nil]
      omega
  | cons part rest ih =>
      rw [List.flatten_cons, List.length_append, ← Nat.add_assoc]
      simp only [totalLength]
      split_ifs with hlarge
      · simp only [false_iff]
        omega
      · exact ih (Nat.le_of_not_lt hlarge)

/-! ## Contexts -/

/-- What a key is derived for.  Lengths fit their prefixes and no item is
empty. -/
structure Context where
  purpose : Framed 4
  path : List (Framed 4)
  nonempty : ∀ item ∈ path, item.val ≠ []

def Context.info (context : Context) : Bytes :=
  binaryFrame 4 context.purpose ++ context.path.flatMap (binaryFrame 4)

theorem binaryFrame_ne_nil (data : Framed 4) : binaryFrame 4 data ≠ [] := by
  apply List.ne_nil_of_length_pos
  rw [length_binaryFrame]
  omega

theorem Context.info_injective : Function.Injective Context.info := by
  intro left right heq
  have hframes := flatMap_injective (binaryFrame_selfDelimiting 4)
    binaryFrame_ne_nil
  have hall : left.purpose :: left.path = right.purpose :: right.path :=
    hframes heq
  obtain ⟨hpurpose, hpath⟩ := List.cons.inj hall
  cases left
  cases right
  subst hpurpose hpath
  rfl

/-- The size of the info string for a purpose and some items. -/
def infoSize (purpose : Bytes) (items : List Bytes) : ℕ :=
  ((purpose :: items).map fun data => 4 + data.length).sum

theorem Context.length_info (context : Context) :
    context.info.length =
      infoSize context.purpose.val (context.path.map Subtype.val) := by
  rw [Context.info, List.length_append, length_binaryFrame,
    List.length_flatMap, infoSize, List.map_cons, List.sum_cons, List.map_map]
  simp only [length_binaryFrame, Function.comp_def]

theorem infoOf_eq_ok_iff {purpose : Units} {path : List PathItem}
    {info : Bytes} :
    infoOf purpose path = .ok info ↔
      ∃ context : Context, textBytes purpose = context.purpose.val ∧
        path.map PathItem.data? =
          context.path.map (fun item => some item.val) ∧
        context.info.length ≤ maxInfoSize ∧ info = context.info := by
  have hflatten : ∀ (data : Framed 4) (items : List (Framed 4)),
      (frameParts data ++ items.flatMap frameParts).flatten =
        binaryFrame 4 data ++ items.flatMap (binaryFrame 4) := by
    intro data items
    rw [List.flatten_append, flatten_frameParts_single, flatten_frameParts]
  have hsum : ∀ (parts : List Bytes) (total : ℕ),
      totalLength 0 parts = .ok total ↔
        parts.flatten.length ≤ maxInfoSize ∧ total = parts.flatten.length := by
    intro parts total
    rw [totalLength_eq_ok_iff (Nat.zero_le _), Nat.zero_add]
  simp only [infoOf, bind_eq_ok_iff, purposeParts_eq_ok_iff,
    pathParts_eq_ok_iff, hsum]
  constructor
  · rintro ⟨_, ⟨data, hpurpose, rfl⟩, _, ⟨items, hitems, hnonempty, rfl⟩,
      _, ⟨hsize, rfl⟩, hinfo⟩
    rw [concatenate_eq, Except.ok.injEq] at hinfo
    rw [hflatten] at hsize hinfo
    exact ⟨⟨data, items, hnonempty⟩, hpurpose, hitems, hsize, hinfo.symm⟩
  · rintro ⟨⟨data, items, hnonempty⟩, hpurpose, hitems, hsize, rfl⟩
    refine ⟨_, ⟨data, hpurpose, rfl⟩, _, ⟨items, hitems, hnonempty, rfl⟩, _,
      ⟨?_, rfl⟩, ?_⟩
    · rw [hflatten]
      exact hsize
    · rw [concatenate_eq, hflatten]
      rfl

section Accepted

variable {Key : Type}

/-- The purpose and the items of the path, taken as bytes. -/
def Arguments.Carries (arguments : Arguments Key) (purpose : Bytes)
    (items : List Bytes) : Prop :=
  (∃ text, arguments.purpose = .given text ∧ textBytes text = purpose) ∧
    ∃ path, arguments.path = .given path ∧
      path.map PathItem.data? = items.map some

/-- What is checked beside the info string. -/
structure Arguments.Valid (arguments : Arguments Key) : Prop where
  base : ∃ key, arguments.base = some (.given key)
  purpose : ∃ text, arguments.purpose = .given text ∧ trim text ≠ []
  length : ∃ size bytes : ℕ,
    hashOutputSizes (arguments.options.hash.getD "SHA-256") = some size ∧
      (arguments.options.length.getD (.ofNat size)).integer =
        some (bytes : ℤ) ∧ 0 < bytes ∧ bytes ≤ 255 * size
  salt : arguments.options.salt ≠ some .foreign

theorem requireSalt_eq_ok_iff {argument : Option (Argument Bytes)} :
    (∃ salt, requireSalt argument = .ok salt) ↔
      argument ≠ some .foreign := by
  rcases argument with _ | _ | _ <;> simp [requireSalt]

theorem Arguments.Carries.unique {arguments : Arguments Key}
    {purpose purpose' : Bytes} {items items' : List Bytes}
    (hleft : arguments.Carries purpose items)
    (hright : arguments.Carries purpose' items') :
    purpose = purpose' ∧ items = items' := by
  obtain ⟨⟨text, htext, rfl⟩, path, hpath, hitems⟩ := hleft
  obtain ⟨⟨text', htext', rfl⟩, path', hpath', hitems'⟩ := hright
  rw [htext, Argument.given.injEq] at htext'
  rw [hpath, Argument.given.injEq] at hpath'
  subst htext' hpath'
  exact ⟨rfl, List.map_injective_iff.mpr (Option.some_injective _)
    (hitems.symm.trans hitems')⟩

/-- The arguments that are accepted, and the info string of the call they
lead to. -/
theorem prepare_eq_ok_iff {arguments : Arguments Key} {info : Bytes} :
    (∃ call, prepare arguments = .ok call ∧ call.params.info = info) ↔
      arguments.Valid ∧ ∃ context : Context,
        arguments.Carries context.purpose.val
            (context.path.map Subtype.val) ∧
          context.info.length ≤ maxInfoSize ∧ info = context.info := by
  have hmap : ∀ items : List (Framed 4),
      items.map (fun item => some item.val) =
        (items.map Subtype.val).map some := by
    intro items
    rw [List.map_map]
    rfl
  simp only [prepare, bind_eq_ok_iff, requireHash_eq_ok_iff,
    requireBase_eq_ok_iff, requirePurpose_eq_ok_iff, requireLength_eq_ok_iff,
    requirePath_eq_ok_iff, infoOf_eq_ok_iff, Except.ok.injEq]
  constructor
  · rintro ⟨call, ⟨size, hsize, key, hbase, text, ⟨htext, hblank⟩, bytes,
      hbytes, path, hpath, salt, hsalt, _, ⟨context, hpurpose, hitems, hfits,
      rfl⟩, rfl⟩, rfl⟩
    refine ⟨⟨⟨key, hbase⟩, ⟨text, htext, hblank⟩, ⟨size, bytes, hsize, hbytes⟩,
      requireSalt_eq_ok_iff.mp ⟨salt, hsalt⟩⟩, context, ⟨⟨text, htext,
      hpurpose⟩, path, hpath, ?_⟩, hfits, rfl⟩
    rw [hitems, hmap]
  · rintro ⟨hvalid, context, ⟨⟨text, htext, hpurpose⟩, path, hpath, hitems⟩,
      hfits, rfl⟩
    obtain ⟨key, hbase⟩ := hvalid.base
    obtain ⟨text', htext', hblank⟩ := hvalid.purpose
    obtain ⟨size, bytes, hsize, hbytes⟩ := hvalid.length
    obtain ⟨salt, hsalt⟩ := requireSalt_eq_ok_iff.mpr hvalid.salt
    have hsame : text' = text := Argument.given.inj (htext'.symm.trans htext)
    rw [hsame] at hblank
    rw [← hmap] at hitems
    exact ⟨_, ⟨size, hsize, key, hbase, text, ⟨htext, hblank⟩, bytes, hbytes,
      path, hpath, salt, hsalt, _, ⟨context, hpurpose, hitems, hfits, rfl⟩,
      rfl⟩, rfl⟩

theorem context_of_prepare {arguments : Arguments Key} {call : DeriveBits Key}
    (haccepted : prepare arguments = .ok call) :
    ∃ context : Context, arguments.Carries context.purpose.val
        (context.path.map Subtype.val) ∧
      context.info.length ≤ maxInfoSize ∧
        call.params.info = context.info :=
  (prepare_eq_ok_iff.mp ⟨call, haccepted, rfl⟩).2

/-- Items without an empty one, small enough altogether, make a context. -/
theorem exists_context {purpose : Bytes} {items : List Bytes}
    (hnonempty : [] ∉ items) (hfits : infoSize purpose items ≤ maxInfoSize) :
    ∃ context : Context, context.purpose.val = purpose ∧
      context.path.map Subtype.val = items := by
  have hlength : ∀ data ∈ purpose :: items, data.length < 256 ^ 4 := by
    intro data hdata
    have hle : 4 + data.length ≤ infoSize purpose items :=
      List.le_sum_of_mem (List.mem_map_of_mem hdata)
    have hmax : maxInfoSize < 256 ^ 4 := by decide
    omega
  rw [List.forall_mem_cons] at hlength
  refine ⟨⟨⟨purpose, hlength.1⟩, items.attachWith _ hlength.2, ?_⟩, rfl,
    List.attachWith_map_subtype_val _⟩
  rintro ⟨item, hsize⟩ hitem rfl
  have hmem := List.mem_map_of_mem (f := Subtype.val) hitem
  rw [List.attachWith_map_subtype_val] at hmem
  exact hnonempty hmem

/-- A key comes from the one call that is prepared. -/
theorem deriveKey_eq_ok_iff {arguments : Arguments Key} {key : Bytes}
    {deriveBits : DeriveBits Key → Except String Bytes} :
    deriveKey deriveBits arguments = .ok key ↔
      ∃ call, prepare arguments = .ok call ∧ deriveBits call = .ok key := by
  rw [deriveKey, bind_eq_ok_iff]
  refine exists_congr fun call => and_congr_right fun _ => ?_
  cases deriveBits call <;> simp

theorem deriveKey_error {arguments : Arguments Key}
    (hrejected : ¬ ∃ call, prepare arguments = .ok call)
    (deriveBits : DeriveBits Key → Except String Bytes) :
    ∃ message, deriveKey deriveBits arguments = .error message := by
  cases hprepare : prepare arguments with
  | ok call => exact absurd ⟨call, hprepare⟩ hrejected
  | error message => exact ⟨message, by rw [deriveKey, hprepare, error_bind]⟩

/-- Equal info strings come from equal contexts. -/
theorem eq_of_info_eq {left right : Arguments Key}
    {leftCall rightCall : DeriveBits Key} {purpose purpose' : Bytes}
    {items items' : List Bytes} (hleft : prepare left = .ok leftCall)
    (hright : prepare right = .ok rightCall)
    (hcarries : left.Carries purpose items)
    (hcarries' : right.Carries purpose' items')
    (hinfo : leftCall.params.info = rightCall.params.info) :
    purpose = purpose' ∧ items = items' := by
  obtain ⟨context, hcontext, -, heq⟩ := context_of_prepare hleft
  obtain ⟨context', hcontext', -, heq'⟩ := context_of_prepare hright
  have hsame : context = context' :=
    Context.info_injective (heq.symm.trans (hinfo.trans heq'))
  subst hsame
  obtain ⟨rfl, rfl⟩ := hcarries.unique hcontext
  obtain ⟨rfl, rfl⟩ := hcarries'.unique hcontext'
  exact ⟨rfl, rfl⟩

theorem not_accepted_of_empty {arguments : Arguments Key}
    {path : List PathItem} {item : PathItem}
    (hpath : arguments.path = .given path) (hitem : item ∈ path)
    (hempty : item.data? = some []) :
    ¬ ∃ call, prepare arguments = .ok call := by
  rintro ⟨call, haccepted⟩
  obtain ⟨context, ⟨-, path', hpath', hitems⟩, -⟩ :=
    context_of_prepare haccepted
  rw [hpath, Argument.given.injEq] at hpath'
  subst hpath'
  have hmem : some [] ∈ (context.path.map Subtype.val).map some := by
    rw [← hitems, ← hempty]
    exact List.mem_map_of_mem hitem
  obtain ⟨data, hdata, hnil⟩ := List.mem_map.mp
    (List.mem_map_of_injective (Option.some_injective _) |>.mp hmem)
  exact context.nonempty data hdata hnil

theorem accepted_iff {arguments : Arguments Key} {purpose : Bytes}
    {items : List Bytes} (hvalid : arguments.Valid)
    (hcarries : arguments.Carries purpose items) (hnonempty : [] ∉ items) :
    (∃ call, prepare arguments = .ok call) ↔
      infoSize purpose items ≤ maxInfoSize := by
  constructor
  · rintro ⟨call, haccepted⟩
    obtain ⟨context, hcontext, hfits, -⟩ := context_of_prepare haccepted
    obtain ⟨rfl, rfl⟩ := hcarries.unique hcontext
    rwa [← Context.length_info]
  · intro hfits
    obtain ⟨context, rfl, rfl⟩ := exists_context hnonempty hfits
    rw [← Context.length_info] at hfits
    obtain ⟨call, haccepted, -⟩ := prepare_eq_ok_iff.mpr
      ⟨hvalid, context, hcarries, hfits, rfl⟩
    exact ⟨call, haccepted⟩

/-- The info string of an accepted call, with every prefix exact. -/
theorem info_of_prepare {arguments : Arguments Key} {call : DeriveBits Key}
    (haccepted : prepare arguments = .ok call) :
    ∃ purpose items, arguments.Carries purpose items ∧
      call.params.info.length = infoSize purpose items ∧
      call.params.info = (purpose :: items).flatMap (fun data =>
        Cbor.bigEndian 4 data.length ++ data) ∧
      ∀ data ∈ purpose :: items, data.length < 2 ^ 32 := by
  obtain ⟨context, hcontext, -, hinfo⟩ := context_of_prepare haccepted
  refine ⟨_, _, hcontext, ?_, ?_, ?_⟩
  · rw [hinfo, Context.length_info]
  · rw [hinfo, Context.info, List.flatMap_cons, List.flatMap_map]
    rfl
  · rw [← List.map_cons, List.forall_mem_map]
    rintro ⟨data, hsize⟩ -
    exact hsize.trans_eq (by norm_num)

end Accepted

/-- Derivation contexts do not collide, empty items are refused, and the size
of the info string is the only other thing about it that is checked, which
leaves every length prefix exact. -/
theorem derivation_contexts {Key : Type} :
    (∀ (left right : Arguments Key) (leftCall rightCall : DeriveBits Key)
        (purpose purpose' : Bytes) (items items' : List Bytes),
      prepare left = .ok leftCall → prepare right = .ok rightCall →
        left.Carries purpose items → right.Carries purpose' items' →
          leftCall.params.info = rightCall.params.info →
            purpose = purpose' ∧ items = items') ∧
    (∀ (arguments : Arguments Key) (path : List PathItem) (item : PathItem),
      arguments.path = .given path → item ∈ path → item.data? = some [] →
        ∀ deriveBits, ∃ message,
          deriveKey deriveBits arguments = .error message) ∧
    (∀ (arguments : Arguments Key) (purpose : Bytes) (items : List Bytes),
      arguments.Valid → arguments.Carries purpose items → [] ∉ items →
        ((∃ call, prepare arguments = .ok call) ↔
          infoSize purpose items ≤ maxInfoSize)) ∧
    (∀ (arguments : Arguments Key) (call : DeriveBits Key),
      prepare arguments = .ok call → ∃ purpose items,
        arguments.Carries purpose items ∧
          call.params.info.length = infoSize purpose items ∧
          call.params.info = (purpose :: items).flatMap (fun data =>
            Cbor.bigEndian 4 data.length ++ data) ∧
          ∀ data ∈ purpose :: items, data.length < 2 ^ 32) := by
  refine ⟨?_, ?_, ?_, ?_⟩
  · intro left right leftCall rightCall purpose purpose' items items' hleft
      hright hcarries hcarries' hinfo
    exact eq_of_info_eq hleft hright hcarries hcarries' hinfo
  · intro arguments path item hpath hitem hempty
    exact deriveKey_error (not_accepted_of_empty hpath hitem hempty)
  · intro arguments purpose items hvalid hcarries hnonempty
    exact accepted_iff hvalid hcarries hnonempty
  · intro arguments call haccepted
    exact info_of_prepare haccepted

example : prepare ⟨some (.given ()), .given [97],
      .given [.bytes [0, 1], .text [0xE9]], ⟨none, none, none⟩⟩ =
    .ok ⟨⟨"SHA-256", [], [0, 0, 0, 1, 97, 0, 0, 0, 2, 0, 1, 0, 0, 0, 2,
      0xC3, 0xA9]⟩, (), 256⟩ := by
  decide

end NxccBridge.DeriveKey
