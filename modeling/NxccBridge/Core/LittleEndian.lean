import Mathlib.Tactic
import NxccBridge.Core.Framing

/-!
# Little-endian words

The `to_le_bytes` layout of an unsigned number: byte `i` holds the bits
`8*i .. 8*i+7`.  A machine word is described by its width and its value, so
that the round trip is proved once for all widths.
-/

namespace NxccBridge.LittleEndian

open Function
open NxccBridge.Framing

/-- The little-endian bytes of a number, on a fixed width. -/
def encode : ℕ → ℕ → Bytes
  | 0, _ => []
  | width + 1, value => Fin.ofNat 256 value :: encode width (value / 256)

/-- The number with the given little-endian bytes. -/
def decode : Bytes → ℕ
  | [] => 0
  | byte :: rest => byte.val + 256 * decode rest

@[simp]
theorem length_encode (width value : ℕ) :
    (encode width value).length = width := by
  induction width generalizing value with
  | zero => rfl
  | succ width ih => simp [encode, ih]

theorem decode_lt (bytes : Bytes) : decode bytes < 256 ^ bytes.length := by
  induction bytes with
  | nil => simp [decode]
  | cons byte rest ih =>
      have hbyte := byte.isLt
      simp only [decode, List.length_cons, pow_succ]
      omega

theorem decode_encode {width value : ℕ} (hvalue : value < 256 ^ width) :
    decode (encode width value) = value := by
  induction width generalizing value with
  | zero =>
      simp only [pow_zero, Nat.lt_one_iff] at hvalue
      simp [encode, decode, hvalue]
  | succ width ih =>
      have hquotient : value / 256 < 256 ^ width :=
        Nat.div_lt_of_lt_mul (by rwa [pow_succ, mul_comm] at hvalue)
      simp only [encode, decode, ih hquotient, Fin.val_ofNat]
      exact Nat.mod_add_div value 256

theorem encode_decode (bytes : Bytes) :
    encode bytes.length (decode bytes) = bytes := by
  induction bytes with
  | nil => rfl
  | cons byte rest ih =>
      have hbyte := byte.isLt
      have hquotient : (byte.val + 256 * decode rest) / 256 = decode rest := by
        omega
      simp only [List.length_cons, encode, decode, hquotient, ih,
        List.cons.injEq, and_true]
      apply Fin.ext
      simp only [Fin.val_ofNat]
      omega

/-! ## Machine words -/

/-- An unsigned machine word of `width` bytes. -/
structure Word (W : Type*) where
  width : ℕ
  toNat : W → ℕ
  ofNat : ℕ → W
  toNat_lt : ∀ word, toNat word < 256 ^ width
  ofNat_toNat : ∀ word, ofNat (toNat word) = word
  toNat_ofNat : ∀ value, value < 256 ^ width → toNat (ofNat value) = value

def u16 : Word UInt16 where
  width := 2
  toNat := UInt16.toNat
  ofNat := UInt16.ofNat
  toNat_lt := UInt16.toNat_lt
  ofNat_toNat := fun _ => UInt16.ofNat_toNat
  toNat_ofNat := fun _ hvalue => UInt16.toNat_ofNat_of_lt' hvalue

def u32 : Word UInt32 where
  width := 4
  toNat := UInt32.toNat
  ofNat := UInt32.ofNat
  toNat_lt := UInt32.toNat_lt
  ofNat_toNat := fun _ => UInt32.ofNat_toNat
  toNat_ofNat := fun _ hvalue => UInt32.toNat_ofNat_of_lt' hvalue

def u64 : Word UInt64 where
  width := 8
  toNat := UInt64.toNat
  ofNat := UInt64.ofNat
  toNat_lt := UInt64.toNat_lt
  ofNat_toNat := fun _ => UInt64.ofNat_toNat
  toNat_ofNat := fun _ hvalue => UInt64.toNat_ofNat_of_lt' hvalue

@[simp] theorem u16_width : u16.width = 2 := rfl
@[simp] theorem u32_width : u32.width = 4 := rfl
@[simp] theorem u64_width : u64.width = 8 := rfl

variable {W : Type*}

def Word.toLeBytes (word : Word W) (value : W) : Bytes :=
  encode word.width (word.toNat value)

def Word.fromLeBytes (word : Word W) (bytes : Bytes) : W :=
  word.ofNat (decode bytes)

@[simp]
theorem Word.length_toLeBytes (word : Word W) (value : W) :
    (word.toLeBytes value).length = word.width :=
  length_encode _ _

@[simp]
theorem Word.fromLeBytes_toLeBytes (word : Word W) (value : W) :
    word.fromLeBytes (word.toLeBytes value) = value := by
  rw [Word.fromLeBytes, Word.toLeBytes, decode_encode (word.toNat_lt value)]
  exact word.ofNat_toNat value

theorem Word.toLeBytes_fromLeBytes (word : Word W) {bytes : Bytes}
    (hlength : bytes.length = word.width) :
    word.toLeBytes (word.fromLeBytes bytes) = bytes := by
  have hvalue : decode bytes < 256 ^ word.width := hlength ▸ decode_lt bytes
  rw [Word.toLeBytes, Word.fromLeBytes, word.toNat_ofNat _ hvalue, ← hlength]
  exact encode_decode bytes

theorem Word.toLeBytes_injective (word : Word W) : Injective word.toLeBytes :=
  LeftInverse.injective word.fromLeBytes_toLeBytes

/-- Words written one after another are read off position by position. -/
theorem Word.toLeBytes_selfDelimiting (word : Word W) :
    SelfDelimiting word.toLeBytes := by
  intro left right leftRest rightRest heq
  obtain ⟨hword, hrest⟩ := List.append_inj heq (by simp)
  exact ⟨word.toLeBytes_injective hword, hrest⟩

end NxccBridge.LittleEndian
