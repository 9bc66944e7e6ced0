import Mathlib.Tactic
import NxccBridge.Core.Text

/-!
# UTF-16

Texts as JavaScript has them, any sequence of 16-bit code units.  Half of a
surrogate pair may stand alone; it is no character, and the encoders of the
platform write U+FFFD in its place.
-/

namespace NxccBridge.Utf16

open Function
open NxccBridge.Framing
open NxccBridge.Text

abbrev CodeUnit := Fin 65536
abbrev Units := List CodeUnit

instance neZeroCodeUnit : NeZero 65536 := ⟨Nat.succ_ne_zero 65535⟩

def isHigh (unit : CodeUnit) : Bool := 0xD800 ≤ unit.val && unit.val < 0xDC00

def isLow (unit : CodeUnit) : Bool := 0xDC00 ≤ unit.val && unit.val < 0xE000

def replacement : Char := '\uFFFD'

/-- A unit on its own: no half of a pair is a character. -/
def single (unit : CodeUnit) : Char :=
  if isHigh unit || isLow unit then replacement else Char.ofNat unit.val

def pair (high low : CodeUnit) : Char :=
  Char.ofNat (0x10000 + (high.val - 0xD800) * 0x400 + (low.val - 0xDC00))

def decode : Units → List Char
  | [] => []
  | [unit] => [single unit]
  | unit :: next :: rest =>
      if isHigh unit && isLow next then pair unit next :: decode rest
      else single unit :: decode (next :: rest)

def encodeChar (char : Char) : Units :=
  if char.toNat < 0x10000 then [Fin.ofNat 65536 char.toNat]
  else
    let offset := char.toNat - 0x10000
    [Fin.ofNat 65536 (0xD800 + offset / 0x400),
      Fin.ofNat 65536 (0xDC00 + offset % 0x400)]

def encode (chars : List Char) : Units := chars.flatMap encodeChar

/-- The code units of a text. -/
def units (text : String) : Units := encode text.toList

/-- `toWellFormed`: the text with U+FFFD for every unpaired surrogate. -/
def toWellFormed (text : Units) : Units := encode (decode text)

/-- The bytes that `TextEncoder` writes for a text. -/
def textBytes (text : Units) : Bytes := utf8 (String.ofList (decode text))

/-- White space and line terminators of ECMAScript. -/
def isWhiteSpace (unit : CodeUnit) : Bool :=
  let number := unit.val
  (9 ≤ number && number ≤ 13) || number = 32 || number = 160 ||
    number = 5760 || (8192 ≤ number && number ≤ 8202) || number = 8232 ||
    number = 8233 || number = 8239 || number = 8287 || number = 12288 ||
    number = 65279

def trim (text : Units) : Units :=
  (text.dropWhile isWhiteSpace).rdropWhile isWhiteSpace

/-! ## Reading back -/

theorem isHigh_eq_false_iff (unit : CodeUnit) :
    isHigh unit = false ↔ unit.val < 0xD800 ∨ 0xDC00 ≤ unit.val := by
  simp only [isHigh, Bool.and_eq_false_iff, decide_eq_false_iff_not]
  omega

theorem isLow_eq_false_iff (unit : CodeUnit) :
    isLow unit = false ↔ unit.val < 0xDC00 ∨ 0xE000 ≤ unit.val := by
  simp only [isLow, Bool.and_eq_false_iff, decide_eq_false_iff_not]
  omega

theorem single_eq_ofNat {unit : CodeUnit}
    (hrange : unit.val < 0xD800 ∨ 0xE000 ≤ unit.val) :
    single unit = Char.ofNat unit.val := by
  have hhigh : isHigh unit = false := (isHigh_eq_false_iff unit).mpr (by omega)
  have hlow : isLow unit = false := (isLow_eq_false_iff unit).mpr (by omega)
  rw [single, hhigh, hlow, Bool.or_false, if_neg Bool.false_ne_true]

theorem decode_cons {unit : CodeUnit} (hunit : isHigh unit = false)
    (rest : Units) : decode (unit :: rest) = single unit :: decode rest := by
  cases rest with
  | nil => rfl
  | cons next rest => simp [decode, hunit]

theorem decode_pair {high low : CodeUnit} (hhigh : isHigh high)
    (hlow : isLow low) (rest : Units) :
    decode (high :: low :: rest) = pair high low :: decode rest := by
  rw [decode, hhigh, hlow, Bool.and_self, if_pos rfl]

/-- The two halves that stand for an offset above the first 65536 characters. -/
theorem pair_halves (offset : ℕ) (hoffset : offset < 0x100000) :
    ∃ high low, [high, low] = [Fin.ofNat 65536 (0xD800 + offset / 0x400),
        Fin.ofNat 65536 (0xDC00 + offset % 0x400)] ∧ isHigh high ∧ isLow low ∧
      pair high low = Char.ofNat (0x10000 + offset) := by
  have hhigh : (Fin.ofNat 65536 (0xD800 + offset / 0x400)).val =
      0xD800 + offset / 0x400 := Nat.mod_eq_of_lt (by omega)
  have hlow : (Fin.ofNat 65536 (0xDC00 + offset % 0x400)).val =
      0xDC00 + offset % 0x400 := Nat.mod_eq_of_lt (by omega)
  refine ⟨_, _, rfl, ?_, ?_, ?_⟩
  · simp only [isHigh, hhigh, Bool.and_eq_true, decide_eq_true_eq]
    omega
  · simp only [isLow, hlow, Bool.and_eq_true, decide_eq_true_eq]
    omega
  · have hnumber : 0x10000 + (0xD800 + offset / 0x400 - 0xD800) * 0x400 +
        (0xDC00 + offset % 0x400 - 0xDC00) = 0x10000 + offset := by omega
    rw [pair, hhigh, hlow, hnumber]

theorem toNat_range (char : Char) :
    char.toNat < 0xD800 ∨ (0xDFFF < char.toNat ∧ char.toNat < 0x110000) :=
  char.valid

theorem decode_encodeChar (char : Char) (rest : Units) :
    decode (encodeChar char ++ rest) = char :: decode rest := by
  have hrange := toNat_range char
  by_cases hsmall : char.toNat < 0x10000
  · have hval : (Fin.ofNat 65536 char.toNat).val = char.toNat :=
      Nat.mod_eq_of_lt hsmall
    have hhigh : isHigh (Fin.ofNat 65536 char.toNat) = false :=
      (isHigh_eq_false_iff _).mpr (by omega)
    rw [encodeChar, if_pos hsmall, List.singleton_append, decode_cons hhigh,
      single_eq_ofNat (by omega), hval, Char.ofNat_toNat]
  · obtain ⟨high, low, hunits, hhigh, hlow, hpair⟩ :=
      pair_halves (char.toNat - 0x10000) (by omega)
    have hnumber : 0x10000 + (char.toNat - 0x10000) = char.toNat := by omega
    rw [encodeChar, if_neg hsmall, ← hunits]
    calc decode ([high, low] ++ rest) = pair high low :: decode rest :=
          decode_pair hhigh hlow rest
      _ = char :: decode rest := by rw [hpair, hnumber, Char.ofNat_toNat]

@[simp]
theorem decode_encode (chars : List Char) : decode (encode chars) = chars := by
  induction chars with
  | nil => rfl
  | cons char rest ih =>
      rw [encode, List.flatMap_cons, decode_encodeChar, ← encode, ih]

theorem encode_injective : Injective encode :=
  LeftInverse.injective decode_encode

@[simp]
theorem textBytes_units (text : String) :
    textBytes (units text) = utf8 text := by
  rw [textBytes, units, decode_encode, String.ofList_toList]

/-- The encoder tells two texts apart unless they differ in unpaired surrogates
only. -/
theorem textBytes_eq_iff (left right : Units) :
    textBytes left = textBytes right ↔
      toWellFormed left = toWellFormed right := by
  constructor
  · intro heq
    have hchars := String.ofList_injective (utf8_injective heq)
    rw [toWellFormed, hchars, ← toWellFormed]
  · intro heq
    have hchars := encode_injective heq
    rw [textBytes, hchars, ← textBytes]

/-! ## ASCII -/

def isAscii (unit : CodeUnit) : Bool := unit.val < 128

theorem single_ascii {unit : CodeUnit} (hascii : isAscii unit) :
    (single unit).toNat < 128 := by
  have hlt : unit.val < 128 := of_decide_eq_true hascii
  rw [single_eq_ofNat (by omega), Char.ofNat, dif_pos (Or.inl (by omega))]
  exact hlt

/-- Without a first half of a pair the units are read one by one. -/
theorem decode_eq_map {text : Units}
    (hnone : ∀ unit ∈ text, isHigh unit = false) :
    decode text = text.map single := by
  induction text with
  | nil => rfl
  | cons unit rest ih =>
      rw [List.forall_mem_cons] at hnone
      rw [decode_cons hnone.1, ih hnone.2, List.map_cons]

theorem length_utf8EncodeChar_ascii {char : Char} (hascii : char.toNat < 128) :
    (String.utf8EncodeChar char).length = 1 := by
  rw [String.length_utf8EncodeChar, Char.utf8Size_eq_one_iff]
  exact UInt32.le_iff_toNat_le.mpr (Nat.le_of_lt_succ hascii)

/-- An ASCII text takes one byte for each code unit. -/
theorem length_textBytes_of_ascii {text : Units}
    (hascii : ∀ unit ∈ text, isAscii unit) :
    (textBytes text).length = text.length := by
  have hnone : ∀ unit ∈ text, isHigh unit = false := by
    intro unit hunit
    have hlt : unit.val < 128 := of_decide_eq_true (hascii unit hunit)
    exact (isHigh_eq_false_iff unit).mpr (by omega)
  rw [textBytes, utf8_eq_flatMap, String.toList_ofList, decode_eq_map hnone,
    List.flatMap_map, List.length_flatMap]
  have hone : text.map (fun unit => ((String.utf8EncodeChar (single unit)).map
      UInt8.toFin).length) = text.map fun _ => 1 := by
    refine List.map_congr_left fun unit hunit => ?_
    rw [List.length_map, length_utf8EncodeChar_ascii
      (single_ascii (hascii unit hunit))]
  rw [hone, List.map_const', List.sum_replicate, smul_eq_mul, mul_one]

end NxccBridge.Utf16
