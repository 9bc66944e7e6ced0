import Mathlib.Tactic
import NxccBridge.Core.Framing

/-!
# CBOR data items

The definite-length items that a serde serializer writes: unsigned integers,
byte strings, text strings, arrays and maps.  Every item starts with a head
that carries its major type and one number, and every item is self-delimiting.
-/

namespace NxccBridge.Cbor

open Function
open NxccBridge.Framing

/-- The low byte of a number. -/
def lowByte (value : ℕ) : Byte := ⟨value % 256, Nat.mod_lt _ (by norm_num)⟩

/-- The big-endian bytes of a number, on a fixed width. -/
def bigEndian : ℕ → ℕ → Bytes
  | 0, _ => []
  | width + 1, value => bigEndian width (value / 256) ++ [lowByte value]

@[simp]
theorem length_bigEndian (width value : ℕ) :
    (bigEndian width value).length = width := by
  induction width generalizing value with
  | zero => rfl
  | succ width ih => simp [bigEndian, ih]

theorem bigEndian_inj {width left right : ℕ}
    (hleft : left < 256 ^ width) (hright : right < 256 ^ width)
    (heq : bigEndian width left = bigEndian width right) : left = right := by
  induction width generalizing left right with
  | zero => simp at hleft hright; omega
  | succ width ih =>
      obtain ⟨hhigh, hlow⟩ := List.append_inj' heq rfl
      have hquotient : left / 256 = right / 256 :=
        ih (Nat.div_lt_of_lt_mul (by rwa [pow_succ, mul_comm] at hleft))
          (Nat.div_lt_of_lt_mul (by rwa [pow_succ, mul_comm] at hright)) hhigh
      have hremainder : left % 256 = right % 256 := by
        simpa [lowByte] using hlow
      omega

/-! ## Heads -/

instance neZeroMajor : NeZero 8 := ⟨Nat.succ_ne_zero 7⟩

/-- The five low bits of the first byte: the number itself when it is small,
otherwise the width of the bytes that follow.  No length reaches `2 ^ 64`, so
the reserved value 28 only keeps the function total. -/
def additionalInfo (value : ℕ) : ℕ :=
  if value < 24 then value
  else if value < 256 ^ 1 then 24
  else if value < 256 ^ 2 then 25
  else if value < 256 ^ 4 then 26
  else if value < 256 ^ 8 then 27
  else 28

def argument (value : ℕ) : Bytes :=
  if value < 24 then []
  else if value < 256 ^ 1 then bigEndian 1 value
  else if value < 256 ^ 2 then bigEndian 2 value
  else if value < 256 ^ 4 then bigEndian 4 value
  else if value < 256 ^ 8 then bigEndian 8 value
  else List.replicate value 1 ++ [0]

theorem additionalInfo_lt (value : ℕ) : additionalInfo value < 32 := by
  unfold additionalInfo
  split_ifs <;> omega

def initialByte (major : Fin 8) (value : ℕ) : Byte :=
  ⟨major.val * 32 + additionalInfo value, by
    have hinfo := additionalInfo_lt value
    omega⟩

/-- Major type and number in front of an item. -/
def head (major : Fin 8) (value : ℕ) : Bytes :=
  initialByte major value :: argument value

theorem initialByte_inj {leftMajor rightMajor : Fin 8} {left right : ℕ}
    (heq : initialByte leftMajor left = initialByte rightMajor right) :
    leftMajor = rightMajor ∧ additionalInfo left = additionalInfo right := by
  have hleft := additionalInfo_lt left
  have hright := additionalInfo_lt right
  have hval : leftMajor.val * 32 + additionalInfo left =
      rightMajor.val * 32 + additionalInfo right := congrArg Fin.val heq
  exact ⟨Fin.ext (by omega), by omega⟩

private theorem replicate_one_inj {left right : ℕ}
    {leftRest rightRest : Bytes}
    (heq : List.replicate left (1 : Byte) ++ 0 :: leftRest =
      List.replicate right (1 : Byte) ++ 0 :: rightRest) :
    left = right ∧ leftRest = rightRest := by
  induction left generalizing right with
  | zero =>
      cases right with
      | zero => simpa using heq
      | succ right => simp [List.replicate_succ] at heq
  | succ left ih =>
      cases right with
      | zero => simp [List.replicate_succ] at heq
      | succ right =>
          simp only [List.replicate_succ, List.cons_append,
            List.cons.injEq, true_and] at heq
          obtain ⟨hcount, hrest⟩ := ih heq
          exact ⟨by rw [hcount], hrest⟩

/-- The additional information tells the range of the number. -/
theorem lt_iff_additionalInfo_lt (value : ℕ) :
    (value < 24 ↔ additionalInfo value < 24) ∧
      (value < 256 ^ 1 ↔ additionalInfo value < 25) ∧
      (value < 256 ^ 2 ↔ additionalInfo value < 26) ∧
      (value < 256 ^ 4 ↔ additionalInfo value < 27) ∧
      (value < 256 ^ 8 ↔ additionalInfo value < 28) := by
  unfold additionalInfo
  split_ifs <;> omega

/-- Once the width is known, the number and what follows it are determined. -/
theorem argument_inj {left right : ℕ} {leftRest rightRest : Bytes}
    (hinfo : additionalInfo left = additionalInfo right)
    (heq : argument left ++ leftRest = argument right ++ rightRest) :
    left = right ∧ leftRest = rightRest := by
  have hwide : ∀ width, left < 256 ^ width → right < 256 ^ width →
      bigEndian width left ++ leftRest = bigEndian width right ++ rightRest →
        left = right ∧ leftRest = rightRest := by
    intro width hleft hright hbytes
    obtain ⟨hcode, hrest⟩ := List.append_inj hbytes (by simp)
    exact ⟨bigEndian_inj hleft hright hcode, hrest⟩
  -- both numbers lie in one range
  have hranges := lt_iff_additionalInfo_lt left
  simp only [hinfo, ← lt_iff_additionalInfo_lt right] at hranges
  obtain ⟨hinline, hone, htwo, hfour, height⟩ := hranges
  rw [argument, argument] at heq
  simp only [hinline, hone, htwo, hfour, height] at heq
  split_ifs at heq with hright hright hright hright hright
  · rw [additionalInfo, additionalInfo, if_pos (hinline.mpr hright),
      if_pos hright] at hinfo
    exact ⟨hinfo, heq⟩
  · exact hwide 1 (hone.mpr hright) hright heq
  · exact hwide 2 (htwo.mpr hright) hright heq
  · exact hwide 4 (hfour.mpr hright) hright heq
  · exact hwide 8 (height.mpr hright) hright heq
  · rw [List.append_assoc, List.append_assoc] at heq
    exact replicate_one_inj heq

theorem head_append_inj {leftMajor rightMajor : Fin 8} {left right : ℕ}
    {leftRest rightRest : Bytes}
    (heq : head leftMajor left ++ leftRest =
      head rightMajor right ++ rightRest) :
    leftMajor = rightMajor ∧ left = right ∧ leftRest = rightRest := by
  simp only [head, List.cons_append, List.cons.injEq] at heq
  obtain ⟨hmajor, hinfo⟩ := initialByte_inj heq.1
  obtain ⟨hvalue, hrest⟩ := argument_inj hinfo heq.2
  exact ⟨hmajor, hvalue, hrest⟩

theorem head_selfDelimiting (major : Fin 8) : SelfDelimiting (head major) := by
  intro left right leftRest rightRest heq
  exact (head_append_inj heq).2

/-! ## Items -/

def uint (value : UInt64) : Bytes := head 0 value.toNat
def byteString (bytes : Bytes) : Bytes := head 2 bytes.length ++ bytes
def textString (utf8 : Bytes) : Bytes := head 3 utf8.length ++ utf8

def array {A : Type*} (encode : A → Bytes) (items : List A) : Bytes :=
  head 4 items.length ++ items.flatMap encode

/-- The head of a map; the keys and values follow it in field order. -/
def mapHead (entries : ℕ) : Bytes := head 5 entries

theorem uint_selfDelimiting : SelfDelimiting uint :=
  (head_selfDelimiting 0).comp fun _ _ heq => UInt64.toNat_inj.mp heq

private theorem counted_selfDelimiting (major : Fin 8) :
    SelfDelimiting (fun bytes : Bytes => head major bytes.length ++ bytes) := by
  refine selfDelimiting_of_key (head_selfDelimiting major) ?_
  intro left right leftRest rightRest hlength heq
  exact List.append_inj heq hlength

theorem byteString_selfDelimiting : SelfDelimiting byteString :=
  counted_selfDelimiting 2

theorem textString_selfDelimiting : SelfDelimiting textString :=
  counted_selfDelimiting 3

theorem array_selfDelimiting {A : Type*} {encode : A → Bytes}
    (hencode : SelfDelimiting encode) : SelfDelimiting (array encode) :=
  selfDelimiting_of_key (head_selfDelimiting 4) hencode.flatMap_of_length

/-- Items of different major types never start the same string. -/
theorem head_ne_of_major {leftMajor rightMajor : Fin 8}
    (hmajor : leftMajor ≠ rightMajor) (left right : ℕ)
    (leftRest rightRest : Bytes) :
    head leftMajor left ++ leftRest ≠ head rightMajor right ++ rightRest :=
  fun heq => hmajor (head_append_inj heq).1

end NxccBridge.Cbor
