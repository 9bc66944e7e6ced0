import Mathlib.Tactic
import NxccBridge.Core.Cbor
import NxccBridge.Core.Text

/-!
# Length prefixes

Data behind a header that tells how long the data is.  What the data contains
does not matter, not even when it looks like a header, so frames are read back
from the front one by one.
-/

namespace NxccBridge.LengthPrefix

open Function
open NxccBridge.Framing
open NxccBridge.Text

variable {A Symbol : Type*}

/-- A header in front of data, of which it determines the length. -/
theorem selfDelimiting_frame {header data : A → List Symbol}
    (hdata : Injective data)
    (hheader : ∀ left right leftRest rightRest,
      header left ++ leftRest = header right ++ rightRest →
        (data left).length = (data right).length ∧ leftRest = rightRest) :
    SelfDelimiting (fun value => header value ++ data value) := by
  intro left right leftRest rightRest heq
  rw [List.append_assoc, List.append_assoc] at heq
  obtain ⟨hlength, hbody⟩ := hheader _ _ _ _ heq
  obtain ⟨hsame, hrest⟩ := List.append_inj hbody hlength
  exact ⟨hdata hsame, hrest⟩

/-- Lists of any length need no terminator where the string ends with them. -/
theorem flatMap_injective {encode : A → List Symbol}
    (hencode : SelfDelimiting encode) (hnonempty : ∀ value, encode value ≠ []) :
    Injective (fun values : List A => values.flatMap encode) := by
  intro left
  induction left with
  | nil =>
      intro right heq
      cases right with
      | nil => rfl
      | cons other others =>
          have hnil := List.append_eq_nil_iff.mp heq.symm
          exact absurd hnil.1 (hnonempty other)
  | cons head tail ih =>
      intro right heq
      cases right with
      | nil =>
          have hnil := List.append_eq_nil_iff.mp heq
          exact absurd hnil.1 (hnonempty head)
      | cons other others =>
          obtain ⟨hhead, htail⟩ := hencode _ _ _ _ heq
          rw [hhead, ih htail]

/-! ## Binary lengths -/

/-- Data whose length fits a header of `width` bytes. -/
abbrev Framed (width : ℕ) := {data : Bytes // data.length < 256 ^ width}

def binaryFrame (width : ℕ) (data : Framed width) : Bytes :=
  Cbor.bigEndian width data.val.length ++ data.val

@[simp]
theorem length_binaryFrame {width : ℕ} (data : Framed width) :
    (binaryFrame width data).length = width + data.val.length := by
  rw [binaryFrame, List.length_append, Cbor.length_bigEndian]

theorem binaryFrame_selfDelimiting (width : ℕ) :
    SelfDelimiting (binaryFrame width) := by
  refine selfDelimiting_frame Subtype.val_injective ?_
  intro left right leftRest rightRest heq
  obtain ⟨hheader, hrest⟩ := List.append_inj heq (by simp)
  exact ⟨Cbor.bigEndian_inj left.property right.property hheader, hrest⟩

/-! ## Decimal lengths -/

/-- A code behind which stands a symbol that no code contains. -/
theorem selfDelimiting_of_notMem {encode : A → List Symbol} {stop : Symbol}
    (hencode : Injective encode) (hclean : ∀ value, stop ∉ encode value) :
    SelfDelimiting (fun value => encode value ++ [stop]) := by
  have hfront : ∀ left right middle leftRest rightRest,
      encode right = encode left ++ middle →
        stop :: leftRest = middle ++ stop :: rightRest → middle = [] := by
    intro left right middle leftRest rightRest hright heq
    cases middle with
    | nil => rfl
    | cons symbol middle =>
        have hsymbol : stop = symbol := (List.cons.inj heq).1
        exact absurd (by simp [hright, hsymbol]) (hclean right)
  intro left right leftRest rightRest heq
  simp only [List.append_assoc, List.singleton_append] at heq
  rcases List.append_eq_append_iff.mp heq with
    ⟨middle, hcode, hrest⟩ | ⟨middle, hcode, hrest⟩
  · have hmiddle := hfront _ _ _ _ _ hcode hrest
    subst hmiddle
    rw [List.append_nil] at hcode
    exact ⟨hencode hcode.symm, (List.cons.inj hrest).2⟩
  · have hmiddle := hfront _ _ _ _ _ hcode hrest
    subst hmiddle
    rw [List.append_nil] at hcode
    exact ⟨hencode hcode, (List.cons.inj hrest).2.symm⟩

def space : Byte := 32

def decimal (value : ℕ) : Bytes := utf8 (toString value)

theorem toList_toString (value : ℕ) :
    (toString value).toList = Nat.toDigits 10 value :=
  Nat.toList_repr

theorem decimal_injective : Injective decimal := by
  intro left right heq
  have htext := congrArg String.toList (utf8_injective heq)
  rw [toList_toString, toList_toString] at htext
  have hread : ∀ value, Nat.ofDigitChars 10 (Nat.toDigits 10 value) 0 = value :=
    fun _ => Nat.ofDigitChars_toDigits (by decide) (by decide)
  rw [← hread left, htext, hread]

theorem isDigit_of_mem_toString {value : ℕ} {char : Char}
    (hmem : char ∈ (toString value).toList) : char.isDigit := by
  rw [toList_toString] at hmem
  exact Nat.isDigit_of_mem_toDigits (by decide) (by decide) hmem

theorem space_notMem_decimal (value : ℕ) : space ∉ decimal value := by
  intro hmem
  rw [decimal, utf8_eq_flatMap, List.mem_flatMap] at hmem
  obtain ⟨char, hchar, hbyte⟩ := hmem
  obtain ⟨byte, hbyte, heq⟩ := List.mem_map.mp hbyte
  have hspace : byte = 32 := UInt8.toFin_inj.mp heq
  rw [hspace] at hbyte
  have hnumber := eq_of_mem_utf8EncodeChar (by decide) hbyte
  have hblank : char = ' ' := Char.toNat_inj.mp hnumber
  have hdigit := isDigit_of_mem_toString hchar
  rw [hblank] at hdigit
  exact absurd hdigit (by decide)

/-- Data behind its decimal length and a space. -/
def decimalFrame (data : Bytes) : Bytes :=
  decimal data.length ++ [space] ++ data

theorem decimalFrame_selfDelimiting : SelfDelimiting decimalFrame := by
  have hnumber := selfDelimiting_of_notMem decimal_injective
    space_notMem_decimal
  change SelfDelimiting fun data : Bytes =>
    (decimal data.length ++ [space]) ++ id data
  refine selfDelimiting_frame injective_id ?_
  intro left right leftRest rightRest heq
  exact hnumber left.length right.length leftRest rightRest heq

end NxccBridge.LengthPrefix
