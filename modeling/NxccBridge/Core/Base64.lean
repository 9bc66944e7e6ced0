import Mathlib.Data.List.Basic
import NxccBridge.Core.Framing

/-!
# Base64

The standard alphabet with padding.  Three bytes become four symbols; a last
group of one or two bytes is padded to four symbols.
-/

namespace NxccBridge.Base64

open Function
open NxccBridge.Framing

/-- The symbol of a six-bit value. -/
def symbol (value : ℕ) : Byte :=
  if value < 26 then Fin.ofNat 256 (65 + value)
  else if value < 52 then Fin.ofNat 256 (71 + value)
  else if value < 62 then Fin.ofNat 256 (value - 4)
  else if value = 62 then 43
  else 47

def pad : Byte := 61

def encode : Bytes → Bytes
  | [] => []
  | [first] =>
      [symbol (first.val / 4), symbol (first.val % 4 * 16), pad, pad]
  | [first, second] =>
      [symbol (first.val / 4),
        symbol (first.val % 4 * 16 + second.val / 16),
        symbol (second.val % 16 * 4), pad]
  | first :: second :: third :: rest =>
      symbol (first.val / 4) ::
        symbol (first.val % 4 * 16 + second.val / 16) ::
        symbol (second.val % 16 * 4 + third.val / 64) ::
        symbol (third.val % 64) :: encode rest

/-- The value of a symbol of the alphabet. -/
def value (symbol : Byte) : ℕ :=
  if 97 ≤ symbol.val then symbol.val - 71
  else if 65 ≤ symbol.val then symbol.val - 65
  else if 48 ≤ symbol.val then symbol.val + 4
  else if symbol = 43 then 62
  else 63

/-- Reads the groups of four that `encode` writes. -/
def decode : Bytes → Bytes
  | first :: second :: third :: fourth :: rest =>
      Fin.ofNat 256 (value first * 4 + value second / 16) ::
        if third = pad then []
        else
          Fin.ofNat 256 (value second % 16 * 16 + value third / 4) ::
            if fourth = pad then []
            else
              Fin.ofNat 256 (value third % 4 * 64 + value fourth) ::
                decode rest
  | _ => []

theorem value_symbol : ∀ number < 64, value (symbol number) = number := by
  decide +kernel

theorem symbol_ne_pad : ∀ number < 64, symbol number ≠ pad := by
  decide +kernel

/-- The symbols are printable, so none of them is a control character. -/
theorem symbol_printable : ∀ number < 64, 32 ≤ (symbol number).val := by
  decide +kernel

private theorem ofNat_eq (byte : Byte) {number : ℕ} (heq : number = byte.val) :
    Fin.ofNat 256 number = byte := by
  apply Fin.ext
  rw [Fin.val_ofNat, heq, Nat.mod_eq_of_lt byte.isLt]

theorem decode_encode (bytes : Bytes) : decode (encode bytes) = bytes := by
  induction bytes using encode.induct with
  | case1 => rfl
  | case2 first =>
      have hfirst := first.isLt
      simp only [encode, decode, if_true, value_symbol _
        (show first.val / 4 < 64 by omega),
        value_symbol _ (show first.val % 4 * 16 < 64 by omega)]
      rw [ofNat_eq first (by omega)]
  | case3 first second =>
      have hfirst := first.isLt
      have hsecond := second.isLt
      have hthird := symbol_ne_pad (second.val % 16 * 4) (by omega)
      simp only [encode, decode, if_true, if_neg hthird,
        value_symbol _ (show first.val / 4 < 64 by omega),
        value_symbol _
          (show first.val % 4 * 16 + second.val / 16 < 64 by omega),
        value_symbol _ (show second.val % 16 * 4 < 64 by omega)]
      rw [ofNat_eq first (by omega), ofNat_eq second (by omega)]
  | case4 first second third rest ih =>
      have hfirst := first.isLt
      have hsecond := second.isLt
      have hthird := third.isLt
      have hthird' := symbol_ne_pad
        (second.val % 16 * 4 + third.val / 64) (by omega)
      have hfourth := symbol_ne_pad (third.val % 64) (by omega)
      simp only [encode, decode, if_neg hthird', if_neg hfourth, ih,
        value_symbol _ (show first.val / 4 < 64 by omega),
        value_symbol _
          (show first.val % 4 * 16 + second.val / 16 < 64 by omega),
        value_symbol _
          (show second.val % 16 * 4 + third.val / 64 < 64 by omega),
        value_symbol _ (show third.val % 64 < 64 by omega)]
      rw [ofNat_eq first (by omega), ofNat_eq second (by omega),
        ofNat_eq third (by omega)]

theorem encode_injective : Injective encode :=
  LeftInverse.injective decode_encode

theorem encode_printable (bytes : Bytes) :
    ∀ byte ∈ encode bytes, 32 ≤ byte.val := by
  have hpad : 32 ≤ pad.val := by decide
  induction bytes using encode.induct with
  | case1 => simp [encode]
  | case2 first =>
      have hfirst := first.isLt
      simp only [encode, List.forall_mem_cons]
      exact ⟨symbol_printable _ (by omega), symbol_printable _ (by omega),
        hpad, hpad, List.forall_mem_nil _⟩
  | case3 first second =>
      have hfirst := first.isLt
      have hsecond := second.isLt
      simp only [encode, List.forall_mem_cons]
      exact ⟨symbol_printable _ (by omega), symbol_printable _ (by omega),
        symbol_printable _ (by omega), hpad, List.forall_mem_nil _⟩
  | case4 first second third rest ih =>
      have hfirst := first.isLt
      have hsecond := second.isLt
      have hthird := third.isLt
      simp only [encode, List.forall_mem_cons]
      exact ⟨symbol_printable _ (by omega), symbol_printable _ (by omega),
        symbol_printable _ (by omega), symbol_printable _ (by omega), ih⟩

end NxccBridge.Base64
