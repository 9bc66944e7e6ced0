import Mathlib.Data.List.DropRight
import NxccBridge.Core.Framing

/-!
# Text

The functions of the standard library on strings, as lists of characters, and
the bytes of their UTF-8 encoding.
-/

namespace NxccBridge.Text

open NxccBridge.Framing

/-- The Unicode property `White_Space`. -/
def isWhitespace (char : Char) : Bool :=
  let number := char.toNat
  (9 ≤ number && number ≤ 13) || number = 32 || number = 133 ||
    number = 160 || number = 5760 || (8192 ≤ number && number ≤ 8202) ||
    number = 8232 || number = 8233 || number = 8239 || number = 8287 ||
    number = 12288

def trim (text : List Char) : List Char :=
  (text.dropWhile isWhitespace).rdropWhile isWhitespace

/-- The text without the blanks at its ends, for any class of blanks. -/
def trimBlanks (blank : Char → Bool) (text : List Char) : List Char :=
  (text.dropWhile blank).rdropWhile blank

theorem trim_eq_trimBlanks (text : List Char) :
    trim text = trimBlanks isWhitespace text := rfl

theorem mem_of_mem_trimBlanks {blank : Char → Bool} {text : List Char}
    {char : Char} (hmem : char ∈ trimBlanks blank text) : char ∈ text := by
  have hdrop := (List.rdropWhile_prefix blank (text.dropWhile blank)).mem hmem
  exact (List.dropWhile_suffix blank).mem hdrop

/-- A text without blanks is not changed. -/
theorem trimBlanks_eq_self {blank : Char → Bool} {text : List Char}
    (hclean : ∀ char ∈ text, ¬ blank char) : trimBlanks blank text = text := by
  have hdrop : text.dropWhile blank = text :=
    List.dropWhile_eq_self_iff.mpr fun hlength =>
      hclean _ (List.getElem_mem hlength)
  rw [trimBlanks, hdrop]
  exact List.rdropWhile_eq_self_iff.mpr fun hne =>
    hclean _ (List.getLast_mem hne)

/-- A text is trimmed once: its first character stays first when the end is
cut. -/
theorem trimBlanks_trimBlanks (blank : Char → Bool) (text : List Char) :
    trimBlanks blank (trimBlanks blank text) = trimBlanks blank text := by
  have hfront : (trimBlanks blank text).dropWhile blank =
      trimBlanks blank text := by
    obtain ⟨rest, hrest⟩ :=
      List.rdropWhile_prefix blank (text.dropWhile blank)
    rw [← trimBlanks] at hrest
    rw [List.dropWhile_eq_self_iff]
    intro hlength
    have hdrop := List.dropWhile_eq_self_iff.mp
      (List.dropWhile_idempotent blank text)
    have hfirst := hdrop (by rw [← hrest, List.length_append]; omega)
    simpa only [← hrest, List.getElem_append_left hlength] using hfirst
  rw [trimBlanks, hfront, trimBlanks]
  exact List.rdropWhile_idempotent blank _

/-- A character other than the separator lies in one of the joined texts. -/
theorem mem_intercalate_iff {separator char : Char} (hchar : char ≠ separator)
    (texts : List (List Char)) :
    char ∈ [separator].intercalate texts ↔ ∃ text ∈ texts, char ∈ text := by
  induction texts with
  | nil => simp
  | cons text rest ih =>
      cases rest with
      | nil => simp
      | cons next rest =>
          rw [List.intercalate_cons_of_ne_nil (List.cons_ne_nil next rest),
            List.mem_append, List.mem_append, ih, List.mem_singleton,
            List.exists_mem_cons_iff]
          simp [hchar]

/-! ## UTF-8 -/

def newline : Byte := 10

theorem utf8_eq_flatMap (text : String) :
    utf8 text = text.toList.flatMap fun char =>
      (String.utf8EncodeChar char).map UInt8.toFin := by
  rw [utf8, ← String.utf8Encode_toList, List.utf8Encode,
    List.toList_data_toByteArray, List.map_flatMap]

/-- A byte below 128 writes an ASCII character of that number. -/
theorem eq_of_mem_utf8EncodeChar {char : Char} {byte : UInt8}
    (hbyte : byte.toNat < 128) (hmem : byte ∈ String.utf8EncodeChar char) :
    char.toNat = byte.toNat := by
  have hhigh : ∀ low high : ℕ, 128 ≤ high → low + high < 256 →
      byte ≠ UInt8.ofNat (low + high) := by
    intro low high hhigh hlt heq
    have htoNat := congrArg UInt8.toNat heq
    rw [UInt8.toNat_ofNat', Nat.mod_eq_of_lt hlt] at htoNat
    omega
  simp only [String.utf8EncodeChar] at hmem
  split_ifs at hmem with hone htwo hthree
  · rw [List.mem_singleton] at hmem
    rw [hmem, UInt8.toNat_ofNat', Nat.mod_eq_of_lt (by omega)]
    rfl
  · simp only [List.mem_cons, List.not_mem_nil, or_false] at hmem
    rcases hmem with hmem | hmem
    · exact absurd hmem (hhigh _ _ (by omega) (by omega))
    · exact absurd hmem (hhigh _ _ (by omega) (by omega))
  · simp only [List.mem_cons, List.not_mem_nil, or_false] at hmem
    rcases hmem with hmem | hmem | hmem
    · exact absurd hmem (hhigh _ _ (by omega) (by omega))
    · exact absurd hmem (hhigh _ _ (by omega) (by omega))
    · exact absurd hmem (hhigh _ _ (by omega) (by omega))
  · simp only [List.mem_cons, List.not_mem_nil, or_false] at hmem
    rcases hmem with hmem | hmem | hmem | hmem
    · exact absurd hmem (hhigh _ _ (by omega) (by omega))
    · exact absurd hmem (hhigh _ _ (by omega) (by omega))
    · exact absurd hmem (hhigh _ _ (by omega) (by omega))
    · exact absurd hmem (hhigh _ _ (by omega) (by omega))

/-- The newline byte comes from newlines only. -/
theorem newline_mem_utf8_iff (text : String) :
    newline ∈ utf8 text ↔ '\n' ∈ text.toList := by
  rw [utf8_eq_flatMap]
  simp only [List.mem_flatMap, List.mem_map]
  constructor
  · rintro ⟨char, hmem, byte, hbyte, heq⟩
    have hten : byte = 10 := UInt8.toFin_inj.mp heq
    rw [hten] at hbyte
    have hchar := eq_of_mem_utf8EncodeChar (by decide) hbyte
    have hnewline : char = '\n' := Char.toNat_inj.mp hchar
    exact hnewline ▸ hmem
  · intro hmem
    exact ⟨'\n', hmem, 10, by decide, rfl⟩

end NxccBridge.Text
