import Mathlib.Data.List.FinRange
import NxccBridge.Core.Framing

/-!
# Compact JSON text

The text that a serializer without whitespace writes for strings and objects.
A string is a list of UTF-8 bytes; quotes, backslashes and control characters
are escaped.  Strings end at their closing quote and objects at their closing
brace, so the text of an object shows its members in their order.
-/

namespace NxccBridge.Json

open Function
open NxccBridge.Framing

/-! ## Strings -/

def quote : Byte := 34
def backslash : Byte := 92

/-- A lower-case hexadecimal digit. -/
def hexDigit (value : ℕ) : Byte :=
  if value < 10 then Fin.ofNat 256 (48 + value) else Fin.ofNat 256 (87 + value)

/-- What follows the backslash in the escape of a byte: a letter for the common
control characters, `u00` and two digits for the others. -/
def escapeCode (byte : Byte) : Option Bytes :=
  if byte = quote then some [quote]
  else if byte = backslash then some [backslash]
  else if byte = 8 then some [98]
  else if byte = 9 then some [116]
  else if byte = 10 then some [110]
  else if byte = 12 then some [102]
  else if byte = 13 then some [114]
  else if byte.val < 32 then
    some [117, 48, 48, hexDigit (byte.val / 16), hexDigit (byte.val % 16)]
  else none

def escapeByte (byte : Byte) : Bytes :=
  match escapeCode byte with
  | some code => backslash :: code
  | none => [byte]

def string (utf8 : Bytes) : Bytes :=
  quote :: (utf8.flatMap escapeByte ++ [quote])

/-- The bytes that are escaped. -/
def escaped : List Byte :=
  (List.finRange 256).filter fun byte => (escapeCode byte).isSome

/-- What is written for each of them. -/
private theorem escaped_codes :
    (escaped.map fun byte => (byte, (escapeCode byte).getD [])) =
    [(0, [117, 48, 48, 48, 48]), (1, [117, 48, 48, 48, 49]),
      (2, [117, 48, 48, 48, 50]), (3, [117, 48, 48, 48, 51]),
      (4, [117, 48, 48, 48, 52]), (5, [117, 48, 48, 48, 53]),
      (6, [117, 48, 48, 48, 54]), (7, [117, 48, 48, 48, 55]), (8, [98]),
      (9, [116]), (10, [110]), (11, [117, 48, 48, 48, 98]), (12, [102]),
      (13, [114]), (14, [117, 48, 48, 48, 101]),
      (15, [117, 48, 48, 48, 102]), (16, [117, 48, 48, 49, 48]),
      (17, [117, 48, 48, 49, 49]), (18, [117, 48, 48, 49, 50]),
      (19, [117, 48, 48, 49, 51]), (20, [117, 48, 48, 49, 52]),
      (21, [117, 48, 48, 49, 53]), (22, [117, 48, 48, 49, 54]),
      (23, [117, 48, 48, 49, 55]), (24, [117, 48, 48, 49, 56]),
      (25, [117, 48, 48, 49, 57]), (26, [117, 48, 48, 49, 97]),
      (27, [117, 48, 48, 49, 98]), (28, [117, 48, 48, 49, 99]),
      (29, [117, 48, 48, 49, 100]), (30, [117, 48, 48, 49, 101]),
      (31, [117, 48, 48, 49, 102]), (34, [34]), (92, [92])] := by
  decide +kernel

private theorem escapeCode_prefix_free :
    ∀ left ∈ escaped, ∀ right ∈ escaped,
      (escapeCode left).getD [] <+: (escapeCode right).getD [] →
        left = right := by
  have hpairs : ∀ left ∈ escaped.map fun byte =>
        (byte, (escapeCode byte).getD []),
      ∀ right ∈ escaped.map fun byte => (byte, (escapeCode byte).getD []),
        left.2 <+: right.2 → left.1 = right.1 := by
    rw [escaped_codes]
    decide +kernel
  intro left hleft right hright hstarts
  exact hpairs _ (List.mem_map_of_mem hleft) _ (List.mem_map_of_mem hright)
    hstarts

theorem escapeByte_prefix_free {left right : Byte}
    (hstarts : escapeByte left <+: escapeByte right) : left = right := by
  have hbackslash : escapeCode backslash ≠ none := by decide
  unfold escapeByte at hstarts
  cases hleft : escapeCode left with
  | none =>
      cases hright : escapeCode right with
      | none => simpa [hleft, hright] using hstarts
      | some code =>
          simp only [hleft, hright, List.cons_prefix_cons] at hstarts
          exact absurd (hstarts.1 ▸ hleft) hbackslash
  | some code =>
      cases hright : escapeCode right with
      | none =>
          simp only [hleft, hright, List.cons_prefix_cons] at hstarts
          exact absurd (hstarts.1 ▸ hright) hbackslash
      | some other =>
          refine escapeCode_prefix_free left (by simp [escaped, hleft]) right
            (by simp [escaped, hright]) ?_
          simpa [hleft, hright] using hstarts

theorem escapeByte_selfDelimiting : SelfDelimiting escapeByte :=
  selfDelimiting_of_prefix_free fun _ _ => escapeByte_prefix_free

/-- No escape starts with a quote. -/
theorem escapeByte_append_ne (byte : Byte) (rest stopRest : Bytes) :
    escapeByte byte ++ rest ≠ [quote] ++ stopRest := by
  have hquote : escapeCode quote ≠ none := by decide
  unfold escapeByte
  cases hcode : escapeCode byte with
  | none =>
      intro heq
      have hbyte : byte = quote := by
        simpa using (List.cons.inj heq).1
      exact hquote (hbyte ▸ hcode)
  | some code =>
      intro heq
      have hbyte : backslash = quote := (List.cons.inj heq).1
      exact absurd hbyte (by decide)

theorem string_selfDelimiting : SelfDelimiting string :=
  (escapeByte_selfDelimiting.terminated [quote]
    escapeByte_append_ne).labelled [quote]

/-! ## Objects -/

def colon : Byte := 58
def comma : Byte := 44
def openBrace : Byte := 123
def closeBrace : Byte := 125

/-- A member: its name and the text of its value. -/
def member (entry : Bytes × Bytes) : Bytes :=
  string entry.1 ++ colon :: entry.2

/-- The members between the braces, separated by commas. -/
def members : List (Bytes × Bytes) → Bytes
  | [] => []
  | first :: rest => member first ++ rest.flatMap fun entry =>
      comma :: member entry

def object (entries : List (Bytes × Bytes)) : Bytes :=
  openBrace :: (members entries ++ [closeBrace])

/-- The object of a map of strings. -/
def stringMap (entries : List (Bytes × Bytes)) : Bytes :=
  object (entries.map fun entry => (entry.1, string entry.2))

private theorem stringMember_selfDelimiting :
    SelfDelimiting (fun entry : Bytes × Bytes =>
      member (entry.1, string entry.2)) :=
  string_selfDelimiting.append (string_selfDelimiting.labelled [colon])

private theorem stringMember_append_ne (entry : Bytes × Bytes)
    (rest stopRest : Bytes) :
    member (entry.1, string entry.2) ++ rest ≠ closeBrace :: stopRest := by
  intro heq
  have hbyte : quote = closeBrace := (List.cons.inj heq).1
  exact absurd hbyte (by decide)

/-- The text of a map of strings determines its entries and their order. -/
theorem stringMap_selfDelimiting : SelfDelimiting stringMap := by
  have htail := (stringMember_selfDelimiting.labelled [comma]).terminated
    [closeBrace] (fun entry rest stopRest heq =>
      absurd (List.cons.inj heq).1 (by decide))
  intro left right leftRest rightRest heq
  simp only [stringMap, object, List.cons_append, List.cons.injEq, true_and]
    at heq
  cases left with
  | nil =>
      cases right with
      | nil => exact ⟨rfl, by simpa [members] using heq⟩
      | cons entry entries =>
          simp only [List.map_nil, List.map_cons, members, List.nil_append,
            List.append_assoc, List.cons_append] at heq
          exact absurd heq.symm (stringMember_append_ne entry _ _)
  | cons entry entries =>
      cases right with
      | nil =>
          simp only [List.map_nil, List.map_cons, members, List.nil_append,
            List.append_assoc, List.cons_append] at heq
          exact absurd heq (stringMember_append_ne entry _ _)
      | cons other others =>
          simp only [List.map_cons, members, List.append_assoc] at heq
          obtain ⟨hhead, hrest⟩ := stringMember_selfDelimiting _ _ _ _ heq
          obtain ⟨hothers, hend⟩ := htail entries others leftRest rightRest (by
            simpa [List.flatMap_map] using hrest)
          exact ⟨by rw [hhead, hothers], hend⟩

end NxccBridge.Json
