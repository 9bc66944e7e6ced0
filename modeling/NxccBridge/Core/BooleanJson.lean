import Mathlib.Tactic
import NxccBridge.Core.Text

/-!
# JSON arrays of truth values

The text of an array as `JSON.stringify` joins it, and the reading of a list of
truth values from such a text.  An array is read if all its elements are truth
values, and not at all otherwise.
-/

namespace NxccBridge.BooleanJson

open NxccBridge.Framing
open NxccBridge.Text

/-! ## Writing -/

/-- How the text of a value starts that is no truth value. -/
inductive Start
  | null
  | minus
  | digit (value : Fin 10)
  | quote
  | bracket
  | brace

def Start.char : Start → Char
  | .null => 'n'
  | .minus => '-'
  | .digit value => Char.ofNat (48 + value.val)
  | .quote => '"'
  | .bracket => '['
  | .brace => '\x7b'

/-- The text of an element of an array. -/
inductive Element
  | bool (value : Bool)
  | other (start : Start) (rest : List Char)

def Element.chars : Element → List Char
  | .bool true => "true".toList
  | .bool false => "false".toList
  | .other start rest => start.char :: rest

def Element.toBool : Element → Option Bool
  | .bool value => some value
  | .other _ _ => none

def stringify : List Element → String
  | [] => "[]"
  | first :: rest => String.ofList ('[' :: first.chars ++
      (rest.flatMap fun element => ',' :: element.chars) ++ [']'])

/-! ## Reading -/

def isSpace (byte : Byte) : Bool :=
  decide (byte = 32) || decide (byte = 9) || decide (byte = 10) ||
    decide (byte = 13)

def skipSpace (bytes : Bytes) : Bytes := bytes.dropWhile isSpace

def readBool : Bytes → Option (Bool × Bytes)
  | 116 :: 114 :: 117 :: 101 :: rest => some (true, rest)
  | 102 :: 97 :: 108 :: 115 :: 101 :: rest => some (false, rest)
  | _ => none

/-- The end of the array and of the text. -/
def readEnd (rest : Bytes) : Option (List Bool) :=
  if skipSpace rest = [] then some [] else none

/-- What follows an element: the end, or a comma and the next element.  An
element takes more than one byte, so the length of the text is fuel enough. -/
def readMore : ℕ → Bytes → Option (List Bool)
  | 0, _ => none
  | fuel + 1, bytes =>
      match skipSpace bytes with
      | 93 :: rest => readEnd rest
      | 44 :: rest =>
          match readBool (skipSpace rest) with
          | none => none
          | some (value, rest) => (readMore fuel rest).map (value :: ·)
      | _ => none

/-- `serde_json::from_slice` at `Vec<bool>`. -/
def fromSlice (bytes : Bytes) : Option (List Bool) :=
  match skipSpace bytes with
  | 91 :: rest =>
      match skipSpace rest with
      | 93 :: rest => readEnd rest
      | first =>
          match readBool first with
          | none => none
          | some (value, rest) =>
              (readMore (rest.length + 1) rest).map (value :: ·)
  | _ => none

/-! ## What is read of what was written -/

def charBytes (char : Char) : Bytes :=
  (String.utf8EncodeChar char).map UInt8.toFin

def Element.bytes (element : Element) : Bytes := element.chars.flatMap charBytes

theorem bytes_true : (Element.bool true).bytes = [116, 114, 117, 101] := by
  decide

theorem bytes_false :
    (Element.bool false).bytes = [102, 97, 108, 115, 101] := by
  decide

/-- A text that is no truth value starts with a byte of its own. -/
theorem bytes_other (start : Start) (rest : List Char) :
    ∃ byte tail, (Element.other start rest).bytes = byte :: tail ∧
      isSpace byte = false ∧ byte ≠ 93 ∧ byte ≠ 116 ∧ byte ≠ 102 := by
  have hbytes : (Element.other start rest).bytes =
      charBytes start.char ++ rest.flatMap charBytes := rfl
  rw [hbytes]
  cases start with
  | null => exact ⟨110, _, rfl, by decide⟩
  | minus => exact ⟨45, _, rfl, by decide⟩
  | digit value =>
      have hdigit : ∃ byte, charBytes (Start.digit value).char = [byte] ∧
          isSpace byte = false ∧ byte ≠ 93 ∧ byte ≠ 116 ∧ byte ≠ 102 := by
        fin_cases value <;> exact ⟨_, rfl, by decide⟩
      obtain ⟨byte, hchar, hbyte⟩ := hdigit
      exact ⟨byte, rest.flatMap charBytes, by rw [hchar]; rfl, hbyte⟩
  | quote => exact ⟨34, _, rfl, by decide⟩
  | bracket => exact ⟨91, _, rfl, by decide⟩
  | brace => exact ⟨123, _, rfl, by decide⟩

theorem readBool_of_head {byte : Byte} (htrue : byte ≠ 116)
    (hfalse : byte ≠ 102) (rest : Bytes) : readBool (byte :: rest) = none := by
  rw [readBool]
  · rintro tail htail
    exact htrue (List.cons.inj htail).1
  · rintro tail htail
    exact hfalse (List.cons.inj htail).1

theorem skipSpace_of_head {byte : Byte} (hspace : isSpace byte = false)
    (rest : Bytes) : skipSpace (byte :: rest) = byte :: rest :=
  List.dropWhile_cons_of_neg (by rw [hspace]; exact Bool.false_ne_true)

/-- An element is read if it is a truth value. -/
theorem readBool_bytes (element : Element) (rest : Bytes) :
    readBool (skipSpace (element.bytes ++ rest)) =
      element.toBool.map fun value => (value, rest) := by
  cases element with
  | bool value =>
      cases value with
      | true => rw [bytes_true]; rfl
      | false => rw [bytes_false]; rfl
  | other start tail =>
      obtain ⟨byte, bytes, hbytes, hspace, -, htrue, hfalse⟩ :=
        bytes_other start tail
      rw [hbytes, List.cons_append, skipSpace_of_head hspace,
        readBool_of_head htrue hfalse]
      rfl

def moreBytes (elements : List Element) : Bytes :=
  elements.flatMap (fun element => 44 :: element.bytes) ++ [93]

theorem readMore_moreBytes (elements : List Element) (fuel : ℕ)
    (hfuel : elements.length < fuel) :
    readMore fuel (moreBytes elements) = elements.mapM Element.toBool := by
  induction elements generalizing fuel with
  | nil =>
      obtain ⟨fuel, rfl⟩ := Nat.exists_eq_succ_of_ne_zero (Nat.ne_of_gt hfuel)
      rfl
  | cons element rest ih =>
      obtain ⟨fuel, rfl⟩ := Nat.exists_eq_succ_of_ne_zero
        (Nat.ne_of_gt (Nat.lt_of_le_of_lt (Nat.zero_le _) hfuel))
      have hmore : moreBytes (element :: rest) =
          44 :: (element.bytes ++ moreBytes rest) := by
        simp [moreBytes]
      have hskip : skipSpace (44 :: (element.bytes ++ moreBytes rest)) =
          44 :: (element.bytes ++ moreBytes rest) :=
        skipSpace_of_head (by decide) _
      have hrest := ih fuel (Nat.lt_of_succ_lt_succ hfuel)
      rw [hmore, readMore, hskip]
      simp only [readBool_bytes, List.mapM_cons]
      cases element.toBool with
      | none => rfl
      | some value =>
          simp only [Option.map_some, hrest]
          cases rest.mapM Element.toBool <;> rfl

theorem length_le_moreBytes (elements : List Element) :
    elements.length ≤ (moreBytes elements).length := by
  induction elements with
  | nil => exact Nat.zero_le _
  | cons element rest ih =>
      have hmore : moreBytes (element :: rest) =
          44 :: (element.bytes ++ moreBytes rest) := by
        simp [moreBytes]
      rw [hmore, List.length_cons, List.length_cons, List.length_append]
      omega

/-- An element does not end the array. -/
theorem skipSpace_bytes (element : Element) (rest : Bytes) :
    ∃ byte tail, skipSpace (element.bytes ++ rest) = byte :: tail ∧
      byte ≠ 93 := by
  cases element with
  | bool value =>
      cases value with
      | true => exact ⟨116, _, by rw [bytes_true]; rfl, by decide⟩
      | false => exact ⟨102, _, by rw [bytes_false]; rfl, by decide⟩
  | other start tail =>
      obtain ⟨byte, bytes, hbytes, hspace, hend, -, -⟩ := bytes_other start tail
      refine ⟨byte, bytes ++ rest, ?_, hend⟩
      rw [hbytes, List.cons_append, skipSpace_of_head hspace]

theorem utf8_stringify_cons (first : Element) (rest : List Element) :
    utf8 (stringify (first :: rest)) =
      91 :: (first.bytes ++ moreBytes rest) := by
  have hopen : charBytes '[' = [91] := by decide
  have hcomma : charBytes ',' = [44] := by decide
  have hclose : charBytes ']' = [93] := by decide
  have hrest : (rest.flatMap fun element => ',' :: element.chars).flatMap
      charBytes = rest.flatMap fun element => 44 :: element.bytes := by
    rw [List.flatMap_assoc]
    refine List.flatMap_congr fun element _ => ?_
    rw [List.flatMap_cons, hcomma]
    rfl
  calc utf8 (stringify (first :: rest)) =
        ('[' :: first.chars ++ (rest.flatMap fun element =>
          ',' :: element.chars) ++ [']']).flatMap charBytes := by
          rw [utf8_eq_flatMap, stringify, String.toList_ofList]
          rfl
    _ = charBytes '[' ++ first.bytes ++ (rest.flatMap fun element =>
          ',' :: element.chars).flatMap charBytes ++ charBytes ']' := by
          simp [Element.bytes]
    _ = 91 :: (first.bytes ++ moreBytes rest) := by
          rw [hopen, hrest, hclose]
          simp [moreBytes]

/-- An array is read exactly if all its elements are truth values. -/
theorem fromSlice_stringify (elements : List Element) :
    fromSlice (utf8 (stringify elements)) = elements.mapM Element.toBool := by
  cases elements with
  | nil => decide
  | cons first rest =>
      have hskip : skipSpace (91 :: (first.bytes ++ moreBytes rest)) =
          91 :: (first.bytes ++ moreBytes rest) :=
        skipSpace_of_head (by decide) _
      have hread := readBool_bytes first (moreBytes rest)
      obtain ⟨byte, tail, hfirst, hend⟩ :=
        skipSpace_bytes first (moreBytes rest)
      have hmore := readMore_moreBytes rest ((moreBytes rest).length + 1)
        (Nat.lt_succ_of_le (length_le_moreBytes rest))
      rw [utf8_stringify_cons, fromSlice, hskip]
      simp only [List.mapM_cons]
      rw [hfirst] at hread ⊢
      split
      · next heq => exact absurd (List.cons.inj heq).1 hend
      · rw [hread]
        cases first.toBool with
        | none => rfl
        | some value =>
            simp only [Option.map_some, hmore]
            cases rest.mapM Element.toBool <;> rfl

theorem fromSlice_eq_some_iff (elements : List Element) (values : List Bool) :
    fromSlice (utf8 (stringify elements)) = some values ↔
      elements = values.map Element.bool := by
  rw [fromSlice_stringify]
  induction elements generalizing values with
  | nil => cases values <;> simp
  | cons element rest ih =>
      cases element with
      | other start tail =>
          cases values <;> simp [List.mapM_cons, Element.toBool]
      | bool value =>
          cases values with
          | nil =>
              simp [List.mapM_cons, Element.toBool, Option.bind_eq_some_iff]
          | cons first values =>
              simp only [List.mapM_cons, Element.toBool, Option.bind_eq_bind,
                Option.bind_some, Option.bind_eq_some_iff, ih, Option.pure_def,
                Option.some.injEq, List.cons.injEq, List.map_cons,
                Element.bool.injEq]
              constructor
              · rintro ⟨_, hrest, rfl, rfl⟩
                exact ⟨rfl, hrest⟩
              · rintro ⟨rfl, hrest⟩
                exact ⟨values, hrest, rfl, rfl⟩

end NxccBridge.BooleanJson
