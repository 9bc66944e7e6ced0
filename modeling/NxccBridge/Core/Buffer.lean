import NxccBridge.Core.Indexing

/-!
# Filling a buffer

A buffer of a fixed length that is filled by copies into ranges of it.  A copy
into a range that is not in the buffer, or of another length than its source,
panics.  Adjacent copies that start at the front and cover the buffer write the
sources one after the other.
-/

namespace NxccBridge.Buffer

open NxccBridge.Framing
open NxccBridge.Indexing

/-- `buffer[start..stop].copy_from_slice(source)`. -/
def copyFromSlice (buffer : Bytes) (start stop : ℕ) (source : Bytes) :
    Outcome Bytes :=
  if start ≤ stop ∧ stop ≤ buffer.length ∧ source.length = stop - start then
    .ok (buffer.take start ++ source ++ buffer.drop stop)
  else .panic

structure Copy where
  start : ℕ
  stop : ℕ
  source : Bytes

def copyAll : List Copy → Bytes → Outcome Bytes
  | [], buffer => .ok buffer
  | copy :: rest, buffer => do
      let buffer ← copyFromSlice buffer copy.start copy.stop copy.source
      copyAll rest buffer

/-- Each copy starts where the one before it stopped. -/
def Adjacent : ℕ → List Copy → Prop
  | _, [] => True
  | start, copy :: rest =>
      copy.start = start ∧ copy.stop = start + copy.source.length ∧
        Adjacent copy.stop rest

/-- A copy behind the part that is filled extends it. -/
theorem copyFromSlice_filled {filled rest source : Bytes}
    (hfits : source.length ≤ rest.length) :
    copyFromSlice (filled ++ rest) filled.length
        (filled.length + source.length) source =
      .ok ((filled ++ source) ++ rest.drop source.length) := by
  rw [copyFromSlice, if_pos]
  · rw [List.take_left, ← List.drop_drop, List.drop_left]
  · rw [List.length_append]
    omega

theorem copyAll_filled {copies : List Copy} {filled rest : Bytes}
    (hadjacent : Adjacent filled.length copies)
    (hlength : rest.length = (copies.flatMap Copy.source).length) :
    copyAll copies (filled ++ rest) =
      .ok (filled ++ copies.flatMap Copy.source) := by
  induction copies generalizing filled rest with
  | nil =>
      have hrest : rest = [] := List.length_eq_zero_iff.mp hlength
      rw [hrest, copyAll, List.flatMap_nil]
  | cons copy copies ih =>
      obtain ⟨hstart, hstop, hadjacent⟩ := hadjacent
      rw [List.flatMap_cons, List.length_append] at hlength
      rw [copyAll, hstop, hstart, copyFromSlice_filled (by omega),
        Outcome.ok_bind, ih, List.flatMap_cons, List.append_assoc]
      · rw [List.length_append, ← hstop]
        exact hadjacent
      · rw [List.length_drop]
        omega

/-- Copies that cover a buffer leave nothing of what it held. -/
theorem copyAll_eq {copies : List Copy} {buffer : Bytes}
    (hadjacent : Adjacent 0 copies)
    (hlength : buffer.length = (copies.flatMap Copy.source).length) :
    copyAll copies buffer = .ok (copies.flatMap Copy.source) := by
  have hempty : Adjacent ([] : Bytes).length copies := hadjacent
  exact copyAll_filled hempty hlength

/-! ## Parts one behind the other -/

/-- Copies each part behind the one before it, from an offset on. -/
def copyParts : ℕ → List Bytes → Bytes → Outcome Bytes
  | _, [], buffer => .ok buffer
  | offset, part :: rest, buffer => do
      let buffer ← copyFromSlice buffer offset (offset + part.length) part
      copyParts (offset + part.length) rest buffer

theorem copyParts_filled {parts : List Bytes} {filled rest : Bytes}
    (hlength : rest.length = parts.flatten.length) :
    copyParts filled.length parts (filled ++ rest) =
      .ok (filled ++ parts.flatten) := by
  induction parts generalizing filled rest with
  | nil =>
      have hrest : rest = [] := List.length_eq_zero_iff.mp hlength
      rw [hrest, copyParts, List.flatten_nil]
  | cons part parts ih =>
      rw [List.flatten_cons, List.length_append] at hlength
      have hnext : copyParts (filled ++ part).length parts
          ((filled ++ part) ++ rest.drop part.length) =
            .ok ((filled ++ part) ++ parts.flatten) :=
        ih (by rw [List.length_drop]; omega)
      rw [List.length_append] at hnext
      rw [copyParts, copyFromSlice_filled (by omega), Outcome.ok_bind, hnext,
        List.flatten_cons, List.append_assoc]

/-- A buffer that the parts fill holds them one after the other. -/
theorem copyParts_eq {parts : List Bytes} {buffer : Bytes}
    (hlength : buffer.length = parts.flatten.length) :
    copyParts 0 parts buffer = .ok parts.flatten := by
  have hfill : copyParts ([] : Bytes).length parts ([] ++ buffer) =
      .ok ([] ++ parts.flatten) := copyParts_filled hlength
  exact hfill

/-- A new buffer of some length with the parts in it, where a part that does
not fit is an error that the caller sees. -/
def concatenate (total : ℕ) (parts : List Bytes) : Except String Bytes :=
  match copyParts 0 parts (List.replicate total 0) with
  | .ok buffer => .ok buffer
  | .err message => .error message
  | .panic => .error "offset is out of bounds"

theorem concatenate_eq (parts : List Bytes) :
    concatenate parts.flatten.length parts = .ok parts.flatten := by
  rw [concatenate, copyParts_eq (List.length_replicate ..)]

end NxccBridge.Buffer
