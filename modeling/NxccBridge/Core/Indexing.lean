import Mathlib.Tactic
import NxccBridge.Core.Framing

/-!
# Indexing byte strings

Slices, arrays of a fixed length, and the outcomes of code that indexes: a
value, an error it reports, or a panic.  Arithmetic on offsets is on a 64-bit
`usize`, an overflow being a panic.
-/

namespace NxccBridge.Indexing

open NxccBridge.Framing

/-! ## Slices -/

section Slice

variable {A : Type*}

/-- `data[start..stop]`, when it is in range. -/
def slice (data : List A) (start stop : ℕ) : List A :=
  (data.take stop).drop start

@[simp]
theorem length_slice (data : List A) (start stop : ℕ) :
    (slice data start stop).length = min stop data.length - start := by
  simp [slice]

theorem slice_zero (data : List A) (stop : ℕ) :
    slice data 0 stop = data.take stop := rfl

theorem slice_full (data : List A) (start : ℕ) :
    slice data start data.length = data.drop start := by
  rw [slice, List.take_length]

/-- Adjacent slices make one slice. -/
theorem slice_append (data : List A) {start middle stop : ℕ}
    (hstart : start ≤ middle) (hstop : middle ≤ stop) :
    slice data start middle ++ slice data middle stop =
      slice data start stop := by
  have htake : data.take middle = (data.take stop).take middle := by
    rw [List.take_take, Nat.min_eq_left hstop]
  rw [slice, slice, slice, htake, List.drop_take]
  have hdrop : (data.take stop).drop middle =
      ((data.take stop).drop start).drop (middle - start) := by
    rw [List.drop_drop, Nat.add_sub_cancel' hstart]
  rw [hdrop, List.take_append_drop]

/-- Some items stand at an offset of a list. -/
def At (data : List A) (offset : ℕ) (items : List A) : Prop :=
  offset + items.length ≤ data.length ∧
    slice data offset (offset + items.length) = items

theorem at_slice {data : List A} {start stop : ℕ} (hstart : start ≤ stop)
    (hstop : stop ≤ data.length) : At data start (slice data start stop) := by
  have hlength : start + (slice data start stop).length = stop := by
    rw [length_slice]
    omega
  rw [At, hlength]
  exact ⟨hstop, rfl⟩

/-- Two parts stand at an offset when the second stands behind the first. -/
theorem at_append_iff {data left right : List A} {offset : ℕ} :
    At data offset (left ++ right) ↔
      At data offset left ∧ At data (offset + left.length) right := by
  have hsplit : slice data offset (offset + left.length) ++
      slice data (offset + left.length)
        (offset + left.length + right.length) =
      slice data offset (offset + (left ++ right).length) := by
    rw [List.length_append, ← Nat.add_assoc]
    exact slice_append data (Nat.le_add_right _ _) (Nat.le_add_right _ _)
  rw [At, At, At, ← hsplit, List.length_append]
  constructor
  · rintro ⟨hrange, hslice⟩
    obtain ⟨hleft, hright⟩ := List.append_inj hslice (by
      rw [length_slice]
      omega)
    exact ⟨⟨by omega, hleft⟩, by omega, hright⟩
  · rintro ⟨⟨-, hleft⟩, hrange, hright⟩
    exact ⟨by omega, by rw [hleft, hright]⟩

theorem at_zero_iff {data items : List A} :
    At data 0 items ↔ items <+: data := by
  rw [At, Nat.zero_add, slice_zero]
  constructor
  · rintro ⟨-, htake⟩
    rw [← htake]
    exact List.take_prefix _ _
  · intro hstarts
    exact ⟨hstarts.length_le, (List.prefix_iff_eq_take.mp hstarts).symm⟩

/-- The part behind another one stands at the length of that. -/
theorem at_append_right (left right : List A) :
    At (left ++ right) left.length right := by
  have hwhole : At (left ++ right) 0 (left ++ right) :=
    at_zero_iff.mpr List.prefix_rfl
  simpa only [Nat.zero_add] using (at_append_iff.mp hwhole).2

theorem At.getD {data items : List A} {offset i : ℕ}
    (hat : At data offset items) (hi : i < items.length) (default : A) :
    data.getD (offset + i) default = items.getD i default := by
  have hstop : offset + i < offset + items.length := by omega
  conv_rhs => rw [← hat.2]
  simp only [slice, List.getD_eq_getElem?_getD, List.getElem?_drop,
    List.getElem?_take, hstop, if_true]

theorem at_unique {data left right : List A} {offset : ℕ}
    (hleft : At data offset left) (hright : At data offset right)
    (hlength : left.length = right.length) : left = right := by
  rw [← hleft.2, ← hright.2, hlength]

end Slice

/-! ## Arrays -/

/-- `[u8; length]`. -/
abbrev Octets (length : ℕ) := {bytes : Bytes // bytes.length = length}

@[simp]
theorem length_octets {length : ℕ} (octets : Octets length) :
    octets.val.length = length := octets.property

theorem octets_at_unique {data : Bytes} {offset length : ℕ}
    {left right : Octets length} (hleft : At data offset left.val)
    (hright : At data offset right.val) : left = right :=
  Subtype.ext (at_unique hleft hright (by rw [left.property, right.property]))

/-! ## Outcomes -/

inductive Outcome (A : Type)
  | ok (value : A)
  | err (message : String)
  | panic
  deriving DecidableEq

namespace Outcome

variable {A B : Type}

/-- The `?` operator. -/
def bind (outcome : Outcome A) (next : A → Outcome B) : Outcome B :=
  match outcome with
  | ok value => next value
  | err message => err message
  | panic => panic

instance : Monad Outcome where
  pure := ok
  bind := bind

@[simp]
theorem ok_bind (value : A) (next : A → Outcome B) :
    (ok value >>= next) = next value := rfl

@[simp]
theorem panic_bind (next : A → Outcome B) :
    (panic >>= next) = panic := rfl

/-- `Result::ok`, which a panic passes. -/
def okOption : Outcome A → Outcome (Option A)
  | ok value => ok (some value)
  | err _ => ok none
  | panic => panic

/-- No panic, and a value with a property if there is one. -/
def Returns (outcome : Outcome A) (post : A → Prop) : Prop :=
  match outcome with
  | ok value => post value
  | err _ => True
  | panic => False

theorem Returns.ok {post : A → Prop} {value : A} (hvalue : post value) :
    Returns (ok value) post := hvalue

theorem Returns.err {post : A → Prop} {message : String} :
    Returns (err message) post := trivial

theorem Returns.bind {outcome : Outcome A} {next : A → Outcome B}
    {middle : A → Prop} {post : B → Prop} (houtcome : Returns outcome middle)
    (hnext : ∀ value, middle value → Returns (next value) post) :
    Returns (outcome >>= next) post := by
  cases outcome with
  | ok value => exact hnext value houtcome
  | err message => exact trivial
  | panic => exact houtcome

theorem Returns.ne_panic {outcome : Outcome A} {post : A → Prop}
    (houtcome : Returns outcome post) : outcome ≠ panic := by
  rintro rfl
  exact houtcome

theorem Returns.of_ok {outcome : Outcome A} {post : A → Prop} {value : A}
    (houtcome : Returns outcome post) (hvalue : outcome = Outcome.ok value) :
    post value := by
  subst hvalue
  exact houtcome

end Outcome

def usizeLimit : ℕ := 2 ^ 64

def usizeAdd (left right : ℕ) : Outcome ℕ :=
  if left + right < usizeLimit then .ok (left + right) else .panic

def usizeSub (left right : ℕ) : Outcome ℕ :=
  if right ≤ left then .ok (left - right) else .panic

/-- Indexing by a range. -/
def index (data : Bytes) (start stop : ℕ) : Outcome Bytes :=
  if start ≤ stop ∧ stop ≤ data.length then .ok (slice data start stop)
  else .panic

/-- `try_into().unwrap()` into an array. -/
def intoArray (length : ℕ) (bytes : Bytes) : Outcome (Octets length) :=
  if hlength : bytes.length = length then .ok ⟨bytes, hlength⟩ else .panic

theorem usizeAdd_ok {left right : ℕ} (hsum : left + right < usizeLimit) :
    usizeAdd left right = .ok (left + right) := if_pos hsum

theorem usizeSub_ok {left right : ℕ} (hle : right ≤ left) :
    usizeSub left right = .ok (left - right) := if_pos hle

theorem index_ok {data : Bytes} {start stop : ℕ} (hstart : start ≤ stop)
    (hstop : stop ≤ data.length) :
    index data start stop = .ok (slice data start stop) :=
  if_pos ⟨hstart, hstop⟩

theorem index_at {data bytes : Bytes} {offset : ℕ}
    (hat : At data offset bytes) :
    index data offset (offset + bytes.length) = .ok bytes := by
  rw [index_ok (Nat.le_add_right _ _) hat.1, hat.2]

theorem intoArray_ok {length : ℕ} {bytes : Bytes}
    (hlength : bytes.length = length) :
    intoArray length bytes = .ok ⟨bytes, hlength⟩ := dif_pos hlength

end NxccBridge.Indexing
