import NxccBridge.Core.Eviction
import Mathlib.Algebra.BigOperators.Group.List.Basic
import Mathlib.Algebra.GroupWithZero.Nat
import Mathlib.Algebra.Order.BigOperators.Group.List

/-!
# The log buffer of a worker

`node/vm/base/src/logging.rs`.  A line is added after old ones were dropped until
the history is below both limits, so the byte limit says nothing about the line
itself.
-/

namespace NxccBridge.Logging

open NxccBridge.Eviction

def maxLines : ℕ := 10000

/-- 10 KiB. -/
def maxBytes : ℕ := 10 * 1024

structure LogEntry where
  line : String
  timestamp : ℕ
  deriving DecidableEq

/-- `line.len()`. -/
def LogEntry.len (entry : LogEntry) : ℕ := entry.line.utf8ByteSize

def totalBytes (entries : List LogEntry) : ℕ := (entries.map LogEntry.len).sum

@[simp]
theorem totalBytes_nil : totalBytes [] = 0 := rfl

@[simp]
theorem totalBytes_cons (entry : LogEntry) (entries : List LogEntry) :
    totalBytes (entry :: entries) = entry.len + totalBytes entries := rfl

@[simp]
theorem totalBytes_append (left right : List LogEntry) :
    totalBytes (left ++ right) = totalBytes left + totalBytes right := by
  simp [totalBytes]

theorem totalBytes_replicate (count : ℕ) (entry : LogEntry) :
    totalBytes (List.replicate count entry) = count * entry.len := by
  simp [totalBytes]

theorem totalBytes_le_of_suffix {recent entries : List LogEntry}
    (hrecent : recent <:+ entries) : totalBytes recent ≤ totalBytes entries := by
  obtain ⟨old, rfl⟩ := hrecent
  rw [totalBytes_append]
  exact Nat.le_add_left _ _

/-- The loop in front of an addition, which ends when nothing is left. -/
def enforceLimits : List LogEntry → ℕ → List LogEntry × ℕ
  | [], currentBytes => ([], currentBytes)
  | oldest :: rest, currentBytes =>
      if maxLines ≤ (oldest :: rest).length ∨ maxBytes ≤ currentBytes then
        enforceLimits rest (currentBytes - oldest.len)
      else (oldest :: rest, currentBytes)

/-- Both limits leave room for a line. -/
def HasRoom (entries : List LogEntry) : Prop :=
  entries.length < maxLines ∧ totalBytes entries < maxBytes

instance : DecidablePred HasRoom :=
  fun _ => inferInstanceAs (Decidable (_ ∧ _))

/-- With the right count of bytes the loop leaves the longest recent part that
has room. -/
theorem enforceLimits_eq (entries : List LogEntry) :
    enforceLimits entries (totalBytes entries) =
      (evict HasRoom entries, totalBytes (evict HasRoom entries)) := by
  induction entries with
  | nil => rfl
  | cons oldest rest ih =>
      have hbytes : totalBytes (oldest :: rest) - oldest.len =
          totalBytes rest := by
        rw [totalBytes_cons, Nat.add_sub_cancel_left]
      rw [enforceLimits, evict, hbytes, ih]
      by_cases hroom : HasRoom (oldest :: rest)
      · rw [if_pos hroom, if_neg]
        rw [not_or, not_le, not_le]
        exact hroom
      · rw [if_neg hroom, if_pos]
        rwa [HasRoom, not_and_or, not_lt, not_lt] at hroom

/-- The history with the count of its bytes. -/
structure LogBuffer where
  history : List LogEntry
  currentBytes : ℕ
  counted : currentBytes = totalBytes history

namespace LogBuffer

def new : LogBuffer where
  history := []
  currentBytes := 0
  counted := rfl

def writeLog (self : LogBuffer) (entry : LogEntry) : LogBuffer where
  history := (enforceLimits self.history self.currentBytes).1 ++ [entry]
  currentBytes :=
    (enforceLimits self.history self.currentBytes).2 + entry.len
  counted := by
    rw [self.counted, enforceLimits_eq, totalBytes_append, totalBytes_cons,
      totalBytes_nil, add_zero]

theorem writeLog_history (self : LogBuffer) (entry : LogEntry) :
    (self.writeLog entry).history = evict HasRoom self.history ++ [entry] := by
  have hkept : (enforceLimits self.history self.currentBytes).1 =
      evict HasRoom self.history := by
    rw [self.counted, enforceLimits_eq]
  rw [← hkept]
  rfl

def getTail (self : LogBuffer) (maxLines : Option ℕ) : List LogEntry :=
  let linesToTake :=
    min (maxLines.getD self.history.length) self.history.length
  if linesToTake = 0 then []
  else self.history.drop (self.history.length - linesToTake)

theorem getTail_suffix (self : LogBuffer) (maxLines : Option ℕ) :
    self.getTail maxLines <:+ self.history := by
  rw [getTail]
  split_ifs
  · exact List.nil_suffix
  · exact List.drop_suffix _ _

theorem length_getTail (self : LogBuffer) (maxLines : Option ℕ) :
    (self.getTail maxLines).length =
      min (maxLines.getD self.history.length) self.history.length := by
  rw [getTail]
  split_ifs with hnone
  · exact hnone.symm
  · rw [List.length_drop]
    omega

end LogBuffer

/-! ## The limits -/

/-- The buffer after the lines were written in order. -/
def written (entries : List LogEntry) : LogBuffer :=
  entries.foldl LogBuffer.writeLog .new

theorem hasRoom_nil : HasRoom [] := ⟨by decide, by decide⟩

theorem HasRoom.init (before : List LogEntry) (last : LogEntry)
    (hroom : HasRoom (before ++ [last])) : HasRoom before := by
  obtain ⟨hlines, hbytes⟩ := hroom
  rw [List.length_append] at hlines
  rw [totalBytes_append] at hbytes
  exact ⟨by omega, by omega⟩

/-- What is kept does not depend on when the old lines were dropped. -/
theorem written_history (entries : List LogEntry) :
    (written entries).history = retain HasRoom entries := by
  induction entries using List.reverseRecOn with
  | nil => rfl
  | append_singleton before last ih =>
      rw [written, List.foldl_concat, LogBuffer.writeLog_history,
        retain_append_singleton, ← ih]
      rfl

theorem written_concat_history (before : List LogEntry) (last : LogEntry) :
    (written (before ++ [last])).history = evict HasRoom before ++ [last] := by
  rw [written_history, retain_concat hasRoom_nil HasRoom.init]

theorem totalBytes_written_concat (before : List LogEntry) (last : LogEntry) :
    totalBytes (written (before ++ [last])).history =
      totalBytes (evict HasRoom before) + last.len := by
  rw [written_concat_history, totalBytes_append, totalBytes_cons,
    totalBytes_nil, add_zero]

theorem written_history_of_hasRoom {before : List LogEntry}
    (hroom : HasRoom before) (last : LogEntry) :
    (written (before ++ [last])).history = before ++ [last] := by
  rw [written_concat_history, evict_of_fits hroom]

theorem written_history_suffix (entries : List LogEntry) :
    (written entries).history <:+ entries := by
  rw [written_history]
  exact retain_suffix hasRoom_nil HasRoom.init entries

theorem written_lines_le (entries : List LogEntry) :
    (written entries).history.length ≤ maxLines := by
  rcases List.eq_nil_or_concat' entries with rfl | ⟨before, last, rfl⟩
  · exact Nat.zero_le _
  · have hlines := (fits_evict hasRoom_nil before).1
    rw [written_concat_history, List.length_append, List.length_singleton]
    exact hlines

/-- At most `MAX_LINES` lines and `MAX_BYTES` bytes. -/
def Bounded (buffer : LogBuffer) : Prop :=
  buffer.history.length ≤ maxLines ∧ totalBytes buffer.history ≤ maxBytes

/-- The last line fits beside any of the recent parts before it that leave room
for a line. -/
def LastFits (entries : List LogEntry) : Prop :=
  ∀ before last recent, entries = before ++ [last] → recent <:+ before →
    recent.length < maxLines → totalBytes recent < maxBytes →
      totalBytes recent + last.len ≤ maxBytes

theorem logBuffer_bounded_iff (entries : List LogEntry) :
    Bounded (written entries) ↔ LastFits entries := by
  rcases List.eq_nil_or_concat' entries with rfl | ⟨before, last, rfl⟩
  · constructor
    · rintro - before last recent hnil
      simp at hnil
    · rintro -
      exact ⟨Nat.zero_le _, Nat.zero_le _⟩
  · constructor
    · rintro ⟨-, hbound⟩ before' last' recent heq hrecent hlines hroom
      rw [totalBytes_written_concat] at hbound
      obtain ⟨rfl, rfl⟩ := List.append_singleton_inj.mp heq
      have hkept : totalBytes recent ≤ totalBytes (evict HasRoom before) :=
        totalBytes_le_of_suffix (suffix_evict hrecent ⟨hlines, hroom⟩)
      omega
    · intro hfits
      obtain ⟨hlines, hroom⟩ := fits_evict hasRoom_nil before
      refine ⟨written_lines_le _, ?_⟩
      rw [totalBytes_written_concat]
      exact hfits before last _ rfl (evict_suffix before) hlines hroom

/-- `"x".repeat(count)`. -/
def repeatX : ℕ → String
  | 0 => ""
  | count + 1 => (repeatX count).push 'x'

theorem utf8ByteSize_repeatX (count : ℕ) :
    (repeatX count).utf8ByteSize = count := by
  induction count with
  | zero => rfl
  | succ count ih => rw [repeatX, String.utf8ByteSize_push, ih]; rfl

def shortEntry : LogEntry where
  line := "stdout: x"
  timestamp := 0

/-- `MAX_BYTES` bytes with what the runtime puts in front of them. -/
def longEntry : LogEntry where
  line := "stdout: " ++ repeatX (maxBytes - 8)
  timestamp := 1

/-- A short line and then one of `MAX_BYTES` bytes. -/
theorem logBuffer_not_bounded :
    (∀ entry ∈ [shortEntry, longEntry], entry.len ≤ maxBytes) ∧
      totalBytes (written [shortEntry, longEntry]).history = 9 + maxBytes ∧
      ¬Bounded (written [shortEntry, longEntry]) := by
  have hshort : shortEntry.len = 9 := by decide
  have hlong : longEntry.len = maxBytes := by
    rw [LogEntry.len, longEntry, String.utf8ByteSize_append,
      utf8ByteSize_repeatX]
    decide
  have htotal : totalBytes [shortEntry] = 9 := by
    rw [totalBytes_cons, totalBytes_nil, hshort]
  have hroom : HasRoom [shortEntry] := by
    refine ⟨by decide, ?_⟩
    rw [htotal]
    decide
  have hbytes : totalBytes (written [shortEntry, longEntry]).history =
      9 + maxBytes := by
    rw [← List.singleton_append, totalBytes_written_concat,
      evict_of_fits hroom, htotal, hlong]
  refine ⟨?_, hbytes, fun hbounded => ?_⟩
  · rw [List.forall_mem_cons, List.forall_mem_singleton, hshort, hlong]
    exact ⟨by decide, le_rfl⟩
  · have hbound := hbounded.2
    omega

end NxccBridge.Logging
