import NxccBridge.Vm.LogManager

/-!
# What a log buffer holds

The history of a buffer, its count of bytes and its tails in terms of the lines
that were written, and the same for the copy that is kept of a dead worker's
buffer.
-/

namespace NxccBridge.LogContent

open Function
open NxccBridge.Eviction
open NxccBridge.Logging
open NxccBridge.LogManager
open NxccBridge.Runs

/-! ## Tails -/

/-- The last lines of a history, as many as asked for. -/
structure IsTail (maxLines : Option ℕ) (history lines : List LogEntry) :
    Prop where
  recent : lines <:+ history
  length : lines.length = maxLines.elim history.length (min · history.length)

theorem isTail_getTail (buffer : LogBuffer) (maxLines : Option ℕ) :
    IsTail maxLines buffer.history (buffer.getTail maxLines) where
  recent := buffer.getTail_suffix maxLines
  length := by
    rw [buffer.length_getTail]
    cases maxLines with
    | none => exact min_self _
    | some count => rfl

/-- A tail is determined by what was asked for. -/
theorem IsTail.unique {maxLines : Option ℕ} {history lines other : List LogEntry}
    (hlines : IsTail maxLines history lines)
    (hother : IsTail maxLines history other) : lines = other := by
  have hlength : lines.length = other.length := by
    rw [hlines.length, hother.length]
  exact (List.suffix_of_suffix_length_le hlines.recent hother.recent
    hlength.le).eq_of_length hlength

/-! ## Evictions -/

/-- A limit has been reached. -/
def AtLimit (history : List LogEntry) : Prop :=
  maxLines ≤ history.length ∨ maxBytes ≤ totalBytes history

theorem not_hasRoom_iff {history : List LogEntry} :
    ¬ HasRoom history ↔ AtLimit history := by
  rw [HasRoom, AtLimit, not_and_or, not_lt, not_lt]

/-- With `oldest` in front of it the history held `oldest :: rest`, and after the
line was written it no longer does. -/
structure Evicts (buffer : LogBuffer) (entry oldest : LogEntry)
    (rest : List LogEntry) : Prop where
  held : oldest :: rest <:+ buffer.history
  dropped : ¬ oldest :: rest ++ [entry] <:+ (buffer.writeLog entry).history

/-- A line is dropped only while it and the lines behind it reach a limit. -/
theorem Evicts.atLimit {buffer : LogBuffer} {entry oldest : LogEntry}
    {rest : List LogEntry} (hevicts : Evicts buffer entry oldest rest) :
    AtLimit (oldest :: rest) := by
  by_contra hroom
  rw [← not_hasRoom_iff, not_not] at hroom
  apply hevicts.dropped
  obtain ⟨older, hkept⟩ := suffix_evict hevicts.held hroom
  refine ⟨older, ?_⟩
  rw [LogBuffer.writeLog_history, ← hkept, List.append_assoc]

/-! ## The content of a buffer -/

structure Content (entries : List LogEntry) (buffer : LogBuffer) : Prop where
  recent : buffer.history <:+ entries
  nonempty : entries ≠ [] → buffer.history ≠ []
  last : buffer.history.getLast? = entries.getLast?
  counted : buffer.currentBytes = totalBytes buffer.history
  evicted : ∀ entry oldest rest, Evicts buffer entry oldest rest →
    AtLimit (oldest :: rest)
  tail : ∀ maxLines,
    IsTail maxLines buffer.history (buffer.getTail maxLines)
  copied : ∀ dead : DeadWorkerLogs, dead.logs = buffer.history →
    ∀ maxLines, IsTail maxLines buffer.history (dead.getTail maxLines)

theorem getLast?_written (entries : List LogEntry) :
    (written entries).history.getLast? = entries.getLast? := by
  rcases List.eq_nil_or_concat' entries with rfl | ⟨before, last, rfl⟩
  · rfl
  · rw [written_concat_history, List.getLast?_concat, List.getLast?_concat]

theorem written_history_ne_nil {entries : List LogEntry} (hne : entries ≠ []) :
    (written entries).history ≠ [] := by
  intro hnil
  have hlast := getLast?_written entries
  rw [hnil, List.getLast?_nil] at hlast
  exact hne (List.getLast?_eq_none_iff.mp hlast.symm)

/-- After any lines the history is a recent part of them that ends with the last
one, counted exactly, and dropped no line short of a limit. -/
theorem logBuffer_content (entries : List LogEntry) :
    Content entries (written entries) where
  recent := written_history_suffix entries
  nonempty := written_history_ne_nil
  last := getLast?_written entries
  counted := (written entries).counted
  evicted := fun _ _ _ hevicts => hevicts.atLimit
  tail := isTail_getTail (written entries)
  copied := fun dead hlogs maxLines => by
    rw [DeadWorkerLogs.getTail_eq hlogs]
    exact isTail_getTail (written entries) maxLines

/-! ## The buffers of the manager -/

/-- The lines that actions write to the buffer of a number. -/
def linesTo (number : ℕ) (actions : List Action) : List LogEntry :=
  actions.filterMap fun
    | .writeLog other entry => if other = number then some entry else none
    | _ => none

@[simp]
theorem linesTo_concat (number : ℕ) (actions : List Action) (last : Action) :
    linesTo number (actions ++ [last]) =
      linesTo number actions ++ linesTo number [last] :=
  List.filterMap_append

/-- One action writes its line to a buffer and keeps it under its number. -/
theorem buffers_step {state : State} {number : ℕ} {buffer : WorkerBuffer}
    (hbuffer : state.buffers number = some buffer) (action : Action) :
    (state.step action).buffers number = some { buffer with
      log := (linesTo number [action]).foldl LogBuffer.writeLog buffer.log } := by
  cases action with
  | registerWorker workerId other =>
      rw [State.step, State.registerWorker]
      split
      · rename_i hfree
        have hother : number ≠ other := by
          rintro rfl
          rw [hbuffer] at hfree
          cases hfree
        simpa [hother, linesTo] using hbuffer
      · exact hbuffer
  | writeLog other entry =>
      by_cases hother : other = number
      · subst hother
        simp [State.step, State.writeLog, hbuffer, linesTo]
      · simpa [State.step, State.writeLog, linesTo, hother, Ne.symm hother]
          using hbuffer
  | terminateWorker workerId now =>
      rw [State.step, State.terminateWorker]
      split <;> exact hbuffer
  | getWorkerLogs call workerId tailLines =>
      rw [State.step, State.getWorkerLogs]
      split <;> exact hbuffer
  | proceed call =>
      rw [State.step, State.proceed]
      split <;> exact hbuffer
  | cleanup now => exact hbuffer

/-- A registered buffer holds what was written to it since, whatever else the
manager does. -/
theorem buffers_run {state : State} {number : ℕ} {workerId : String}
    (hfree : state.buffers number = none) (actions : List Action) :
    (run State.step (state.registerWorker workerId number) actions).buffers
      number = some ⟨workerId, written (linesTo number actions)⟩ := by
  induction actions using List.reverseRecOn with
  | nil => simp [State.registerWorker, hfree, linesTo, written]
  | append_singleton actions last ih =>
      rw [run_concat, buffers_step ih, linesTo_concat]
      simp [written]

/-- The copy made when the worker ends has the tails of what was written. -/
theorem terminateWorker_getTail {state : State} {workerId : String}
    {entries : List LogEntry} {now : ℕ}
    (hbuffer : state.activeBuffer workerId =
      some ⟨workerId, written entries⟩) :
    ∃ dead, (state.terminateWorker workerId now).deadWorkerLogs workerId =
        some dead ∧
      ∀ maxLines, IsTail maxLines (written entries).history
        (dead.getTail maxLines) := by
  refine ⟨⟨workerId, (written entries).history, now⟩, ?_, fun maxLines =>
    (logBuffer_content entries).copied _ rfl maxLines⟩
  simp [State.terminateWorker, hbuffer]

end NxccBridge.LogContent
