import Mathlib.Logic.Function.Basic
import NxccBridge.Core.Runs
import NxccBridge.Vm.LogBuffer

/-!
# The log manager

`VmmLogManager` of `node/vm/base/src/logging.rs`.  A worker's buffer is shared: the
tasks that read the output of its process write to it also after
`terminate_worker` has copied it.  `get_worker_logs` looks at the active workers
and then at the dead ones, each under its own lock.
-/

namespace NxccBridge.LogManager

open Function
open NxccBridge.Logging
open NxccBridge.Runs

/-- `DEAD_WORKER_RETENTION` in seconds. -/
def deadWorkerRetention : ℕ := 300

structure DeadWorkerLogs where
  workerId : String
  logs : List LogEntry
  deathTime : ℕ

namespace DeadWorkerLogs

def isExpired (self : DeadWorkerLogs) (now : ℕ) : Bool :=
  deadWorkerRetention < now - self.deathTime

def getTail (self : DeadWorkerLogs) (maxLines : Option ℕ) : List LogEntry :=
  let linesToTake := min (maxLines.getD self.logs.length) self.logs.length
  if linesToTake = 0 then []
  else self.logs.drop (self.logs.length - linesToTake)

/-- A copy has the same tails. -/
theorem getTail_eq {self : DeadWorkerLogs} {buffer : LogBuffer}
    (hlogs : self.logs = buffer.history) (maxLines : Option ℕ) :
    self.getTail maxLines = buffer.getTail maxLines := by
  rw [getTail, hlogs]
  rfl

end DeadWorkerLogs

/-! ## The manager -/

/-- A buffer with the identifier that it was registered under. -/
structure WorkerBuffer where
  workerId : String
  log : LogBuffer

/-- A `get_worker_logs` that has found no active worker.  `source` is a history: the
buffer that was registered last when the call began. -/
structure Reader where
  workerId : String
  tailLines : Option ℕ
  source : Option ℕ

/-- What a `get_worker_logs` has returned; `retained` is a history: the buffer of
its source at that moment. -/
structure Answer where
  workerId : String
  tailLines : Option ℕ
  source : Option ℕ
  retained : Option LogBuffer
  result : Option (List LogEntry)

/-- `registered` and `answers` are histories: the buffer that was registered last
under an identifier, and what calls have returned. -/
structure State where
  buffers : ℕ → Option WorkerBuffer
  activeWorkers : String → Option ℕ
  deadWorkerLogs : String → Option DeadWorkerLogs
  registered : String → Option ℕ
  readers : ℕ → Option Reader
  answers : List Answer

def State.new : State where
  buffers := fun _ => none
  activeWorkers := fun _ => none
  deadWorkerLogs := fun _ => none
  registered := fun _ => none
  readers := fun _ => none
  answers := []

inductive Action
  | registerWorker (workerId : String) (number : ℕ)
  | writeLog (number : ℕ) (entry : LogEntry)
  | terminateWorker (workerId : String) (now : ℕ)
  | getWorkerLogs (call : ℕ) (workerId : String) (tailLines : Option ℕ)
  | proceed (call : ℕ)
  | cleanup (now : ℕ)

namespace State

/-- The new buffer has a number that is not in use. -/
def registerWorker (self : State) (workerId : String) (number : ℕ) : State :=
  match self.buffers number with
  | none =>
      { self with
        buffers := update self.buffers number (some ⟨workerId, .new⟩)
        activeWorkers := update self.activeWorkers workerId (some number)
        registered := update self.registered workerId (some number) }
  | some _ => self

def writeLog (self : State) (number : ℕ) (entry : LogEntry) : State :=
  { self with
    buffers := update self.buffers number
      ((self.buffers number).map fun buffer =>
        { buffer with log := buffer.log.writeLog entry }) }

/-- The active worker's buffer. -/
def activeBuffer (self : State) (workerId : String) : Option WorkerBuffer :=
  (self.activeWorkers workerId).bind self.buffers

/-- The lock on the active workers is held until the logs are with the dead. -/
def terminateWorker (self : State) (workerId : String) (now : ℕ) : State :=
  match self.activeBuffer workerId with
  | some buffer =>
      { self with
        activeWorkers := update self.activeWorkers workerId none
        deadWorkerLogs := update self.deadWorkerLogs workerId
          (some {
            workerId := workerId
            logs := buffer.log.history
            deathTime := now }) }
  | none => self

/-- A call returns. -/
def answer (self : State) (reader : Reader)
    (result : Option (List LogEntry)) : State :=
  { self with
    answers := self.answers ++ [{
      workerId := reader.workerId
      tailLines := reader.tailLines
      source := reader.source
      retained := (reader.source.bind self.buffers).map (·.log)
      result := result }] }

/-- The first half of `get_worker_logs`. -/
def getWorkerLogs (self : State) (call : ℕ) (workerId : String)
    (tailLines : Option ℕ) : State :=
  let reader := Reader.mk workerId tailLines (self.registered workerId)
  match self.readers call, self.activeBuffer workerId with
  | none, some buffer =>
      self.answer reader (some (buffer.log.getTail tailLines))
  | none, none =>
      { self with readers := update self.readers call (some reader) }
  | some _, _ => self

/-- The second half. -/
def proceed (self : State) (call : ℕ) : State :=
  match self.readers call with
  | some reader =>
      { self with readers := update self.readers call none }.answer reader
        ((self.deadWorkerLogs reader.workerId).map
          (DeadWorkerLogs.getTail · reader.tailLines))
  | none => self

def cleanup (self : State) (now : ℕ) : State :=
  { self with
    deadWorkerLogs := fun workerId =>
      (self.deadWorkerLogs workerId).filter fun logs => !logs.isExpired now }

def step (self : State) : Action → State
  | .registerWorker workerId number => self.registerWorker workerId number
  | .writeLog number entry => self.writeLog number entry
  | .terminateWorker workerId now => self.terminateWorker workerId now
  | .getWorkerLogs call workerId tailLines =>
      self.getWorkerLogs call workerId tailLines
  | .proceed call => self.proceed call
  | .cleanup now => self.cleanup now

/-- What a `get_worker_logs` returns with no other step in between. -/
def lookup (self : State) (workerId : String) (tailLines : Option ℕ) :
    Option (List LogEntry) :=
  match self.activeBuffer workerId with
  | some buffer => some (buffer.log.getTail tailLines)
  | none =>
      (self.deadWorkerLogs workerId).map (DeadWorkerLogs.getTail · tailLines)

end State

def State.after (actions : List Action) : State := run State.step .new actions

/-- Within the retention time: no logs have expired when the cleanup comes. -/
def InTime (state : State) : Action → Prop
  | .cleanup now => ∀ workerId logs,
      state.deadWorkerLogs workerId = some logs → logs.isExpired now = false
  | _ => True

theorem cleanup_inTime {state : State} {now : ℕ}
    (hintime : InTime state (.cleanup now)) : state.cleanup now = state := by
  have hsame : (fun workerId => (state.deadWorkerLogs workerId).filter
      fun logs => !logs.isExpired now) = state.deadWorkerLogs := by
    funext workerId
    cases hlogs : state.deadWorkerLogs workerId with
    | none => rfl
    | some logs => simp [hintime workerId logs hlogs]
  rw [State.cleanup, hsame]

/-! ## A registered worker is known -/

structure Known (state : State) : Prop where
  active : ∀ workerId number, state.activeWorkers workerId = some number →
    state.buffers number ≠ none
  registered : ∀ workerId, state.registered workerId ≠ none →
    state.activeWorkers workerId ≠ none ∨ state.deadWorkerLogs workerId ≠ none
  readers : ∀ call reader, state.readers call = some reader →
    reader.source ≠ none → state.deadWorkerLogs reader.workerId ≠ none
  answers : ∀ answer ∈ state.answers, answer.source ≠ none →
    answer.result ≠ none

theorem known_new : Known .new where
  active := by simp [State.new]
  registered := by simp [State.new]
  readers := by simp [State.new]
  answers := by simp [State.new]

namespace Known

variable {state : State}

theorem activeBuffer (hknown : Known state) {workerId : String}
    (hnone : state.activeBuffer workerId = none) :
    state.activeWorkers workerId = none := by
  rw [State.activeBuffer] at hnone
  cases hactive : state.activeWorkers workerId with
  | none => rfl
  | some number =>
      rw [hactive] at hnone
      exact absurd hnone (hknown.active workerId number hactive)

theorem lookup (hknown : Known state) {workerId : String}
    (hregistered : state.registered workerId ≠ none) (tailLines : Option ℕ) :
    state.lookup workerId tailLines ≠ none := by
  rw [State.lookup]
  split
  · simp
  · rename_i hnone
    have hdead := (hknown.registered workerId hregistered).resolve_left
      (not_not.mpr (hknown.activeBuffer hnone))
    simpa using hdead

theorem registerWorker (hknown : Known state) (workerId : String)
    (number : ℕ) : Known (state.registerWorker workerId number) := by
  rw [State.registerWorker]
  split
  · constructor
    case active =>
      intro other found hactive
      by_cases hfound : found = number
      · simp [hfound]
      · by_cases hother : other = workerId
        · exact absurd (by simpa [hother] using hactive.symm) hfound
        · simpa [hfound] using
            hknown.active other found (by simpa [hother] using hactive)
    case registered =>
      intro other hregistered
      by_cases hother : other = workerId
      · simp [hother]
      · simpa [hother] using
          hknown.registered other (by simpa [hother] using hregistered)
    case readers => exact hknown.readers
    case answers => exact hknown.answers
  · exact hknown

theorem writeLog (hknown : Known state) (number : ℕ) (entry : LogEntry) :
    Known (state.writeLog number entry) where
  active := fun workerId found hactive => by
    have hbefore := hknown.active workerId found hactive
    by_cases hfound : found = number
    · subst hfound
      simpa [State.writeLog] using hbefore
    · simpa [State.writeLog, hfound] using hbefore
  registered := hknown.registered
  readers := hknown.readers
  answers := hknown.answers

theorem terminateWorker (hknown : Known state) (workerId : String)
    (now : ℕ) : Known (state.terminateWorker workerId now) := by
  rw [State.terminateWorker]
  split
  · constructor
    case active =>
      intro other number hactive
      by_cases hother : other = workerId
      · simp [hother] at hactive
      · exact hknown.active other number (by simpa [hother] using hactive)
    case registered =>
      intro other hregistered
      by_cases hother : other = workerId
      · simp [hother]
      · simpa [hother] using hknown.registered other hregistered
    case readers =>
      intro call reader hreader hsource
      by_cases hother : reader.workerId = workerId
      · simp [hother]
      · simpa [hother] using hknown.readers call reader hreader hsource
    case answers => exact hknown.answers
  · exact hknown

theorem answer (hknown : Known state) {reader : Reader}
    {result : Option (List LogEntry)}
    (hresult : reader.source ≠ none → result ≠ none) :
    Known (state.answer reader result) where
  active := hknown.active
  registered := hknown.registered
  readers := hknown.readers
  answers := fun answer hanswer => by
    rcases List.mem_append.mp hanswer with hbefore | hnew
    · exact hknown.answers answer hbefore
    · rw [List.mem_singleton.mp hnew]
      exact hresult

theorem withReaders (hknown : Known state) {readers : ℕ → Option Reader}
    (hreaders : ∀ call reader, readers call = some reader →
      reader.source ≠ none → state.deadWorkerLogs reader.workerId ≠ none) :
    Known { state with readers := readers } where
  active := hknown.active
  registered := hknown.registered
  readers := hreaders
  answers := hknown.answers

theorem getWorkerLogs (hknown : Known state) (call : ℕ) (workerId : String)
    (tailLines : Option ℕ) :
    Known (state.getWorkerLogs call workerId tailLines) := by
  rw [State.getWorkerLogs]
  split
  · exact hknown.answer fun _ => by simp
  · rename_i hnone
    refine hknown.withReaders fun other reader hreader hsource => ?_
    by_cases hother : other = call
    · obtain rfl : Reader.mk workerId tailLines (state.registered workerId) =
        reader := by simpa [hother] using hreader
      exact (hknown.registered workerId hsource).resolve_left
        (not_not.mpr (hknown.activeBuffer hnone))
    · exact hknown.readers other reader (by simpa [hother] using hreader)
        hsource
  · exact hknown

theorem proceed (hknown : Known state) (call : ℕ) :
    Known (state.proceed call) := by
  rw [State.proceed]
  split
  · rename_i reader hreader
    refine answer (hknown.withReaders fun other waiting hwaiting hsource => ?_)
      fun hsource => ?_
    · by_cases hother : other = call
      · simp [hother] at hwaiting
      · exact hknown.readers other waiting (by simpa [hother] using hwaiting)
          hsource
    · simpa using hknown.readers call reader hreader hsource
  · exact hknown

theorem step (hknown : Known state) (action : Action)
    (hintime : InTime state action) : Known (state.step action) := by
  cases action with
  | registerWorker workerId number =>
      exact hknown.registerWorker workerId number
  | writeLog number entry => exact hknown.writeLog number entry
  | terminateWorker workerId now => exact hknown.terminateWorker workerId now
  | getWorkerLogs call workerId tailLines =>
      exact hknown.getWorkerLogs call workerId tailLines
  | proceed call => exact hknown.proceed call
  | cleanup now =>
      rw [State.step, cleanup_inTime hintime]
      exact hknown

end Known

/-! ## A retained line is found -/

/-- What keeps the lines: they are written while the buffer is active, and an
identifier is registered again only if its buffers have no lines. -/
def KeepsLines (state : State) : Action → Prop
  | .registerWorker workerId number => state.buffers number = none →
      ∀ other buffer, state.buffers other = some buffer →
        buffer.workerId = workerId → buffer.log.history = []
  | .writeLog number _ => ∀ buffer, state.buffers number = some buffer →
      state.activeWorkers buffer.workerId = some number
  | _ => True

/-- A buffer with a line is the one that was registered last, and is active or
copied. -/
structure Kept (state : State) : Prop where
  registered : ∀ workerId number, state.registered workerId = some number →
    ∃ buffer, state.buffers number = some buffer ∧ buffer.workerId = workerId
  active : ∀ workerId number, state.activeWorkers workerId = some number →
    state.registered workerId = some number
  lines : ∀ number buffer, state.buffers number = some buffer →
    buffer.log.history ≠ [] →
      state.registered buffer.workerId = some number ∧
        (state.activeWorkers buffer.workerId = none →
          ∃ logs, state.deadWorkerLogs buffer.workerId = some logs ∧
            logs.logs = buffer.log.history)
  readers : ∀ call reader, state.readers call = some reader →
    ∀ number, reader.source = some number →
      (∃ buffer, state.buffers number = some buffer ∧
        buffer.workerId = reader.workerId) ∧
      state.activeWorkers reader.workerId ≠ some number
  answers : ∀ answer ∈ state.answers, ∀ buffer,
    answer.retained = some buffer → buffer.history ≠ [] →
      answer.result = some (buffer.getTail answer.tailLines)

theorem kept_new : Kept .new where
  registered := by simp [State.new]
  active := by simp [State.new]
  lines := by simp [State.new]
  readers := by simp [State.new]
  answers := by simp [State.new]

namespace Kept

variable {state : State}

/-- The buffer that is active is the one with the lines. -/
theorem active_eq (hkept : Kept state) {number : ℕ} {buffer : WorkerBuffer}
    (hbuffer : state.buffers number = some buffer)
    (hlines : buffer.log.history ≠ []) {found : ℕ}
    (hactive : state.activeWorkers buffer.workerId = some found) :
    found = number := by
  have hregistered := (hkept.lines number buffer hbuffer hlines).1
  rw [hkept.active _ found hactive] at hregistered
  exact Option.some.inj hregistered

theorem lookup (hkept : Kept state) {number : ℕ} {buffer : WorkerBuffer}
    (hbuffer : state.buffers number = some buffer)
    (hlines : buffer.log.history ≠ []) (tailLines : Option ℕ) :
    state.lookup buffer.workerId tailLines =
      some (buffer.log.getTail tailLines) := by
  rw [State.lookup, State.activeBuffer]
  cases hactive : state.activeWorkers buffer.workerId with
  | some found =>
      obtain rfl := hkept.active_eq hbuffer hlines hactive
      simp [hbuffer]
  | none =>
      obtain ⟨logs, hlogs, hsame⟩ :=
        (hkept.lines number buffer hbuffer hlines).2 hactive
      simp [hlogs, DeadWorkerLogs.getTail_eq hsame]

theorem registerWorker (hkept : Kept state) {workerId : String} {number : ℕ}
    (hempty : state.buffers number = none →
      ∀ other buffer, state.buffers other = some buffer →
        buffer.workerId = workerId → buffer.log.history = []) :
    Kept (state.registerWorker workerId number) := by
  rw [State.registerWorker]
  split
  · rename_i hnumber
    have hne : ∀ other buffer, state.buffers other = some buffer →
        other ≠ number := by
      rintro other buffer hbuffer rfl
      rw [hnumber] at hbuffer
      cases hbuffer
    constructor
    case registered =>
      intro other found hregistered
      by_cases hother : other = workerId
      · obtain rfl : number = found := by simpa [hother] using hregistered
        exact ⟨⟨workerId, .new⟩, update_self .., hother.symm⟩
      · obtain ⟨buffer, hbuffer, hid⟩ := hkept.registered other found
          (by simpa [hother] using hregistered)
        refine ⟨buffer, ?_, hid⟩
        simpa [hne found buffer hbuffer] using hbuffer
    case active =>
      intro other found hactive
      by_cases hother : other = workerId
      · simpa [hother] using hactive
      · simpa [hother] using
          hkept.active other found (by simpa [hother] using hactive)
    case lines =>
      intro other buffer hbuffer hlines
      by_cases hother : other = number
      · obtain rfl : WorkerBuffer.mk workerId .new = buffer := by
          simpa [hother] using hbuffer
        exact absurd rfl hlines
      · have hold : state.buffers other = some buffer := by
          simpa [hother] using hbuffer
        have hid : buffer.workerId ≠ workerId :=
          fun heq => hlines (hempty hnumber other buffer hold heq)
        simpa [hid] using hkept.lines other buffer hold hlines
    case readers =>
      intro call reader hreader source hsource
      obtain ⟨⟨buffer, hbuffer, hid⟩, hactive⟩ :=
        hkept.readers call reader hreader source hsource
      have hsourceNe := hne source buffer hbuffer
      refine ⟨⟨buffer, by simpa [hsourceNe] using hbuffer, hid⟩, ?_⟩
      by_cases hother : reader.workerId = workerId
      · simpa [hother] using hsourceNe.symm
      · simpa [hother] using hactive
    case answers => exact hkept.answers
  · exact hkept

theorem writeLog (hkept : Kept state) {number : ℕ} {entry : LogEntry}
    (hactive : ∀ buffer, state.buffers number = some buffer →
      state.activeWorkers buffer.workerId = some number) :
    Kept (state.writeLog number entry) := by
  have hsame : ∀ other buffer, state.buffers other = some buffer →
      ∃ after, (state.writeLog number entry).buffers other = some after ∧
        after.workerId = buffer.workerId := by
    intro other buffer hbuffer
    by_cases hother : other = number
    · subst hother
      exact ⟨{ buffer with log := buffer.log.writeLog entry },
        by simp [State.writeLog, hbuffer], rfl⟩
    · exact ⟨buffer, by simpa [State.writeLog, hother] using hbuffer, rfl⟩
  constructor
  case registered =>
    intro workerId found hregistered
    obtain ⟨buffer, hbuffer, hid⟩ := hkept.registered workerId found hregistered
    obtain ⟨after, hafter, hworker⟩ := hsame found buffer hbuffer
    exact ⟨after, hafter, hworker.trans hid⟩
  case active => exact hkept.active
  case lines =>
    intro other after hafter hlines
    by_cases hother : other = number
    · subst hother
      obtain ⟨buffer, hbuffer, rfl⟩ : ∃ buffer,
          state.buffers other = some buffer ∧
            { buffer with log := buffer.log.writeLog entry } = after := by
        simpa [State.writeLog] using hafter
      have hfound := hactive buffer hbuffer
      refine ⟨hkept.active _ other hfound, fun hnone => ?_⟩
      exact absurd (hfound.symm.trans hnone) (by simp)
    · exact hkept.lines other after
        (by simpa [State.writeLog, hother] using hafter) hlines
  case readers =>
    intro call reader hreader source hsource
    obtain ⟨⟨buffer, hbuffer, hid⟩, hinactive⟩ :=
      hkept.readers call reader hreader source hsource
    obtain ⟨after, hafter, hworker⟩ := hsame source buffer hbuffer
    exact ⟨⟨after, hafter, hworker.trans hid⟩, hinactive⟩
  case answers => exact hkept.answers

theorem terminateWorker (hkept : Kept state) (workerId : String) (now : ℕ) :
    Kept (state.terminateWorker workerId now) := by
  rw [State.terminateWorker]
  split
  · rename_i copied hcopied
    obtain ⟨found, hfound, hbuffer⟩ := Option.bind_eq_some_iff.mp hcopied
    constructor
    case registered => exact hkept.registered
    case active =>
      intro other number hactive
      by_cases hother : other = workerId
      · simp [hother] at hactive
      · exact hkept.active other number (by simpa [hother] using hactive)
    case lines =>
      intro number buffer hnumber hlines
      obtain ⟨hregistered, hdead⟩ := hkept.lines number buffer hnumber hlines
      refine ⟨hregistered, fun hinactive => ?_⟩
      by_cases hother : buffer.workerId = workerId
      · -- the buffer with the lines is the one that is copied
        obtain rfl := hkept.active_eq hnumber hlines (hother ▸ hfound)
        obtain rfl := Option.some.inj (hbuffer.symm.trans hnumber)
        refine ⟨⟨workerId, copied.log.history, now⟩, ?_, rfl⟩
        rw [hother]
        exact update_self ..
      · simpa [hother] using hdead (by simpa [hother] using hinactive)
    case readers =>
      intro call reader hreader source hsource
      obtain ⟨hbuffer, hactive⟩ :=
        hkept.readers call reader hreader source hsource
      refine ⟨hbuffer, ?_⟩
      by_cases hother : reader.workerId = workerId
      · simp [hother]
      · simpa [hother] using hactive
    case answers => exact hkept.answers
  · exact hkept

theorem answer (hkept : Kept state) {reader : Reader}
    {result : Option (List LogEntry)}
    (hresult : ∀ number buffer, reader.source = some number →
      state.buffers number = some buffer → buffer.log.history ≠ [] →
        result = some (buffer.log.getTail reader.tailLines)) :
    Kept (state.answer reader result) where
  registered := hkept.registered
  active := hkept.active
  lines := hkept.lines
  readers := hkept.readers
  answers := fun answer hanswer => by
    rcases List.mem_append.mp hanswer with hbefore | hnew
    · exact hkept.answers answer hbefore
    · rw [List.mem_singleton.mp hnew]
      intro log hretained hlines
      obtain ⟨buffer, hbuffer, rfl⟩ := Option.map_eq_some_iff.mp hretained
      obtain ⟨number, hsource, hnumber⟩ := Option.bind_eq_some_iff.mp hbuffer
      exact hresult number buffer hsource hnumber hlines

theorem withReaders (hkept : Kept state) {readers : ℕ → Option Reader}
    (hreaders : ∀ call reader, readers call = some reader →
      ∀ number, reader.source = some number →
        (∃ buffer, state.buffers number = some buffer ∧
          buffer.workerId = reader.workerId) ∧
        state.activeWorkers reader.workerId ≠ some number) :
    Kept { state with readers := readers } where
  registered := hkept.registered
  active := hkept.active
  lines := hkept.lines
  readers := hreaders
  answers := hkept.answers

theorem getWorkerLogs (hkept : Kept state) (hknown : Known state) (call : ℕ)
    (workerId : String) (tailLines : Option ℕ) :
    Kept (state.getWorkerLogs call workerId tailLines) := by
  rw [State.getWorkerLogs]
  split
  · rename_i active hactive
    obtain ⟨found, hfound, hbuffer⟩ := Option.bind_eq_some_iff.mp hactive
    refine hkept.answer fun number buffer hsource hnumber hlines => ?_
    dsimp only at hsource
    rw [hkept.active workerId found hfound] at hsource
    obtain rfl := Option.some.inj hsource
    obtain rfl := Option.some.inj (hbuffer.symm.trans hnumber)
    rfl
  · rename_i hnone
    refine hkept.withReaders fun other reader hreader number hsource => ?_
    by_cases hother : other = call
    · obtain rfl : Reader.mk workerId tailLines (state.registered workerId) =
        reader := by simpa [hother] using hreader
      refine ⟨hkept.registered workerId number hsource, ?_⟩
      simp [hknown.activeBuffer hnone]
    · exact hkept.readers other reader (by simpa [hother] using hreader) number
        hsource
  · exact hkept

theorem proceed (hkept : Kept state) (call : ℕ) :
    Kept (state.proceed call) := by
  rw [State.proceed]
  split
  · rename_i reader hreader
    refine answer (hkept.withReaders fun other waiting hwaiting => ?_)
      fun number buffer hsource hbuffer hlines => ?_
    · by_cases hother : other = call
      · simp [hother] at hwaiting
      · exact hkept.readers other waiting (by simpa [hother] using hwaiting)
    · obtain ⟨⟨found, hfound, hid⟩, hinactive⟩ :=
        hkept.readers call reader hreader number hsource
      obtain rfl := Option.some.inj (hfound.symm.trans hbuffer)
      rw [← hid] at hinactive ⊢
      have hnone : state.activeWorkers found.workerId = none := by
        by_contra hactive
        obtain ⟨other, hother⟩ := Option.ne_none_iff_exists'.mp hactive
        rw [hkept.active_eq hbuffer hlines hother] at hother
        exact hinactive hother
      obtain ⟨logs, hlogs, hsame⟩ :=
        (hkept.lines number found hbuffer hlines).2 hnone
      simp [hlogs, DeadWorkerLogs.getTail_eq hsame]
  · exact hkept

theorem step (hkept : Kept state) (hknown : Known state) (action : Action)
    (hintime : InTime state action) (hkeeps : KeepsLines state action) :
    Kept (state.step action) := by
  cases action with
  | registerWorker workerId number => exact hkept.registerWorker hkeeps
  | writeLog number entry => exact hkept.writeLog hkeeps
  | terminateWorker workerId now => exact hkept.terminateWorker workerId now
  | getWorkerLogs call workerId tailLines =>
      exact hkept.getWorkerLogs hknown call workerId tailLines
  | proceed call => exact hkept.proceed call
  | cleanup now =>
      rw [State.step, cleanup_inTime hintime]
      exact hkept

end Kept

/-! ## Every run -/

theorem after_known {actions : List Action}
    (hintime : Along State.step InTime .new actions) :
    Known (.after actions) :=
  run_invariant Known known_new hintime
    fun _ action hknown hintime => hknown.step action hintime

theorem after_kept {actions : List Action}
    (hintime : Along State.step InTime .new actions)
    (hkeeps : Along State.step KeepsLines .new actions) :
    Kept (.after actions) := by
  have hboth : Known (.after actions) ∧ Kept (.after actions) :=
    run_invariant (fun state => Known state ∧ Kept state)
      ⟨known_new, kept_new⟩ (along_and.mpr ⟨hintime, hkeeps⟩)
      fun _ action ⟨hknown, hkept⟩ ⟨hintime, hkeeps⟩ =>
        ⟨hknown.step action hintime,
          hkept.step hknown action hintime hkeeps⟩
  exact hboth.2

/-- No call for a worker that is registered finds it unknown, now or in the past. -/
def NeverUnknown (state : State) : Prop :=
  (∀ workerId tailLines, state.registered workerId ≠ none →
    state.lookup workerId tailLines ≠ none) ∧
  ∀ answer ∈ state.answers, answer.source ≠ none → answer.result ≠ none

/-- Every line that a buffer retains is found by the calls for its worker, now and
in the past. -/
def LinesFound (state : State) : Prop :=
  (∀ number buffer, state.buffers number = some buffer →
    buffer.log.history ≠ [] → ∀ tailLines,
      state.lookup buffer.workerId tailLines =
        some (buffer.log.getTail tailLines)) ∧
  ∀ answer ∈ state.answers, ∀ buffer, answer.retained = some buffer →
    buffer.history ≠ [] →
      answer.result = some (buffer.getTail answer.tailLines)

/-- In every run within the retention time a registered worker is known, and in
those that keep their lines every retained line is found. -/
theorem termination_keeps_logs (actions : List Action)
    (hintime : Along State.step InTime .new actions) :
    NeverUnknown (.after actions) ∧
      (Along State.step KeepsLines .new actions →
        LinesFound (.after actions)) := by
  have hknown := after_known hintime
  refine ⟨⟨fun workerId tailLines hregistered =>
    hknown.lookup hregistered tailLines, hknown.answers⟩, fun hkeeps => ?_⟩
  have hkept := after_kept hintime hkeeps
  exact ⟨fun number buffer hbuffer hlines tailLines =>
    hkept.lookup hbuffer hlines tailLines, hkept.answers⟩

def lineOf (line : String) : LogEntry where
  line := line
  timestamp := 0

/-- A line before the end of the worker, and a call after it. -/
def writtenBefore : List Action :=
  [.registerWorker "w" 0, .writeLog 0 (lineOf "a"), .terminateWorker "w" 1,
    .getWorkerLogs 0 "w" none, .cleanup 60, .proceed 0]

theorem writtenBefore_inTime :
    Along State.step InTime .new writtenBefore := by
  refine ⟨trivial, trivial, trivial, trivial, ?_, trivial, trivial⟩
  intro workerId logs hlogs
  have hdead : update (fun _ => none) "w" (some ⟨"w", [lineOf "a"], 1⟩)
      workerId = some logs := hlogs
  by_cases hworker : workerId = "w"
  · obtain rfl : DeadWorkerLogs.mk "w" [lineOf "a"] 1 = logs := by
      simpa [hworker] using hdead
    decide
  · simp [hworker] at hdead

/-- The line is written while its buffer, the only one, is active. -/
theorem writtenBefore_keepsLines :
    Along State.step KeepsLines .new writtenBefore := by
  refine ⟨?_, ?_, trivial, trivial, trivial, trivial, trivial⟩
  · rintro - other buffer ⟨⟩
  · intro buffer hbuffer
    obtain rfl := Option.some.inj hbuffer
    rfl

theorem termination_keeps_logs_before :
    NeverUnknown (.after writtenBefore) ∧ LinesFound (.after writtenBefore) ∧
      (State.after writtenBefore).answers.map Answer.result =
        [some [lineOf "a"]] := by
  have hlogs := termination_keeps_logs writtenBefore writtenBefore_inTime
  exact ⟨hlogs.1, hlogs.2 writtenBefore_keepsLines, by decide⟩

/-- A reader of the process output writes its last line after `terminate_worker`
has copied the history. -/
def writtenAfter : List Action :=
  [.registerWorker "w" 0, .writeLog 0 (lineOf "a"), .terminateWorker "w" 1,
    .writeLog 0 (lineOf "b"), .getWorkerLogs 0 "w" none, .proceed 0]

theorem termination_loses_line :
    Along State.step InTime .new writtenAfter ∧
      ((State.after writtenAfter).buffers 0).map (·.log.history) =
        some [lineOf "a", lineOf "b"] ∧
      (State.after writtenAfter).answers.map Answer.result =
        [some [lineOf "a"]] ∧
      ¬LinesFound (.after writtenAfter) := by
  refine ⟨?_, by decide, by decide, fun hfound => ?_⟩
  · exact ⟨trivial, trivial, trivial, trivial, trivial, trivial, trivial⟩
  · have hlookup := hfound.1 0
      ⟨"w", written [lineOf "a", lineOf "b"]⟩ rfl (by decide) none
    exact absurd hlookup (by decide)

end NxccBridge.LogManager
