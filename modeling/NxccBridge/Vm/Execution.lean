import NxccBridge.Core.Runs
import NxccBridge.Vm.Postback

/-!
# Execution of a Zenroom process

`execute_zenroom` and `read_with_limit` of `vm/zenroom/src/vmm/mod.rs`, beside a
child process that does what it likes.  The VM and the child meet in three pipes,
in the child's exit status and in the signal that kills the child; its descendants
keep the pipes that they hold.
-/

namespace NxccBridge.Execution

open Function
open NxccBridge.Framing
open NxccBridge.Postback (ErrorInfo)
open NxccBridge.Serde

/-! ## Pipes -/

/-- One of the two outputs of the child. -/
inductive Stream
  | stdout
  | stderr
  deriving DecidableEq

def Stream.name : Stream → String
  | .stdout => "stdout"
  | .stderr => "stderr"

inductive Channel
  | stdin
  | output (stream : Stream)
  deriving DecidableEq

/-- The bytes in a pipe, and who holds the child's end of it. -/
structure Pipe where
  buffer : Bytes
  child : Bool
  descendants : ℕ

namespace Pipe

/-- A pipe to a child that was just started. -/
def opened : Pipe where
  buffer := []
  child := true
  descendants := 0

def held (pipe : Pipe) : Bool := pipe.child || decide (0 < pipe.descendants)

def room (capacity : ℕ) (pipe : Pipe) : ℕ := capacity - pipe.buffer.length

def put (pipe : Pipe) (bytes : Bytes) : Pipe :=
  { pipe with buffer := pipe.buffer ++ bytes }

def take (pipe : Pipe) (count : ℕ) : Pipe :=
  { pipe with buffer := pipe.buffer.drop count }

end Pipe

/-! ## Results -/

/-- `std::process::ExitStatus`: a child that a signal ended has no code. -/
structure ExitStatus where
  code : Option ℤ
  deriving DecidableEq

inductive OutputReadResult
  | ok (bytes : Bytes)
  | overflow (bytes : Bytes)
  | err (message : String)
  deriving DecidableEq

namespace OutputReadResult

def overflowed : OutputReadResult → Bool
  | .overflow _ => true
  | _ => false

def bytes : OutputReadResult → Bytes
  | .ok bytes => bytes
  | .overflow bytes => bytes
  | .err _ => []

/-- A failed read replaces the error found so far. -/
def errorOr (error : Option ErrorInfo) : OutputReadResult → Option ErrorInfo
  | .err message => some { code := "exec_failed", message := message }
  | _ => error

end OutputReadResult

structure ExecOutput where
  exitCode : ℤ
  stdout : String
  stderr : String
  stdoutJson : Option JsonValue
  stdoutOverflowed : Bool
  stderrOverflowed : Bool

structure ExecOutcome where
  output : ExecOutput
  error : Option ErrorInfo

def ExecOutput.initial : ExecOutput where
  exitCode := -1
  stdout := ""
  stderr := ""
  stdoutJson := none
  stdoutOverflowed := false
  stderrOverflowed := false

def execFailed (message : String) : ErrorInfo where
  code := "exec_failed"
  message := message

/-- The outcome of the stages before the event loop. -/
def ExecOutcome.failed (message : String) : ExecOutcome where
  output := .initial
  error := some (execFailed message)

/-! ## The state -/

/-- What an execution is given besides its input, the capacity of a pipe, and the
libraries that read the output. -/
structure Settings where
  timeoutMs : ℕ
  maxBytes : Stream → ℕ
  capacity : ℕ
  utf8Lossy : Bytes → String
  fromStr : String → Option JsonValue

/-- The task that reads an output: at work, finished with a result or with a
failure to join it, or joined by the event loop. -/
inductive Reader
  | reading (buf : Bytes)
  | finished (result : Option OutputReadResult)
  | joined (result : OutputReadResult)
  deriving DecidableEq

def Reader.result : Reader → Option OutputReadResult
  | .joined result => some result
  | _ => none

/-- The variables of the event loop. -/
structure Loop where
  exitStatus : Option ExitStatus
  readers : Stream → Reader
  deadline : ℕ
  timedOut : Bool
  error : Option ErrorInfo
  overflowError : Option ErrorInfo

namespace Loop

/-- Both readers at work, and the timer started. -/
def started (deadline : ℕ) : Loop where
  exitStatus := none
  readers := fun _ => .reading []
  deadline := deadline
  timedOut := false
  error := none
  overflowError := none

def result (loop : Loop) (stream : Stream) : Option OutputReadResult :=
  (loop.readers stream).result

def setReader (loop : Loop) (stream : Stream) (reader : Reader) : Loop :=
  { loop with readers := update loop.readers stream reader }

/-- The two conditions after the `select!` under which the loop ends. -/
def done (loop : Loop) : Bool :=
  (loop.result .stdout).isSome && (loop.result .stderr).isSome &&
      loop.exitStatus.isSome ||
    loop.timedOut && (loop.result .stdout).isSome &&
      (loop.result .stderr).isSome

end Loop

inductive Phase
  | writing (rest : Bytes)
  | looping (loop : Loop)
  | returned (timedOut : Bool) (outcome : ExecOutcome)

/-- `status` is the child's once it has ended. -/
structure State where
  now : ℕ
  pipes : Channel → Pipe
  status : Option ExitStatus
  phase : Phase

namespace State

def setPipe (state : State) (channel : Channel) (pipe : Pipe) : State :=
  { state with pipes := update state.pipes channel pipe }

/-- The child ends, and its ends of the pipes close. -/
def childEnded (state : State) (status : ExitStatus) : State :=
  { state with
    status := state.status.or (some status)
    pipes := fun channel => { state.pipes channel with child := false } }

/-- `child.kill().await`. -/
def kill (state : State) : State := state.childEnded { code := none }

def looping (state : State) (loop : Loop) : State :=
  { state with phase := .looping loop }

def returned (state : State) (timedOut : Bool) (outcome : ExecOutcome) : State :=
  { state with phase := .returned timedOut outcome }

/-- A failure before the event loop, with the child running. -/
def abort (state : State) (message : String) : State :=
  state.kill.returned false (.failed message)

end State

variable (settings : Settings)

/-- The state after `spawn`, for the bytes of the input. -/
def start (spawned : Except String Unit) (input : Bytes) : State where
  now := 0
  pipes := fun _ => .opened
  status := none
  phase :=
    match spawned with
    | .ok () => .writing input
    | .error message => .returned false (.failed message)

/-! ## The code -/

/-- What follows the event loop. -/
def finish (loop : Loop) : ExecOutcome :=
  let stdoutResult := (loop.result .stdout).getD (.ok [])
  let stderrResult := (loop.result .stderr).getD (.ok [])
  let error := stderrResult.errorOr (stdoutResult.errorOr loop.error)
  let stdout := settings.utf8Lossy stdoutResult.bytes
  { output := {
      exitCode := (loop.exitStatus.bind ExitStatus.code).getD (-1)
      stdout := stdout
      stderr := settings.utf8Lossy stderrResult.bytes
      stdoutJson := settings.fromStr stdout
      stdoutOverflowed := stdoutResult.overflowed
      stderrOverflowed := stderrResult.overflowed }
    error := error.or loop.overflowError }

/-- The end of the loop's body. -/
def settle (state : State) (loop : Loop) : State :=
  if loop.done then state.returned loop.timedOut (finish settings loop)
  else state.looping loop

def overflowInfo (stream : Stream) : ErrorInfo where
  code := stream.name ++ "_limit_exceeded"
  message := stream.name ++ " exceeded configured limit"

/-- The branch of the `select!` for a reader. -/
def join (state : State) (loop : Loop) (stream : Stream) :
    Option OutputReadResult → State
  | some result =>
      let joined := loop.setReader stream (.joined result)
      if result.overflowed && loop.overflowError.isNone then
        settle settings state.kill
          { joined with overflowError := some (overflowInfo stream) }
      else settle settings state joined
  | none =>
      let message := stream.name ++ " task failed"
      settle settings state.kill
        { loop.setReader stream (.joined (.err message)) with
          error := some (execFailed message) }

def timeoutInfo : ErrorInfo where
  code := "timeout"
  message := "Zenroom execution timed out"

/-- The size of the chunk that `read_with_limit` reads into. -/
def chunkBytes : ℕ := 4096

/-- What `read_with_limit` does with a chunk. -/
def receive (maxBytes : ℕ) (buf chunk : Bytes) : Reader :=
  if maxBytes < buf.length + chunk.length then
    .finished (some (.overflow (buf ++ chunk.take (maxBytes - buf.length))))
  else .reading (buf ++ chunk)

/-- The steps of the VM, none of which waits. -/
inductive Own
  | write (count : ℕ)
  | brokenPipe (message : String)
  | spawnReaders
  | read (stream : Stream) (count : ℕ)
  | endOfStream (stream : Stream)
  | childWaited
  | joinReader (stream : Stream)
  | timeout

/-- `stdin.write_all`, and the start of the readers and of the timer after it. -/
def writeStep (state : State) (rest : Bytes) : Own → Option State
  | .write count =>
      let pipe := state.pipes .stdin
      if pipe.held ∧ 1 ≤ count ∧ count ≤ rest.length ∧
          count ≤ pipe.room settings.capacity then
        some { state.setPipe .stdin (pipe.put (rest.take count)) with
          phase := .writing (rest.drop count) }
      else none
  | .brokenPipe message =>
      if rest ≠ [] ∧ (state.pipes .stdin).held = false then
        some (state.abort message)
      else none
  | .spawnReaders =>
      if rest = [] then
        some (state.looping (.started (state.now + settings.timeoutMs)))
      else none
  | _ => none

/-- The two readers, and the branches of the `select!`. -/
def loopStep (state : State) (loop : Loop) : Own → Option State
  | .read stream count =>
      match loop.readers stream with
      | .reading buf =>
          let pipe := state.pipes (.output stream)
          if 1 ≤ count ∧ count ≤ chunkBytes ∧ count ≤ pipe.buffer.length then
            some ((state.setPipe (.output stream) (pipe.take count)).looping
              (loop.setReader stream
                (receive (settings.maxBytes stream) buf
                  (pipe.buffer.take count))))
          else none
      | _ => none
  | .endOfStream stream =>
      match loop.readers stream with
      | .reading buf =>
          let pipe := state.pipes (.output stream)
          if pipe.buffer = [] ∧ pipe.held = false then
            some (state.looping
              (loop.setReader stream (.finished (some (.ok buf)))))
          else none
      | _ => none
  | .childWaited =>
      match loop.exitStatus, state.status with
      | none, some status =>
          some (settle settings state { loop with exitStatus := some status })
      | _, _ => none
  | .joinReader stream =>
      match loop.readers stream with
      | .finished result => some (join settings state loop stream result)
      | _ => none
  | .timeout =>
      if loop.timedOut = false ∧ loop.deadline ≤ state.now then
        some (settle settings state.kill
          { loop with timedOut := true, error := some timeoutInfo })
      else none
  | _ => none

def own? (state : State) (own : Own) : Option State :=
  match state.phase with
  | .writing rest => writeStep settings state rest own
  | .looping loop => loopStep settings state loop own
  | .returned .. => none

/-! ## Failures and the world -/

/-- Calls of the VM that fail. -/
inductive Fault
  | write (message : String)
  | missing (stream : Stream)
  | wait (message : String)
  | read (stream : Stream) (message : String)
  | task (stream : Stream)

def fault? (state : State) : Fault → Option State
  | .write message =>
      match state.phase with
      | .writing (_ :: _) => some (state.abort message)
      | _ => none
  | .missing stream =>
      match state.phase with
      | .writing [] => some (state.abort ("missing " ++ stream.name))
      | _ => none
  | .wait message =>
      match state.phase with
      | .looping loop =>
          if loop.exitStatus = none then
            let failed := { loop with error := some (execFailed message) }
            some (state.returned loop.timedOut (finish settings failed))
          else none
      | _ => none
  | .read stream message =>
      match state.phase with
      | .looping loop =>
          match loop.readers stream with
          | .reading _ =>
              some (state.looping
                (loop.setReader stream (.finished (some (.err message)))))
          | _ => none
      | _ => none
  | .task stream =>
      match state.phase with
      | .looping loop =>
          match loop.readers stream with
          | .reading _ =>
              some (state.looping (loop.setReader stream (.finished none)))
          | _ => none
      | _ => none

/-- The VM has its end of an output open. -/
def listens (state : State) (stream : Stream) : Bool :=
  match state.phase with
  | .writing _ => true
  | .looping loop =>
      match loop.readers stream with
      | .reading _ => true
      | _ => false
  | .returned .. => false

/-- The clock, the child and its descendants.  A descendant gets an end of a pipe
from a process that has it. -/
inductive World
  | tick
  | reads (count : ℕ)
  | writes (stream : Stream) (bytes : Bytes)
  | shares (channel : Channel)
  | closes (channel : Channel)
  | childCloses (channel : Channel)
  | childExits (status : ExitStatus)

def world? (state : State) : World → Option State
  | .tick => some { state with now := state.now + 1 }
  | .reads count =>
      let pipe := state.pipes .stdin
      if pipe.held then some (state.setPipe .stdin (pipe.take count)) else none
  | .writes stream bytes =>
      let pipe := state.pipes (.output stream)
      if pipe.held ∧ listens state stream ∧
          bytes.length ≤ pipe.room settings.capacity then
        some (state.setPipe (.output stream) (pipe.put bytes))
      else none
  | .shares channel =>
      let pipe := state.pipes channel
      if pipe.held then
        some (state.setPipe channel
          { pipe with descendants := pipe.descendants + 1 })
      else none
  | .closes channel =>
      let pipe := state.pipes channel
      some (state.setPipe channel
        { pipe with descendants := pipe.descendants - 1 })
  | .childCloses channel =>
      some (state.setPipe channel { state.pipes channel with child := false })
  | .childExits status =>
      if state.status = none then some (state.childEnded status) else none

/-! ## Runs -/

inductive Act
  | own (own : Own)
  | fault (fault : Fault)
  | world (world : World)

def act? (state : State) : Act → Option State
  | .own own => own? settings state own
  | .fault fault => fault? settings state fault
  | .world world => world? settings state world

/-- What cannot happen in a state leaves it as it is. -/
def step (state : State) (act : Act) : State :=
  (act? settings state act).getD state

def run (spawned : Except String Unit) (input : Bytes) (acts : List Act) :
    State :=
  Runs.run (step settings) (start spawned input) acts

/-! ## What the steps come to -/

section Moves

variable (state : State)

/-- The steps before the event loop. -/
inductive WriteMove (rest : Bytes) : State → Prop
  | write {count : ℕ} (hheld : (state.pipes .stdin).held = true)
      (hpos : 1 ≤ count) (hcount : count ≤ rest.length)
      (hroom : count ≤ (state.pipes .stdin).room settings.capacity) :
      WriteMove rest
        { state.setPipe .stdin
            ((state.pipes .stdin).put (rest.take count)) with
          phase := .writing (rest.drop count) }
  | brokenPipe {message : String} (hrest : rest ≠ [])
      (hfree : (state.pipes .stdin).held = false) :
      WriteMove rest (state.abort message)
  | spawnReaders (hrest : rest = []) :
      WriteMove rest
        (state.looping (.started (state.now + settings.timeoutMs)))

/-- The steps of the event loop and of the readers beside it. -/
inductive LoopMove (loop : Loop) : State → Prop
  | read {stream : Stream} {buf : Bytes} {count : ℕ}
      (hreader : loop.readers stream = .reading buf) (hpos : 1 ≤ count)
      (hcount : count ≤ (state.pipes (.output stream)).buffer.length) :
      LoopMove loop
        ((state.setPipe (.output stream)
            ((state.pipes (.output stream)).take count)).looping
          (loop.setReader stream
            (receive (settings.maxBytes stream) buf
              ((state.pipes (.output stream)).buffer.take count))))
  | endOfStream {stream : Stream} {buf : Bytes}
      (hreader : loop.readers stream = .reading buf)
      (hfree : (state.pipes (.output stream)).held = false) :
      LoopMove loop
        (state.looping (loop.setReader stream (.finished (some (.ok buf)))))
  | childWaited {status : ExitStatus} (hwaiting : loop.exitStatus = none) :
      LoopMove loop
        (settle settings state { loop with exitStatus := some status })
  | joinReader {stream : Stream} {result : Option OutputReadResult}
      (hreader : loop.readers stream = .finished result) :
      LoopMove loop (join settings state loop stream result)
  | timeout (hrunning : loop.timedOut = false)
      (helapsed : loop.deadline ≤ state.now) :
      LoopMove loop
        (settle settings state.kill
          { loop with timedOut := true, error := some timeoutInfo })

/-- The failures: before the event loop, of the wait for the child, and of a
reader. -/
inductive FaultMove : State → Prop
  | abort {rest : Bytes} {message : String}
      (hwriting : state.phase = .writing rest) :
      FaultMove (state.abort message)
  | wait {loop : Loop} {message : String}
      (hlooping : state.phase = .looping loop) :
      FaultMove (state.returned loop.timedOut
        (finish settings { loop with error := some (execFailed message) }))
  | reader {loop : Loop} {stream : Stream} {buf : Bytes}
      (outcome : Option OutputReadResult)
      (hlooping : state.phase = .looping loop)
      (hreader : loop.readers stream = .reading buf) :
      FaultMove (state.looping (loop.setReader stream (.finished outcome)))

/-- The world lets time pass, changes a pipe or ends the child. -/
inductive WorldMove : State → Prop
  | tick : WorldMove { state with now := state.now + 1 }
  | pipe {channel : Channel} {pipe : Pipe}
      (hchild : pipe.child = (state.pipes channel).child ∨ pipe.child = false)
      (hstdin : channel = .stdin →
        pipe.buffer.length ≤ (state.pipes channel).buffer.length) :
      WorldMove (state.setPipe channel pipe)
  | childEnded {status : ExitStatus} : WorldMove (state.childEnded status)

variable {settings state}

theorem writeMove_of_step {rest : Bytes} {own : Own} {later : State}
    (hstep : writeStep settings state rest own = some later) :
    WriteMove settings state rest later := by
  cases own with
  | write count =>
      simp only [writeStep, Option.ite_none_right_eq_some,
        Option.some.injEq] at hstep
      obtain ⟨⟨hheld, hpos, hcount, hroom⟩, rfl⟩ := hstep
      exact .write hheld hpos hcount hroom
  | brokenPipe message =>
      simp only [writeStep, Option.ite_none_right_eq_some,
        Option.some.injEq] at hstep
      obtain ⟨⟨hrest, hfree⟩, rfl⟩ := hstep
      exact .brokenPipe hrest hfree
  | spawnReaders =>
      simp only [writeStep, Option.ite_none_right_eq_some,
        Option.some.injEq] at hstep
      obtain ⟨hrest, rfl⟩ := hstep
      exact .spawnReaders hrest
  | read _ _ => cases hstep
  | endOfStream _ => cases hstep
  | childWaited => cases hstep
  | joinReader _ => cases hstep
  | timeout => cases hstep

theorem loopStep_read {loop : Loop} {stream : Stream} {count : ℕ}
    {later : State}
    (hstep : loopStep settings state loop (.read stream count) = some later) :
    ∃ buf, loop.readers stream = .reading buf ∧
      (1 ≤ count ∧ count ≤ chunkBytes ∧
        count ≤ (state.pipes (.output stream)).buffer.length) ∧
      later = (state.setPipe (.output stream)
          ((state.pipes (.output stream)).take count)).looping
        (loop.setReader stream
          (receive (settings.maxBytes stream) buf
            ((state.pipes (.output stream)).buffer.take count))) := by
  simp only [loopStep] at hstep
  split at hstep
  next buf hreader =>
    simp only [Option.ite_none_right_eq_some, Option.some.injEq] at hstep
    exact ⟨buf, hreader, hstep.1, hstep.2.symm⟩
  next => cases hstep

/-- A chunk of which two bytes fit. -/
example : receive 2 [] [1, 2, 3] = .finished (some (.overflow [1, 2])) := by
  decide +kernel

theorem loopStep_endOfStream {loop : Loop} {stream : Stream} {later : State}
    (hstep : loopStep settings state loop (.endOfStream stream) =
      some later) :
    ∃ buf, loop.readers stream = .reading buf ∧
      (state.pipes (.output stream)).buffer = [] ∧
      (state.pipes (.output stream)).held = false ∧
      later = state.looping
        (loop.setReader stream (.finished (some (.ok buf)))) := by
  simp only [loopStep] at hstep
  split at hstep
  next buf hreader =>
    simp only [Option.ite_none_right_eq_some, Option.some.injEq] at hstep
    exact ⟨buf, hreader, hstep.1.1, hstep.1.2, hstep.2.symm⟩
  next => cases hstep

theorem loopStep_childWaited {loop : Loop} {later : State}
    (hstep : loopStep settings state loop .childWaited = some later) :
    ∃ status, loop.exitStatus = none ∧
      later = settle settings state
        { loop with exitStatus := some status } := by
  simp only [loopStep] at hstep
  split at hstep
  next status hwaiting hstatus =>
    cases hstep
    exact ⟨status, hwaiting, rfl⟩
  next => cases hstep

theorem loopStep_joinReader {loop : Loop} {stream : Stream} {later : State}
    (hstep : loopStep settings state loop (.joinReader stream) =
      some later) :
    ∃ result, loop.readers stream = .finished result ∧
      later = join settings state loop stream result := by
  simp only [loopStep] at hstep
  split at hstep
  next result hreader =>
    cases hstep
    exact ⟨result, hreader, rfl⟩
  next => cases hstep

theorem loopStep_timeout {loop : Loop} {later : State}
    (hstep : loopStep settings state loop .timeout = some later) :
    loop.timedOut = false ∧ loop.deadline ≤ state.now ∧
      later = settle settings state.kill
        { loop with timedOut := true, error := some timeoutInfo } := by
  simp only [loopStep, Option.ite_none_right_eq_some,
    Option.some.injEq] at hstep
  exact ⟨hstep.1.1, hstep.1.2, hstep.2.symm⟩

theorem loopMove_of_step {loop : Loop} {own : Own} {later : State}
    (hstep : loopStep settings state loop own = some later) :
    LoopMove settings state loop later := by
  cases own with
  | write _ => cases hstep
  | brokenPipe _ => cases hstep
  | spawnReaders => cases hstep
  | read stream count =>
      obtain ⟨buf, hreader, ⟨hpos, -, hcount⟩, rfl⟩ := loopStep_read hstep
      exact .read hreader hpos hcount
  | endOfStream stream =>
      obtain ⟨buf, hreader, -, hfree, rfl⟩ := loopStep_endOfStream hstep
      exact .endOfStream hreader hfree
  | childWaited =>
      obtain ⟨status, hwaiting, rfl⟩ := loopStep_childWaited hstep
      exact .childWaited hwaiting
  | joinReader stream =>
      obtain ⟨result, hreader, rfl⟩ := loopStep_joinReader hstep
      exact .joinReader hreader
  | timeout =>
      obtain ⟨hrunning, helapsed, rfl⟩ := loopStep_timeout hstep
      exact .timeout hrunning helapsed

/-- A failure before the loop aborts, one of the wait ends the loop, and one of
a reader is its result. -/
theorem fault_cases {fault : Fault} {later : State}
    (hstep : fault? settings state fault = some later) :
    (∃ rest message, state.phase = .writing rest ∧
      later = state.abort message) ∨
    (∃ loop message, state.phase = .looping loop ∧
      later = state.returned loop.timedOut
        (finish settings { loop with error := some (execFailed message) })) ∨
    ∃ loop stream buf outcome, state.phase = .looping loop ∧
      loop.readers stream = .reading buf ∧
      (outcome = none ∨ ∃ message, outcome = some (.err message)) ∧
      later = state.looping
        (loop.setReader stream (.finished outcome)) := by
  cases fault with
  | write message =>
      simp only [fault?] at hstep
      split at hstep
      next hwriting => cases hstep; exact .inl ⟨_, _, hwriting, rfl⟩
      next => cases hstep
  | missing stream =>
      simp only [fault?] at hstep
      split at hstep
      next hwriting => cases hstep; exact .inl ⟨_, _, hwriting, rfl⟩
      next => cases hstep
  | wait message =>
      simp only [fault?] at hstep
      split at hstep
      next loop hlooping =>
        simp only [Option.ite_none_right_eq_some, Option.some.injEq] at hstep
        exact .inr (.inl ⟨loop, message, hlooping, hstep.2.symm⟩)
      next => cases hstep
  | read stream message =>
      simp only [fault?] at hstep
      split at hstep
      next loop hlooping =>
        split at hstep
        next buf hreader =>
          cases hstep
          exact .inr (.inr ⟨loop, stream, buf, _, hlooping, hreader,
            .inr ⟨message, rfl⟩, rfl⟩)
        next => cases hstep
      next => cases hstep
  | task stream =>
      simp only [fault?] at hstep
      split at hstep
      next loop hlooping =>
        split at hstep
        next buf hreader =>
          cases hstep
          exact .inr (.inr ⟨loop, stream, buf, _, hlooping, hreader,
            .inl rfl, rfl⟩)
        next => cases hstep
      next => cases hstep

theorem faultMove_of_step {fault : Fault} {later : State}
    (hstep : fault? settings state fault = some later) :
    FaultMove settings state later := by
  obtain ⟨rest, message, hwriting, rfl⟩ | ⟨loop, message, hlooping, rfl⟩ |
    ⟨loop, stream, buf, outcome, hlooping, hreader, -, rfl⟩ :=
      fault_cases hstep
  · exact .abort hwriting
  · exact .wait hlooping
  · exact .reader outcome hlooping hreader

theorem worldMove_of_step {world : World} {later : State}
    (hstep : world? settings state world = some later) :
    WorldMove state later := by
  cases world with
  | tick => cases hstep; exact .tick
  | reads count =>
      simp only [world?, Option.ite_none_right_eq_some,
        Option.some.injEq] at hstep
      obtain ⟨-, rfl⟩ := hstep
      refine .pipe (.inl rfl) fun _ => ?_
      rw [Pipe.take, List.length_drop]
      exact Nat.sub_le _ _
  | writes stream bytes =>
      simp only [world?, Option.ite_none_right_eq_some,
        Option.some.injEq] at hstep
      obtain ⟨-, rfl⟩ := hstep
      exact .pipe (.inl rfl) fun heq => by cases heq
  | shares channel =>
      simp only [world?, Option.ite_none_right_eq_some,
        Option.some.injEq] at hstep
      obtain ⟨-, rfl⟩ := hstep
      exact .pipe (.inl rfl) fun _ => le_rfl
  | closes channel => cases hstep; exact .pipe (.inl rfl) fun _ => le_rfl
  | childCloses channel => cases hstep; exact .pipe (.inr rfl) fun _ => le_rfl
  | childExits status =>
      simp only [world?, Option.ite_none_right_eq_some,
        Option.some.injEq] at hstep
      obtain ⟨-, rfl⟩ := hstep
      exact .childEnded

end Moves

end NxccBridge.Execution
