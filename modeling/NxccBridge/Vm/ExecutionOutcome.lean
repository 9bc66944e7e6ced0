import NxccBridge.Vm.Execution

/-!
# Outcomes of an execution

What the event loop of `execute_zenroom` knows in every state, and what follows for
an outcome without an error: neither limit was run into.
-/

namespace NxccBridge.Execution

open Function
open NxccBridge.Framing
open NxccBridge.Postback (ErrorInfo)

variable (settings : Settings)

/-! ## What the steps leave as it is -/

section Frames

variable (state : State)

@[simp]
theorem childEnded_buffer (status : ExitStatus) (channel : Channel) :
    ((state.childEnded status).pipes channel).buffer =
      (state.pipes channel).buffer := rfl

@[simp]
theorem childEnded_descendants (status : ExitStatus) (channel : Channel) :
    ((state.childEnded status).pipes channel).descendants =
      (state.pipes channel).descendants := rfl

@[simp]
theorem childEnded_child (status : ExitStatus) (channel : Channel) :
    ((state.childEnded status).pipes channel).child = false := rfl

@[simp]
theorem childEnded_now (status : ExitStatus) :
    (state.childEnded status).now = state.now := rfl

@[simp]
theorem childEnded_status_isSome (status : ExitStatus) :
    (state.childEnded status).status.isSome = true := by
  simp [State.childEnded]

theorem pipes_setPipe (channel other : Channel) (pipe : Pipe) :
    (state.setPipe channel pipe).pipes other =
      if other = channel then pipe else state.pipes other :=
  update_apply ..

end Frames

namespace Loop

variable (loop : Loop)

theorem readers_setReader (stream other : Stream) (reader : Reader) :
    (loop.setReader stream reader).readers other =
      if other = stream then reader else loop.readers other :=
  update_apply ..

theorem result_setReader_of_eq_none {stream : Stream} {reader : Reader}
    (hold : loop.result stream = none) (hnew : reader.result = none)
    (other : Stream) :
    (loop.setReader stream reader).result other = loop.result other := by
  rw [result, readers_setReader]
  split_ifs with hsame
  · rw [hsame, hnew, hold]
  · rfl

/-- A step of a reader does not end the loop. -/
theorem done_setReader {stream : Stream} {reader : Reader}
    (hold : loop.result stream = none) (hnew : reader.result = none) :
    (loop.setReader stream reader).done = loop.done := by
  simp only [done, result_setReader_of_eq_none loop hold hnew]
  rfl

end Loop

theorem receive_result (maxBytes : ℕ) (buf chunk : Bytes) :
    (receive maxBytes buf chunk).result = none := by
  rw [receive]
  split_ifs <;> rfl

theorem receive_within {maxBytes : ℕ} {buf chunk later : Bytes}
    (hreading : receive maxBytes buf chunk = .reading later) :
    later.length ≤ maxBytes := by
  rw [receive] at hreading
  split_ifs at hreading with hover
  cases hreading
  rw [List.length_append]
  exact Nat.le_of_not_lt hover

/-! ## What holds in every state -/

/-- The event loop holds what it has seen. -/
structure LoopInv (state : State) (loop : Loop) : Prop where
  within : ∀ stream buf, loop.readers stream = .reading buf →
    buf.length ≤ settings.maxBytes stream
  killed : loop.timedOut = true → state.status.isSome = true
  fired : loop.timedOut = true → loop.deadline ≤ state.now
  timeoutError : loop.timedOut = true → loop.error ≠ none
  overflowError : ∀ stream result, loop.readers stream = .joined result →
    result.overflowed = true → loop.overflowError ≠ none

/-- An outcome without an error. -/
structure Clean (timedOut : Bool) (outcome : ExecOutcome) : Prop where
  timedOut : timedOut = false
  stdout : outcome.output.stdoutOverflowed = false
  stderr : outcome.output.stderrOverflowed = false

def PhaseInv (state : State) : Phase → Prop
  | .writing _ => True
  | .looping loop => loop.done = false ∧ LoopInv settings state loop
  | .returned timedOut outcome => outcome.error = none → Clean timedOut outcome

/-- A child that has ended holds nothing. -/
def Closed (state : State) : Prop :=
  state.status.isSome = true → ∀ channel, (state.pipes channel).child = false

structure Inv (state : State) : Prop where
  closed : Closed state
  phase : PhaseInv settings state state.phase

variable {settings} {state : State} {loop : Loop}

theorem errorOr_eq_none {result : OutputReadResult} {error : Option ErrorInfo}
    (hnone : result.errorOr error = none) : error = none := by
  cases result with
  | err message => cases hnone
  | ok bytes => exact hnone
  | overflow bytes => exact hnone

theorem finish_error_eq_none (hnone : (finish settings loop).error = none) :
    loop.error = none ∧ loop.overflowError = none := by
  obtain ⟨herror, hoverflow⟩ := Option.or_eq_none_iff.mp hnone
  exact ⟨errorOr_eq_none (errorOr_eq_none herror), hoverflow⟩

namespace LoopInv

/-- A stream whose result overflowed leaves an error. -/
theorem overflowed_eq_false (hloop : LoopInv settings state loop)
    (hnone : loop.overflowError = none) (stream : Stream) :
    ((loop.result stream).getD (.ok [])).overflowed = false := by
  rw [Loop.result]
  cases hreader : loop.readers stream with
  | reading buf => rfl
  | finished result => rfl
  | joined result =>
      by_contra hoverflowed
      exact hloop.overflowError stream result hreader
        (Bool.eq_true_of_not_eq_false hoverflowed) hnone

theorem clean (hloop : LoopInv settings state loop)
    (hnone : (finish settings loop).error = none) :
    Clean loop.timedOut (finish settings loop) := by
  obtain ⟨herror, hoverflow⟩ := finish_error_eq_none hnone
  refine ⟨?_, hloop.overflowed_eq_false hoverflow .stdout,
    hloop.overflowed_eq_false hoverflow .stderr⟩
  by_contra htimedOut
  exact hloop.timeoutError (Bool.eq_true_of_not_eq_false htimedOut) herror

/-- Time passes, and a child that has ended stays so. -/
theorem mono {later : State} (hloop : LoopInv settings state loop)
    (hstatus : state.status.isSome = true → later.status.isSome = true)
    (hnow : state.now ≤ later.now) : LoopInv settings later loop where
  within := hloop.within
  killed htimedOut := hstatus (hloop.killed htimedOut)
  fired htimedOut := (hloop.fired htimedOut).trans hnow
  timeoutError := hloop.timeoutError
  overflowError := hloop.overflowError

theorem waited (hloop : LoopInv settings state loop)
    (status : Option ExitStatus) :
    LoopInv settings state { loop with exitStatus := status } where
  within := hloop.within
  killed := hloop.killed
  fired := hloop.fired
  timeoutError := hloop.timeoutError
  overflowError := hloop.overflowError

theorem failed (hloop : LoopInv settings state loop) (info : ErrorInfo) :
    LoopInv settings state { loop with error := some info } where
  within := hloop.within
  killed := hloop.killed
  fired := hloop.fired
  timeoutError := fun _ => Option.some_ne_none _
  overflowError := hloop.overflowError

/-- The timer ends the child. -/
theorem elapsed (hloop : LoopInv settings state loop)
    (helapsed : loop.deadline ≤ state.now) :
    LoopInv settings state.kill
      { loop with timedOut := true, error := some timeoutInfo } where
  within := hloop.within
  killed := fun _ => childEnded_status_isSome _ _
  fired := fun _ => helapsed
  timeoutError := fun _ => Option.some_ne_none _
  overflowError := hloop.overflowError

/-- A reader moves on. -/
theorem setReader (hloop : LoopInv settings state loop) {stream : Stream}
    {reader : Reader}
    (hwithin : ∀ buf, reader = .reading buf →
      buf.length ≤ settings.maxBytes stream)
    (hoverflow : ∀ result, reader = .joined result →
      result.overflowed = true → loop.overflowError ≠ none) :
    LoopInv settings state (loop.setReader stream reader) where
  within other buf hreader := by
    rw [Loop.readers_setReader] at hreader
    split_ifs at hreader with hsame
    · exact hsame ▸ hwithin buf hreader
    · exact hloop.within other buf hreader
  killed := hloop.killed
  fired := hloop.fired
  timeoutError := hloop.timeoutError
  overflowError other result hreader := by
    rw [Loop.readers_setReader] at hreader
    split_ifs at hreader with hsame
    · exact hoverflow result hreader
    · exact hloop.overflowError other result hreader

end LoopInv

theorem closed_childEnded (state : State) (status : ExitStatus) :
    Closed (state.childEnded status) := fun _ _ => rfl

theorem closed_setPipe (hclosed : Closed state) (channel : Channel)
    {pipe : Pipe}
    (hchild : pipe.child = (state.pipes channel).child ∨ pipe.child = false) :
    Closed (state.setPipe channel pipe) := by
  intro hended other
  rw [pipes_setPipe]
  split_ifs with hsame
  · subst hsame
    exact hchild.elim (fun heq => heq.trans (hclosed hended other)) id
  · exact hclosed hended other

theorem closed_put (hclosed : Closed state) (channel : Channel)
    (bytes : Bytes) :
    Closed (state.setPipe channel ((state.pipes channel).put bytes)) :=
  closed_setPipe hclosed channel (.inl rfl)

theorem closed_take (hclosed : Closed state) (channel : Channel)
    (count : ℕ) :
    Closed (state.setPipe channel ((state.pipes channel).take count)) :=
  closed_setPipe hclosed channel (.inl rfl)

theorem inv_settle (hclosed : Closed state)
    (hloop : LoopInv settings state loop) :
    Inv settings (settle settings state loop) := by
  rw [settle]
  split_ifs with hdone
  · exact ⟨hclosed, hloop.clean⟩
  · exact ⟨hclosed, Bool.eq_false_of_not_eq_true hdone,
      hloop.mono id le_rfl⟩

theorem inv_abort (state : State) (message : String) :
    Inv settings (state.abort message) where
  closed := closed_childEnded state _
  phase herror := by cases herror

/-! ## The steps -/

/-- Joining a reader sets it to its result, or to a failure where there is
none, and may kill the child. -/
theorem join_eq_settle (hloop : LoopInv settings state loop)
    (stream : Stream) (outcome : Option OutputReadResult) :
    ∃ later joined result,
      join settings state loop stream outcome = settle settings later joined ∧
      (later = state ∨ later = state.kill) ∧
      LoopInv settings later joined ∧
      joined.readers = (loop.setReader stream (.joined result)).readers ∧
      (outcome = some result ∨ ∃ message, result = .err message) := by
  cases outcome with
  | none =>
      have hreader : LoopInv settings state.kill
          (loop.setReader stream
            (.joined (.err (stream.name ++ " task failed")))) := by
        refine (hloop.mono (fun _ => childEnded_status_isSome _ _)
          le_rfl).setReader (fun buf heq => ?_) fun result heq hover => ?_
        · cases heq
        · cases heq
          cases hover
      exact ⟨_, _, _, rfl, .inr rfl, hreader.failed _, rfl, .inr ⟨_, rfl⟩⟩
  | some result =>
      rw [join]
      split_ifs with hfirst
      · have hkilled : LoopInv settings state.kill
            { loop with overflowError := some (overflowInfo stream) } :=
          { hloop.mono (fun _ => childEnded_status_isSome _ _) le_rfl with
            overflowError := fun _ _ _ _ => Option.some_ne_none _ }
        refine ⟨_, _, _, rfl, .inr rfl, ?_, rfl, .inl rfl⟩
        exact hkilled.setReader (fun buf heq => by cases heq)
          fun _ _ _ => Option.some_ne_none _
      · refine ⟨_, _, _, rfl, .inl rfl, hloop.setReader ?_ ?_, rfl, .inl rfl⟩
        · intro buf heq
          cases heq
        · rintro _ ⟨⟩ hover hnone
          simp [hover, hnone] at hfirst

theorem join_inv (hclosed : Closed state) (hloop : LoopInv settings state loop)
    (stream : Stream) (outcome : Option OutputReadResult) :
    Inv settings (join settings state loop stream outcome) := by
  obtain ⟨later, joined, result, heq, hlater, hjoined, -⟩ :=
    join_eq_settle hloop stream outcome
  rw [heq]
  refine inv_settle ?_ hjoined
  rcases hlater with rfl | rfl
  · exact hclosed
  · exact closed_childEnded state _

theorem inv_looping (hclosed : Closed state) (hdone : loop.done = false)
    (hloop : LoopInv settings state loop) {stream : Stream} {buf : Bytes}
    (hreader : loop.readers stream = .reading buf) {reader : Reader}
    (hnew : reader.result = none)
    (hwithin : ∀ buf, reader = .reading buf →
      buf.length ≤ settings.maxBytes stream) :
    Inv settings (state.looping (loop.setReader stream reader)) := by
  have hold : loop.result stream = none := by rw [Loop.result, hreader]; rfl
  refine ⟨hclosed, ?_, (hloop.setReader hwithin ?_).mono id le_rfl⟩
  · rw [loop.done_setReader hold hnew, hdone]
  · rintro result rfl
    cases hnew

theorem writeMove_inv {rest : Bytes} {later : State} (hclosed : Closed state)
    (hmove : WriteMove settings state rest later) : Inv settings later := by
  cases hmove with
  | write hheld hpos hcount hroom =>
      exact ⟨closed_put hclosed .stdin (rest.take _), trivial⟩
  | brokenPipe hrest hfree => exact inv_abort state _
  | spawnReaders hrest =>
      refine ⟨hclosed, rfl, ?_, nofun, nofun, nofun, nofun⟩
      intro stream buf hreader
      cases hreader
      exact Nat.zero_le _

theorem loopMove_inv {later : State} (hclosed : Closed state)
    (hdone : loop.done = false) (hloop : LoopInv settings state loop)
    (hmove : LoopMove settings state loop later) : Inv settings later := by
  cases hmove with
  | read hreader hpos hcount =>
      exact inv_looping (closed_take hclosed _ _) hdone
        (hloop.mono id le_rfl) hreader (receive_result _ _ _)
        fun later => receive_within
  | endOfStream hreader hfree =>
      exact inv_looping hclosed hdone hloop hreader rfl nofun
  | childWaited hwaiting =>
      exact inv_settle hclosed (hloop.waited _)
  | joinReader hreader => exact join_inv hclosed hloop _ _
  | timeout hrunning helapsed =>
      exact inv_settle (closed_childEnded state _) (hloop.elapsed helapsed)

theorem own_inv {own : Own} {later : State} (hinv : Inv settings state)
    (hstep : own? settings state own = some later) : Inv settings later := by
  have hphase := hinv.phase
  unfold own? at hstep
  split at hstep
  next rest _ => exact writeMove_inv hinv.closed (writeMove_of_step hstep)
  next loop hlooping =>
    rw [hlooping] at hphase
    exact loopMove_inv hinv.closed hphase.1 hphase.2 (loopMove_of_step hstep)
  next => cases hstep

theorem fault_inv {fault : Fault} {later : State} (hinv : Inv settings state)
    (hstep : fault? settings state fault = some later) :
    Inv settings later := by
  have hphase := hinv.phase
  cases faultMove_of_step hstep with
  | abort hwriting => exact inv_abort state _
  | wait hlooping =>
      refine ⟨hinv.closed, fun hnone => ?_⟩
      cases (finish_error_eq_none hnone).1
  | reader outcome hlooping hreader =>
      rw [hlooping] at hphase
      exact inv_looping hinv.closed hphase.1 hphase.2 hreader rfl nofun

theorem inv_of_world (hinv : Inv settings state) {later : State}
    (hclosed : Closed later) (hphase : later.phase = state.phase)
    (hstatus : state.status.isSome = true → later.status.isSome = true)
    (hnow : state.now ≤ later.now) : Inv settings later := by
  refine ⟨hclosed, ?_⟩
  have hold := hinv.phase
  rw [hphase]
  cases hcase : state.phase with
  | writing rest => trivial
  | looping loop =>
      rw [hcase] at hold
      exact ⟨hold.1, hold.2.mono hstatus hnow⟩
  | returned timedOut outcome =>
      rw [hcase] at hold
      exact hold

theorem world_inv {world : World} {later : State} (hinv : Inv settings state)
    (hstep : world? settings state world = some later) :
    Inv settings later := by
  cases worldMove_of_step hstep with
  | tick => exact inv_of_world hinv hinv.closed rfl id (Nat.le_succ _)
  | pipe hchild hstdin =>
      exact inv_of_world hinv (closed_setPipe hinv.closed _ hchild) rfl id
        le_rfl
  | childEnded =>
      exact inv_of_world hinv (closed_childEnded state _) rfl
        (fun _ => childEnded_status_isSome _ _) le_rfl

theorem step_inv (act : Act) (hinv : Inv settings state) :
    Inv settings (step settings state act) := by
  rw [step]
  cases hact : act? settings state act with
  | none => exact hinv
  | some later =>
      cases act with
      | own own => exact own_inv hinv hact
      | fault fault => exact fault_inv hinv hact
      | world world => exact world_inv hinv hact

theorem start_inv (spawned : Except String Unit) (input : Bytes) :
    Inv settings (start spawned input) := by
  refine ⟨nofun, ?_⟩
  cases spawned with
  | ok => trivial
  | error message => exact fun hnone => by cases hnone

theorem run_inv (spawned : Except String Unit) (input : Bytes)
    (acts : List Act) : Inv settings (run settings spawned input acts) :=
  Runs.run_always (Inv settings) acts (start_inv spawned input)
    fun _ act hinv => step_inv act hinv

/-- An execution that returned an outcome without an error ran into neither of
its limits. -/
theorem run_clean {spawned : Except String Unit} {input : Bytes}
    {acts : List Act} {timedOut : Bool} {outcome : ExecOutcome}
    (hreturned : (run settings spawned input acts).phase =
      .returned timedOut outcome)
    (hnone : outcome.error = none) : Clean timedOut outcome := by
  have hinv : Inv settings (run settings spawned input acts) :=
    run_inv spawned input acts
  have hphase := hinv.phase
  rw [hreturned] at hphase
  exact hphase hnone

/-! ## A child that ends by itself -/

/-- The child reads its input, prints nothing and ends. -/
def silentActs (input : Bytes) (status : ExitStatus) : List Act :=
  [.own (.write input.length), .own .spawnReaders,
    .world (.childExits status), .own (.endOfStream .stdout),
    .own (.endOfStream .stderr), .own (.joinReader .stdout),
    .own (.joinReader .stderr), .own .childWaited]

def silentOutcome (settings : Settings) (status : ExitStatus) : ExecOutcome where
  output := {
    exitCode := status.code.getD (-1)
    stdout := settings.utf8Lossy []
    stderr := settings.utf8Lossy []
    stdoutJson := settings.fromStr (settings.utf8Lossy [])
    stdoutOverflowed := false
    stderrOverflowed := false }
  error := none

theorem step_write_all {input : Bytes}
    (hfits : input.length ≤ settings.capacity) :
    step settings (start (.ok ()) input) (.own (.write input.length)) =
      { start (.ok ()) input with
        pipes := update (fun _ => Pipe.opened) .stdin (Pipe.opened.put input)
        phase := .writing [] } := by
  cases input with
  | nil => simp [step, act?, own?, start, writeStep, Pipe.put, Pipe.opened]
  | cons first rest =>
      simp only [List.length_cons] at hfits
      simp [step, act?, own?, start, writeStep, Pipe.held, Pipe.room,
        Pipe.opened, State.setPipe, hfits]

/-- Its exit code is reported without an error. -/
theorem run_silent {input : Bytes} (hfits : input.length ≤ settings.capacity)
    (status : ExitStatus) :
    (run settings (.ok ()) input (silentActs input status)).phase =
      .returned false (silentOutcome settings status) := by
  rw [silentActs, run, Runs.run_cons, step_write_all hfits]
  simp [step, act?, own?, writeStep, world?, start, loopStep, State.looping,
    State.childEnded, Loop.started, Loop.setReader, Pipe.held, Pipe.opened,
    join, settle, Loop.done, Loop.result, Reader.result,
    OutputReadResult.overflowed, State.returned, finish,
    OutputReadResult.errorOr, OutputReadResult.bytes, silentOutcome]

/-- An execution that has returned, however it went. -/
structure Completed (settings : Settings) (input : Bytes) where
  spawned : Except String Unit
  acts : List Act
  timedOut : Bool
  outcome : ExecOutcome
  returned : (run settings spawned input acts).phase =
    .returned timedOut outcome

theorem Completed.clean {input : Bytes} (execution : Completed settings input)
    (hnone : execution.outcome.error = none) :
    Clean execution.timedOut execution.outcome :=
  run_clean execution.returned hnone

/-- The silent child that ends with code zero, for an input that fits the pipe;
for a longer one the program is not found. -/
def Completed.silent (settings : Settings) (input : Bytes) :
    Completed settings input :=
  if hfits : input.length ≤ settings.capacity then
    { spawned := .ok ()
      acts := silentActs input ⟨some 0⟩
      timedOut := false
      outcome := silentOutcome settings ⟨some 0⟩
      returned := run_silent hfits ⟨some 0⟩ }
  else
    { spawned := .error "No such file or directory"
      acts := []
      timedOut := false
      outcome := .failed "No such file or directory"
      returned := rfl }

end NxccBridge.Execution
