import NxccBridge.Vm.ReadLimit

/-!
# Output of an execution

What the child and its descendants write, against what `execute_zenroom`
reports.  Whatever the order of the writes and of the reads, an output that is
reported is the whole of what was written, or it is cut at the limit and marked
so.
-/

namespace NxccBridge.Execution

open NxccBridge.Framing

variable (settings : Settings)

/-! ## What is written -/

/-- The bytes that a step puts into the pipe of an output. -/
def accepted (stream : Stream) (state : State) : Act → Bytes
  | .world (.writes other bytes) =>
      if other = stream ∧
          (world? settings state (.writes other bytes)).isSome = true then
        bytes
      else []
  | _ => []

def written (stream : Stream) : State → List Act → Bytes
  | _, [] => []
  | state, act :: rest =>
      accepted settings stream state act ++
        written stream (step settings state act) rest

/-! ## What is reported -/

def ExecOutput.text (output : ExecOutput) : Stream → String
  | .stdout => output.stdout
  | .stderr => output.stderr

def ExecOutput.overflowed (output : ExecOutput) : Stream → Bool
  | .stdout => output.stdoutOverflowed
  | .stderr => output.stderrOverflowed

/-- A result is a failure, or the output up to the limit. -/
def Faithful (maxBytes : ℕ) (out : Bytes) (result : OutputReadResult) : Prop :=
  (∃ message, result = .err message) ∨ result = bounded maxBytes out

/-- An outcome without an error has the whole outputs, and an output that is
marked is the first part of a longer one. -/
structure Reported (out : Stream → Bytes) (outcome : ExecOutcome) : Prop where
  whole : outcome.error = none → ∀ stream,
    (out stream).length ≤ settings.maxBytes stream ∧
      outcome.output.text stream = settings.utf8Lossy (out stream)
  cut : ∀ stream, outcome.output.overflowed stream = true →
    settings.maxBytes stream < (out stream).length ∧
      outcome.output.text stream =
        settings.utf8Lossy ((out stream).take (settings.maxBytes stream))

/-- A reader has what was written and is not in the pipe any more. -/
def ReaderInv (maxBytes : ℕ) (rest out : Bytes) : Reader → Prop
  | .reading buf => buf ++ rest = out
  | .finished (some result) => Faithful maxBytes out result
  | .finished none => True
  | .joined result => Faithful maxBytes out result

def ReadersInv (pipes : Channel → Pipe) (out : Stream → Bytes)
    (loop : Loop) : Prop :=
  ∀ stream, ReaderInv (settings.maxBytes stream)
    (pipes (.output stream)).buffer (out stream) (loop.readers stream)

def OutputInv (state : State) (out : Stream → Bytes) : Prop :=
  match state.phase with
  | .writing _ =>
      ∀ stream, (state.pipes (.output stream)).buffer = out stream
  | .looping loop => ReadersInv settings state.pipes out loop
  | .returned _ outcome => Reported settings out outcome

variable {settings} {state later : State} {loop : Loop} {out : Stream → Bytes}

theorem bounded_of_le {maxBytes : ℕ} {out : Bytes}
    (hle : out.length ≤ maxBytes) : bounded maxBytes out = .ok out :=
  if_pos hle

theorem bounded_of_lt {maxBytes : ℕ} {out : Bytes}
    (hlt : maxBytes < out.length) :
    bounded maxBytes out = .overflow (out.take maxBytes) :=
  if_neg (Nat.not_le_of_lt hlt)

theorem Faithful.of_ok {maxBytes : ℕ} {out bytes : Bytes}
    (hfaithful : Faithful maxBytes out (.ok bytes)) :
    out.length ≤ maxBytes ∧ bytes = out := by
  rcases hfaithful with ⟨message, heq⟩ | heq
  · cases heq
  · by_cases hle : out.length ≤ maxBytes
    · rw [bounded_of_le hle] at heq
      exact ⟨hle, OutputReadResult.ok.inj heq⟩
    · rw [bounded_of_lt (Nat.lt_of_not_le hle)] at heq
      cases heq

theorem Faithful.of_overflow {maxBytes : ℕ} {out bytes : Bytes}
    (hfaithful : Faithful maxBytes out (.overflow bytes)) :
    maxBytes < out.length ∧ bytes = out.take maxBytes := by
  rcases hfaithful with ⟨message, heq⟩ | heq
  · cases heq
  · by_cases hle : out.length ≤ maxBytes
    · rw [bounded_of_le hle] at heq
      cases heq
    · rw [bounded_of_lt (Nat.lt_of_not_le hle)] at heq
      exact ⟨Nat.lt_of_not_le hle, OutputReadResult.overflow.inj heq⟩

/-! ## The end of the loop -/

theorem finish_text (stream : Stream) :
    (finish settings loop).output.text stream =
      settings.utf8Lossy ((loop.result stream).getD (.ok [])).bytes := by
  cases stream <;> rfl

theorem finish_overflowed (stream : Stream) :
    (finish settings loop).output.overflowed stream =
      ((loop.result stream).getD (.ok [])).overflowed := by
  cases stream <;> rfl

theorem errorOr_err_ne_none {result : OutputReadResult}
    {error : Option Postback.ErrorInfo} (hnone : result.errorOr error = none)
    (message : String) : result ≠ .err message := by
  rintro rfl
  cases hnone

/-- Without an error no reader has failed. -/
theorem result_ne_err_of_finish (hnone : (finish settings loop).error = none)
    (stream : Stream) (message : String) :
    (loop.result stream).getD (.ok []) ≠ .err message := by
  obtain ⟨herror, -⟩ := Option.or_eq_none_iff.mp hnone
  cases stream with
  | stdout => exact errorOr_err_ne_none (errorOr_eq_none herror) message
  | stderr => exact errorOr_err_ne_none herror message

theorem faithful_of_result (hreaders : ReadersInv settings state.pipes out loop)
    {stream : Stream} {result : OutputReadResult}
    (hresult : loop.result stream = some result) :
    Faithful (settings.maxBytes stream) (out stream) result := by
  have hreader := hreaders stream
  rw [Loop.result] at hresult
  cases hcase : loop.readers stream with
  | reading buf => rw [hcase] at hresult; cases hresult
  | finished result => rw [hcase] at hresult; cases hresult
  | joined other =>
      rw [hcase] at hresult hreader
      cases hresult
      exact hreader

/-- What follows the loop reports what the readers have. -/
theorem finish_reported (hloop : LoopInv settings state loop)
    (hreaders : ReadersInv settings state.pipes out loop)
    (hended : loop.error = none →
      ∀ stream, (loop.result stream).isSome = true) :
    Reported settings out (finish settings loop) where
  whole := by
    intro hnone stream
    obtain ⟨herror, hoverflow⟩ := finish_error_eq_none hnone
    obtain ⟨result, hresult⟩ :=
      Option.isSome_iff_exists.mp (hended herror stream)
    have hfaithful := faithful_of_result hreaders hresult
    have hclean := hloop.overflowed_eq_false hoverflow stream
    have hread := result_ne_err_of_finish hnone stream
    rw [finish_text]
    rw [hresult, Option.getD_some] at hclean hread ⊢
    cases result with
    | ok bytes =>
        obtain ⟨hle, rfl⟩ := hfaithful.of_ok
        exact ⟨hle, rfl⟩
    | overflow bytes => cases hclean
    | err message => exact absurd rfl (hread message)
  cut := by
    intro stream hmarked
    rw [finish_overflowed] at hmarked
    rw [finish_text]
    cases hresult : loop.result stream with
    | none => rw [hresult] at hmarked; cases hmarked
    | some result =>
        have hfaithful := faithful_of_result hreaders hresult
        rw [hresult, Option.getD_some] at hmarked
        rw [Option.getD_some]
        cases result with
        | ok bytes => cases hmarked
        | overflow bytes =>
            obtain ⟨hlt, rfl⟩ := hfaithful.of_overflow
            exact ⟨hlt, rfl⟩
        | err message => cases hmarked

theorem result_isSome_of_done (hdone : loop.done = true) (stream : Stream) :
    (loop.result stream).isSome = true := by
  simp only [Loop.done, Bool.or_eq_true, Bool.and_eq_true] at hdone
  cases stream <;> tauto

theorem settle_output (hloop : LoopInv settings state loop)
    (hreaders : ReadersInv settings state.pipes out loop) :
    OutputInv settings (settle settings state loop) out := by
  rw [settle]
  split_ifs with hdone
  · exact finish_reported hloop hreaders fun _ => result_isSome_of_done hdone
  · exact hreaders

/-! ## The steps -/

theorem pipes_setPipe_output_of_ne {stream other : Stream}
    (hother : other ≠ stream) (pipe : Pipe) :
    (state.setPipe (.output stream) pipe).pipes (.output other) =
      state.pipes (.output other) := by
  rw [pipes_setPipe, if_neg fun hsame => hother (Channel.output.inj hsame)]

/-- One reader moves on, and the other pipe is left alone. -/
theorem setReader_output {pipes : Channel → Pipe} {stream : Stream}
    {reader : Reader} (hreaders : ReadersInv settings state.pipes out loop)
    (hothers : ∀ other, other ≠ stream →
      pipes (.output other) = state.pipes (.output other))
    (hreader : ReaderInv (settings.maxBytes stream)
      (pipes (.output stream)).buffer (out stream) reader) :
    ReadersInv settings pipes out (loop.setReader stream reader) := by
  intro other
  rw [Loop.readers_setReader]
  split_ifs with hsame
  · subst hsame
    exact hreader
  · rw [hothers other hsame]
    exact hreaders other

/-- Reading moves bytes from the pipe to the buffer, up to the limit. -/
theorem receive_output {maxBytes : ℕ} {buf rest out : Bytes}
    (hbuf : buf.length ≤ maxBytes) (hout : buf ++ rest = out) (count : ℕ) :
    ReaderInv maxBytes (rest.drop count) out
      (receive maxBytes buf (rest.take count)) := by
  have hsplit : buf ++ (rest.take count ++ rest.drop count) = out := by
    rw [List.take_append_drop, hout]
  rw [receive]
  split_ifs with hover
  · right
    rw [← hsplit, bounded_append_of_lt hbuf hover]
  · rw [ReaderInv, List.append_assoc, hsplit]

theorem readersInv_of_kill (hreaders : ReadersInv settings state.pipes out loop)
    (hlater : later = state ∨ later = state.kill) :
    ReadersInv settings later.pipes out loop := by
  rcases hlater with rfl | rfl
  · exact hreaders
  · exact hreaders

theorem join_output (hloop : LoopInv settings state loop)
    (hreaders : ReadersInv settings state.pipes out loop) {stream : Stream}
    {outcome : Option OutputReadResult}
    (hfinished : loop.readers stream = .finished outcome) :
    OutputInv settings (join settings state loop stream outcome) out := by
  obtain ⟨later, joined, result, heq, hlater, hjoined, hsame, hresult⟩ :=
    join_eq_settle hloop stream outcome
  have hold := hreaders stream
  rw [hfinished] at hold
  have hreader : Faithful (settings.maxBytes stream) (out stream) result := by
    rcases hresult with rfl | hfailed
    · exact hold
    · exact .inl hfailed
  have hset : ReadersInv settings state.pipes out
      (loop.setReader stream (.joined result)) :=
    setReader_output hreaders (fun _ _ => rfl) hreader
  rw [heq]
  refine settle_output hjoined (readersInv_of_kill ?_ hlater)
  intro other
  rw [hsame]
  exact hset other

theorem loopStep_output {own : Own} (hloop : LoopInv settings state loop)
    (hreaders : ReadersInv settings state.pipes out loop)
    (hstep : loopStep settings state loop own = some later) :
    OutputInv settings later out := by
  cases own with
  | write _ => cases hstep
  | brokenPipe _ => cases hstep
  | spawnReaders => cases hstep
  | read stream count =>
      obtain ⟨buf, hreader, -, rfl⟩ := loopStep_read hstep
      have hold := hreaders stream
      rw [hreader] at hold
      have hreceived :=
        receive_output (hloop.within stream buf hreader) hold count
      have hset : ReadersInv settings
          (state.setPipe (.output stream)
            ((state.pipes (.output stream)).take count)).pipes out
          (loop.setReader stream
            (receive (settings.maxBytes stream) buf
              ((state.pipes (.output stream)).buffer.take count))) := by
        refine setReader_output hreaders
          (fun _ hother => pipes_setPipe_output_of_ne hother _) ?_
        rw [pipes_setPipe, if_pos rfl]
        exact hreceived
      exact hset
  | endOfStream stream =>
      obtain ⟨buf, hreader, hempty, -, rfl⟩ := loopStep_endOfStream hstep
      have hold := hreaders stream
      rw [hreader, ReaderInv, hempty, List.append_nil] at hold
      refine setReader_output hreaders (fun _ _ => rfl) (.inr ?_)
      rw [← hold, bounded_of_le (hloop.within stream buf hreader)]
  | childWaited =>
      obtain ⟨status, -, rfl⟩ := loopStep_childWaited hstep
      exact settle_output (hloop.waited _) hreaders
  | joinReader stream =>
      obtain ⟨outcome, hfinished, rfl⟩ := loopStep_joinReader hstep
      exact join_output hloop hreaders hfinished
  | timeout =>
      obtain ⟨-, helapsed, rfl⟩ := loopStep_timeout hstep
      exact settle_output (hloop.elapsed helapsed)
        (readersInv_of_kill hreaders (.inr rfl))

theorem abort_output (state : State) (message : String) :
    OutputInv settings (state.abort message) out where
  whole herror := by cases herror
  cut stream hmarked := by cases stream <;> cases hmarked

theorem writeStep_output {rest : Bytes} {own : Own}
    (hpipes : ∀ stream, (state.pipes (.output stream)).buffer = out stream)
    (hstep : writeStep settings state rest own = some later) :
    OutputInv settings later out := by
  cases writeMove_of_step hstep with
  | write hheld hpos hcount hroom =>
      intro stream
      exact hpipes stream
  | brokenPipe hrest hfree => exact abort_output state _
  | spawnReaders hrest =>
      intro stream
      exact hpipes stream

theorem own_output {own : Own} (hinv : Inv settings state)
    (houtput : OutputInv settings state out)
    (hstep : own? settings state own = some later) :
    OutputInv settings later out := by
  have hphase := hinv.phase
  rw [OutputInv] at houtput
  unfold own? at hstep
  split at hstep
  next rest hwriting =>
    rw [hwriting] at houtput
    exact writeStep_output houtput hstep
  next loop hlooping =>
    rw [hlooping] at hphase houtput
    exact loopStep_output hphase.2 houtput hstep
  next => cases hstep

theorem fault_output {fault : Fault} (hinv : Inv settings state)
    (houtput : OutputInv settings state out)
    (hstep : fault? settings state fault = some later) :
    OutputInv settings later out := by
  have hphase := hinv.phase
  rw [OutputInv] at houtput
  obtain ⟨rest, message, -, rfl⟩ | ⟨loop, message, hlooping, rfl⟩ |
    ⟨loop, stream, buf, outcome, hlooping, -, hfailed, rfl⟩ :=
      fault_cases hstep
  · exact abort_output state message
  · rw [hlooping] at hphase houtput
    refine finish_reported (hphase.2.failed (execFailed message)) houtput
      fun hnone => ?_
    cases hnone
  · rw [hlooping] at houtput
    refine setReader_output houtput (fun _ _ => rfl) ?_
    rcases hfailed with rfl | hmessage
    · trivial
    · obtain ⟨message, rfl⟩ := hmessage
      exact .inl ⟨message, rfl⟩

/-- A step that changes neither the phase nor what is in the output pipes. -/
theorem frame_output (houtput : OutputInv settings state out)
    (hphase : later.phase = state.phase)
    (hbuffers : ∀ stream, (later.pipes (.output stream)).buffer =
      (state.pipes (.output stream)).buffer) :
    OutputInv settings later out := by
  rw [OutputInv] at houtput ⊢
  rw [hphase]
  cases hcase : state.phase with
  | writing rest =>
      rw [hcase] at houtput
      intro stream
      rw [hbuffers, houtput stream]
  | looping loop =>
      rw [hcase] at houtput
      intro stream
      rw [hbuffers]
      exact houtput stream
  | returned timedOut outcome =>
      rw [hcase] at houtput
      exact houtput

/-- Only the holders of a pipe change. -/
theorem holders_output (houtput : OutputInv settings state out)
    (channel : Channel) {pipe : Pipe}
    (hbuffer : pipe.buffer = (state.pipes channel).buffer) :
    OutputInv settings (state.setPipe channel pipe) out := by
  refine frame_output houtput rfl fun stream => ?_
  rw [pipes_setPipe]
  split_ifs with hsame
  · rw [hbuffer, hsame]
  · rfl

/-- The bytes that a reader still listens for are behind those it has. -/
theorem readerInv_put {maxBytes : ℕ} {rest out : Bytes} {buf : Bytes}
    (hreader : ReaderInv maxBytes rest out (.reading buf)) (bytes : Bytes) :
    ReaderInv maxBytes (rest ++ bytes) (out ++ bytes) (.reading buf) := by
  rw [ReaderInv] at hreader ⊢
  rw [← hreader, List.append_assoc]

theorem accepted_writes {stream : Stream} {bytes : Bytes}
    (hstep : world? settings state (.writes stream bytes) = some later)
    (other : Stream) :
    accepted settings other state (.world (.writes stream bytes)) =
      if other = stream then bytes else [] := by
  simp only [accepted, hstep, Option.isSome_some, and_true, eq_comm]

theorem listens_reading {stream : Stream}
    (hlooping : state.phase = .looping loop)
    (hlistens : listens state stream = true) :
    ∃ buf, loop.readers stream = .reading buf := by
  rw [listens, hlooping] at hlistens
  cases hreader : loop.readers stream with
  | reading buf => exact ⟨buf, rfl⟩
  | finished result => simp [hreader] at hlistens
  | joined result => simp [hreader] at hlistens

theorem buffer_put (stream other : Stream) (bytes : Bytes) :
    ((state.setPipe (.output stream)
        ((state.pipes (.output stream)).put bytes)).pipes
          (.output other)).buffer =
      (state.pipes (.output other)).buffer ++
        if other = stream then bytes else [] := by
  by_cases hsame : other = stream
  · subst hsame
    rw [pipes_setPipe, if_pos rfl, if_pos rfl, Pipe.put]
  · rw [pipes_setPipe_output_of_ne hsame, if_neg hsame, List.append_nil]

theorem writes_output {stream : Stream} {bytes : Bytes}
    (houtput : OutputInv settings state out)
    (hlistens : listens state stream = true) :
    OutputInv settings
      (state.setPipe (.output stream)
        ((state.pipes (.output stream)).put bytes))
      (fun other => out other ++ if other = stream then bytes else []) := by
  have hphase : (state.setPipe (.output stream)
      ((state.pipes (.output stream)).put bytes)).phase = state.phase := rfl
  rw [OutputInv] at houtput ⊢
  rw [hphase]
  cases hcase : state.phase with
  | writing rest =>
      rw [hcase] at houtput
      intro other
      rw [buffer_put, houtput other]
  | looping loop =>
      rw [hcase] at houtput
      obtain ⟨buf, hreader⟩ := listens_reading hcase hlistens
      intro other
      rw [buffer_put]
      by_cases hsame : other = stream
      · have hold := houtput other
        subst hsame
        rw [hreader] at hold ⊢
        exact readerInv_put hold _
      · simp only [if_neg hsame, List.append_nil]
        exact houtput other
  | returned timedOut outcome =>
      rw [listens, hcase] at hlistens
      cases hlistens

/-- The world adds to an output what its pipe takes. -/
theorem world_output {world : World} (houtput : OutputInv settings state out)
    (hstep : world? settings state world = some later) :
    OutputInv settings later fun stream =>
      out stream ++ accepted settings stream state (.world world) := by
  cases world with
  | writes stream bytes =>
      simp only [accepted_writes hstep]
      simp only [world?, Option.ite_none_right_eq_some,
        Option.some.injEq] at hstep
      obtain ⟨⟨-, hlistens, -⟩, rfl⟩ := hstep
      exact writes_output houtput hlistens
  | tick =>
      cases hstep
      simp only [accepted, List.append_nil]
      exact frame_output houtput rfl fun _ => rfl
  | reads count =>
      simp only [world?, Option.ite_none_right_eq_some,
        Option.some.injEq] at hstep
      obtain ⟨-, rfl⟩ := hstep
      simp only [accepted, List.append_nil]
      exact frame_output houtput rfl fun _ => rfl
  | shares channel =>
      simp only [world?, Option.ite_none_right_eq_some,
        Option.some.injEq] at hstep
      obtain ⟨-, rfl⟩ := hstep
      simp only [accepted, List.append_nil]
      exact holders_output houtput channel rfl
  | closes channel =>
      cases hstep
      simp only [accepted, List.append_nil]
      exact holders_output houtput channel rfl
  | childCloses channel =>
      cases hstep
      simp only [accepted, List.append_nil]
      exact holders_output houtput channel rfl
  | childExits status =>
      simp only [world?, Option.ite_none_right_eq_some,
        Option.some.injEq] at hstep
      obtain ⟨-, rfl⟩ := hstep
      simp only [accepted, List.append_nil]
      exact frame_output houtput rfl fun _ => rfl

theorem step_output (act : Act) (hinv : Inv settings state)
    (houtput : OutputInv settings state out) :
    OutputInv settings (step settings state act) fun stream =>
      out stream ++ accepted settings stream state act := by
  rw [step]
  cases hact : act? settings state act with
  | none =>
      have hnone : ∀ stream, accepted settings stream state act = [] := by
        intro stream
        cases act with
        | own own => rfl
        | fault fault => rfl
        | world world =>
            cases world with
            | writes other bytes =>
                rw [act?] at hact
                simp [accepted, hact]
            | _ => rfl
      simp only [hnone, List.append_nil]
      exact houtput
  | some later =>
      cases act with
      | own own =>
          simp only [accepted, List.append_nil]
          exact own_output hinv houtput hact
      | fault fault =>
          simp only [accepted, List.append_nil]
          exact fault_output hinv houtput hact
      | world world => exact world_output houtput hact

/-! ## Runs -/

theorem run_output (acts : List Act) (hinv : Inv settings state)
    (houtput : OutputInv settings state out) :
    OutputInv settings (Runs.run (step settings) state acts) fun stream =>
      out stream ++ written settings stream state acts := by
  induction acts generalizing state out with
  | nil =>
      simp only [written, List.append_nil]
      exact houtput
  | cons act rest ih =>
      have hnext := ih (step_inv act hinv) (step_output act hinv houtput)
      simp only [List.append_assoc] at hnext
      exact hnext

theorem start_output (spawned : Except String Unit) (input : Bytes) :
    OutputInv settings (start spawned input) fun _ => [] := by
  cases spawned with
  | ok => exact fun _ => rfl
  | error message =>
      refine ⟨fun hnone => ?_, fun stream hmarked => ?_⟩
      · cases hnone
      · cases stream <;> cases hmarked

theorem run_outputInv (spawned : Except String Unit) (input : Bytes)
    (acts : List Act) :
    OutputInv settings (run settings spawned input acts) fun stream =>
      written settings stream (start spawned input) acts := by
  have hstart : OutputInv settings (start spawned input) fun _ => [] :=
    start_output spawned input
  have houtput := run_output acts (start_inv spawned input) hstart
  simp only [List.nil_append] at houtput
  exact houtput

theorem Faithful.eq_readWithLimit {maxBytes : ℕ} {out : Bytes}
    {result : OutputReadResult} (hfaithful : Faithful maxBytes out result)
    (hread : ∀ message, result ≠ .err message) {chunks : List Chunk}
    (hchunks : outputOf chunks = out) :
    result = readWithLimit maxBytes ⟨chunks, none⟩ := by
  rcases hfaithful with ⟨message, heq⟩ | heq
  · exact absurd heq (hread message)
  · rw [heq, readWithLimit_eq, ← hchunks]

/-- The task beside the event loop returns what `read_with_limit` returns for
any way to cut what was written into chunks. -/
theorem run_joined {spawned : Except String Unit} {input : Bytes}
    {acts : List Act} {stream : Stream} {result : OutputReadResult}
    (hlooping : (run settings spawned input acts).phase = .looping loop)
    (hjoined : loop.readers stream = .joined result)
    (hread : ∀ message, result ≠ .err message) {chunks : List Chunk}
    (hchunks : outputOf chunks =
      written settings stream (start spawned input) acts) :
    result = readWithLimit (settings.maxBytes stream) ⟨chunks, none⟩ := by
  have houtput : OutputInv settings (run settings spawned input acts) _ :=
    run_outputInv spawned input acts
  rw [OutputInv, hlooping] at houtput
  have hreader := houtput stream
  rw [hjoined] at hreader
  exact hreader.eq_readWithLimit hread hchunks

/-- However writes and reads are interleaved, an execution without an error
reports all that was written, and a marked output is the first part of it, as
long as the limit allows. -/
theorem run_reported {spawned : Except String Unit} {input : Bytes}
    {acts : List Act} {timedOut : Bool} {outcome : ExecOutcome}
    (hreturned : (run settings spawned input acts).phase =
      .returned timedOut outcome) :
    Reported settings
      (fun stream => written settings stream (start spawned input) acts)
      outcome := by
  have houtput : OutputInv settings (run settings spawned input acts) _ :=
    run_outputInv spawned input acts
  rw [OutputInv, hreturned] at houtput
  exact houtput

/-- Three bytes of each output are kept. -/
def threeBytes : Settings where
  timeoutMs := 1
  maxBytes _ := 3
  capacity := 65536
  utf8Lossy bytes := String.ofList (bytes.map fun byte => Char.ofNat byte.toNat)
  fromStr _ := none

/-- The child prints `hello` in two parts and is killed. -/
def helloActs : List Act :=
  [.own .spawnReaders, .world (.writes .stdout [104, 101, 108]),
    .own (.read .stdout 3), .world (.writes .stdout [108, 111]),
    .own (.read .stdout 1), .world (.childExits { code := none }),
    .own (.endOfStream .stderr), .own (.joinReader .stdout),
    .own (.joinReader .stderr), .own .childWaited]

theorem hello_reported : ∃ outcome,
    (run threeBytes (.ok ()) [] helloActs).phase = .returned false outcome ∧
      outcome.output.stdoutOverflowed = true ∧
      outcome.output.stdout = "hel" := by
  obtain ⟨outcome, hreturned, hoverflowed⟩ : ∃ outcome,
      (run threeBytes (.ok ()) [] helloActs).phase = .returned false outcome ∧
        outcome.output.stdoutOverflowed = true := ⟨_, rfl, rfl⟩
  have hcut := (run_reported hreturned).cut .stdout hoverflowed
  exact ⟨outcome, hreturned, hoverflowed, hcut.2.trans (by decide)⟩

end NxccBridge.Execution
