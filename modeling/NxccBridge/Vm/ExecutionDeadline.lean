import NxccBridge.Core.Inevitable
import NxccBridge.Vm.ExecutionOutcome
import NxccBridge.Vm.Zenroom

/-!
# The deadline of an execution

`vm/zenroom/src/vmm/mod.rs`.  The timer starts once the input is written, and the
event loop ends only with the two readers.  A child that leaves its input in the
pipe is waited for without a deadline, and a descendant that keeps an output open
is waited for after it.
-/

namespace NxccBridge.ExecutionDeadline

open Function
open NxccBridge.Execution
open NxccBridge.Framing
open NxccBridge.Inevitable

variable (settings : Settings)

/-- A step of the VM that succeeds. -/
def Ready (state later : State) : Prop :=
  ∃ own, own? settings state own = some later

/-- A step of the VM, also one on which a call fails. -/
def May (state later : State) : Prop :=
  Ready settings state later ∨
    ∃ fault, fault? settings state fault = some later

def Returned (state : State) : Prop :=
  match state.phase with
  | .returned .. => True
  | _ => False

/-- Nothing goes on without the child, its descendants or the clock. -/
def Waiting (state : State) : Prop := Stuck (Ready settings) Returned state

/-- The timer runs, and its branch of the `select!` is enabled. -/
def Armed (state : State) : Prop :=
  match state.phase with
  | .looping loop => loop.timedOut = false
  | _ => False

/-- The time of the timer is over. -/
def Fired (state : State) : Prop :=
  match state.phase with
  | .looping loop => loop.deadline ≤ state.now
  | _ => False

/-- The deadline covers what the execution waits for. -/
structure Covered (state : State) : Prop where
  armed : Waiting settings state → Armed state
  returns : Fired state →
    Inevitably (Ready settings) (May settings) Returned state

/-! ## What the deadline does not cover -/

/-- A descendant holds an output whose reader stays within its limit. -/
def KeptOpen (state : State) (loop : Loop) (stream : Stream) : Prop :=
  ∃ buf, loop.readers stream = .reading buf ∧
    0 < (state.pipes (.output stream)).descendants ∧
    buf.length + (state.pipes (.output stream)).buffer.length ≤
      settings.maxBytes stream

/-- What is left of the input meets room in the pipe or no one to read it, and
after the deadline no output is kept open. -/
def Unobstructed (state : State) : Prop :=
  match state.phase with
  | .writing rest =>
      rest = [] ∨ (state.pipes .stdin).held = false ∨
        0 < (state.pipes .stdin).room settings.capacity
  | .looping loop =>
      loop.deadline ≤ state.now →
        ∀ stream, ¬ KeptOpen settings state loop stream
  | .returned .. => True

variable {settings} {state : State} {loop : Loop}

instance decidableKeptOpen (stream : Stream) :
    Decidable (KeptOpen settings state loop stream) :=
  match hreader : loop.readers stream with
  | .reading buf =>
      decidable_of_iff
        (0 < (state.pipes (.output stream)).descendants ∧
          buf.length + (state.pipes (.output stream)).buffer.length ≤
            settings.maxBytes stream)
        (by simp [KeptOpen, hreader])
  | .finished _ => .isFalse (by simp [KeptOpen, hreader])
  | .joined _ => .isFalse (by simp [KeptOpen, hreader])

theorem forall_stream {property : Stream → Prop} :
    (∀ stream, property stream) ↔ property .stdout ∧ property .stderr :=
  ⟨fun hall => ⟨hall _, hall _⟩, fun hboth stream => by
    cases stream
    · exact hboth.1
    · exact hboth.2⟩

instance decidableUnobstructed : Decidable (Unobstructed settings state) :=
  match hphase : state.phase with
  | .writing rest =>
      decidable_of_iff
        (rest = [] ∨ (state.pipes .stdin).held = false ∨
          0 < (state.pipes .stdin).room settings.capacity)
        (by rw [Unobstructed, hphase])
  | .looping loop =>
      decidable_of_iff
        (loop.deadline ≤ state.now →
          ¬ KeptOpen settings state loop .stdout ∧
            ¬ KeptOpen settings state loop .stderr)
        (by simp only [Unobstructed, hphase, forall_stream])
  | .returned .. => .isTrue (by simp [Unobstructed, hphase])

/-! ## Writing the input -/

theorem waiting_writing_iff {rest : Bytes}
    (hwriting : state.phase = .writing rest) :
    ¬ Waiting settings state ↔ Unobstructed settings state := by
  have hreturned : ¬ Returned state := by simp [Returned, hwriting]
  rw [Waiting, Stuck, Unobstructed, hwriting]
  simp only [hreturned, not_false_eq_true, true_and, not_forall, not_not,
    Ready, own?, hwriting]
  constructor
  · rintro ⟨later, own, hstep⟩
    cases writeMove_of_step hstep with
    | write hheld hpos hcount hroom => exact .inr (.inr (hpos.trans hroom))
    | brokenPipe hrest hfree => exact .inr (.inl hfree)
    | spawnReaders hrest => exact .inl hrest
  · intro hcases
    by_cases hrest : rest = []
    · exact ⟨_, .spawnReaders, if_pos hrest⟩
    cases hheld : (state.pipes .stdin).held with
    | false => exact ⟨_, .brokenPipe "", if_pos ⟨hrest, hheld⟩⟩
    | true =>
        have hroom : 0 < (state.pipes .stdin).room settings.capacity := by
          simpa [hrest, hheld] using hcases
        have hlength : 1 ≤ rest.length := List.length_pos_iff.mpr hrest
        exact ⟨_, .write 1, if_pos ⟨hheld, le_rfl, hlength, hroom⟩⟩

/-! ## An output that is kept open -/

theorem done_of_reading {stream : Stream} {buf : Bytes}
    (hreader : loop.readers stream = .reading buf) : loop.done = false := by
  have hresult : loop.result stream = none := by
    rw [Loop.result, hreader]
    rfl
  cases stream <;> simp [Loop.done, hresult]

theorem settle_of_reading {stream : Stream} {buf : Bytes}
    (hreader : loop.readers stream = .reading buf) :
    settle settings state loop = state.looping loop := by
  rw [settle, done_of_reading hreader]
  rfl

/-- The event loop runs, and an output is kept open. -/
def Trapped (settings : Settings) (stream : Stream) (state : State) : Prop :=
  ∃ loop, state.phase = .looping loop ∧ KeptOpen settings state loop stream

theorem KeptOpen.trapped_looping {stream : Stream}
    (hkept : KeptOpen settings state loop stream) :
    Trapped settings stream (state.looping loop) :=
  ⟨loop, rfl, hkept⟩

theorem KeptOpen.trapped_settle {stream : Stream}
    (hkept : KeptOpen settings state loop stream) :
    Trapped settings stream (settle settings state loop) := by
  obtain ⟨buf, hreader, hheld⟩ := hkept
  rw [settle_of_reading hreader]
  exact trapped_looping ⟨buf, hreader, hheld⟩

theorem KeptOpen.setReader_of_ne {stream other : Stream} {reader : Reader}
    (hkept : KeptOpen settings state loop stream) (hne : stream ≠ other) :
    KeptOpen settings state (loop.setReader other reader) stream := by
  obtain ⟨buf, hreader, hheld⟩ := hkept
  refine ⟨buf, ?_, hheld⟩
  rw [Loop.readers_setReader, if_neg hne, hreader]

/-- A read that stays within the limit. -/
theorem receive_of_le {maxBytes : ℕ} {buf chunk : Bytes}
    (hwithin : buf.length + chunk.length ≤ maxBytes) :
    receive maxBytes buf chunk = .reading (buf ++ chunk) :=
  if_neg (Nat.not_lt.mpr hwithin)

theorem read_trapped {stream other : Stream} {buf : Bytes} {count : ℕ}
    (hkept : KeptOpen settings state loop stream)
    (hreader : loop.readers other = .reading buf)
    (hcount : count ≤ (state.pipes (.output other)).buffer.length) :
    Trapped settings stream
      ((state.setPipe (.output other)
          ((state.pipes (.output other)).take count)).looping
        (loop.setReader other
          (receive (settings.maxBytes other) buf
            ((state.pipes (.output other)).buffer.take count)))) := by
  obtain ⟨kept, hstream, hheld, hwithin⟩ := hkept
  apply KeptOpen.trapped_looping
  by_cases hsame : stream = other
  · subst hsame
    cases hstream.symm.trans hreader
    refine ⟨buf ++ (state.pipes (.output stream)).buffer.take count,
      ?_, ?_, ?_⟩
    · rw [Loop.readers_setReader, if_pos rfl, receive_of_le]
      rw [List.length_take]
      omega
    · rw [pipes_setPipe, if_pos rfl]
      exact hheld
    · rw [pipes_setPipe, if_pos rfl, Pipe.take]
      simp only [List.length_append, List.length_take, List.length_drop]
      omega
  · refine KeptOpen.setReader_of_ne ⟨kept, hstream, ?_⟩ hsame
    rw [pipes_setPipe, if_neg (fun heq => hsame (Channel.output.inj heq))]
    exact ⟨hheld, hwithin⟩

theorem join_trapped {stream other : Stream}
    (hkept : KeptOpen settings state loop stream) (hne : stream ≠ other)
    (outcome : Option OutputReadResult) :
    Trapped settings stream (join settings state loop other outcome) := by
  cases outcome with
  | none => exact KeptOpen.trapped_settle (hkept.setReader_of_ne hne)
  | some result =>
      rw [join]
      split_ifs
      · exact KeptOpen.trapped_settle (hkept.setReader_of_ne hne)
      · exact KeptOpen.trapped_settle (hkept.setReader_of_ne hne)

theorem loopMove_trapped {stream : Stream} {later : State}
    (hkept : KeptOpen settings state loop stream)
    (hmove : LoopMove settings state loop later) :
    Trapped settings stream later := by
  obtain ⟨buf, hstream, hheld, -⟩ := id hkept
  cases hmove with
  | read hreader hpos hcount => exact read_trapped hkept hreader hcount
  | @endOfStream other _ hreader hfree =>
      have hne : stream ≠ other := by
        rintro rfl
        simp [Pipe.held, hheld.ne'] at hfree
      exact (hkept.setReader_of_ne hne).trapped_looping
  | childWaited hwaiting => exact KeptOpen.trapped_settle hkept
  | @joinReader other result hreader =>
      have hne : stream ≠ other := by
        rintro rfl
        cases hstream.symm.trans hreader
      exact join_trapped hkept hne result
  | timeout hrunning helapsed => exact KeptOpen.trapped_settle hkept

/-- The execution does not return by itself while an output is kept open. -/
theorem not_inevitably_of_keptOpen {stream : Stream}
    (hlooping : state.phase = .looping loop)
    (hkept : KeptOpen settings state loop stream) :
    ¬ Inevitably (Ready settings) (May settings) Returned state := by
  apply not_inevitable_of_trap (Trapped settings stream)
  · rintro state ⟨loop, hlooping, -⟩
    simp [Returned, hlooping]
  · exact fun _ _ hready => .inl hready
  · rintro state later ⟨loop, hlooping, hkept⟩ ⟨own, hstep⟩
    rw [own?, hlooping] at hstep
    exact loopMove_trapped hkept (loopMove_of_step hstep)
  · exact ⟨loop, hlooping, hkept⟩

/-! ## After the deadline -/

/-- The steps that a reader has before it. -/
def stages : Reader → ℕ
  | .reading _ => 2
  | .finished _ => 1
  | .joined _ => 0

def streamWork (state : State) (loop : Loop) (stream : Stream) : ℕ :=
  (state.pipes (.output stream)).buffer.length + stages (loop.readers stream)

/-- What the event loop can still do without the world. -/
def work (state : State) (loop : Loop) : ℕ :=
  streamWork state loop .stdout + streamWork state loop .stderr +
    loop.exitStatus.isNone.toNat + (!loop.timedOut).toNat

def remaining (state : State) : ℕ :=
  match state.phase with
  | .looping loop => work state loop
  | _ => 0

/-- The deadline is over, and no output is kept open. -/
structure Ending (settings : Settings) (state : State) (loop : Loop) : Prop where
  elapsed : loop.deadline ≤ state.now
  free : ∀ stream, ¬ KeptOpen settings state loop stream

/-- The execution has returned, or it is still to end and closer to that. -/
def Nearer (settings : Settings) (bound : ℕ) (state : State) : Prop :=
  Returned state ∨
    (∃ loop, state.phase = .looping loop ∧ Ending settings state loop) ∧
      remaining state < bound

theorem Ending.nearer_looping {bound : ℕ}
    (hending : Ending settings state loop) (hwork : work state loop < bound) :
    Nearer settings bound (state.looping loop) :=
  .inr ⟨⟨loop, rfl, hending.elapsed, hending.free⟩, hwork⟩

theorem Ending.nearer_settle {bound : ℕ}
    (hending : Ending settings state loop) (hwork : work state loop < bound) :
    Nearer settings bound (settle settings state loop) := by
  rw [settle]
  split_ifs
  · exact .inl trivial
  · exact hending.nearer_looping hwork

theorem Ending.setReader (hending : Ending settings state loop)
    {stream : Stream} {reader : Reader}
    (hreader : ∀ buf, reader ≠ .reading buf) :
    Ending settings state (loop.setReader stream reader) where
  elapsed := hending.elapsed
  free other := by
    rintro ⟨buf, hother, hheld⟩
    rw [Loop.readers_setReader] at hother
    split_ifs at hother with hsame
    · exact hreader buf hother
    · exact hending.free other ⟨buf, hother, hheld⟩

theorem work_setReader (state : State) (loop : Loop) (stream : Stream)
    (reader : Reader) :
    work state (loop.setReader stream reader) + stages (loop.readers stream) =
      work state loop + stages reader := by
  cases stream <;>
    simp [work, streamWork, Loop.setReader] <;> omega

theorem work_setPipe (loop : Loop) (stream : Stream) {count : ℕ}
    (hcount : count ≤ (state.pipes (.output stream)).buffer.length) :
    work (state.setPipe (.output stream)
        ((state.pipes (.output stream)).take count)) loop + count =
      work state loop := by
  cases stream <;>
    simp [work, streamWork, pipes_setPipe, Pipe.take] <;> omega

theorem join_nearer (hending : Ending settings state loop) {stream : Stream}
    {outcome : Option OutputReadResult}
    (hreader : loop.readers stream = .finished outcome) :
    Nearer settings (work state loop)
      (join settings state loop stream outcome) := by
  have hjoined : ∀ result,
      Ending settings state (loop.setReader stream (.joined result)) :=
    fun result => hending.setReader nofun
  have hless : ∀ result,
      work state (loop.setReader stream (.joined result)) < work state loop := by
    intro result
    have hwork := work_setReader state loop stream (.joined result)
    rw [hreader] at hwork
    exact Nat.lt_of_succ_le hwork.le
  cases outcome with
  | none =>
      have hfailed := hjoined (.err (stream.name ++ " task failed"))
      exact Ending.nearer_settle ⟨hfailed.elapsed, hfailed.free⟩ (hless _)
  | some result =>
      rw [join]
      split_ifs
      · exact Ending.nearer_settle
          ⟨(hjoined result).elapsed, (hjoined result).free⟩ (hless result)
      · exact (hjoined result).nearer_settle (hless result)

theorem finished_nearer (hending : Ending settings state loop)
    {stream : Stream} {buf : Bytes}
    (hreader : loop.readers stream = .reading buf)
    (outcome : Option OutputReadResult) :
    Nearer settings (work state loop)
      (state.looping (loop.setReader stream (.finished outcome))) := by
  have hfinished : Ending settings state
      (loop.setReader stream (.finished outcome)) := hending.setReader nofun
  refine hfinished.nearer_looping ?_
  have hwork := work_setReader state loop stream (.finished outcome)
  rw [hreader] at hwork
  simp only [stages] at hwork
  omega

theorem read_nearer (hending : Ending settings state loop) {stream : Stream}
    {buf : Bytes} {count : ℕ} (hreader : loop.readers stream = .reading buf)
    (hpos : 1 ≤ count)
    (hcount : count ≤ (state.pipes (.output stream)).buffer.length) :
    Nearer settings (work state loop)
      ((state.setPipe (.output stream)
          ((state.pipes (.output stream)).take count)).looping
        (loop.setReader stream
          (receive (settings.maxBytes stream) buf
            ((state.pipes (.output stream)).buffer.take count)))) := by
  have hpipe := work_setPipe loop stream hcount
  have hwork := work_setReader
    (state.setPipe (.output stream) ((state.pipes (.output stream)).take count))
    loop stream (receive (settings.maxBytes stream) buf
      ((state.pipes (.output stream)).buffer.take count))
  have hstages : stages (receive (settings.maxBytes stream) buf
      ((state.pipes (.output stream)).buffer.take count)) ≤ 2 := by
    rw [receive]
    split_ifs <;> simp [stages]
  rw [hreader, stages] at hwork
  refine Ending.nearer_looping ⟨hending.elapsed, fun other => ?_⟩ (by omega)
  rintro ⟨later, hother, hheld⟩
  rw [Loop.readers_setReader] at hother
  simp only [pipes_setPipe, Channel.output.injEq] at hheld
  split_ifs at hother hheld with hsame
  · subst hsame
    -- a read moves bytes from the pipe to the buffer
    have hwithin := receive_within hother
    rw [receive] at hother
    split_ifs at hother with hover
    cases hother
    refine hending.free other ⟨buf, hreader, hheld.1, ?_⟩
    have htotal := hheld.2
    simp only [Pipe.take, List.length_append, List.length_take,
      List.length_drop] at htotal
    omega
  · exact hending.free other ⟨later, hother, hheld⟩

theorem loopMove_nearer {later : State} (hending : Ending settings state loop)
    (hmove : LoopMove settings state loop later) :
    Nearer settings (work state loop) later := by
  cases hmove with
  | read hreader hpos hcount => exact read_nearer hending hreader hpos hcount
  | endOfStream hreader hfree => exact finished_nearer hending hreader _
  | childWaited hwaiting =>
      refine Ending.nearer_settle ⟨hending.elapsed, hending.free⟩ ?_
      simp [work, streamWork, hwaiting]
  | joinReader hreader => exact join_nearer hending hreader
  | timeout hrunning helapsed =>
      refine Ending.nearer_settle ⟨hending.elapsed, hending.free⟩ ?_
      simp [work, streamWork, State.kill, hrunning]

theorem faultMove_nearer {later : State}
    (hlooping : state.phase = .looping loop)
    (hending : Ending settings state loop)
    (hmove : FaultMove settings state later) :
    Nearer settings (work state loop) later := by
  cases hmove with
  | abort hwriting => exact .inl trivial
  | wait hother => exact .inl trivial
  | reader outcome hother hreader =>
      cases hother.symm.trans hlooping
      exact finished_nearer hending hreader outcome

/-- After the deadline, with the child killed, something is always left to do. -/
theorem exists_ready (hinv : Inv settings state)
    (hlooping : state.phase = .looping loop)
    (hending : Ending settings state loop) :
    ∃ later, Ready settings state later := by
  have hphase := hinv.phase
  rw [hlooping] at hphase
  obtain ⟨hdone, hloop⟩ := hphase
  have hready : ∀ own later, loopStep settings state loop own = some later →
      ∃ later, Ready settings state later := fun own later hstep =>
    ⟨later, own, by rw [own?, hlooping]; exact hstep⟩
  cases htimedOut : loop.timedOut with
  | false =>
      exact hready .timeout _ (if_pos ⟨htimedOut, hending.elapsed⟩)
  | true =>
      have hunseen : ∃ stream, loop.result stream = none := by
        by_contra hall
        simp only [not_exists, ← Option.isSome_iff_ne_none] at hall
        simp [Loop.done, htimedOut, hall] at hdone
      obtain ⟨stream, hresult⟩ := hunseen
      cases hreader : loop.readers stream with
      | joined result =>
          rw [Loop.result, hreader] at hresult
          cases hresult
      | finished result =>
          refine hready (.joinReader stream)
            (join settings state loop stream result) ?_
          simp only [loopStep, hreader]
      | reading buf =>
          have hchild : (state.pipes (.output stream)).child = false :=
            hinv.closed (hloop.killed htimedOut) _
          by_cases hempty : (state.pipes (.output stream)).buffer = []
          · have hfree : (state.pipes (.output stream)).held = false := by
              have hwithin := hloop.within stream buf hreader
              have hnot := hending.free stream
              simp only [KeptOpen, hreader, hempty, Reader.reading.injEq,
                exists_eq_left', List.length_nil, Nat.add_zero, hwithin,
                and_true] at hnot
              simp [Pipe.held, hchild, hnot]
            refine hready (.endOfStream stream) (state.looping
              (loop.setReader stream (.finished (some (.ok buf))))) ?_
            simp only [loopStep, hreader]
            exact if_pos ⟨hempty, hfree⟩
          · have hsome := List.length_pos_iff.mpr hempty
            have hchunk : 1 ≤ chunkBytes := by decide
            exact ⟨_, .read stream 1, by
              rw [own?, hlooping]
              simp only [loopStep, hreader]
              exact if_pos ⟨le_rfl, hchunk, hsome⟩⟩

theorem inevitably_of_ending (hinv : Inv settings state)
    (hlooping : state.phase = .looping loop)
    (hending : Ending settings state loop) :
    Inevitably (Ready settings) (May settings) Returned state := by
  apply inevitable_of_measure
    (fun state => Inv settings state ∧
      ∃ loop, state.phase = .looping loop ∧ Ending settings state loop)
    remaining
  · rintro state ⟨hinv, loop, hlooping, hending⟩ -
    exact exists_ready hinv hlooping hending
  · rintro state later ⟨hinv, loop, hlooping, hending⟩ - hmay
    have hnearer : Inv settings later ∧
        Nearer settings (work state loop) later := by
      rcases hmay with ⟨own, hstep⟩ | ⟨fault, hstep⟩
      · refine ⟨own_inv hinv hstep, ?_⟩
        rw [own?, hlooping] at hstep
        exact loopMove_nearer hending (loopMove_of_step hstep)
      · exact ⟨fault_inv hinv hstep,
          faultMove_nearer hlooping hending (faultMove_of_step hstep)⟩
    obtain ⟨hkept, hreturned | ⟨hlater, hless⟩⟩ := hnearer
    · exact .inl hreturned
    · refine .inr ⟨⟨hkept, hlater⟩, ?_⟩
      rw [remaining.eq_def state, hlooping]
      exact hless
  · exact ⟨hinv, loop, hlooping, hending⟩

theorem covered_looping_iff (hinv : Inv settings state)
    (hlooping : state.phase = .looping loop) :
    Covered settings state ↔ Unobstructed settings state := by
  have hphase := hinv.phase
  rw [hlooping] at hphase
  rw [Unobstructed, hlooping]
  constructor
  · intro hcovered helapsed stream hkept
    apply not_inevitably_of_keptOpen hlooping hkept
    exact hcovered.returns (by rwa [Fired, hlooping])
  · intro hfree
    have hreturns : Fired state →
        Inevitably (Ready settings) (May settings) Returned state := by
      intro hfired
      rw [Fired, hlooping] at hfired
      exact inevitably_of_ending hinv hlooping ⟨hfired, hfree hfired⟩
    refine ⟨fun hwaiting => ?_, hreturns⟩
    rw [Armed, hlooping]
    by_contra htimedOut
    have helapsed := hphase.2.fired (Bool.eq_true_of_not_eq_false htimedOut)
    exact (hreturns (by rwa [Fired, hlooping])).not_stuck hwaiting

theorem covered_writing_iff {rest : Bytes}
    (hwriting : state.phase = .writing rest) :
    Covered settings state ↔ Unobstructed settings state := by
  have harmed : ¬ Armed state := by simp [Armed, hwriting]
  have hfired : ¬ Fired state := by simp [Fired, hwriting]
  rw [← waiting_writing_iff hwriting]
  constructor
  · exact fun hcovered hwaiting => harmed (hcovered.armed hwaiting)
  · intro hgoing
    exact ⟨fun hwaiting => absurd hwaiting hgoing,
      fun hover => absurd hover hfired⟩

theorem covered_iff (hinv : Inv settings state) :
    Covered settings state ↔ Unobstructed settings state := by
  cases hphase : state.phase with
  | writing rest => exact covered_writing_iff hphase
  | looping loop => exact covered_looping_iff hinv hphase
  | returned timedOut outcome =>
      have hreturned : Returned state := by simp [Returned, hphase]
      have hunobstructed : Unobstructed settings state := by
        simp [Unobstructed, hphase]
      exact iff_of_true
        ⟨fun hwaiting => absurd hreturned hwaiting.1,
          fun _ => .done hreturned⟩ hunobstructed

/-- In every run the deadline covers each state that is reached exactly if each is
unobstructed. -/
theorem deadline_covers_iff (settings : Settings)
    (spawned : Except String Unit) (input : Bytes) (acts : List Act) :
    (∀ before, before <+: acts →
        Covered settings (run settings spawned input before)) ↔
      ∀ before, before <+: acts →
        Unobstructed settings (run settings spawned input before) :=
  forall₂_congr fun before _ => covered_iff (run_inv spawned input before)

/-! ## Inputs longer than the pipe -/

theorem settle_phase_ne (rest : Bytes) :
    (settle settings state loop).phase ≠ .writing rest := by
  rw [settle]
  split_ifs
  · rintro ⟨⟩
  · rintro ⟨⟩

theorem join_phase_ne (stream : Stream) (outcome : Option OutputReadResult)
    (rest : Bytes) :
    (join settings state loop stream outcome).phase ≠ .writing rest := by
  cases outcome with
  | none => exact settle_phase_ne rest
  | some result =>
      rw [join]
      split_ifs
      · exact settle_phase_ne rest
      · exact settle_phase_ne rest

theorem loopMove_phase_ne {later : State}
    (hmove : LoopMove settings state loop later) (rest : Bytes) :
    later.phase ≠ .writing rest := by
  cases hmove with
  | read _ _ _ => rintro ⟨⟩
  | endOfStream _ _ => rintro ⟨⟩
  | childWaited _ => exact settle_phase_ne rest
  | joinReader _ => exact join_phase_ne _ _ rest
  | timeout _ _ => exact settle_phase_ne rest

theorem faultMove_phase_ne {later : State}
    (hmove : FaultMove settings state later) (rest : Bytes) :
    later.phase ≠ .writing rest := by
  cases hmove <;> rintro ⟨⟩

/-- What is left of the input fits the pipe. -/
def Fits (settings : Settings) (state : State) : Prop :=
  ∀ rest, state.phase = .writing rest →
    rest.length + (state.pipes .stdin).buffer.length ≤ settings.capacity

theorem writeMove_fits {rest : Bytes} {later : State}
    (hroom : rest.length + (state.pipes .stdin).buffer.length ≤
      settings.capacity)
    (hmove : WriteMove settings state rest later) : Fits settings later := by
  cases hmove with
  | write hheld hpos hcount hleft =>
      rintro _ ⟨⟩
      simp only [pipes_setPipe, if_true, Pipe.put, List.length_append,
        List.length_drop, List.length_take]
      omega
  | brokenPipe hrest hfree => rintro _ ⟨⟩
  | spawnReaders hrest => rintro _ ⟨⟩

/-- The world only takes from the pipe of the input. -/
theorem worldMove_stdin {later : State} (hmove : WorldMove state later) :
    later.phase = state.phase ∧
      (later.pipes .stdin).buffer.length ≤
        (state.pipes .stdin).buffer.length := by
  cases hmove with
  | tick => exact ⟨rfl, le_rfl⟩
  | pipe hchild hstdin =>
      refine ⟨rfl, ?_⟩
      rw [pipes_setPipe]
      split_ifs with hsame
      · subst hsame
        exact hstdin rfl
      · exact le_rfl
  | childEnded => exact ⟨rfl, le_rfl⟩

theorem worldMove_fits {later : State} (hfits : Fits settings state)
    (hmove : WorldMove state later) : Fits settings later := by
  obtain ⟨hphase, hless⟩ := worldMove_stdin hmove
  intro rest hwriting
  have hroom := hfits rest (hphase ▸ hwriting)
  exact (Nat.add_le_add_left hless _).trans hroom

theorem step_fits (act : Act) (hfits : Fits settings state) :
    Fits settings (step settings state act) := by
  rw [step]
  cases hact : act? settings state act with
  | none => exact hfits
  | some later =>
      cases act with
      | own own =>
          simp only [act?, own?] at hact
          split at hact
          next rest hwriting =>
            exact writeMove_fits (hfits rest hwriting) (writeMove_of_step hact)
          next =>
            exact fun rest heq =>
              absurd heq (loopMove_phase_ne (loopMove_of_step hact) rest)
          next => cases hact
      | fault fault =>
          exact fun rest heq =>
            absurd heq (faultMove_phase_ne (faultMove_of_step hact) rest)
      | world world => exact worldMove_fits hfits (worldMove_of_step hact)

theorem run_fits {input : Bytes} (hlength : input.length ≤ settings.capacity)
    (acts : List Act) : Fits settings (run settings (.ok ()) input acts) := by
  refine Runs.run_always (Fits settings) acts ?_ fun _ act => step_fits act
  rintro _ ⟨⟩
  simpa [start, Pipe.opened] using hlength

theorem unobstructed_of_fits {rest : Bytes} (hfits : Fits settings state)
    (hwriting : state.phase = .writing rest) :
    Unobstructed settings state := by
  have hroom := hfits rest hwriting
  rw [Unobstructed, hwriting]
  by_cases hrest : rest = []
  · exact .inl hrest
  · have hsome := List.length_pos_iff.mpr hrest
    refine .inr (.inr ?_)
    rw [Pipe.room]
    omega

/-- The VM fills the pipe of a child that reads nothing. -/
theorem run_write_capacity {input : Bytes}
    (hlong : settings.capacity < input.length) :
    (run settings (.ok ()) input [.own (.write settings.capacity)]).phase =
        .writing (input.drop settings.capacity) ∧
      (run settings (.ok ()) input
          [.own (.write settings.capacity)]).pipes .stdin =
        Pipe.opened.put (input.take settings.capacity) := by
  rcases Nat.eq_zero_or_pos settings.capacity with hzero | hpos
  · simp [run, step, act?, own?, writeStep, start, hzero, Pipe.put,
      Pipe.opened]
  · have hguard : Pipe.opened.held = true ∧ 1 ≤ settings.capacity ∧
        settings.capacity ≤ input.length ∧
        settings.capacity ≤ Pipe.opened.room settings.capacity :=
      ⟨rfl, hpos, hlong.le, le_rfl⟩
    simp only [run, Runs.run_cons, Runs.run_nil, step, act?, own?, start,
      writeStep, if_pos hguard, Option.getD_some, pipes_setPipe, if_true,
      and_self]

theorem unread_obstructed (settings : Settings) (input : Bytes)
    (hlong : settings.capacity < input.length) :
    ¬ Unobstructed settings (run settings (.ok ()) input
      [.own (.write settings.capacity)]) := by
  obtain ⟨hphase, hpipe⟩ := run_write_capacity hlong
  rw [Unobstructed, hphase]
  simp only [hpipe, List.drop_eq_nil_iff]
  rintro (hshort | hfree | hroom)
  · omega
  · cases hfree
  · simp only [Pipe.room, Pipe.put, Pipe.opened, List.nil_append,
      List.length_take] at hroom
    omega

/-- An execution does not wait before its timer runs, whatever the child does,
exactly if the input fits the pipe. -/
theorem never_waits_writing_iff (settings : Settings) (input : Bytes) :
    (∀ acts rest,
      (run settings (.ok ()) input acts).phase = .writing rest →
        ¬ Waiting settings (run settings (.ok ()) input acts)) ↔
      input.length ≤ settings.capacity := by
  constructor
  · intro hnever
    by_contra hlong
    have hlonger := Nat.lt_of_not_le hlong
    have hphase := (run_write_capacity hlonger).1
    exact unread_obstructed settings input hlonger
      ((waiting_writing_iff hphase).mp (hnever _ _ hphase))
  · intro hlength acts rest hwriting
    rw [waiting_writing_iff hwriting]
    exact unobstructed_of_fits (run_fits hlength acts) hwriting

/-- The run in which the child reads nothing of an input longer than the pipe. -/
theorem unread_uncovered (settings : Settings) (input : Bytes)
    (hlong : settings.capacity < input.length) :
    ¬ ∀ before, before <+: [.own (.write settings.capacity)] →
      Covered settings (run settings (.ok ()) input before) := by
  intro hall
  have hcovered := hall _ List.prefix_rfl
  rw [covered_iff (run_inv _ _ _)] at hcovered
  exact unread_obstructed settings input hlong hcovered

/-! ## A child without descendants -/

/-- No descendant holds a pipe. -/
def Alone (state : State) : Prop :=
  ∀ channel, (state.pipes channel).descendants = 0

theorem Alone.setPipe (halone : Alone state) {channel : Channel} {pipe : Pipe}
    (hless : pipe.descendants ≤ (state.pipes channel).descendants) :
    Alone (state.setPipe channel pipe) := by
  intro other
  rw [pipes_setPipe]
  split_ifs
  · exact Nat.eq_zero_of_le_zero (hless.trans_eq (halone channel))
  · exact halone other

theorem Alone.settle (halone : Alone state) :
    Alone (settle settings state loop) := by
  rw [Execution.settle]
  split_ifs
  · exact halone
  · exact halone

theorem Alone.join (halone : Alone state) (stream : Stream)
    (outcome : Option OutputReadResult) :
    Alone (join settings state loop stream outcome) := by
  have hkilled : Alone state.kill := halone
  cases outcome with
  | none => exact hkilled.settle
  | some result =>
      rw [Execution.join]
      split_ifs
      · exact hkilled.settle
      · exact halone.settle

theorem Alone.writeMove {rest : Bytes} {later : State} (halone : Alone state)
    (hmove : WriteMove settings state rest later) : Alone later := by
  cases hmove with
  | @write count hheld hpos hcount hroom =>
      have hput : Alone (state.setPipe .stdin
          ((state.pipes .stdin).put (rest.take count))) :=
        halone.setPipe le_rfl
      exact hput
  | brokenPipe hrest hfree => exact halone
  | spawnReaders hrest => exact halone

theorem Alone.loopMove {later : State} (halone : Alone state)
    (hmove : LoopMove settings state loop later) : Alone later := by
  cases hmove with
  | @read stream buf count hreader hpos hcount =>
      have htaken : Alone (state.setPipe (.output stream)
          ((state.pipes (.output stream)).take count)) :=
        halone.setPipe le_rfl
      exact htaken
  | endOfStream hreader hfree => exact halone
  | childWaited hwaiting => exact halone.settle
  | joinReader hreader => exact halone.join _ _
  | timeout hrunning helapsed =>
      have hkilled : Alone state.kill := halone
      exact hkilled.settle

theorem Alone.faultMove {later : State} (halone : Alone state)
    (hmove : FaultMove settings state later) : Alone later := by
  cases hmove with
  | abort hwriting => exact halone
  | wait hlooping => exact halone
  | reader outcome hlooping hreader => exact halone

theorem Alone.world {world : World} {later : State} (halone : Alone state)
    (hshares : ∀ channel, world ≠ .shares channel)
    (hstep : world? settings state world = some later) : Alone later := by
  revert hstep
  fun_cases world? settings state world <;> rintro ⟨⟩
  · exact halone
  · exact halone.setPipe le_rfl
  · exact halone.setPipe le_rfl
  · exact absurd rfl (hshares _)
  · exact halone.setPipe (Nat.sub_le _ _)
  · exact halone.setPipe le_rfl
  · exact halone

theorem Alone.step {act : Act} (halone : Alone state)
    (hshares : ∀ channel, act ≠ .world (.shares channel)) :
    Alone (step settings state act) := by
  rw [Execution.step]
  cases hact : act? settings state act with
  | none => exact halone
  | some later =>
      cases act with
      | own own =>
          simp only [act?, own?] at hact
          split at hact
          next => exact halone.writeMove (writeMove_of_step hact)
          next => exact halone.loopMove (loopMove_of_step hact)
          next => cases hact
      | fault fault => exact halone.faultMove (faultMove_of_step hact)
      | world world =>
          exact halone.world
            (fun channel heq => hshares channel (congrArg Act.world heq)) hact

/-- The deadline covers every run of a child without descendants whose input fits
the pipe. -/
theorem covered_of_fits {input : Bytes}
    (hlength : input.length ≤ settings.capacity) {acts : List Act}
    (hshares : ∀ channel, .world (.shares channel) ∉ acts) :
    Covered settings (run settings (.ok ()) input acts) := by
  have halone : Alone (run settings (.ok ()) input acts) := by
    refine Runs.run_invariant Alone (fun _ => rfl)
      (Runs.along_of_forall fun _ act hact channel heq => ?_)
      fun _ _ halone hplain => halone.step hplain
    exact hshares channel (heq ▸ hact)
  rw [covered_iff (run_inv _ _ _)]
  cases hphase : (run settings (.ok ()) input acts).phase with
  | writing rest => exact unobstructed_of_fits (run_fits hlength acts) hphase
  | looping loop =>
      rw [Unobstructed, hphase]
      rintro - stream ⟨buf, -, hheld, -⟩
      exact hheld.ne' (halone _)
  | returned timedOut outcome => simp [Unobstructed, hphase]

/-! ## Two children that are waited for -/

def sampleSettings : Settings where
  timeoutMs := 1
  maxBytes _ := 262144
  capacity := 65536
  utf8Lossy _ := ""
  fromStr _ := none

/-- A script as long as the pipe. -/
def longScript : Zenroom.ZenroomInputs Bool :=
  { Zenroom.plainInputs "debug=0" with
    script := String.ofList (List.replicate 65536 'a') }

def longInput : Bytes := Zenroom.stdin Zenroom.boolText longScript

theorem length_le_encode (bytes : Bytes) :
    bytes.length ≤ (Base64.encode bytes).length := by
  induction bytes using Base64.encode.induct with
  | case1 => exact le_rfl
  | case2 first => simp [Base64.encode]
  | case3 first second => simp [Base64.encode]
  | case4 first second third rest ih =>
      simp only [Base64.encode, List.length_cons]
      omega

theorem length_longInput : sampleSettings.capacity < longInput.length := by
  have hutf8 : (utf8 longScript.script).length = 65536 := by
    rw [Text.utf8_eq_flatMap, longScript, String.toList_ofList,
      List.flatMap_replicate, List.length_flatten, List.map_replicate,
      List.sum_replicate_nat]
    rfl
  have hencoded := length_le_encode (utf8 longScript.script)
  have hcapacity : sampleSettings.capacity = 65536 := rfl
  rw [longInput, Zenroom.stdin, List.length_append, List.length_cons,
    List.length_append]
  omega

/-- A child that keeps its output open in another process. -/
def daemonized : List Act :=
  [.own (.write 61), .own .spawnReaders, .world (.shares (.output .stdout)),
    .world .tick, .own .timeout]

theorem deadline_uncovered :
    (¬ ∀ before, before <+: [.own (.write sampleSettings.capacity)] →
      Covered sampleSettings
        (run sampleSettings (.ok ()) longInput before)) ∧
    ¬ ∀ before, before <+: daemonized →
      Covered sampleSettings (run sampleSettings (.ok ())
        (Zenroom.stdin Zenroom.boolText
          (Zenroom.plainInputs "debug=0")) before) := by
  constructor
  · exact unread_uncovered sampleSettings longInput length_longInput
  · intro hall
    have hcovered := hall _ List.prefix_rfl
    rw [covered_iff (run_inv _ _ _)] at hcovered
    revert hcovered
    decide +kernel

end NxccBridge.ExecutionDeadline
