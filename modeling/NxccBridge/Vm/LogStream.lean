import NxccBridge.Core.Runs
import NxccBridge.Vm.LogBuffer

/-!
# Streaming the log of a worker

`stream_worker_logs` of `node/vm/workerd/src/vmm/mod.rs` and of
`node/vm/zenroom/src/vmm/mod.rs` takes a snapshot of the history, sends it into a
channel, subscribes to the broadcast of the buffer, and hands out the channel.
Writers append to the history and broadcast in two steps, and all of them step in
any order.
-/

namespace NxccBridge.LogStream

open Function
open NxccBridge.Logging
open NxccBridge.Runs

/-- An entry with its place in the order in which lines entered the history. -/
abbrev Numbered := LogEntry × ℕ

def numbered (entries : List LogEntry) : List Numbered := entries.zipIdx

@[simp]
theorem length_numbered (entries : List LogEntry) :
    (numbered entries).length = entries.length := List.length_zipIdx

theorem numbered_append (before after : List LogEntry) :
    numbered (before ++ after) =
      numbered before ++ after.zipIdx before.length := by
  rw [numbered, List.zipIdx_append, Nat.zero_add]
  rfl

theorem number_of_getElem? {entries : List LogEntry} {number : ℕ}
    {entry : Numbered} (hentry : (numbered entries)[number]? = some entry) :
    entry.2 = number := by
  rw [numbered, List.getElem?_zipIdx, Option.map_eq_some_iff] at hentry
  obtain ⟨line, -, rfl⟩ := hentry
  exact Nat.zero_add number

/-- A response on its way to the client. -/
structure Response where
  entry : Numbered
  isHistorical : Bool
  deriving DecidableEq

def historical (entry : Numbered) : Response := ⟨entry, true⟩

def live (entry : Numbered) : Response := ⟨entry, false⟩

/-- The capacity of the channel to the client. -/
def channelCapacity : ℕ := 1000

/-- Where a call of `stream_worker_logs` is.  It has returned once it has sent the
whole tail. -/
inductive Phase
  | idle
  | sending (follow : Bool) (tail : List Numbered)
  | returned
  deriving DecidableEq

structure Stream where
  phase : Phase
  /-- How many lines had entered the history at the snapshot. -/
  mark : ℕ
  channel : List Response
  /-- What the streamer has not read yet. -/
  receiver : Option (List Numbered)
  /-- What the streaming task has read and not sent yet. -/
  current : Option Numbered
  received : List Response
  /-- All that was broadcast since the subscription. -/
  broadcasts : List Numbered
  deriving DecidableEq

def Stream.new : Stream where
  phase := .idle
  mark := 0
  channel := []
  receiver := none
  current := none
  received := []
  broadcasts := []

/-- `entered` is a history: the lines in the order in which they entered the
buffer. -/
structure State where
  buffer : LogBuffer
  entered : List LogEntry
  /-- What a writer has put in the history and not broadcast yet. -/
  writers : ℕ → Option Numbered
  stream : Stream

def State.new : State where
  buffer := .new
  entered := []
  writers := fun _ => none
  stream := .new

inductive Action
  | enter (writer : ℕ) (entry : LogEntry)
  | broadcast (writer : ℕ)
  | snapshot (tailLines : ℕ) (follow : Bool)
  | proceed
  | lag
  | next
  | forward
  | receive

/-! ## The stream -/

namespace Stream

/-- `get_worker_logs` has returned the tail. -/
def snapshot (self : Stream) (follow : Bool) (mark : ℕ) (tail : List Numbered) :
    Stream :=
  match self.phase with
  | .idle => { self with phase := .sending follow tail, mark := mark }
  | _ => self

/-- The call sends the next entry of the tail, for which the channel must have
room, or subscribes and returns. -/
def proceed (self : Stream) : Stream :=
  match self.phase with
  | .sending follow (entry :: tail) =>
      if self.channel.length < channelCapacity then
        { self with
          phase := .sending follow tail
          channel := self.channel ++ [historical entry] }
      else self
  | .sending follow [] =>
      { self with
        phase := .returned
        receiver := if follow then some [] else none }
  | _ => self

def broadcast (self : Stream) (entry : Numbered) : Stream :=
  match self.receiver with
  | some unread =>
      { self with
        receiver := some (unread ++ [entry])
        broadcasts := self.broadcasts ++ [entry] }
  | none => self

/-- A full broadcast channel drops the oldest entry. -/
def lag (self : Stream) : Stream :=
  { self with receiver := self.receiver.map List.tail }

/-- `next_log` of the streaming task. -/
def next (self : Stream) : Stream :=
  match self.receiver, self.current with
  | some (entry :: unread), none =>
      { self with receiver := some unread, current := some entry }
  | _, _ => self

def forward (self : Stream) : Stream :=
  match self.current with
  | some entry =>
      if self.channel.length < channelCapacity then
        { self with
          current := none
          channel := self.channel ++ [live entry] }
      else self
  | none => self

/-- The client has the channel once the call has returned. -/
def receive (self : Stream) : Stream :=
  match self.phase, self.channel with
  | .returned, response :: channel =>
      { self with
        channel := channel
        received := self.received ++ [response] }
  | _, _ => self

/-- What the call has not sent yet. -/
def tail (self : Stream) : List Numbered :=
  match self.phase with
  | .sending _ tail => tail
  | _ => []

/-- What the client has received or will receive. -/
def given (self : Stream) : List Response :=
  self.received ++ self.channel ++ self.tail.map historical ++
    (self.current.toList ++ self.receiver.getD []).map live

end Stream

/-! ## The system -/

namespace State

/-- `write_log` up to the release of the lock on the history. -/
def enter (self : State) (writer : ℕ) (entry : LogEntry) : State :=
  match self.writers writer with
  | none =>
      { self with
        buffer := self.buffer.writeLog entry
        entered := self.entered ++ [entry]
        writers := update self.writers writer
          (some (entry, self.entered.length)) }
  | some _ => self

/-- The rest of `write_log`. -/
def broadcast (self : State) (writer : ℕ) : State :=
  match self.writers writer with
  | some entry =>
      { self with
        writers := update self.writers writer none
        stream := self.stream.broadcast entry }
  | none => self

/-- The tail of the history that a call asks for; 0 lines stand for all. -/
def tail (self : State) (tailLines : ℕ) : List LogEntry :=
  self.buffer.getTail (if 0 < tailLines then some tailLines else none)

/-- The tail is the end of what has entered. -/
def numberedTail (self : State) (tailLines : ℕ) : List Numbered :=
  (self.tail tailLines).zipIdx
    (self.entered.length - (self.tail tailLines).length)

def step (self : State) : Action → State
  | .enter writer entry => self.enter writer entry
  | .broadcast writer => self.broadcast writer
  | .snapshot tailLines follow =>
      { self with
        stream := self.stream.snapshot follow self.entered.length
          (self.numberedTail tailLines) }
  | .proceed => { self with stream := self.stream.proceed }
  | .lag => { self with stream := self.stream.lag }
  | .next => { self with stream := self.stream.next }
  | .forward => { self with stream := self.stream.forward }
  | .receive => { self with stream := self.stream.receive }

end State

def State.after (actions : List Action) : State := run State.step .new actions

/-! ## The stream keeps the order -/

namespace Stream

/-- Nothing is subscribed before the call has returned, and nothing is sent before
it has begun. -/
structure Tidy (stream : Stream) : Prop where
  unsubscribed : stream.phase ≠ .returned →
    stream.receiver = none ∧ stream.current = none ∧ stream.broadcasts = []
  untouched : stream.phase = .idle →
    stream.received = [] ∧ stream.channel = []

theorem tidy_new : Tidy .new where
  unsubscribed := fun _ => ⟨rfl, rfl, rfl⟩
  untouched := fun _ => ⟨rfl, rfl⟩

variable {stream : Stream}

theorem Tidy.snapshot (htidy : stream.Tidy) (follow : Bool) (mark : ℕ)
    (tail : List Numbered) : (stream.snapshot follow mark tail).Tidy := by
  rw [Stream.snapshot]
  split
  · rename_i hidle
    refine ⟨fun _ => ?_, fun hphase => absurd hphase (by simp)⟩
    exact htidy.unsubscribed (by simp [hidle])
  · exact htidy

theorem Tidy.proceed (htidy : stream.Tidy) : stream.proceed.Tidy := by
  rw [Stream.proceed]
  split
  · rename_i follow entry tail hphase
    split_ifs
    · refine ⟨fun _ => ?_, fun hidle => absurd hidle (by simp)⟩
      exact htidy.unsubscribed (by simp [hphase])
    · exact htidy
  · exact ⟨fun hphase => absurd rfl hphase, fun hidle => absurd hidle (by simp)⟩
  · exact htidy

/-- A step of the streaming task or of a broadcast, which needs a receiver or an
entry that was read. -/
theorem Tidy.returned (htidy : stream.Tidy)
    (hstarted : stream.receiver ≠ none ∨ stream.current ≠ none) :
    stream.phase = .returned := by
  by_contra hphase
  obtain ⟨hreceiver, hcurrent, -⟩ := htidy.unsubscribed hphase
  rcases hstarted with hstarted | hstarted
  · exact hstarted hreceiver
  · exact hstarted hcurrent

theorem Tidy.of_returned (hphase : stream.phase = .returned) : stream.Tidy where
  unsubscribed := fun hnot => absurd hphase hnot
  untouched := fun hidle => absurd (hphase.symm.trans hidle) (by simp)

theorem Tidy.broadcast (htidy : stream.Tidy) (entry : Numbered) :
    (stream.broadcast entry).Tidy := by
  rw [Stream.broadcast]
  split
  · rename_i unread hreceiver
    exact .of_returned (htidy.returned (Or.inl (by simp [hreceiver])))
  · exact htidy

theorem Tidy.lag (htidy : stream.Tidy) : stream.lag.Tidy where
  unsubscribed := by
    intro hphase
    obtain ⟨hreceiver, hcurrent, hbroadcasts⟩ := htidy.unsubscribed hphase
    exact ⟨by simp [Stream.lag, hreceiver], hcurrent, hbroadcasts⟩
  untouched := htidy.untouched

theorem Tidy.next (htidy : stream.Tidy) : stream.next.Tidy := by
  rw [Stream.next]
  split
  · rename_i hreceiver _
    exact .of_returned (htidy.returned (Or.inl (by simp [hreceiver])))
  · exact htidy

theorem Tidy.forward (htidy : stream.Tidy) : stream.forward.Tidy := by
  rw [Stream.forward]
  split
  · rename_i hcurrent
    split_ifs
    · exact .of_returned (htidy.returned (Or.inr (by simp [hcurrent])))
    · exact htidy
  · exact htidy

theorem Tidy.receive (htidy : stream.Tidy) : stream.receive.Tidy := by
  rw [Stream.receive]
  split
  · rename_i hphase _
    exact .of_returned hphase
  · exact htidy

/-- The same broadcasts after the same snapshot. -/
def SameSource (stream other : Stream) : Prop :=
  stream.broadcasts = other.broadcasts ∧ stream.mark = other.mark

theorem proceed_source : stream.proceed.SameSource stream := by
  rw [proceed]
  split
  · split_ifs <;> exact ⟨rfl, rfl⟩
  · exact ⟨rfl, rfl⟩
  · exact ⟨rfl, rfl⟩

theorem next_source : stream.next.SameSource stream := by
  rw [next]
  split <;> exact ⟨rfl, rfl⟩

theorem forward_source : stream.forward.SameSource stream := by
  rw [forward]
  split
  · split_ifs <;> exact ⟨rfl, rfl⟩
  · exact ⟨rfl, rfl⟩

theorem receive_source : stream.receive.SameSource stream := by
  rw [receive]
  split <;> exact ⟨rfl, rfl⟩

/-! What the client is given changes with the snapshot and with a broadcast
only. -/

theorem given_proceed (htidy : stream.Tidy) :
    stream.proceed.given = stream.given := by
  rw [proceed]
  split
  · rename_i follow entry tail hphase
    split_ifs
    · simp [given, Stream.tail, hphase]
    · rfl
  · rename_i follow hphase
    obtain ⟨hreceiver, -, -⟩ := htidy.unsubscribed (by simp [hphase])
    cases follow <;> simp [given, Stream.tail, hphase, hreceiver]
  · rfl

/-- Nobody listens. -/
theorem broadcast_of_none (hreceiver : stream.receiver = none)
    (entry : Numbered) : stream.broadcast entry = stream := by
  rw [broadcast, hreceiver]

theorem given_broadcast (entry : Numbered) :
    (stream.broadcast entry).given = stream.given ++
      if stream.receiver = none then [] else [live entry] := by
  rw [broadcast]
  split
  · rename_i unread hreceiver
    simp [given, Stream.tail, hreceiver]
  · rename_i hreceiver
    simp [hreceiver]

theorem given_next : stream.next.given = stream.given := by
  rw [next]
  split
  · rename_i entry unread hreceiver hcurrent
    simp [given, Stream.tail, hreceiver, hcurrent]
  · rfl

theorem given_forward (htidy : stream.Tidy) :
    stream.forward.given = stream.given := by
  rw [forward]
  split
  · rename_i entry hcurrent
    have hphase := htidy.returned (Or.inr (by simp [hcurrent]))
    split_ifs
    · simp [given, Stream.tail, hphase, hcurrent]
    · rfl
  · rfl

theorem given_receive : stream.receive.given = stream.given := by
  rw [receive]
  split
  · rename_i response channel hphase hchannel
    simp [given, Stream.tail, hphase, hchannel]
  · rfl

end Stream

/-! ## The order of the writers -/

/-- A writer broadcasts to a subscribed stream an entry that entered after the
snapshot, and all that entered in between have been broadcast to it. -/
def InTurn (state : State) : Action → Prop
  | .broadcast writer =>
      ∀ entry, state.writers writer = some entry →
        state.stream.receiver ≠ none →
          state.stream.mark ≤ entry.2 ∧
            ∀ number, state.stream.mark ≤ number → number < entry.2 →
              number ∈ state.stream.broadcasts.map Prod.snd
  | _ => True

/-- Every entry that waits for its broadcast has its own place. -/
structure Ordered (state : State) : Prop where
  buffer : state.buffer = written state.entered
  pending : ∀ writer entry, state.writers writer = some entry →
    (numbered state.entered)[entry.2]? = some entry
  distinct : ∀ writer other entry last, state.writers writer = some entry →
    state.writers other = some last → entry.2 = last.2 → writer = other
  unsent : ∀ writer entry, state.writers writer = some entry →
    entry.2 ∉ state.stream.broadcasts.map Prod.snd
  sent_lt : ∀ number ∈ state.stream.broadcasts.map Prod.snd,
    number < state.entered.length
  mark_le : state.stream.mark ≤ state.entered.length
  tidy : state.stream.Tidy

theorem Ordered.number_lt {state : State} (hordered : Ordered state)
    {writer : ℕ} {entry : Numbered}
    (hentry : state.writers writer = some entry) :
    entry.2 < state.entered.length := by
  rw [← length_numbered]
  exact (List.getElem?_eq_some_iff.mp (hordered.pending writer entry hentry)).1

theorem ordered_new : Ordered .new where
  buffer := rfl
  pending := by simp [State.new]
  distinct := by simp [State.new]
  unsent := by simp [State.new]
  sent_lt := by simp [State.new, Stream.new]
  mark_le := le_rfl
  tidy := Stream.tidy_new

namespace Ordered

variable {state : State}

theorem enter (hordered : Ordered state) (writer : ℕ) (entry : LogEntry) :
    Ordered (state.enter writer entry) := by
  rw [State.enter]
  split
  · have hold : ∀ other last,
        update state.writers writer (some (entry, state.entered.length)) other =
          some last →
        (other = writer ∧ last = (entry, state.entered.length)) ∨
          (state.writers other = some last ∧
            last.2 < state.entered.length) := by
      intro other last hlast
      by_cases hother : other = writer
      · subst hother
        rw [update_self, Option.some.injEq] at hlast
        exact Or.inl ⟨rfl, hlast.symm⟩
      · rw [update_of_ne hother] at hlast
        exact Or.inr ⟨hlast, hordered.number_lt hlast⟩
    constructor
    · rw [hordered.buffer, written, written, List.foldl_concat]
    · intro other last hlast
      rw [numbered_append]
      rcases hold other last hlast with ⟨-, rfl⟩ | ⟨hlast, hlt⟩
      · simp
      · rw [List.getElem?_append_left (by simpa using hlt)]
        exact hordered.pending other last hlast
    · intro first second entry last hfirst hsecond heq
      rcases hold first entry hfirst with ⟨rfl, rfl⟩ | ⟨hfirst, hlt⟩
      · rcases hold second last hsecond with ⟨rfl, -⟩ | ⟨-, hlt⟩
        · rfl
        · simp only at heq
          omega
      · rcases hold second last hsecond with ⟨rfl, rfl⟩ | ⟨hsecond, -⟩
        · simp only at heq
          omega
        · exact hordered.distinct first second entry last hfirst hsecond heq
    · intro other last hlast hsent
      rcases hold other last hlast with ⟨-, rfl⟩ | ⟨hlast, -⟩
      · exact absurd (hordered.sent_lt _ hsent) (lt_irrefl _)
      · exact hordered.unsent other last hlast hsent
    · intro number hnumber
      have hlt := hordered.sent_lt number hnumber
      simp only [List.length_append]
      omega
    · have hmark := hordered.mark_le
      simp only [List.length_append]
      omega
    · exact hordered.tidy
  · exact hordered

theorem mem_broadcast {stream : Stream} {entry : Numbered} {number : ℕ}
    (hnumber : number ∈ (stream.broadcast entry).broadcasts.map Prod.snd) :
    number ∈ stream.broadcasts.map Prod.snd ∨ number = entry.2 := by
  rw [Stream.broadcast] at hnumber
  split at hnumber
  · rw [List.map_append, List.mem_append] at hnumber
    exact hnumber.imp_right List.mem_singleton.mp
  · exact Or.inl hnumber

theorem broadcast (hordered : Ordered state) (writer : ℕ) :
    Ordered (state.broadcast writer) := by
  rw [State.broadcast]
  split
  · rename_i entry hentry
    have hold : ∀ other last,
        update state.writers writer none other = some last →
          other ≠ writer ∧ state.writers other = some last := by
      intro other last hlast
      by_cases hother : other = writer
      · subst hother
        simp at hlast
      · rw [update_of_ne hother] at hlast
        exact ⟨hother, hlast⟩
    constructor
    · exact hordered.buffer
    · intro other last hlast
      exact hordered.pending other last (hold other last hlast).2
    · intro first second entry last hfirst hsecond heq
      exact hordered.distinct first second entry last
        (hold first entry hfirst).2 (hold second last hsecond).2 heq
    · intro other last hlast hsent
      obtain ⟨hother, hlast⟩ := hold other last hlast
      rcases mem_broadcast hsent with hsent | heq
      · exact hordered.unsent other last hlast hsent
      · exact hother (hordered.distinct other writer last entry hlast hentry heq)
    · intro number hnumber
      rcases mem_broadcast hnumber with hnumber | rfl
      · exact hordered.sent_lt number hnumber
      · exact hordered.number_lt hentry
    · have hmark : (state.stream.broadcast entry).mark = state.stream.mark := by
        rw [Stream.broadcast]
        split <;> rfl
      rw [hmark]
      exact hordered.mark_le
    · exact hordered.tidy.broadcast entry
  · exact hordered

/-- A step of the stream or of the client broadcasts nothing. -/
theorem withStream (hordered : Ordered state) {stream : Stream}
    (hsource : stream.SameSource state.stream) (htidy : stream.Tidy) :
    Ordered { state with stream := stream } where
  buffer := hordered.buffer
  pending := hordered.pending
  distinct := hordered.distinct
  unsent := by
    simp only [hsource.1]
    exact hordered.unsent
  sent_lt := by
    simp only [hsource.1]
    exact hordered.sent_lt
  mark_le := by
    simp only [hsource.2]
    exact hordered.mark_le
  tidy := htidy

theorem snapshot (hordered : Ordered state) (tailLines : ℕ) (follow : Bool) :
    Ordered (state.step (.snapshot tailLines follow)) := by
  rw [State.step, Stream.snapshot]
  split
  · rename_i hidle
    refine ⟨hordered.buffer, hordered.pending, hordered.distinct,
      hordered.unsent, hordered.sent_lt, le_rfl, ?_⟩
    have htidy := hordered.tidy.snapshot follow state.entered.length
      (state.numberedTail tailLines)
    simpa only [Stream.snapshot, hidle] using htidy
  · exact hordered

theorem step (hordered : Ordered state) (action : Action) :
    Ordered (state.step action) := by
  cases action with
  | enter writer entry => exact hordered.enter writer entry
  | broadcast writer => exact hordered.broadcast writer
  | snapshot tailLines follow => exact hordered.snapshot tailLines follow
  | proceed =>
      exact hordered.withStream Stream.proceed_source hordered.tidy.proceed
  | lag => exact hordered.withStream ⟨rfl, rfl⟩ hordered.tidy.lag
  | next => exact hordered.withStream Stream.next_source hordered.tidy.next
  | forward =>
      exact hordered.withStream Stream.forward_source hordered.tidy.forward
  | receive =>
      exact hordered.withStream Stream.receive_source hordered.tidy.receive

end Ordered

theorem after_ordered (actions : List Action) : Ordered (.after actions) :=
  run_always Ordered actions ordered_new fun _ action hordered =>
    hordered.step action

/-- What was broadcast to the stream goes on where the snapshot ended. -/
def Follows (state : State) : Prop :=
  state.stream.broadcasts <+: (numbered state.entered).drop state.stream.mark

theorem follows_new : Follows .new := List.prefix_rfl

/-- A list goes on as a prefix of another exactly with the next item of the
other. -/
theorem concat_prefix_iff {Item : Type*} {items all : List Item}
    (hitems : items <+: all) (item : Item) :
    items ++ [item] <+: all ↔ all[items.length]? = some item := by
  obtain ⟨rest, rfl⟩ := hitems
  rw [List.prefix_append_right_inj, List.getElem?_append_right le_rfl,
    Nat.sub_self]
  cases rest with
  | nil => simp
  | cons head rest => simp [eq_comm]

theorem Follows.numbers {state : State} (hfollows : Follows state) :
    state.stream.broadcasts.map Prod.snd =
      List.range' state.stream.mark state.stream.broadcasts.length := by
  have hall : ((numbered state.entered).drop state.stream.mark).map Prod.snd =
      List.range' state.stream.mark
        (state.entered.length - state.stream.mark) := by
    rw [List.map_drop, numbered, List.zipIdx_map_snd, List.drop_range']
    simp
  have hprefix := hfollows.map Prod.snd
  have hlength := hfollows.length_le
  rw [List.length_drop, length_numbered] at hlength
  rw [hall, List.prefix_iff_eq_take, List.length_map,
    List.take_range'_of_length_ge hlength] at hprefix
  exact hprefix

/-- The entry whose turn it is has the next number. -/
theorem Ordered.broadcast_follows_iff {state : State}
    (hordered : Ordered state) (hfollows : Follows state) {writer : ℕ}
    {entry : Numbered} (hentry : state.writers writer = some entry) :
    state.stream.broadcasts ++ [entry] <+:
        (numbered state.entered).drop state.stream.mark ↔
      state.stream.mark ≤ entry.2 ∧
        ∀ number, state.stream.mark ≤ number → number < entry.2 →
          number ∈ state.stream.broadcasts.map Prod.snd := by
  have hpending := hordered.pending writer entry hentry
  have hunsent := hordered.unsent writer entry hentry
  rw [concat_prefix_iff hfollows, List.getElem?_drop]
  rw [hfollows.numbers] at hunsent ⊢
  simp only [List.mem_range'_1] at hunsent ⊢
  constructor
  · intro hnext
    have hnumber := number_of_getElem? hnext
    exact ⟨by omega, fun number hmark hlt => by omega⟩
  · rintro ⟨hmark, hall⟩
    have hle : entry.2 ≤
        state.stream.mark + state.stream.broadcasts.length := by
      by_contra hgap
      have hmissing := hall
        (state.stream.mark + state.stream.broadcasts.length) (by omega)
        (by omega)
      omega
    have hnumber : state.stream.mark + state.stream.broadcasts.length =
        entry.2 := by
      omega
    rw [hnumber]
    exact hpending

theorem Follows.enter {state : State} (hfollows : Follows state)
    (hordered : Ordered state) (writer : ℕ) (entry : LogEntry) :
    Follows (state.enter writer entry) := by
  rw [State.enter]
  split
  · have hmark : state.stream.mark ≤ (numbered state.entered).length := by
      rw [length_numbered]
      exact hordered.mark_le
    rw [Follows, numbered_append, List.drop_append_of_le_length hmark]
    exact hfollows.trans (List.prefix_append _ _)
  · exact hfollows

theorem Follows.withStream {state : State} (hfollows : Follows state)
    {stream : Stream} (hsource : stream.SameSource state.stream) :
    Follows { state with stream := stream } := by
  rw [Follows]
  simp only [hsource.1, hsource.2]
  exact hfollows

theorem Follows.snapshot {state : State} (hfollows : Follows state)
    (hordered : Ordered state) (tailLines : ℕ) (follow : Bool) :
    Follows (state.step (.snapshot tailLines follow)) := by
  rw [State.step, Stream.snapshot]
  split
  · rename_i hidle
    have hnone := (hordered.tidy.unsubscribed (by simp [hidle])).2.2
    rw [Follows]
    simp only [hnone]
    exact List.nil_prefix
  · exact hfollows

theorem step_follows_iff {state : State} (hordered : Ordered state)
    (hfollows : Follows state) (action : Action) :
    Follows (state.step action) ↔ InTurn state action := by
  cases action with
  | enter writer entry => simp [State.step, InTurn, hfollows.enter hordered]
  | broadcast writer =>
      rw [State.step, State.broadcast, InTurn]
      cases hentry : state.writers writer with
      | none => simp [hfollows]
      | some entry =>
          cases hreceiver : state.stream.receiver with
          | none =>
              simp only [Follows, Stream.broadcast_of_none hreceiver]
              exact iff_of_true hfollows fun _ _ hnot => absurd rfl hnot
          | some unread =>
              simpa [Follows, Stream.broadcast, hreceiver] using
                hordered.broadcast_follows_iff hfollows hentry
  | snapshot tailLines follow =>
      exact iff_of_true (hfollows.snapshot hordered tailLines follow) trivial
  | proceed =>
      exact iff_of_true (hfollows.withStream Stream.proceed_source) trivial
  | lag => exact iff_of_true (hfollows.withStream ⟨rfl, rfl⟩) trivial
  | next => exact iff_of_true (hfollows.withStream Stream.next_source) trivial
  | forward =>
      exact iff_of_true (hfollows.withStream Stream.forward_source) trivial
  | receive =>
      exact iff_of_true (hfollows.withStream Stream.receive_source) trivial

/-! ## What the client is given -/

theorem Ordered.numberedTail_suffix {state : State}
    (hordered : Ordered state) (tailLines : ℕ) :
    state.numberedTail tailLines <:+ numbered state.entered := by
  have htail : state.tail tailLines <:+ state.entered := by
    refine (state.buffer.getTail_suffix _).trans ?_
    rw [hordered.buffer]
    exact written_history_suffix state.entered
  obtain ⟨before, hbefore⟩ := htail
  have hlength : state.entered.length - (state.tail tailLines).length =
      before.length := by
    rw [← hbefore, List.length_append, Nat.add_sub_cancel]
  rw [State.numberedTail, hlength, ← hbefore, numbered_append]
  exact List.suffix_append _ _

/-- The tail of the history at the snapshot, and then what was broadcast. -/
def Delivers (state : State) : Prop :=
  ∃ history,
    history <:+ (numbered state.entered).take state.stream.mark ∧
      state.stream.given =
        history.map historical ++ state.stream.broadcasts.map live

theorem delivers_new : Delivers .new := ⟨[], List.nil_suffix, rfl⟩

theorem Delivers.enter {state : State} (hdelivers : Delivers state)
    (hordered : Ordered state) (writer : ℕ) (entry : LogEntry) :
    Delivers (state.enter writer entry) := by
  rw [State.enter]
  split
  · obtain ⟨history, hhistory, hgiven⟩ := hdelivers
    refine ⟨history, ?_, hgiven⟩
    have hmark : state.stream.mark ≤ (numbered state.entered).length := by
      rw [length_numbered]
      exact hordered.mark_le
    rwa [numbered_append, List.take_append_of_le_length hmark]
  · exact hdelivers

theorem Delivers.broadcast {state : State} (hdelivers : Delivers state)
    (writer : ℕ) : Delivers (state.broadcast writer) := by
  rw [State.broadcast]
  split
  · rename_i entry hentry
    obtain ⟨history, hhistory, hgiven⟩ := hdelivers
    cases hreceiver : state.stream.receiver with
    | none =>
        rw [Stream.broadcast_of_none hreceiver]
        exact ⟨history, hhistory, hgiven⟩
    | some unread =>
        have hmark : (state.stream.broadcast entry).mark =
            state.stream.mark := by
          rw [Stream.broadcast, hreceiver]
        have hbroadcasts : (state.stream.broadcast entry).broadcasts =
            state.stream.broadcasts ++ [entry] := by
          rw [Stream.broadcast, hreceiver]
        refine ⟨history, hmark.symm ▸ hhistory, ?_⟩
        rw [Stream.given_broadcast, if_neg (by simp [hreceiver]), hgiven,
          hbroadcasts, List.map_append, List.append_assoc]
        rfl
  · exact hdelivers

theorem Delivers.snapshot {state : State} (hdelivers : Delivers state)
    (hordered : Ordered state) (tailLines : ℕ) (follow : Bool) :
    Delivers (state.step (.snapshot tailLines follow)) := by
  rw [State.step, Stream.snapshot]
  split
  · rename_i hidle
    obtain ⟨hreceiver, hcurrent, hbroadcasts⟩ :=
      hordered.tidy.unsubscribed (by simp [hidle])
    obtain ⟨hreceived, hchannel⟩ := hordered.tidy.untouched hidle
    refine ⟨state.numberedTail tailLines, ?_, ?_⟩
    · rw [← length_numbered, List.take_length]
      exact hordered.numberedTail_suffix tailLines
    · simp [Stream.given, Stream.tail, hreceiver, hcurrent, hbroadcasts,
        hreceived, hchannel]
  · exact hdelivers

theorem Delivers.withStream {state : State} (hdelivers : Delivers state)
    {stream : Stream} (hsource : stream.SameSource state.stream)
    (hgiven : stream.given = state.stream.given) :
    Delivers { state with stream := stream } := by
  obtain ⟨history, hhistory, hsame⟩ := hdelivers
  refine ⟨history, ?_, ?_⟩
  · simp only [hsource.2]
    exact hhistory
  · simp only [hgiven, hsource.1]
    exact hsame

/-- Only a lag loses what was broadcast. -/
theorem Delivers.step {state : State} (hdelivers : Delivers state)
    (hordered : Ordered state) {action : Action} (hlag : action ≠ .lag) :
    Delivers (state.step action) := by
  cases action with
  | enter writer entry => exact hdelivers.enter hordered writer entry
  | broadcast writer => exact hdelivers.broadcast writer
  | snapshot tailLines follow =>
      exact hdelivers.snapshot hordered tailLines follow
  | proceed =>
      exact hdelivers.withStream Stream.proceed_source
        (Stream.given_proceed hordered.tidy)
  | lag => exact absurd rfl hlag
  | next =>
      exact hdelivers.withStream Stream.next_source Stream.given_next
  | forward =>
      exact hdelivers.withStream Stream.forward_source
        (Stream.given_forward hordered.tidy)
  | receive =>
      exact hdelivers.withStream Stream.receive_source Stream.given_receive

theorem after_delivers {actions : List Action} (hlag : .lag ∉ actions) :
    Delivers (.after actions) := by
  have halong : Along State.step (fun _ action => action ≠ .lag) .new
      actions :=
    along_of_forall fun _ action haction heq => hlag (heq ▸ haction)
  exact (run_invariant (fun state => Ordered state ∧ Delivers state)
    ⟨ordered_new, delivers_new⟩ halong fun state action hstate hne =>
      ⟨hstate.1.step action, hstate.2.step hstate.1 hne⟩).2

/-- The history up to the snapshot, from some line on, and then what entered after
it, up to some line. -/
def Contiguous (state : State) : Prop :=
  ∃ history followed,
    state.stream.given = history.map historical ++ followed.map live ∧
      history <:+ (numbered state.entered).take state.stream.mark ∧
      followed <+: (numbered state.entered).drop state.stream.mark

theorem historical_live_inj {history other followed last : List Numbered}
    (heq : history.map historical ++ followed.map live =
      other.map historical ++ last.map live) :
    history = other ∧ followed = last := by
  have hfirst : ∀ left right : List Numbered,
      (left.map historical ++ right.map live).filter Response.isHistorical =
        left.map historical := by
    intro left right
    have hkept : ∀ response ∈ left.map historical,
        response.isHistorical = true :=
      List.forall_mem_map.mpr fun _ _ => rfl
    have hdropped : ∀ response ∈ right.map live,
        ¬response.isHistorical = true :=
      List.forall_mem_map.mpr fun _ _ => Bool.false_ne_true
    rw [List.filter_append, List.filter_eq_self.mpr hkept,
      List.filter_eq_nil_iff.mpr hdropped, List.append_nil]
  have hhistorical : history.map historical = other.map historical := by
    rw [← hfirst history followed, heq, hfirst]
  rw [hhistorical] at heq
  have hlive := List.append_cancel_left heq
  have hentry : ∀ entries : List Numbered,
      (entries.map historical).map Response.entry = entries ∧
        (entries.map live).map Response.entry = entries := by
    intro entries
    simp [historical, live, Function.comp_def]
  constructor
  · rw [← (hentry history).1, hhistorical, (hentry other).1]
  · rw [← (hentry followed).2, hlive, (hentry last).2]

theorem contiguous_iff_follows {state : State} (hdelivers : Delivers state) :
    Contiguous state ↔ Follows state := by
  obtain ⟨history, hhistory, hgiven⟩ := hdelivers
  constructor
  · rintro ⟨other, followed, hsame, -, hfollowed⟩
    obtain ⟨-, rfl⟩ := historical_live_inj (hgiven.symm.trans hsame)
    exact hfollowed
  · intro hfollows
    exact ⟨history, _, hgiven, hhistory, hfollows⟩

/-- The entries of a contiguous stream are a segment of the write order. -/
theorem Contiguous.segment {state : State} (hcontiguous : Contiguous state) :
    state.stream.given.map Response.entry <:+: numbered state.entered := by
  obtain ⟨history, followed, hgiven, ⟨before, hbefore⟩, ⟨after, hafter⟩⟩ :=
    hcontiguous
  refine ⟨before, after, ?_⟩
  rw [← List.take_append_drop state.stream.mark (numbered state.entered),
    ← hbefore, ← hafter, hgiven]
  simp [historical, live, Function.comp_def, List.append_assoc]

theorem stream_contiguous_iff (actions : List Action)
    (hlag : .lag ∉ actions) :
    Along State.step InTurn .new actions ↔
      ∀ before, before <+: actions → Contiguous (.after before) := by
  rw [along_iff_initial_runs Ordered Follows ordered_new follows_new
    (fun _ action hordered => hordered.step action)
    fun _ action hordered hfollows => step_follows_iff hordered hfollows action]
  refine forall_congr' fun before => imp_congr_right fun hbefore => ?_
  have hnolag : .lag ∉ before := fun hmem => hlag (hbefore.subset hmem)
  exact (contiguous_iff_follows (after_delivers hnolag)).symm

def sampleEntry (line : String) : LogEntry where
  line := line
  timestamp := 0

/-- A line before the snapshot, one after the subscription. -/
def undisturbed : List Action :=
  [.enter 0 (sampleEntry "a"), .broadcast 0, .snapshot 0 true, .proceed,
    .proceed, .enter 0 (sampleEntry "b"), .broadcast 0, .next, .forward,
    .receive, .receive]

theorem stream_contiguous_undisturbed :
    (State.after undisturbed).stream.received =
        [historical (sampleEntry "a", 0), live (sampleEntry "b", 1)] ∧
      (Along State.step InTurn .new undisturbed ↔
        ∀ before, before <+: undisturbed → Contiguous (.after before)) :=
  ⟨by decide, stream_contiguous_iff undisturbed (by simp [undisturbed])⟩

/-- A line between the snapshot and the subscription. -/
def disturbed : List Action :=
  [.enter 0 (sampleEntry "a"), .broadcast 0, .snapshot 0 true,
    .enter 0 (sampleEntry "b"), .broadcast 0, .proceed, .proceed,
    .enter 0 (sampleEntry "c"), .broadcast 0, .next, .forward, .receive,
    .receive]

/-- The snapshot holds a line that is broadcast after the subscription. -/
def repeated : List Action :=
  [.enter 0 (sampleEntry "a"), .snapshot 0 true, .proceed, .proceed,
    .broadcast 0, .next, .forward, .receive, .receive]

/-- A writer overtakes another one. -/
def overtaken : List Action :=
  [.snapshot 0 true, .proceed, .enter 0 (sampleEntry "a"),
    .enter 1 (sampleEntry "b"), .broadcast 1, .broadcast 0, .next, .forward,
    .next, .forward, .receive, .receive]

theorem stream_not_contiguous :
    ((State.after disturbed).stream.received =
        [historical (sampleEntry "a", 0), live (sampleEntry "c", 2)] ∧
      ¬Contiguous (.after disturbed)) ∧
    ((State.after repeated).stream.received =
        [historical (sampleEntry "a", 0), live (sampleEntry "a", 0)] ∧
      ¬Contiguous (.after repeated)) ∧
    (State.after overtaken).stream.received =
        [live (sampleEntry "b", 1), live (sampleEntry "a", 0)] ∧
      ¬Contiguous (.after overtaken) := by
  refine ⟨⟨by decide, ?_⟩, ⟨by decide, ?_⟩, by decide, ?_⟩ <;>
    exact fun hcontiguous => absurd hcontiguous.segment (by decide)

/-! ## The start of a stream -/

/-- The call returns, whatever else happens. -/
def StartsAlone (state : State) : Prop :=
  ∃ count,
    (run State.step state (List.replicate count .proceed)).stream.phase =
      .returned

/-- The call returns in some run. -/
def Starts (state : State) : Prop :=
  ∃ later, (run State.step state later).stream.phase = .returned

/-- The tail that is asked for, or the whole history, fits into the channel. -/
def FitsChannel (state : State) (tailLines : ℕ) : Prop :=
  (0 < tailLines ∧ tailLines ≤ channelCapacity) ∨
    state.buffer.history.length ≤ channelCapacity

theorem numberedTail_fits_iff (state : State) (tailLines : ℕ) :
    (state.numberedTail tailLines).length ≤ channelCapacity ↔
      FitsChannel state tailLines := by
  rw [State.numberedTail, List.length_zipIdx, State.tail,
    LogBuffer.length_getTail, FitsChannel]
  by_cases htail : 0 < tailLines
  · rw [if_pos htail, Option.getD_some, min_le_iff]
    simp [htail]
  · rw [if_neg htail, Option.getD_none, min_self]
    simp [htail]

/-- A tail that fits is sent without any other step. -/
theorem startsAlone_of_fits {state : State} {follow : Bool}
    {tail : List Numbered}
    (hphase : state.stream.phase = .sending follow tail)
    (hfits : state.stream.channel.length + tail.length ≤ channelCapacity) :
    StartsAlone state := by
  induction tail generalizing state with
  | nil => exact ⟨1, by simp [State.step, Stream.proceed, hphase]⟩
  | cons entry tail ih =>
      rw [List.length_cons] at hfits
      have hroom : state.stream.channel.length < channelCapacity := by omega
      have hsent : (state.step .proceed).stream = { state.stream with
          phase := .sending follow tail
          channel := state.stream.channel ++ [historical entry] } := by
        simp only [State.step, Stream.proceed, hphase, if_pos hroom]
      have hrest : (state.step .proceed).stream.channel.length + tail.length ≤
          channelCapacity := by
        rw [hsent, List.length_append, List.length_singleton]
        omega
      obtain ⟨count, hcount⟩ := ih (by rw [hsent]) hrest
      exact ⟨count + 1, hcount⟩

/-- The call waits for room in a channel that nobody can read from. -/
structure Stuck (stream : Stream) : Prop where
  sending : ∃ follow tail, stream.phase = .sending follow tail ∧
    channelCapacity < stream.channel.length + tail.length
  filled : stream.channel.length ≤ channelCapacity
  unread : stream.receiver = none ∧ stream.current = none

theorem Stuck.not_returned {stream : Stream} (hstuck : Stuck stream) :
    stream.phase ≠ .returned := by
  obtain ⟨follow, tail, hphase, -⟩ := hstuck.sending
  rw [hphase]
  simp

theorem Stuck.proceed {stream : Stream} (hstuck : Stuck stream) :
    Stuck stream.proceed := by
  obtain ⟨⟨follow, tail, hphase, htail⟩, hfilled, hunread⟩ := hstuck
  cases tail with
  | nil =>
      rw [List.length_nil] at htail
      omega
  | cons entry tail =>
      simp only [Stream.proceed, hphase]
      rw [List.length_cons] at htail
      split_ifs with hroom
      · refine ⟨⟨follow, tail, rfl, ?_⟩, ?_, hunread⟩ <;>
          simp only [List.length_append, List.length_singleton] <;> omega
      · refine ⟨⟨follow, entry :: tail, hphase, ?_⟩, hfilled, hunread⟩
        rw [List.length_cons]
        omega

theorem Stuck.step {state : State} (hstuck : Stuck state.stream)
    (action : Action) : Stuck (state.step action).stream := by
  obtain ⟨hreceiver, hcurrent⟩ := hstuck.unread
  obtain ⟨follow, tail, hphase, htail⟩ := hstuck.sending
  cases action with
  | enter writer entry =>
      rw [State.step, State.enter]
      split <;> exact hstuck
  | broadcast writer =>
      rw [State.step, State.broadcast]
      split
      · simp only [Stream.broadcast_of_none hreceiver]
        exact hstuck
      · exact hstuck
  | snapshot tailLines follow =>
      rw [State.step]
      simp only [Stream.snapshot, hphase]
      exact hstuck
  | proceed => exact hstuck.proceed
  | lag =>
      refine ⟨⟨follow, tail, hphase, htail⟩, hstuck.filled, ?_, hcurrent⟩
      simp [State.step, Stream.lag, hreceiver]
  | next =>
      rw [State.step]
      simp only [Stream.next, hreceiver]
      exact hstuck
  | forward =>
      rw [State.step]
      simp only [Stream.forward, hcurrent]
      exact hstuck
  | receive =>
      rw [State.step]
      simp only [Stream.receive, hphase]
      exact hstuck

theorem Stuck.not_starts {state : State} (hstuck : Stuck state.stream) :
    ¬Starts state := by
  rintro ⟨later, hreturned⟩
  have hlater : Stuck (run State.step state later).stream :=
    run_always (fun state : State => Stuck state.stream) later hstuck
      fun _ action hstuck => hstuck.step action
  exact hlater.not_returned hreturned

/-- A call that begins in a state has the tail before it and nothing in the
channel. -/
theorem snapshot_starts_iff {state : State} (hordered : Ordered state)
    (hidle : state.stream.phase = .idle) (tailLines : ℕ) (follow : Bool) :
    (StartsAlone (state.step (.snapshot tailLines follow)) ↔
      FitsChannel state tailLines) ∧
    (Starts (state.step (.snapshot tailLines follow)) ↔
      FitsChannel state tailLines) := by
  obtain ⟨hreceiver, hcurrent, -⟩ :=
    hordered.tidy.unsubscribed (by simp [hidle])
  obtain ⟨-, hchannel⟩ := hordered.tidy.untouched hidle
  have hstream : (state.step (.snapshot tailLines follow)).stream =
      { state.stream with
        phase := .sending follow (state.numberedTail tailLines)
        mark := state.entered.length } := by
    simp only [State.step, Stream.snapshot, hidle]
  have halone : FitsChannel state tailLines →
      StartsAlone (state.step (.snapshot tailLines follow)) := by
    intro hfits
    refine startsAlone_of_fits (congrArg Stream.phase hstream) ?_
    rw [hstream, hchannel, List.length_nil, Nat.zero_add]
    exact (numberedTail_fits_iff state tailLines).mpr hfits
  have hstarts : StartsAlone (state.step (.snapshot tailLines follow)) →
      Starts (state.step (.snapshot tailLines follow)) :=
    fun ⟨count, hcount⟩ => ⟨_, hcount⟩
  have hfits : Starts (state.step (.snapshot tailLines follow)) →
      FitsChannel state tailLines := by
    intro hreturns
    by_contra hlong
    rw [← numberedTail_fits_iff, not_le] at hlong
    refine Stuck.not_starts ⟨⟨follow, _, congrArg Stream.phase hstream, ?_⟩,
      ?_, ?_⟩ hreturns
    · rw [hstream, hchannel, List.length_nil, Nat.zero_add]
      exact hlong
    · rw [hstream, hchannel]
      exact Nat.zero_le _
    · rw [hstream]
      exact ⟨hreceiver, hcurrent⟩
  exact ⟨⟨fun hreturns => hfits (hstarts hreturns), halone⟩,
    hfits, fun hsmall => hstarts (halone hsmall)⟩

/-- For every buffer that writers can reach, every tail and both values of
`follow`: the call returns on its own exactly if what it sends fits into the
channel, and else it never returns. -/
theorem stream_starts_iff (actions : List Action)
    (hidle : (State.after actions).stream.phase = .idle) (tailLines : ℕ)
    (follow : Bool) :
    (StartsAlone (.after (actions ++ [.snapshot tailLines follow])) ↔
      FitsChannel (.after actions) tailLines) ∧
    (Starts (.after (actions ++ [.snapshot tailLines follow])) ↔
      FitsChannel (.after actions) tailLines) := by
  rw [State.after, run_concat]
  exact snapshot_starts_iff (after_ordered actions) hidle tailLines follow

/-- One writer writes the lines. -/
def writeAll (entries : List LogEntry) : List Action :=
  entries.flatMap fun entry => [.enter 0 entry, .broadcast 0]

theorem run_writeAll {state : State} (hwriter : state.writers 0 = none)
    (hreceiver : state.stream.receiver = none) (entries : List LogEntry) :
    (run State.step state (writeAll entries)).entered =
        state.entered ++ entries ∧
      (run State.step state (writeAll entries)).stream = state.stream := by
  induction entries generalizing state with
  | nil => exact ⟨(List.append_nil _).symm, rfl⟩
  | cons entry entries ih =>
      let after := (state.step (.enter 0 entry)).step (.broadcast 0)
      have hentered : after.entered = state.entered ++ [entry] := by
        simp [after, State.step, State.enter, State.broadcast, hwriter]
      have hstream : after.stream = state.stream := by
        simp [after, State.step, State.enter, State.broadcast, hwriter,
          Stream.broadcast, hreceiver]
      have hfree : after.writers 0 = none := by
        simp [after, State.step, State.enter, State.broadcast, hwriter]
      obtain ⟨hall, hsame⟩ := ih hfree (by rw [hstream, hreceiver])
      refine ⟨?_, hsame.trans hstream⟩
      rw [List.append_cons, ← hentered]
      exact hall

theorem stream_starts_one_line :
    (StartsAlone (.after (writeAll [sampleEntry "a"] ++ [.snapshot 0 true])) ↔
      FitsChannel (.after (writeAll [sampleEntry "a"])) 0) ∧
    (Starts (.after (writeAll [sampleEntry "a"] ++ [.snapshot 0 true])) ↔
      FitsChannel (.after (writeAll [sampleEntry "a"])) 0) :=
  stream_starts_iff (writeAll [sampleEntry "a"]) (by decide) 0 true

/-- 1001 lines of nine bytes, as a runtime writes them. -/
def manyLines : List LogEntry :=
  List.replicate 1001 (sampleEntry "stdout: a")

/-- Lines that fit into the buffer are all in its history. -/
theorem history_after_writeAll {entries : List LogEntry} {entry : LogEntry}
    (hroom : HasRoom entries) :
    (State.after (writeAll (entries ++ [entry]))).buffer.history =
      entries ++ [entry] := by
  have hentered :
      (State.after (writeAll (entries ++ [entry]))).entered =
        entries ++ [entry] :=
    (run_writeAll (by rfl) (by rfl) (entries ++ [entry])).1
  rw [(after_ordered _).buffer, hentered, written_history_of_hasRoom hroom]

theorem idle_after_writeAll (entries : List LogEntry) :
    (State.after (writeAll entries)).stream.phase = .idle := by
  have hstream : (State.after (writeAll entries)).stream = .new :=
    (run_writeAll (by rfl) (by rfl) entries).2
  rw [hstream, Stream.new]

theorem stream_not_starts :
    (State.after (writeAll manyLines)).buffer.history.length = 1001 ∧
      ¬Starts (.after (writeAll manyLines ++ [.snapshot 0 false])) := by
  have hroom : HasRoom (List.replicate 1000 (sampleEntry "stdout: a")) := by
    refine ⟨?_, ?_⟩
    · rw [List.length_replicate]
      decide
    · rw [totalBytes_replicate]
      decide
  have hlines : (State.after (writeAll manyLines)).buffer.history.length =
      1001 := by
    rw [manyLines, List.replicate_succ', history_after_writeAll hroom,
      List.length_append, List.length_replicate, List.length_singleton]
  refine ⟨hlines, ?_⟩
  rw [State.after, run_concat, ← State.after,
    (snapshot_starts_iff (after_ordered _) (idle_after_writeAll manyLines) 0
      false).2, FitsChannel, hlines, channelCapacity]
  omega

end NxccBridge.LogStream
