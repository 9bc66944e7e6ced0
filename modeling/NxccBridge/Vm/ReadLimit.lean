import NxccBridge.Vm.ExecutionOutcome

/-!
# Reading with a limit

`read_with_limit` of `vm/zenroom/src/vmm/mod.rs` as a whole: an output arrives
in chunks as the reader happens to find them, and what is returned depends on
the output and the limit alone.
-/

namespace NxccBridge.Execution

open NxccBridge.Framing

/-- What a call of `read` finds, as long as it finds something. -/
abbrev Chunk :=
  {bytes : Bytes // 1 ≤ bytes.length ∧ bytes.length ≤ chunkBytes}

def outputOf (chunks : List Chunk) : Bytes := chunks.flatMap Subtype.val

/-- The answers of a reader: chunks, and behind them the end of the output or a
failure. -/
structure Reads where
  chunks : List Chunk
  failure : Option String

/-- The loop of `read_with_limit`. -/
def readLoop (maxBytes : ℕ) (failure : Option String) :
    Bytes → List Chunk → OutputReadResult
  | buf, [] =>
      match failure with
      | none => .ok buf
      | some message => .err message
  | buf, chunk :: rest =>
      if maxBytes < buf.length + chunk.val.length then
        let remaining := maxBytes - buf.length
        .overflow (buf ++ chunk.val.take remaining)
      else readLoop maxBytes failure (buf ++ chunk.val) rest

def readWithLimit (maxBytes : ℕ) (reads : Reads) : OutputReadResult :=
  readLoop maxBytes reads.failure [] reads.chunks

/-- An output that is kept up to a limit. -/
def bounded (maxBytes : ℕ) (output : Bytes) : OutputReadResult :=
  if output.length ≤ maxBytes then .ok output
  else .overflow (output.take maxBytes)

/-- A limit that is passed inside or right behind the next bytes cuts there. -/
theorem bounded_append_of_lt {maxBytes : ℕ} {buf bytes : Bytes}
    (hbuf : buf.length ≤ maxBytes)
    (hover : maxBytes < buf.length + bytes.length) (rest : Bytes) :
    bounded maxBytes (buf ++ (bytes ++ rest)) =
      .overflow (buf ++ bytes.take (maxBytes - buf.length)) := by
  have hlong : ¬ (buf ++ (bytes ++ rest)).length ≤ maxBytes := by
    rw [List.length_append, List.length_append]
    omega
  rw [bounded, if_neg hlong, List.take_append, List.take_of_length_le hbuf,
    List.take_append_of_le_length (by omega)]

/-- The buffer and what is still to come make the output. -/
theorem readLoop_eq {maxBytes : ℕ} {buf : Bytes}
    (hbuf : buf.length ≤ maxBytes) (failure : Option String)
    (chunks : List Chunk) :
    readLoop maxBytes failure buf chunks =
      match failure, bounded maxBytes (buf ++ outputOf chunks) with
      | some message, .ok _ => .err message
      | _, result => result := by
  induction chunks generalizing buf with
  | nil =>
      have hwhole : bounded maxBytes (buf ++ outputOf []) = .ok buf := by
        rw [outputOf, List.flatMap_nil, List.append_nil, bounded, if_pos hbuf]
      rw [hwhole]
      cases failure <;> rfl
  | cons chunk rest ih =>
      rw [readLoop, outputOf, List.flatMap_cons, ← outputOf]
      split_ifs with hover
      · rw [bounded_append_of_lt hbuf hover]
        cases failure <;> rfl
      · rw [ih (by rw [List.length_append]; omega), List.append_assoc]

theorem readWithLimit_eq (maxBytes : ℕ) (reads : Reads) :
    readWithLimit maxBytes reads =
      match reads.failure, bounded maxBytes (outputOf reads.chunks) with
      | some message, .ok _ => .err message
      | _, result => result := by
  rw [readWithLimit, readLoop_eq (Nat.zero_le _), List.nil_append]

/-! ## Between the reads -/

/-- The bytes that the reading task holds. -/
def Reader.kept : Reader → Bytes
  | .reading buf => buf
  | .finished (some result) => result.bytes
  | .finished none => []
  | .joined result => result.bytes

/-- A task at work takes a chunk. -/
def advance (maxBytes : ℕ) : Reader → Chunk → Reader
  | .reading buf, chunk => receive maxBytes buf chunk.val
  | .finished result, _ => .finished result
  | .joined result, _ => .joined result

/-- What a task comes to from where it is. -/
def goOn (maxBytes : ℕ) (failure : Option String) :
    Reader → List Chunk → Option OutputReadResult
  | .reading buf, chunks => some (readLoop maxBytes failure buf chunks)
  | .finished result, _ => result
  | .joined result, _ => some result

section Task

variable {maxBytes : ℕ} {reader : Reader}

theorem goOn_advance (failure : Option String) (reader : Reader)
    (chunk : Chunk) (rest : List Chunk) :
    goOn maxBytes failure (advance maxBytes reader chunk) rest =
      goOn maxBytes failure reader (chunk :: rest) := by
  cases reader with
  | reading buf =>
      rw [advance, receive, goOn, readLoop]
      split_ifs <;> rfl
  | finished result => rfl
  | joined result => rfl

/-- The loop, stopped between two reads, goes on from the state it has
reached. -/
theorem goOn_run (failure : Option String) (reader : Reader)
    (taken rest : List Chunk) :
    goOn maxBytes failure (Runs.run (advance maxBytes) reader taken) rest =
      goOn maxBytes failure reader (taken ++ rest) := by
  induction taken generalizing reader with
  | nil => rfl
  | cons chunk taken ih =>
      rw [Runs.run_cons, ih, goOn_advance, List.cons_append]

theorem kept_receive {buf : Bytes} (hbuf : buf.length ≤ maxBytes)
    (chunk : Bytes) : (receive maxBytes buf chunk).kept.length ≤ maxBytes := by
  rw [receive]
  split_ifs with hover
  · rw [Reader.kept, OutputReadResult.bytes, List.length_append,
      List.length_take]
    omega
  · rw [Reader.kept, List.length_append]
    omega

theorem kept_advance (hkept : reader.kept.length ≤ maxBytes) (chunk : Chunk) :
    (advance maxBytes reader chunk).kept.length ≤ maxBytes := by
  cases reader with
  | reading buf => exact kept_receive hkept chunk.val
  | finished result => exact hkept
  | joined result => exact hkept

theorem kept_run (maxBytes : ℕ) (chunks : List Chunk) :
    (Runs.run (advance maxBytes) (.reading []) chunks).kept.length ≤
      maxBytes :=
  Runs.run_always (fun reader : Reader => reader.kept.length ≤ maxBytes) chunks
    (Nat.zero_le _) fun _ chunk hkept => kept_advance hkept chunk

end Task

/-- Reading with a limit is exact: the whole output if it fits, else its first
bytes up to the limit, in whatever chunks it arrives; and never is more than the
limit kept. -/
theorem readWithLimit_exact (maxBytes : ℕ) (chunks : List Chunk) :
    (readWithLimit maxBytes ⟨chunks, none⟩ =
      if (outputOf chunks).length ≤ maxBytes then .ok (outputOf chunks)
      else .overflow ((outputOf chunks).take maxBytes)) ∧
    (∀ taken rest, chunks = taken ++ rest →
      (Runs.run (advance maxBytes) (.reading []) taken).kept.length ≤
          maxBytes ∧
        goOn maxBytes none (Runs.run (advance maxBytes) (.reading []) taken)
          rest = some (readWithLimit maxBytes ⟨chunks, none⟩)) ∧
    ∀ others, outputOf others = outputOf chunks →
      readWithLimit maxBytes ⟨others, none⟩ =
        readWithLimit maxBytes ⟨chunks, none⟩ := by
  have hresult : ∀ chunks, readWithLimit maxBytes ⟨chunks, none⟩ =
      bounded maxBytes (outputOf chunks) :=
    fun chunks => readWithLimit_eq maxBytes ⟨chunks, none⟩
  refine ⟨hresult chunks, ?_, ?_⟩
  · rintro taken rest rfl
    refine ⟨kept_run maxBytes taken, ?_⟩
    rw [goOn_run]
    rfl
  · intro others hsame
    rw [hresult, hresult, hsame]

end NxccBridge.Execution
