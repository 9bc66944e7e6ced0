import Mathlib.Data.List.Induction
import NxccBridge.Core.Lines

/-!
# Lines from chunks

A reader that is handed a text chunk by chunk and keeps what stands behind the
last terminator until the next chunk.  However the text was cut, it finds the
same lines.
-/

namespace NxccBridge.Chunks

open NxccBridge.Lines

variable {Symbol : Type*} [DecidableEq Symbol]

/-- What stands behind the last terminator, and the lines in front. -/
structure Reader (Symbol : Type*) where
  buffer : List Symbol
  lines : List (List Symbol)

def Reader.feed (terminator : Symbol) (self : Reader Symbol)
    (chunk : List Symbol) : Reader Symbol :=
  let pieces := (self.buffer ++ chunk).splitOn terminator
  { buffer := pieces.getLast?.getD []
    lines := self.lines ++ pieces.dropLast }

def readAll (terminator : Symbol) (chunks : List (List Symbol)) :
    Reader Symbol :=
  chunks.foldl (Reader.feed terminator) ⟨[], []⟩

/-- The reader has been handed this text. -/
structure Reader.Saw (terminator : Symbol) (reader : Reader Symbol)
    (text : List Symbol) : Prop where
  text_eq : text = terminated terminator reader.lines ++ reader.buffer
  lines : ∀ line ∈ reader.lines, terminator ∉ line
  buffer : terminator ∉ reader.buffer

variable {terminator : Symbol}

omit [DecidableEq Symbol] in
theorem terminated_append (left right : List (List Symbol)) :
    terminated terminator (left ++ right) =
      terminated terminator left ++ terminated terminator right := by
  rw [terminated, List.flatMap_append]
  rfl

omit [DecidableEq Symbol] in
/-- Pieces that are put together again end with the last one. -/
theorem intercalate_eq_terminated {pieces : List (List Symbol)}
    (hpieces : pieces ≠ []) :
    [terminator].intercalate pieces =
      terminated terminator pieces.dropLast ++ pieces.getLast?.getD [] := by
  induction pieces with
  | nil => exact absurd rfl hpieces
  | cons first rest ih =>
      cases rest with
      | nil => simp [terminated, List.intercalate]
      | cons second rest =>
          have hrest := ih (List.cons_ne_nil second rest)
          rw [List.dropLast_cons_of_ne_nil (List.cons_ne_nil second rest),
            terminated_cons, List.getLast?_cons_cons, List.append_assoc,
            List.cons_append, ← hrest]
          simp [List.intercalate]

theorem text_eq_terminated (text : List Symbol) :
    text = terminated terminator (text.splitOn terminator).dropLast ++
      (text.splitOn terminator).getLast?.getD [] := by
  rw [← intercalate_eq_terminated (List.splitOn_ne_nil _ _),
    List.intercalate_splitOn]

theorem Reader.Saw.feed {self : Reader Symbol} {text : List Symbol}
    (hsaw : self.Saw terminator text) (chunk : List Symbol) :
    (self.feed terminator chunk).Saw terminator (text ++ chunk) where
  text_eq := by
    calc text ++ chunk
      _ = terminated terminator self.lines ++ (self.buffer ++ chunk) := by
          rw [← List.append_assoc, ← hsaw.text_eq]
      _ = _ := by
          rw [Reader.feed, terminated_append, List.append_assoc,
            ← text_eq_terminated]
  lines := by
    intro line hline
    apply (List.mem_append.mp hline).elim (hsaw.lines line)
    intro hpiece
    exact not_mem_of_mem_splitOn (List.dropLast_subset _ hpiece)
  buffer := by
    rw [Reader.feed]
    cases hlast : ((self.buffer ++ chunk).splitOn terminator).getLast? with
    | none => exact List.not_mem_nil
    | some piece =>
        exact not_mem_of_mem_splitOn (List.mem_of_getLast? hlast)

theorem readAll_concat (before : List (List Symbol)) (chunk : List Symbol) :
    readAll terminator (before ++ [chunk]) =
      (readAll terminator before).feed terminator chunk := by
  rw [readAll, List.foldl_append]
  rfl

/-- By induction on the chunks: each continues the text. -/
theorem readAll_saw (chunks : List (List Symbol)) :
    (readAll terminator chunks).Saw terminator chunks.flatten := by
  induction chunks using List.reverseRecOn with
  | nil =>
      exact ⟨rfl, List.forall_mem_nil _, List.not_mem_nil⟩
  | append_singleton before chunk ih =>
      rw [readAll_concat, List.flatten_concat]
      exact ih.feed chunk

theorem splitOn_of_not_mem {text : List Symbol} (htext : terminator ∉ text) :
    text.splitOn terminator = [text] := by
  apply List.splitOnP_eq_singleton
  intro symbol hmem
  exact beq_eq_false_iff_ne.mpr fun heq => htext (heq ▸ hmem)

/-- A text has been seen in one way only. -/
theorem splitOn_terminated_append {lines : List (List Symbol)}
    (hlines : ∀ line ∈ lines, terminator ∉ line) {buffer : List Symbol}
    (hbuffer : terminator ∉ buffer) :
    (terminated terminator lines ++ buffer).splitOn terminator =
      lines ++ [buffer] := by
  induction lines with
  | nil => exact splitOn_of_not_mem hbuffer
  | cons line rest ih =>
      rw [List.forall_mem_cons] at hlines
      rw [terminated_cons, List.append_assoc, List.cons_append,
        List.splitOn_append_cons_self_of_not_mem hlines.1, ih hlines.2,
        List.cons_append]

/-- The lines do not depend on the chunks. -/
theorem readAll_lines (chunks : List (List Symbol)) :
    (readAll terminator chunks).lines =
      (chunks.flatten.splitOn terminator).dropLast := by
  have hsaw : (readAll terminator chunks).Saw terminator chunks.flatten :=
    readAll_saw chunks
  rw [hsaw.text_eq, splitOn_terminated_append hsaw.lines hsaw.buffer,
    List.dropLast_concat]

theorem readAll_terminated {chunks lines : List (List Symbol)}
    (hlines : ∀ line ∈ lines, terminator ∉ line)
    (hchunks : chunks.flatten = terminated terminator lines) :
    (readAll terminator chunks).lines = lines := by
  rw [readAll_lines, hchunks, splitOn_terminated hlines, List.dropLast_concat]

/-- The lines of a text that breaks off are the first ones. -/
theorem readAll_truncated {chunks lines : List (List Symbol)}
    (hlines : ∀ line ∈ lines, terminator ∉ line)
    (hchunks : chunks.flatten <+: terminated terminator lines) :
    (readAll terminator chunks).lines <+: lines := by
  obtain ⟨rest, hrest⟩ := hchunks
  have hall : (readAll terminator (chunks ++ [rest])).lines = lines := by
    apply readAll_terminated hlines
    rw [List.flatten_concat, hrest]
  rw [← hall, readAll_concat]
  exact List.prefix_append _ _

end NxccBridge.Chunks
