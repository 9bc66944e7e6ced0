import Mathlib.Data.List.Basic

/-!
# Terminated lines

A text that writes a list of lines, each followed by a terminator, and the
lines that a reader finds in it.  The reader finds the lines that were written
exactly when none of them contains the terminator.
-/

namespace NxccBridge.Lines

variable {Symbol : Type*} [DecidableEq Symbol]

/-- The lines, each followed by the terminator. -/
def terminated (terminator : Symbol) (lines : List (List Symbol)) :
    List Symbol :=
  lines.flatMap fun line => line ++ [terminator]

/-- The pieces between the terminators; a last piece counts only if it is not
empty. -/
def linesOf (terminator : Symbol) (text : List Symbol) : List (List Symbol) :=
  if (text.splitOn terminator).getLast? = some [] then
    (text.splitOn terminator).dropLast
  else text.splitOn terminator

omit [DecidableEq Symbol] in
theorem terminated_cons (terminator : Symbol) (line : List Symbol)
    (lines : List (List Symbol)) :
    terminated terminator (line :: lines) =
      line ++ terminator :: terminated terminator lines := by
  simp [terminated]

theorem splitOn_terminated {terminator : Symbol} {lines : List (List Symbol)}
    (hlines : ∀ line ∈ lines, terminator ∉ line) :
    (terminated terminator lines).splitOn terminator = lines ++ [[]] := by
  induction lines with
  | nil => rfl
  | cons line rest ih =>
      rw [List.forall_mem_cons] at hlines
      rw [terminated_cons,
        List.splitOn_append_cons_self_of_not_mem hlines.1, ih hlines.2,
        List.cons_append]

/-- A piece between terminators does not contain one. -/
theorem not_mem_of_mem_splitOn {terminator : Symbol} {text piece : List Symbol}
    (hpiece : piece ∈ text.splitOn terminator) : terminator ∉ piece := by
  induction text generalizing piece with
  | nil =>
      rw [List.splitOn_nil, List.mem_singleton] at hpiece
      simp [hpiece]
  | cons symbol rest ih =>
      rw [List.splitOn_cons_eq_if_modifyHead] at hpiece
      by_cases hsymbol : symbol = terminator
      · rw [if_pos (beq_iff_eq.mpr hsymbol), List.mem_cons] at hpiece
        rcases hpiece with rfl | hpiece
        · exact List.not_mem_nil
        · exact ih hpiece
      · rw [if_neg (by simpa using hsymbol)] at hpiece
        cases hsplit : rest.splitOn terminator with
        | nil => exact absurd hsplit (List.splitOn_ne_nil _ _)
        | cons head tail =>
            rw [hsplit] at hpiece ih
            rw [List.modifyHead_cons, List.mem_cons] at hpiece
            rcases hpiece with rfl | hpiece
            · rw [List.mem_cons, not_or]
              exact ⟨Ne.symm hsymbol, ih List.mem_cons_self⟩
            · exact ih (List.mem_cons_of_mem _ hpiece)

theorem not_mem_of_mem_linesOf {terminator : Symbol} {text line : List Symbol}
    (hline : line ∈ linesOf terminator text) : terminator ∉ line := by
  rw [linesOf] at hline
  split_ifs at hline with hempty
  · exact not_mem_of_mem_splitOn (List.dropLast_subset _ hline)
  · exact not_mem_of_mem_splitOn hline

theorem linesOf_terminated {terminator : Symbol} {lines : List (List Symbol)}
    (hlines : ∀ line ∈ lines, terminator ∉ line) :
    linesOf terminator (terminated terminator lines) = lines := by
  simp [linesOf, splitOn_terminated hlines]

/-- The reader finds the lines exactly when they do not contain the
terminator. -/
theorem linesOf_terminated_iff (terminator : Symbol)
    (lines : List (List Symbol)) :
    linesOf terminator (terminated terminator lines) = lines ↔
      ∀ line ∈ lines, terminator ∉ line := by
  constructor
  · intro heq line hline
    rw [← heq] at hline
    exact not_mem_of_mem_linesOf hline
  · exact linesOf_terminated

/-- The same for a reader that stops after as many lines as were written. -/
theorem take_linesOf_terminated_iff (terminator : Symbol)
    (lines : List (List Symbol)) :
    (linesOf terminator (terminated terminator lines)).take lines.length =
        lines ↔
      ∀ line ∈ lines, terminator ∉ line := by
  constructor
  · intro heq line hline
    rw [← heq] at hline
    exact not_mem_of_mem_linesOf (List.mem_of_mem_take hline)
  · intro hlines
    rw [linesOf_terminated hlines, List.take_length]

/-- Read from the end, equally many clean lines tell the text in front of
them, whatever it contains. -/
theorem append_terminated_inj {terminator : Symbol}
    {left right : List Symbol} {leftLines rightLines : List (List Symbol)}
    (hleft : ∀ line ∈ leftLines, terminator ∉ line)
    (hright : ∀ line ∈ rightLines, terminator ∉ line)
    (hlength : leftLines.length = rightLines.length)
    (heq : left ++ terminator :: terminated terminator leftLines =
      right ++ terminator :: terminated terminator rightLines) :
    left = right ∧ leftLines = rightLines := by
  have hsplit := congrArg (List.splitOn terminator) heq
  rw [List.splitOn_append_cons_self, List.splitOn_append_cons_self,
    splitOn_terminated hleft, splitOn_terminated hright] at hsplit
  obtain ⟨hfront, hlines⟩ := List.append_inj' hsplit (by simp [hlength])
  constructor
  · calc left = [terminator].intercalate (left.splitOn terminator) :=
          (List.intercalate_splitOn terminator).symm
      _ = [terminator].intercalate (right.splitOn terminator) := by rw [hfront]
      _ = right := List.intercalate_splitOn terminator
  · exact List.append_cancel_right hlines

end NxccBridge.Lines
