import Mathlib.Data.List.Pairwise
import Mathlib.Order.Basic

/-!
# Logs that only grow

Several logs, one for each key, that are appended to over time by entries of
ever larger rank.  An observer who sees only the last entry of a log sees every
append: the last entry is the same at two times exactly if the whole log is.
-/

namespace NxccBridge.GrowingLog

variable {Key Entry Rank : Type} [Preorder Rank] {rank : Entry → Rank}

/-- The logs at each time. -/
structure Logs (Key Entry : Type) {Rank : Type} [Preorder Rank]
    (rank : Entry → Rank) where
  entries : ℕ → Key → List Entry
  grows : ∀ {now later : ℕ}, now ≤ later → ∀ key,
    entries now key <+: entries later key
  ascending : ∀ now key,
    (entries now key).Pairwise fun entry next => rank entry < rank next

/-- The last entry of a sorted list is not last in a longer one. -/
theorem eq_of_prefix_of_getLast? {front log : List Entry} {entry : Entry}
    (hsorted : log.Pairwise fun entry next => rank entry < rank next)
    (hinitial : front <+: log) (hfront : front.getLast? = some entry)
    (hlog : log.getLast? = some entry) : front = log := by
  obtain ⟨rest, rfl⟩ := hinitial
  cases hrest : rest.getLast? with
  | none => simp [List.getLast?_eq_none_iff.mp hrest]
  | some last =>
      have hlast : last = entry := by
        simpa [List.getLast?_append, hrest] using hlog
      subst hlast
      have hbefore := (List.pairwise_append.mp hsorted).2.2 last
        (List.mem_of_getLast? hfront) last (List.mem_of_getLast? hrest)
      exact absurd hbefore (lt_irrefl _)

namespace Logs

variable (logs : Logs Key Entry rank) {now later : ℕ} {key : Key}

/-- The last entry of a log. -/
def head (now : ℕ) (key : Key) : Option Entry :=
  (logs.entries now key).getLast?

variable {logs}

theorem head_eq_none_iff :
    logs.head now key = none ↔ logs.entries now key = [] :=
  List.getLast?_eq_none_iff

/-- Every append shows in the last entry. -/
theorem head_eq_head_iff (hlater : now ≤ later)
    (hhead : logs.entries now key ≠ []) :
    logs.head later key = logs.head now key ↔
      logs.entries later key = logs.entries now key := by
  constructor
  · intro hsame
    obtain ⟨entry, hentry⟩ := Option.ne_none_iff_exists'.mp
      (mt head_eq_none_iff.mp hhead)
    exact (eq_of_prefix_of_getLast? (logs.ascending later key)
      (logs.grows hlater key) hentry (hsame.trans hentry)).symm
  · intro hsame
    rw [head, head, hsame]

end Logs

end NxccBridge.GrowingLog
