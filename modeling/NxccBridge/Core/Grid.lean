import Mathlib.Data.List.Pairwise
import Mathlib.Tactic.Linarith
import Mathlib.Tactic.Ring

/-!
# Times on a grid

Sequences of times that lie on an arithmetic progression, each at a later place
than the one before.
-/

namespace NxccBridge.Grid

/-- The times are grid points at increasing places. -/
def OnGrid (base : ℤ) (period : ℕ) (times : List ℤ) : Prop :=
  ∃ places : List ℕ, places.Pairwise (· < ·) ∧
    times = places.map fun place : ℕ => base + place * period

variable {base : ℤ} {period : ℕ}

theorem onGrid_singleton_iff {time : ℤ} :
    OnGrid base period [time] ↔ ∃ place : ℕ, time = base + place * period := by
  constructor
  · rintro ⟨places, -, htimes⟩
    obtain ⟨place, -, htime⟩ :=
      List.mem_map.mp (htimes ▸ List.mem_singleton_self time)
    exact ⟨place, htime.symm⟩
  · rintro ⟨place, rfl⟩
    exact ⟨[place], List.pairwise_singleton _ _, rfl⟩

theorem OnGrid.exists_place {times : List ℤ} (hgrid : OnGrid base period times)
    {time : ℤ} (hmem : time ∈ times) :
    ∃ place : ℕ, time = base + place * period := by
  obtain ⟨places, -, rfl⟩ := hgrid
  obtain ⟨place, -, htime⟩ := List.mem_map.mp hmem
  exact ⟨place, htime.symm⟩

theorem OnGrid.sublist {times rest : List ℤ} (hgrid : OnGrid base period times)
    (hrest : rest.Sublist times) : OnGrid base period rest := by
  obtain ⟨places, hplaces, rfl⟩ := hgrid
  obtain ⟨kept, hkept, rfl⟩ := List.sublist_map_iff.mp hrest
  exact ⟨kept, hplaces.sublist hkept, rfl⟩

/-- A time one period after `now`, which is not before the last time, continues
the sequence exactly when `now` is a grid point. -/
theorem onGrid_append_next_iff {times : List ℤ} {last now : ℤ}
    (hgrid : OnGrid base period (times ++ [last])) (hnow : last ≤ now) :
    OnGrid base period (times ++ [last] ++ [now + period]) ↔
      ∃ place : ℕ, now = base + place * period := by
  obtain ⟨places, hplaces, htimes⟩ := hgrid
  constructor
  · rintro ⟨longer, hlonger, hall⟩
    obtain ⟨before, final, rfl, hbefore, hfinal⟩ :=
      List.append_eq_map_iff.mp hall
    obtain ⟨next, rfl, hnext⟩ : ∃ next : ℕ, final = [next] ∧
        now + period = base + next * period := by
      obtain ⟨next, tail, rfl, hnext, htail⟩ := List.map_eq_cons_iff.mp hfinal
      rw [List.map_eq_nil_iff.mp htail]
      exact ⟨next, rfl, hnext.symm⟩
    obtain ⟨place, hplace, hlast⟩ : ∃ place ∈ before,
        base + place * period = last :=
      List.mem_map.mp (hbefore ▸ List.mem_concat_self)
    have hlt : place < next :=
      (List.pairwise_append.mp hlonger).2.2 place hplace next
        (List.mem_singleton_self next)
    refine ⟨next - 1, ?_⟩
    have hcast : ((next - 1 : ℕ) : ℤ) = next - 1 := by omega
    rw [hcast]
    linarith
  · rintro ⟨place, rfl⟩
    obtain ⟨before, final, rfl, hbefore, hfinal⟩ :=
      List.append_eq_map_iff.mp htimes
    obtain ⟨old, rfl, hold⟩ : ∃ old : ℕ, final = [old] ∧
        base + old * period = last := by
      obtain ⟨old, tail, rfl, hold, htail⟩ := List.map_eq_cons_iff.mp hfinal
      rw [List.map_eq_nil_iff.mp htail]
      exact ⟨old, rfl, hold⟩
    -- with a period of 0 every place is the same time
    have hnext : base + place * period + period =
        base + (max old place + 1 : ℕ) * period := by
      rcases Nat.eq_zero_or_pos period with rfl | hpos
      · simp
      · have hle : old ≤ place := by
          have hmul : (old : ℤ) * period ≤ place * period := by linarith
          exact_mod_cast le_of_mul_le_mul_right hmul (by exact_mod_cast hpos)
        rw [max_eq_right hle]
        push_cast
        ring
    refine ⟨before ++ [old] ++ [max old place + 1], ?_, ?_⟩
    · rw [List.pairwise_append]
      refine ⟨hplaces, List.pairwise_singleton _ _, ?_⟩
      intro earlier hearlier later hlater
      rw [List.mem_singleton.mp hlater]
      rcases List.mem_append.mp hearlier with hearlier | hearlier
      · have hlt := (List.pairwise_append.mp hplaces).2.2 earlier hearlier old
          (List.mem_singleton_self old)
        omega
      · rw [List.mem_singleton.mp hearlier]
        omega
    · rw [hnext, List.map_append, List.map_append, ← hbefore, ← hold]
      rfl

end NxccBridge.Grid
