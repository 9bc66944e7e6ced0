import Mathlib.Tactic.Common

/-!
# Scanning for the first success

A loop over positions that tries each one and returns the first success.  A
failed attempt may change a state that later attempts see; the state in front
of a position is then a function of the position alone.
-/

namespace NxccBridge.Scan

variable {State Value : Type*}
variable (attempt : State → ℕ → Option Value) (next : State → ℕ → State)

/-- Try so many positions, the first one being the given one. -/
def scan : ℕ → ℕ → State → Option (ℕ × Value)
  | 0, _, _ => none
  | remaining + 1, position, state =>
      match attempt state position with
      | some value => some (position, value)
      | none => scan remaining (position + 1) (next state position)

/-- The state in front of a position that is reached. -/
def stateAt (initial : State) : ℕ → State
  | 0 => initial
  | position + 1 => next (stateAt initial position) position

variable {attempt next}

theorem scan_eq_some_iff {initial : State} {remaining start position : ℕ}
    {value : Value} :
    scan attempt next remaining start (stateAt next initial start) =
        some (position, value) ↔
      start ≤ position ∧ position < start + remaining ∧
        (∀ earlier, start ≤ earlier → earlier < position →
          attempt (stateAt next initial earlier) earlier = none) ∧
        attempt (stateAt next initial position) position = some value := by
  induction remaining generalizing start with
  | zero =>
      simp only [scan, reduceCtorEq, false_iff]
      rintro ⟨hstart, hbound, -⟩
      omega
  | succ remaining ih =>
      rw [scan]
      cases hattempt : attempt (stateAt next initial start) start with
      | some found =>
          constructor
          · intro heq
            cases heq
            exact ⟨Nat.le_refl _, by omega, fun earlier hle hlt => by omega,
              hattempt⟩
          · rintro ⟨hstart, -, hearlier, hvalue⟩
            have hposition : position = start := by
              by_contra hne
              have hnone := hearlier start (Nat.le_refl _) (by omega)
              rw [hattempt] at hnone
              cases hnone
            subst hposition
            rw [hattempt] at hvalue
            cases hvalue
            rfl
      | none =>
          change scan attempt next remaining (start + 1)
            (stateAt next initial (start + 1)) = _ ↔ _
          rw [ih]
          constructor
          · rintro ⟨hstart, hbound, hearlier, hvalue⟩
            refine ⟨by omega, by omega, ?_, hvalue⟩
            intro earlier hle hlt
            by_cases hfirst : earlier = start
            · rw [hfirst]
              exact hattempt
            · exact hearlier earlier (by omega) hlt
          · rintro ⟨hstart, hbound, hearlier, hvalue⟩
            have hne : position ≠ start := by
              intro heq
              rw [heq, hattempt] at hvalue
              cases hvalue
            refine ⟨by omega, by omega, ?_, hvalue⟩
            intro earlier hle hlt
            exact hearlier earlier (by omega) hlt

end NxccBridge.Scan
