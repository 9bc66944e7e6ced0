import Mathlib

/-!
# Sorted lists

A list is determined by its items once it is sorted, as long as items of the
same rank are equal.  Between the numbers of a sorted list there are gaps; the
positive ones add up to the distance of its ends, and there is one less of them
than there are distinct numbers.
-/

namespace NxccBridge.Sorted

section MergeSort

variable {A : Type*} {le : A → A → Bool}

theorem mergeSort_eq_of_perm {left right : List A}
    (htrans : ∀ a b c, le a b = true → le b c = true → le a c = true)
    (htotal : ∀ a b, (le a b || le b a) = true)
    (hantisymm : ∀ a ∈ left, ∀ b ∈ left,
      le a b = true → le b a = true → a = b)
    (hperm : left.Perm right) : left.mergeSort le = right.mergeSort le := by
  have hleft := List.mergeSort_perm left le
  have hright := List.mergeSort_perm right le
  apply List.Perm.eq_of_pairwise
  · intro a b ha hb
    apply hantisymm
    · exact hleft.mem_iff.mp ha
    · exact hperm.mem_iff.mpr (hright.mem_iff.mp hb)
  · exact List.pairwise_mergeSort htrans htotal left
  · exact List.pairwise_mergeSort htrans htotal right
  · exact (hleft.trans hperm).trans hright.symm

end MergeSort

/-! ## Numbers -/

/-- The numbers in their order. -/
def sort (numbers : List ℕ) : List ℕ := numbers.mergeSort (fun a b => a ≤ b)

theorem sort_perm (numbers : List ℕ) : (sort numbers).Perm numbers :=
  List.mergeSort_perm _ _

theorem pairwise_sort (numbers : List ℕ) :
    (sort numbers).Pairwise (· ≤ ·) := by
  have hsorted : (sort numbers).Pairwise fun a b => decide (a ≤ b) = true :=
    List.pairwise_mergeSort (by grind) (by grind) numbers
  exact hsorted.imp of_decide_eq_true

theorem sort_eq_of_perm {left right : List ℕ} (hperm : left.Perm right) :
    sort left = sort right := by
  apply mergeSort_eq_of_perm (by grind) (by grind) _ hperm
  intro a _ b _ hab hba
  exact Nat.le_antisymm (of_decide_eq_true hab) (of_decide_eq_true hba)

/-! ## Gaps -/

/-- The differences of neighbours, those that are zero left out. -/
def gaps : List ℕ → List ℕ
  | first :: second :: rest =>
      if first < second then (second - first) :: gaps (second :: rest)
      else gaps (second :: rest)
  | _ => []

theorem gaps_eq_windows (numbers : List ℕ) :
    gaps numbers =
      ((numbers.zip numbers.tail).map fun window =>
        window.2 - window.1).filter fun gap => decide (0 < gap) := by
  induction numbers with
  | nil => rfl
  | cons first rest ih =>
      cases rest with
      | nil => rfl
      | cons second rest =>
          simp only [List.tail_cons] at ih
          by_cases hlt : first < second
          · have hpos : 0 < second - first := Nat.sub_pos_of_lt hlt
            simp [gaps, hlt, hpos, ih]
          · have hzero : second - first = 0 := by omega
            simp [gaps, hlt, hzero, ih]

theorem pos_of_mem_gaps {numbers : List ℕ} {gap : ℕ}
    (hgap : gap ∈ gaps numbers) : 0 < gap := by
  rw [gaps_eq_windows] at hgap
  simpa using (List.mem_filter.mp hgap).2

theorem gaps_eq_nil_of_length {numbers : List ℕ}
    (hlength : numbers.length < 2) : gaps numbers = [] := by
  match numbers, hlength with
  | [], _ => rfl
  | [_], _ => rfl

theorem sum_gaps_cons {first : ℕ} {rest : List ℕ}
    (hsorted : (first :: rest).Pairwise (· ≤ ·)) :
    first + (gaps (first :: rest)).sum =
      (first :: rest).getLast (List.cons_ne_nil _ _) := by
  induction rest generalizing first with
  | nil => rfl
  | cons second rest ih =>
      have hle : first ≤ second :=
        (List.pairwise_cons.mp hsorted).1 second List.mem_cons_self
      have hlast := ih (List.pairwise_cons.mp hsorted).2
      rw [List.getLast_cons (List.cons_ne_nil _ _), ← hlast]
      by_cases hlt : first < second
      · simp only [gaps, hlt, if_true, List.sum_cons]
        omega
      · have heq : first = second := Nat.le_antisymm hle (Nat.le_of_not_lt hlt)
        subst second
        simp only [gaps, Nat.lt_irrefl, if_false]

theorem length_gaps_cons {first : ℕ} {rest : List ℕ}
    (hsorted : (first :: rest).Pairwise (· ≤ ·)) :
    (gaps (first :: rest)).length + 1 = (first :: rest).dedup.length := by
  induction rest generalizing first with
  | nil => simp [gaps]
  | cons second rest ih =>
      have hfirst := (List.pairwise_cons.mp hsorted).1
      have htail := (List.pairwise_cons.mp hsorted).2
      have hlength := ih htail
      by_cases hlt : first < second
      · have hnew : first ∉ second :: rest := by
          intro hmem
          have hge : second ≤ first := by
            cases hmem with
            | head => exact Nat.le_refl _
            | tail _ hrest => exact (List.pairwise_cons.mp htail).1 _ hrest
          omega
        rw [List.dedup_cons_of_notMem hnew, List.length_cons, ← hlength]
        simp only [gaps, hlt, if_true, List.length_cons]
      · have heq : first = second :=
          Nat.le_antisymm (hfirst second List.mem_cons_self)
            (Nat.le_of_not_lt hlt)
        have hmem : first ∈ second :: rest := by simp [heq]
        rw [List.dedup_cons_of_mem hmem, ← hlength]
        simp only [gaps, hlt, if_false]

/-! ## The gaps of numbers in any order -/

section Unsorted

variable {numbers : List ℕ} {earliest latest : ℕ}

/-- The ends of a collection of numbers. -/
structure Spans (numbers : List ℕ) (earliest latest : ℕ) : Prop where
  earliest_mem : earliest ∈ numbers
  latest_mem : latest ∈ numbers
  between : ∀ number ∈ numbers, earliest ≤ number ∧ number ≤ latest

theorem exists_spans (hne : numbers ≠ []) :
    ∃ earliest latest, Spans numbers earliest latest := by
  have hbetween : ∀ number ∈ numbers,
      numbers.min hne ≤ number ∧ number ≤ numbers.max hne := by
    intro number hmem
    exact ⟨List.min_le_of_mem hmem, List.le_max_of_mem hmem⟩
  exact ⟨_, _, List.min_mem hne, List.max_mem hne, hbetween⟩

theorem sum_gaps_sort (hspans : Spans numbers earliest latest) :
    earliest + (gaps (sort numbers)).sum = latest := by
  have hperm := sort_perm numbers
  have hsorted := pairwise_sort numbers
  cases hsort : sort numbers with
  | nil =>
      rw [hsort] at hperm
      have hnil := hperm.symm.eq_nil
      cases hnil ▸ hspans.earliest_mem
  | cons first rest =>
      rw [hsort] at hperm hsorted
      have hends : ∀ number ∈ first :: rest,
          earliest ≤ number ∧ number ≤ latest := by
        intro number hmem
        exact hspans.between number (hperm.mem_iff.mp hmem)
      have hfirst : first = earliest := by
        apply Nat.le_antisymm
        · cases hperm.mem_iff.mpr hspans.earliest_mem with
          | head => exact Nat.le_refl _
          | tail _ hmem => exact (List.pairwise_cons.mp hsorted).1 _ hmem
        · exact (hends first List.mem_cons_self).1
      have hlast := sum_gaps_cons hsorted
      have hle : latest ≤ (first :: rest).getLast (List.cons_ne_nil _ _) :=
        hsorted.rel_getLast (hperm.mem_iff.mpr hspans.latest_mem)
      have hge := (hends _ (List.getLast_mem (List.cons_ne_nil first rest))).2
      omega

/-- There is a gap when two of the numbers differ. -/
theorem gaps_sort_ne_nil_iff :
    gaps (sort numbers) ≠ [] ↔
      ∃ earliest latest, Spans numbers earliest latest ∧ earliest < latest := by
  constructor
  · intro hgaps
    have hne : numbers ≠ [] := by
      intro hnil
      apply hgaps
      simp [hnil, sort, gaps]
    obtain ⟨earliest, latest, hspans⟩ := exists_spans hne
    obtain ⟨gap, hgap⟩ := List.exists_mem_of_ne_nil _ hgaps
    have hsum := sum_gaps_sort hspans
    have hle := List.le_sum_of_mem hgap
    have hpos := pos_of_mem_gaps hgap
    exact ⟨earliest, latest, hspans, by omega⟩
  · intro ⟨earliest, latest, hspans, hlt⟩ hgaps
    have hsum := sum_gaps_sort hspans
    rw [hgaps, List.sum_nil] at hsum
    omega

theorem length_gaps_sort (hne : numbers ≠ []) :
    (gaps (sort numbers)).length + 1 = numbers.dedup.length := by
  have hperm := sort_perm numbers
  have hdedup := (hperm.dedup).length_eq
  cases hsort : sort numbers with
  | nil =>
      rw [hsort] at hperm
      exact absurd hperm.symm.eq_nil hne
  | cons first rest =>
      rw [← hdedup, hsort]
      apply length_gaps_cons
      rw [← hsort]
      exact pairwise_sort numbers

end Unsorted

end NxccBridge.Sorted
