import Mathlib.Data.List.Perm.Basic
import Mathlib.Order.Lattice

/-!
# Priority queues

A queue holds its items in no order.  What is popped is one of the items of the
least key; which of them, when several have it, a tie-breaking number decides.
-/

namespace NxccBridge.PriorityQueue

variable {Item Key : Type*} [DecidableEq Item] [LinearOrder Key]
variable (key : Item → Key)

/-- The items that no item comes before. -/
def earliest (queue : List Item) : List Item :=
  queue.filter fun item => queue.all fun other => decide (key item ≤ key other)

def pop (tie : ℕ) (queue : List Item) : Option (Item × List Item) :=
  ((earliest key queue)[tie % (earliest key queue).length]?).map fun item =>
    (item, queue.erase item)

/-- Pops while the least key does not exceed the limit; `ties` breaks the ties
of the successive pops.  Fuel for every item is enough. -/
def popUntil (limit : Key) (ties : ℕ → ℕ) :
    ℕ → ℕ → List Item → List Item × List Item
  | 0, _, queue => ([], queue)
  | fuel + 1, index, queue =>
      match pop key (ties index) queue with
      | none => ([], queue)
      | some (item, rest) =>
          if limit < key item then ([], queue)
          else
            let (popped, left) := popUntil limit ties fuel (index + 1) rest
            (item :: popped, left)

variable {key}

omit [DecidableEq Item] in
theorem mem_earliest_iff {queue : List Item} {item : Item} :
    item ∈ earliest key queue ↔
      item ∈ queue ∧ ∀ other ∈ queue, key item ≤ key other := by
  simp [earliest]

omit [DecidableEq Item] in
theorem earliest_ne_nil {queue : List Item} (hne : queue ≠ []) :
    earliest key queue ≠ [] := by
  obtain ⟨item, hitem, hleast⟩ : ∃ item ∈ queue,
      ∀ other ∈ queue, key item ≤ key other := by
    induction queue with
    | nil => exact absurd rfl hne
    | cons head rest ih =>
        by_cases hrest : rest = []
        · exact ⟨head, by simp, by simp [hrest]⟩
        · obtain ⟨item, hitem, hleast⟩ := ih hrest
          rcases le_total (key head) (key item) with hle | hle
          · refine ⟨head, by simp, List.forall_mem_cons.mpr ⟨le_rfl, ?_⟩⟩
            exact fun other hother => hle.trans (hleast other hother)
          · exact ⟨item, List.mem_cons_of_mem head hitem,
              List.forall_mem_cons.mpr ⟨hle, hleast⟩⟩
  exact List.ne_nil_of_mem (mem_earliest_iff.mpr ⟨hitem, hleast⟩)

theorem pop_eq_some {tie : ℕ} {queue rest : List Item} {item : Item}
    (hpop : pop key tie queue = some (item, rest)) :
    queue.Perm (item :: rest) ∧ ∀ other ∈ queue, key item ≤ key other := by
  rw [pop, Option.map_eq_some_iff] at hpop
  obtain ⟨first, hfirst, heq⟩ := hpop
  obtain ⟨rfl, rfl⟩ := Prod.mk.inj heq
  obtain ⟨hitem, hleast⟩ :=
    mem_earliest_iff.mp (List.mem_of_getElem? hfirst)
  exact ⟨List.perm_cons_erase hitem, hleast⟩

theorem pop_eq_none_iff {tie : ℕ} {queue : List Item} :
    pop key tie queue = none ↔ queue = [] := by
  constructor
  · intro hnone
    by_contra hne
    have hpos : 0 < (earliest key queue).length :=
      List.length_pos_of_ne_nil (earliest_ne_nil hne)
    rw [pop, Option.map_eq_none_iff, List.getElem?_eq_none_iff] at hnone
    exact absurd (Nat.mod_lt tie hpos) (by omega)
  · rintro rfl
    simp [pop, earliest]

variable (key) in
/-- With enough fuel the items up to the limit are popped, in the order of their
keys, and the others are left. -/
theorem popUntil_spec (limit : Key) (ties : ℕ → ℕ) {fuel : ℕ} (index : ℕ)
    {queue : List Item} (hfuel : queue.length ≤ fuel) :
    (popUntil key limit ties fuel index queue).1.Perm
        (queue.filter fun item => key item ≤ limit) ∧
      (popUntil key limit ties fuel index queue).2.Perm
        (queue.filter fun item => limit < key item) ∧
      (popUntil key limit ties fuel index queue).1.Pairwise
        fun left right => key left ≤ key right := by
  induction fuel generalizing index queue with
  | zero =>
      obtain rfl := List.length_eq_zero_iff.mp (Nat.le_zero.mp hfuel)
      simp [popUntil]
  | succ fuel ih =>
      rw [popUntil]
      cases hpop : pop key (ties index) queue with
      | none =>
          obtain rfl := pop_eq_none_iff.mp hpop
          simp
      | some popped =>
          obtain ⟨item, rest⟩ := popped
          obtain ⟨hperm, hleast⟩ := pop_eq_some hpop
          by_cases hlimit : limit < key item
          · have hall : ∀ other ∈ queue, limit < key other :=
              fun other hother => lt_of_lt_of_le hlimit (hleast other hother)
            simp only [hlimit, if_true, List.Pairwise.nil, and_true]
            constructor
            · rw [List.filter_eq_nil_iff.mpr]
              intro other hother
              simpa using hall other hother
            · rw [List.filter_eq_self.mpr]
              intro other hother
              simpa using hall other hother
          · have hlength := hperm.length_eq
            rw [List.length_cons] at hlength
            have hshorter : rest.length ≤ fuel := by omega
            obtain ⟨hpopped, hleft, hsorted⟩ := ih (index + 1) hshorter
            simp only [hlimit, if_false]
            refine ⟨?_, ?_, ?_⟩
            · refine .trans ?_ (hperm.filter _).symm
              rw [List.filter_cons_of_pos (by simpa using hlimit)]
              exact hpopped.cons item
            · refine .trans ?_ (hperm.filter _).symm
              rw [List.filter_cons_of_neg (by simpa using hlimit)]
              exact hleft
            · refine List.pairwise_cons.mpr ⟨?_, hsorted⟩
              intro other hother
              have hrest : other ∈ rest :=
                List.mem_of_mem_filter (hpopped.mem_iff.mp hother)
              exact hleast other
                (hperm.mem_iff.mpr (List.mem_cons_of_mem item hrest))

end NxccBridge.PriorityQueue
