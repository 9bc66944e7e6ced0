import Mathlib.Data.Finset.Basic
import NxccBridge.Core.Runs

/-!
# What is open, and what was opened last

Items are opened and closed, and several open items may share a key.  A set that
gains the key of an item when it is opened and loses it when it is closed knows
for each key which of the two came last, not whether an item is open.
-/

namespace NxccBridge.Openings

open NxccBridge.Runs

variable {Item Key : Type*} [DecidableEq Item] [DecidableEq Key]

inductive Event (Item : Type*)
  | opened (item : Item)
  | closed (item : Item)

/-- The open items, each as often as it is open. -/
def holdStep (held : List Item) : Event Item → List Item
  | .opened item => item :: held
  | .closed item => held.erase item

def stillOpen (events : List (Event Item)) : List Item :=
  run holdStep [] events

variable (key : Item → Key)

def keyStep (keys : Finset Key) : Event Item → Finset Key
  | .opened item => insert (key item) keys
  | .closed item => keys.erase (key item)

/-- The keys that were opened last. -/
def openedLast (events : List (Event Item)) : Finset Key :=
  run (keyStep key) ∅ events

variable {key}

@[simp]
theorem stillOpen_concat (events : List (Event Item)) (last : Event Item) :
    stillOpen (events ++ [last]) = holdStep (stillOpen events) last :=
  run_concat ..

omit [DecidableEq Item] in
@[simp]
theorem openedLast_concat (events : List (Event Item)) (last : Event Item) :
    openedLast key (events ++ [last]) =
      keyStep key (openedLast key events) last :=
  run_concat ..

variable (key) in
/-- An item of the key was opened, and none was closed since. -/
def NotClosedSince (events : List (Event Item)) (sought : Key) : Prop :=
  ∃ before item after, events = before ++ .opened item :: after ∧
    key item = sought ∧ ∀ other, .closed other ∈ after → key other ≠ sought

omit [DecidableEq Item] [DecidableEq Key] in
theorem notClosedSince_concat {events : List (Event Item)}
    {last : Event Item} {sought : Key} :
    NotClosedSince key (events ++ [last]) sought ↔
      (∃ item, last = .opened item ∧ key item = sought) ∨
        NotClosedSince key events sought ∧
          ∀ item, last = .closed item → key item ≠ sought := by
  constructor
  · rintro ⟨before, item, after, heq, hitem, hafter⟩
    rcases List.eq_nil_or_concat' after with rfl | ⟨after, newest, rfl⟩
    · obtain ⟨-, rfl⟩ := List.append_singleton_inj.mp heq
      exact Or.inl ⟨item, rfl, hitem⟩
    · have hsplit : events ++ [last] =
          (before ++ .opened item :: after) ++ [newest] := by
        simpa using heq
      obtain ⟨rfl, rfl⟩ := List.append_singleton_inj.mp hsplit
      refine Or.inr ⟨⟨before, item, after, rfl, hitem, ?_⟩, ?_⟩
      · exact fun other hother =>
          hafter other (List.mem_append_left _ hother)
      · rintro other rfl
        exact hafter other (by simp)
  · rintro (⟨item, rfl, hitem⟩ |
      ⟨⟨before, item, after, rfl, hitem, hafter⟩, hlast⟩)
    · exact ⟨events, item, [], rfl, hitem, by simp⟩
    · refine ⟨before, item, after ++ [last], by simp, hitem, ?_⟩
      intro other hother
      rcases List.mem_append.mp hother with hother | hother
      · exact hafter other hother
      · exact hlast other (List.mem_singleton.mp hother).symm

omit [DecidableEq Item] in
theorem mem_openedLast_iff {events : List (Event Item)} {sought : Key} :
    sought ∈ openedLast key events ↔ NotClosedSince key events sought := by
  induction events using List.reverseRecOn with
  | nil => simp [openedLast, NotClosedSince]
  | append_singleton events last ih =>
      rw [openedLast_concat, notClosedSince_concat, ← ih]
      cases last with
      | opened item => simp [keyStep, eq_comm]
      | closed item => simp [keyStep, and_comm, eq_comm]

/-- A key that was opened last has an open item. -/
theorem exists_open_of_mem {events : List (Event Item)} {sought : Key}
    (hmem : sought ∈ openedLast key events) :
    ∃ item ∈ stillOpen events, key item = sought := by
  induction events using List.reverseRecOn with
  | nil => simp [openedLast] at hmem
  | append_singleton events last ih =>
      rw [openedLast_concat] at hmem
      rw [stillOpen_concat]
      cases last with
      | opened item =>
          rcases Finset.mem_insert.mp hmem with rfl | hbefore
          · exact ⟨item, List.mem_cons_self, rfl⟩
          · obtain ⟨other, hother, hkey⟩ := ih hbefore
            exact ⟨other, List.mem_cons_of_mem item hother, hkey⟩
      | closed item =>
          obtain ⟨hne, hbefore⟩ := Finset.mem_erase.mp hmem
          obtain ⟨other, hother, rfl⟩ := ih hbefore
          have hdiffers : other ≠ item := fun heq => hne (heq ▸ rfl)
          exact ⟨other, (List.mem_erase_of_ne hdiffers).mpr hother, rfl⟩

/-- The keys that were opened last are those of the open items exactly if every
open item's key was opened last. -/
theorem openedLast_iff_open {events : List (Event Item)} :
    (∀ sought, sought ∈ openedLast key events ↔
      ∃ item ∈ stillOpen events, key item = sought) ↔
      ∀ item ∈ stillOpen events, key item ∈ openedLast key events := by
  constructor
  · intro hall item hitem
    exact (hall (key item)).mpr ⟨item, hitem, rfl⟩
  · intro hopen sought
    constructor
    · exact exists_open_of_mem
    · rintro ⟨item, hitem, rfl⟩
      exact hopen item hitem

end NxccBridge.Openings
