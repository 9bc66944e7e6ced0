import Mathlib.Data.List.Basic

/-!
# Journals

A journal lists what happened, oldest first.  A register read from it has the
value that was written to it last, and a record is the latest of its kind when
only records of another kind follow.
-/

namespace NxccBridge.Journal

variable {Record Value : Type*}

/-- The value of a register that some of the records write. -/
def register (write : Record → Option Value) (init : Value)
    (journal : List Record) : Value :=
  journal.foldl (fun value record => (write record).getD value) init

@[simp]
theorem register_nil (write : Record → Option Value) (init : Value) :
    register write init [] = init := rfl

theorem register_append (write : Record → Option Value) (init : Value)
    (journal more : List Record) :
    register write init (journal ++ more) =
      register write (register write init journal) more :=
  List.foldl_append

@[simp]
theorem register_cons (write : Record → Option Value) (init : Value)
    (record : Record) (journal : List Record) :
    register write init (record :: journal) =
      register write ((write record).getD init) journal := rfl

theorem register_of_none {write : Record → Option Value} (init : Value)
    {journal : List Record} (hnone : ∀ record ∈ journal, write record = none) :
    register write init journal = init := by
  induction journal with
  | nil => rfl
  | cons record journal ih =>
      rw [register_cons, hnone record List.mem_cons_self, Option.getD_none]
      apply ih
      intro later hmem
      exact hnone later (List.mem_cons_of_mem _ hmem)

/-- Some record satisfies `kind`, and all that follow satisfy `others`. -/
def Latest (kind others : Record → Prop) (journal : List Record) : Prop :=
  ∃ before record after, journal = before ++ record :: after ∧ kind record ∧
    ∀ later ∈ after, others later

theorem Latest.append {kind others : Record → Prop}
    {journal more : List Record} (hlatest : Latest kind others journal)
    (hmore : ∀ later ∈ more, others later) :
    Latest kind others (journal ++ more) := by
  obtain ⟨before, record, after, rfl, hkind, hafter⟩ := hlatest
  refine ⟨before, record, after ++ more, by simp, hkind, ?_⟩
  intro later hmem
  cases List.mem_append.mp hmem with
  | inl hold => exact hafter later hold
  | inr hnew => exact hmore later hnew

theorem Latest.last {kind others : Record → Prop} (journal : List Record)
    {record : Record} (hkind : kind record) :
    Latest kind others (journal ++ [record]) :=
  ⟨journal, record, [], rfl, hkind, by simp⟩

end NxccBridge.Journal
