import Mathlib.Logic.Function.Basic
import Mathlib.Data.List.Basic
import Mathlib.Data.List.Forall2

/-!
# Conversions and the values that survive them

A conversion turns a value into a message and reads the message back, where
reading may fail.  A value survives when reading its own message returns it.
-/

namespace NxccBridge.RoundTrip

open Function

/-- The conversion into messages and the fallible one back. -/
structure Conversion (Failure Value Message : Type) where
  into : Value → Message
  tryFrom : Message → Except Failure Value

variable {Failure Value Message : Type}

/-- The value of a field that is there, else the failure. -/
def okOr (failure : Failure) : Option Value → Except Failure Value
  | some value => .ok value
  | none => .error failure

@[simp]
theorem okOr_some (failure : Failure) (value : Value) :
    okOr failure (some value) = .ok value := rfl

theorem okOr_eq_ok_iff {failure : Failure} {field : Option Value}
    {value : Value} : okOr failure field = .ok value ↔ field = some value := by
  cases field <;> simp [okOr]

@[simp]
theorem ok_bind {Result : Type} (value : Value)
    (next : Value → Except Failure Result) :
    (Except.ok value >>= next) = next value := rfl

@[simp]
theorem error_bind {Result : Type} (failure : Failure)
    (next : Value → Except Failure Result) :
    (Except.error failure >>= next) = .error failure := rfl

theorem bind_eq_ok_iff {Result : Type} {first : Except Failure Value}
    {next : Value → Except Failure Result} {result : Result} :
    first >>= next = .ok result ↔
      ∃ value, first = .ok value ∧ next value = .ok result := by
  cases first with
  | error failure => simp
  | ok value => simp

/-- A check in front of a computation. -/
theorem check_bind_eq_ok_iff {Result : Type} {check : Except Failure Unit}
    {next : Except Failure Result} {result : Result} :
    (check >>= fun _ => next) = .ok result ↔
      check = .ok () ∧ next = .ok result := by
  cases check with
  | error failure => simp
  | ok value => simp

/-- Reading a list up to the first failure reads each of its members. -/
theorem mapM_eq_ok_iff {read : Message → Except Failure Value}
    {messages : List Message} {values : List Value} :
    messages.mapM read = .ok values ↔
      List.Forall₂ (fun message value => read message = .ok value) messages
        values := by
  induction messages generalizing values with
  | nil =>
      simp [pure, Except.pure, List.forall₂_nil_left_iff, eq_comm]
  | cons message rest ih =>
      simp only [List.mapM_cons, bind_eq_ok_iff, ih, pure, Except.pure,
        Except.ok.injEq]
      constructor
      · rintro ⟨value, hvalue, others, hothers, rfl⟩
        exact List.Forall₂.cons hvalue hothers
      · rintro (_ | ⟨hvalue, hothers⟩)
        exact ⟨_, hvalue, _, hothers, rfl⟩

/-- Reading the messages of a list of items, some of which have none. -/
theorem mapM_map_eq {Item : Type} {read : Message → Except Failure Value}
    {into : Item → Message} {value : Item → Value} {lost : Item → Bool}
    {failure : Failure} {items : List Item}
    (hreads : ∀ item ∈ items, read (into item) =
      if lost item then .error failure else .ok (value item)) :
    (items.map into).mapM read =
      if items.any lost then .error failure else .ok (items.map value) := by
  induction items with
  | nil => rfl
  | cons item rest ih =>
      obtain ⟨hitem, hrest⟩ := List.forall_mem_cons.mp hreads
      rw [List.map_cons, List.mapM_cons, hitem, ih hrest, List.any_cons]
      cases lost item with
      | true => rfl
      | false =>
          simp only [Bool.false_or, Bool.false_eq_true, if_false, ok_bind]
          split <;> rfl

namespace Conversion

/-- Reading the message of the value returns the value. -/
def Survives (conversion : Conversion Failure Value Message)
    (value : Value) : Prop :=
  conversion.tryFrom (conversion.into value) = .ok value

/-- A repeated field, read up to the first failure. -/
def repeated (conversion : Conversion Failure Value Message) :
    Conversion Failure (List Value) (List Message) where
  into := List.map conversion.into
  tryFrom := List.mapM conversion.tryFrom

/-- A list survives exactly when each of its members does. -/
theorem repeated_survives_iff (conversion : Conversion Failure Value Message)
    (values : List Value) :
    conversion.repeated.Survives values ↔
      ∀ value ∈ values, conversion.Survives value := by
  induction values with
  | nil => simp [Survives, repeated, pure, Except.pure]
  | cons value rest ih =>
      have hstep : conversion.repeated.Survives (value :: rest) ↔
          conversion.Survives value ∧ conversion.repeated.Survives rest := by
        simp only [Survives, repeated, List.map_cons, List.mapM_cons,
          bind_eq_ok_iff, pure, Except.pure, Except.ok.injEq,
          List.cons.injEq]
        constructor
        · rintro ⟨_, hvalue, _, hrest, rfl, rfl⟩
          exact ⟨hvalue, hrest⟩
        · rintro ⟨hvalue, hrest⟩
          exact ⟨value, hvalue, rest, hrest, rfl, rfl⟩
      rw [hstep, ih, List.forall_mem_cons]

/-- A record of one converted field survives with the field. -/
theorem survives_map_iff {Record : Type}
    (conversion : Conversion Failure Value Message) {make : Value → Record}
    (hmake : Injective make) (value : Value) :
    (conversion.tryFrom (conversion.into value) >>= fun field =>
        .ok (make field)) = .ok (make value) ↔
      conversion.Survives value := by
  rw [bind_eq_ok_iff, Survives]
  constructor
  · rintro ⟨field, hfield, heq⟩
    rw [hfield, hmake (Except.ok.inj heq)]
  · intro hsurvives
    exact ⟨value, hsurvives, rfl⟩

/-- A record of two converted fields survives when both fields do. -/
theorem survives_map₂_iff {Other OtherMessage Record : Type}
    (left : Conversion Failure Value Message)
    (right : Conversion Failure Other OtherMessage)
    {make : Value → Other → Record} (hmake : Injective2 make)
    (value : Value) (other : Other) :
    (left.tryFrom (left.into value) >>= fun first =>
        right.tryFrom (right.into other) >>= fun second =>
          .ok (make first second)) = .ok (make value other) ↔
      left.Survives value ∧ right.Survives other := by
  simp only [bind_eq_ok_iff, Survives]
  constructor
  · rintro ⟨first, hfirst, second, hsecond, heq⟩
    obtain ⟨rfl, rfl⟩ := hmake (Except.ok.inj heq)
    exact ⟨hfirst, hsecond⟩
  · rintro ⟨hvalue, hother⟩
    exact ⟨value, hvalue, other, hother, rfl⟩

end Conversion

end NxccBridge.RoundTrip
