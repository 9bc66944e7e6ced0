import Mathlib.Data.List.Infix
import Mathlib.Logic.Relation

/-!
# Where items come from

Parties that make items and pass them on.  Of a history of events it is known
what each event makes and what it passes on, and that a party holds nothing
else.  Then every item has a maker, and was passed from hand to hand from there.
-/

namespace NxccBridge.Provenance

open Relation

variable {Event Party Item : Type*}

/-- It happened at some event, given the events before it. -/
def Sometime (happens : List Event → Event → Prop) (history : List Event) :
    Prop :=
  ∃ before event after, history = before ++ event :: after ∧
    happens before event

theorem Sometime.append {happens : List Event → Event → Prop}
    {history : List Event} (hsometime : Sometime happens history)
    (later : List Event) : Sometime happens (history ++ later) := by
  obtain ⟨before, event, after, rfl, hhappens⟩ := hsometime
  exact ⟨before, event, after ++ later, by simp, hhappens⟩

theorem Sometime.last {happens : List Event → Event → Prop}
    {before : List Event} {event : Event} (hhappens : happens before event) :
    Sometime happens (before ++ [event]) :=
  ⟨before, event, [], rfl, hhappens⟩

theorem Sometime.mono {happens others : List Event → Event → Prop}
    (himplies : ∀ before event, happens before event → others before event)
    {history : List Event} (hsometime : Sometime happens history) :
    Sometime others history := by
  obtain ⟨before, event, after, hsplit, hhappens⟩ := hsometime
  exact ⟨before, event, after, hsplit, himplies _ _ hhappens⟩

/-- What a party holds, an event makes, and an event passes on. -/
structure Hands (Event Party Item : Type*) where
  holds : List Event → Party → Item → Prop
  makes : List Event → Event → Party → Item → Prop
  passes : List Event → Event → Party → Party → Item → Prop

namespace Hands

/-- The item is a party's through its maker and the hands it went through. -/
def Traced (hands : Hands Event Party Item) (history : List Event)
    (holder : Party) (item : Item) : Prop :=
  ∃ maker,
    Sometime (fun before event => hands.makes before event maker item)
      history ∧
    ReflTransGen (fun giver receiver => Sometime (fun before event =>
      hands.passes before event giver receiver item) history) maker holder

variable {hands : Hands Event Party Item} {holder : Party} {item : Item}

theorem Traced.append {history : List Event}
    (htraced : hands.Traced history holder item) (later : List Event) :
    hands.Traced (history ++ later) holder item := by
  obtain ⟨maker, hmade, hpassed⟩ := htraced
  have hlater := ReflTransGen.mono
    (fun _ _ hgiven => Sometime.append hgiven later) _ _ hpassed
  exact ⟨maker, hmade.append later, hlater⟩

theorem Traced.pass {history : List Event} {giver : Party}
    (htraced : hands.Traced history giver item)
    (hgiven : Sometime (fun before event =>
      hands.passes before event giver holder item) history) :
    hands.Traced history holder item := by
  obtain ⟨maker, hmade, hpassed⟩ := htraced
  exact ⟨maker, hmade, hpassed.tail hgiven⟩

/-- While the history is sound, a party comes to hold what it makes and what
was passed to it, and a giver holds what it passes on. -/
structure Conserves (hands : Hands Event Party Item)
    (sound : List Event → Prop) : Prop where
  sound_of_append : ∀ before later, sound (before ++ later) → sound before
  nil : ∀ holder item, ¬hands.holds [] holder item
  concat : ∀ before event, sound (before ++ [event]) → ∀ holder item,
    hands.holds (before ++ [event]) holder item →
      hands.holds before holder item ∨ hands.makes before event holder item ∨
        ∃ giver, Sometime (fun earlier act =>
          hands.passes earlier act giver holder item) before
  giver_holds : ∀ before event giver receiver item,
    hands.passes before event giver receiver item →
      hands.holds before giver item

/-- By induction on the length of the history: a giver held the item in an
earlier one. -/
theorem Conserves.traced {sound : List Event → Prop}
    (hconserves : hands.Conserves sound) :
    ∀ history, sound history → ∀ holder item,
      hands.holds history holder item → hands.Traced history holder item := by
  intro history
  induction hlength : history.length using Nat.strong_induction_on
    generalizing history with
  | h length ih =>
      subst hlength
      intro hsound holder item hholds
      cases history using List.reverseRecOn with
      | nil => exact absurd hholds (hconserves.nil holder item)
      | append_singleton before event =>
          have hbefore := hconserves.sound_of_append before [event] hsound
          have hshorter : before.length < (before ++ [event]).length := by simp
          cases hconserves.concat before event hsound holder item hholds with
          | inl hheld =>
              exact (ih _ hshorter before rfl hbefore holder item
                hheld).append [event]
          | inr hnew =>
              cases hnew with
              | inl hmade =>
                  exact ⟨holder, .last hmade, .refl⟩
              | inr hgiven =>
                  obtain ⟨giver, hgiven⟩ := hgiven
                  have hlater := hgiven.append [event]
                  obtain ⟨earlier, act, after, rfl, hpasses⟩ := hgiven
                  have hheld := hconserves.giver_holds _ _ _ _ _ hpasses
                  have hearlier := hconserves.sound_of_append earlier
                    (act :: after) hbefore
                  have htraced := ih earlier.length (by simp) earlier
                    rfl hearlier giver item hheld
                  have hfront := (htraced.append (act :: after)).append [event]
                  exact hfront.pass hlater

end Hands

end NxccBridge.Provenance
