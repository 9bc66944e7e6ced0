import Mathlib.Data.List.Basic
import Mathlib.Data.List.Infix

/-!
# Histories that drop their oldest items

Before an item is added, the oldest items go until the rest fits.  What is left
is the longest recent part that fits, and it depends on the items alone, not on
what earlier additions dropped.
-/

namespace NxccBridge.Eviction

variable {Item : Type*} (fits : List Item → Prop) [DecidablePred fits]

/-- Drops the oldest items until the rest fits. -/
def evict : List Item → List Item
  | [] => []
  | oldest :: rest =>
      if fits (oldest :: rest) then oldest :: rest else evict rest

/-- The history after the items were added one by one. -/
def retain (items : List Item) : List Item :=
  items.foldl (fun held item => evict fits held ++ [item]) []

variable {fits}

theorem evict_suffix (items : List Item) : evict fits items <:+ items := by
  induction items with
  | nil => exact List.suffix_rfl
  | cons oldest rest ih =>
      rw [evict]
      split_ifs
      · exact List.suffix_rfl
      · exact ih.trans (List.suffix_cons oldest rest)

theorem evict_append_suffix (items : List Item) (last : Item) :
    evict fits items ++ [last] <:+ items ++ [last] := by
  obtain ⟨dropped, hdropped⟩ : evict fits items <:+ items := evict_suffix items
  exact ⟨dropped, by rw [← List.append_assoc, hdropped]⟩

theorem evict_of_fits {items : List Item} (hfits : fits items) :
    evict fits items = items := by
  cases items with
  | nil => rfl
  | cons oldest rest => rw [evict, if_pos hfits]

theorem fits_evict (hnil : fits []) (items : List Item) :
    fits (evict fits items) := by
  induction items with
  | nil => exact hnil
  | cons oldest rest ih =>
      rw [evict]
      split_ifs with hfits
      · exact hfits
      · exact ih

/-- No longer recent part fits. -/
theorem suffix_evict {recent items : List Item} (hrecent : recent <:+ items)
    (hfits : fits recent) : recent <:+ evict fits items := by
  induction items with
  | nil => exact hrecent
  | cons oldest rest ih =>
      rw [evict]
      split_ifs with hall
      · exact hrecent
      · rcases List.suffix_cons_iff.mp hrecent with rfl | hrest
        · exact absurd hfits hall
        · exact ih hrest

theorem suffix_antisymm {left right : List Item} (hleft : left <:+ right)
    (hright : right <:+ left) : left = right :=
  hleft.eq_of_length (le_antisymm hleft.length_le hright.length_le)

/-- What was dropped before makes no difference, if it does not fit. -/
theorem evict_eq_of_suffix (hnil : fits []) {held items : List Item}
    (hheld : held <:+ items) (hkept : evict fits items <:+ held) :
    evict fits held = evict fits items :=
  suffix_antisymm
    (suffix_evict ((evict_suffix held).trans hheld) (fits_evict hnil held))
    (suffix_evict hkept (fits_evict hnil items))

theorem retain_append_singleton (items : List Item) (last : Item) :
    retain fits (items ++ [last]) = evict fits (retain fits items) ++ [last] :=
  List.foldl_concat ..

/-- The history is the last item behind the longest part of the items before it
that fits. -/
theorem retain_concat (hnil : fits [])
    (hinit : ∀ before last, fits (before ++ [last]) → fits before)
    (items : List Item) (last : Item) :
    retain fits (items ++ [last]) = evict fits items ++ [last] := by
  induction items using List.reverseRecOn generalizing last with
  | nil => rfl
  | append_singleton before item ih =>
      have hkept : evict fits (before ++ [item]) <:+
          evict fits before ++ [item] := by
        have hevicted : evict fits (before ++ [item]) <:+ before ++ [item] :=
          evict_suffix _
        rcases List.suffix_concat_iff.mp hevicted with
          hempty | ⟨part, hpart, hsuffix⟩
        · rw [hempty]
          exact List.nil_suffix
        · have hfits : fits part := by
            apply hinit part item
            rw [← hpart]
            exact fits_evict hnil _
          rw [hpart]
          obtain ⟨dropped, hdropped⟩ := suffix_evict hsuffix hfits
          exact ⟨dropped, by rw [← hdropped, List.append_assoc]⟩
      rw [retain_append_singleton, ih item,
        evict_eq_of_suffix hnil (evict_append_suffix before item) hkept]

theorem retain_suffix (hnil : fits [])
    (hinit : ∀ before last, fits (before ++ [last]) → fits before)
    (items : List Item) : retain fits items <:+ items := by
  induction items using List.reverseRecOn with
  | nil => exact List.suffix_rfl
  | append_singleton before last =>
      rw [retain_concat hnil hinit]
      exact evict_append_suffix before last

end NxccBridge.Eviction
