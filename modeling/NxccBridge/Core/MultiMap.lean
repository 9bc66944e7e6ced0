import Mathlib.Data.List.Nodup

/-!
# Multimaps in the order of insertion

A key may have several values.  The keys stand in the order in which they were
first inserted, and the values of a key in the order in which they were appended.
A multimap is rebuilt by appending what is read from it.
-/

namespace NxccBridge.Multimaps

variable {Key Value : Type*} [DecidableEq Key]

/-! ## Entries -/

def appendTo (key : Key) (value : Value) :
    List (Key × List Value) → List (Key × List Value)
  | [] => [(key, [value])]
  | entry :: rest =>
      if entry.1 = key then (entry.1, entry.2 ++ [value]) :: rest
      else entry :: appendTo key value rest

theorem keys_appendTo (key : Key) (value : Value)
    (entries : List (Key × List Value)) :
    (appendTo key value entries).map Prod.fst =
      if key ∈ entries.map Prod.fst then entries.map Prod.fst
      else entries.map Prod.fst ++ [key] := by
  induction entries with
  | nil => simp [appendTo]
  | cons entry rest ih =>
      by_cases hkey : entry.1 = key
      · simp [appendTo, hkey]
      · rw [appendTo, if_neg hkey, List.map_cons, ih, List.map_cons]
        by_cases hrest : key ∈ rest.map Prod.fst
        · rw [if_pos hrest, if_pos (List.mem_cons_of_mem _ hrest)]
        · have hcons : key ∉ entry.1 :: rest.map Prod.fst := by
            rw [List.mem_cons, not_or]
            exact ⟨fun heq => hkey heq.symm, hrest⟩
          rw [if_neg hrest, if_neg hcons, List.cons_append]

theorem nodup_appendTo {key : Key} {value : Value}
    {entries : List (Key × List Value)}
    (hnodup : (entries.map Prod.fst).Nodup) :
    ((appendTo key value entries).map Prod.fst).Nodup := by
  rw [keys_appendTo]
  split
  · exact hnodup
  · next hkey => exact List.nodup_append.mpr ⟨hnodup, by simp, by
      intro left hleft right hright heq
      rw [List.mem_singleton.mp hright] at heq
      exact hkey (heq ▸ hleft)⟩

theorem nonempty_appendTo {key : Key} {value : Value}
    {entries : List (Key × List Value)}
    (hnonempty : ∀ entry ∈ entries, entry.2 ≠ []) :
    ∀ entry ∈ appendTo key value entries, entry.2 ≠ [] := by
  induction entries with
  | nil => simp [appendTo]
  | cons first rest ih =>
      have hrest : ∀ entry ∈ rest, entry.2 ≠ [] := fun entry hentry =>
        hnonempty entry (List.mem_cons_of_mem _ hentry)
      intro entry hentry
      rw [appendTo] at hentry
      split at hentry
      · rcases List.mem_cons.mp hentry with rfl | htail
        · simp
        · exact hrest entry htail
      · rcases List.mem_cons.mp hentry with rfl | htail
        · exact hnonempty _ List.mem_cons_self
        · exact ih hrest entry htail

/-- A new key goes to the end. -/
theorem appendTo_new {key : Key} (value : Value)
    {entries : List (Key × List Value)}
    (hkey : key ∉ entries.map Prod.fst) :
    appendTo key value entries = entries ++ [(key, [value])] := by
  induction entries with
  | nil => rfl
  | cons entry rest ih =>
      rw [List.map_cons, List.mem_cons, not_or] at hkey
      rw [appendTo, if_neg fun heq => hkey.1 heq.symm, ih hkey.2,
        List.cons_append]

/-- A further value of the last key goes behind its values. -/
theorem appendTo_last {key : Key} (value : Value)
    {entries : List (Key × List Value)} (values : List Value)
    (hkey : key ∉ entries.map Prod.fst) :
    appendTo key value (entries ++ [(key, values)]) =
      entries ++ [(key, values ++ [value])] := by
  induction entries with
  | nil => simp [appendTo]
  | cons entry rest ih =>
      rw [List.map_cons, List.mem_cons, not_or] at hkey
      rw [List.cons_append, appendTo, if_neg fun heq => hkey.1 heq.symm,
        ih hkey.2, List.cons_append]

/-! ## Multimaps -/

/-- Every key has a value, and stands once. -/
structure MultiMap (Key Value : Type*) where
  entries : List (Key × List Value)
  nodup : (entries.map Prod.fst).Nodup
  nonempty : ∀ entry ∈ entries, entry.2 ≠ []

namespace MultiMap

def empty : MultiMap Key Value := ⟨[], List.nodup_nil, by simp⟩

def append (map : MultiMap Key Value) (item : Key × Value) :
    MultiMap Key Value where
  entries := appendTo item.1 item.2 map.entries
  nodup := nodup_appendTo map.nodup
  nonempty := nonempty_appendTo map.nonempty

/-- Each key with each of its values. -/
def iter (map : MultiMap Key Value) : List (Key × Value) :=
  map.entries.flatMap fun entry => entry.2.map fun value => (entry.1, value)

def ofItems (items : List (Key × Value)) : MultiMap Key Value :=
  items.foldl append empty

omit [DecidableEq Key] in
theorem eq_of_entries {left right : MultiMap Key Value}
    (hentries : left.entries = right.entries) : left = right := by
  cases left
  cases right
  cases hentries
  rfl

theorem entries_foldl (items : List (Key × Value)) (map : MultiMap Key Value) :
    (items.foldl append map).entries =
      items.foldl (fun entries item => appendTo item.1 item.2 entries)
        map.entries := by
  induction items generalizing map with
  | nil => rfl
  | cons item rest ih => rw [List.foldl_cons, List.foldl_cons, ih, append]

/-- The values of one new key, appended one after the other. -/
theorem foldl_appendTo_group {key : Key} {entries : List (Key × List Value)}
    (hkey : key ∉ entries.map Prod.fst) (before after : List Value) :
    (after.map fun value => (key, value)).foldl
        (fun entries item => appendTo item.1 item.2 entries)
        (entries ++ [(key, before)]) =
      entries ++ [(key, before ++ after)] := by
  induction after generalizing before with
  | nil => simp
  | cons value rest ih =>
      rw [List.map_cons, List.foldl_cons, appendTo_last value before hkey, ih,
        List.append_assoc, List.singleton_append]

theorem foldl_appendTo_groups (before after : List (Key × List Value))
    (hnodup : ((before ++ after).map Prod.fst).Nodup)
    (hnonempty : ∀ entry ∈ after, entry.2 ≠ []) :
    (after.flatMap fun entry => entry.2.map fun value => (entry.1, value)).foldl
        (fun entries item => appendTo item.1 item.2 entries) before =
      before ++ after := by
  induction after generalizing before with
  | nil => simp
  | cons entry rest ih =>
      obtain ⟨key, values⟩ := entry
      obtain ⟨first, others, rfl⟩ := List.exists_cons_of_ne_nil
        (hnonempty (key, values) List.mem_cons_self)
      have hkey : key ∉ before.map Prod.fst := by
        rw [List.map_append] at hnodup
        intro hmem
        exact (List.nodup_append.mp hnodup).2.2 key hmem key (by simp) rfl
      rw [List.flatMap_cons, List.foldl_append, List.map_cons, List.foldl_cons,
        appendTo_new first hkey, foldl_appendTo_group hkey,
        List.singleton_append]
      have hbefore : before ++ (key, first :: others) :: rest =
          before ++ [(key, first :: others)] ++ rest := by simp
      rw [hbefore] at hnodup ⊢
      exact ih _ hnodup fun entry hentry =>
        hnonempty entry (List.mem_cons_of_mem _ hentry)

/-- Appending what is read from a multimap rebuilds it. -/
@[simp]
theorem ofItems_iter (map : MultiMap Key Value) : ofItems map.iter = map := by
  apply eq_of_entries
  rw [ofItems, entries_foldl, iter]
  exact foldl_appendTo_groups [] map.entries map.nodup map.nonempty

end MultiMap

end NxccBridge.Multimaps
