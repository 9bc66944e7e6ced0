import Mathlib.Data.List.Basic
import Mathlib.Logic.Function.Basic
import Mathlib.Order.Basic
import Mathlib.Order.Lattice
import Mathlib.Tactic.SplitIfs

/-!
# Stores that keep the latest entry

A store maps keys to stamped entries.  An offered entry is taken when its key
is free or when its stamp is strictly larger than the stored one, so ties keep
what came first.  The stamps form a join and do not depend on the order of the
offers; the entries themselves do not either as soon as the latest offers for
a key agree.
-/

namespace NxccBridge.LastWriter

open Function

variable {Key Entry Stamp : Type*} [LinearOrder Stamp]

section OneKey

variable (stamp : Entry → Stamp)

/-- The incoming entry is taken over the current one. -/
def Supersedes (current : Option Entry) (incoming : Entry) : Prop :=
  ∀ entry, current = some entry → stamp entry < stamp incoming

instance (current : Option Entry) (incoming : Entry) :
    Decidable (Supersedes stamp current incoming) :=
  match current with
  | none => isTrue (fun _ heq => nomatch heq)
  | some entry =>
      decidable_of_iff (stamp entry < stamp incoming)
        ⟨fun hlt _ heq => Option.some.inj heq ▸ hlt, fun h => h entry rfl⟩

def supersede (current : Option Entry) (incoming : Entry) : Option Entry :=
  if Supersedes stamp current incoming then some incoming else current

/-- What is stored stays as it is or gives way to a larger stamp. -/
def Advances (before after : Option Entry) : Prop :=
  ∀ entry, before = some entry →
    ∃ last, after = some last ∧ (last = entry ∨ stamp entry < stamp last)

/-- `result` is what is left of `current` and the offered `entries`: a free key
stays free without offers, and a change is an offer with a larger stamp. -/
structure IsLatest (current : Option Entry) (entries : List Entry)
    (result : Option Entry) : Prop where
  source : result = current ∨
    ∃ entry ∈ entries, result = some entry ∧ Supersedes stamp current entry
  current_le : ∀ entry, current = some entry →
    ∃ last, result = some last ∧ stamp entry ≤ stamp last
  offered_le : ∀ entry ∈ entries,
    ∃ last, result = some last ∧ stamp entry ≤ stamp last

variable {stamp}

@[simp]
theorem supersedes_none (incoming : Entry) :
    Supersedes stamp none incoming := by
  intro entry heq
  cases heq

@[simp]
theorem supersedes_some (entry incoming : Entry) :
    Supersedes stamp (some entry) incoming ↔ stamp entry < stamp incoming := by
  simp [Supersedes]

theorem supersede_of_not {current : Option Entry} {incoming : Entry}
    (hstale : ¬ Supersedes stamp current incoming) :
    supersede stamp current incoming = current := by
  simp [supersede, hstale]

theorem supersede_of {current : Option Entry} {incoming : Entry}
    (hfresh : Supersedes stamp current incoming) :
    supersede stamp current incoming = some incoming := by
  simp [supersede, hfresh]

/-- One offer never lowers the stamp, and leaves at least the offered one. -/
theorem supersede_isLatest (current : Option Entry) (incoming : Entry) :
    IsLatest stamp current [incoming] (supersede stamp current incoming) := by
  by_cases hfresh : Supersedes stamp current incoming
  · rw [supersede_of hfresh]
    exact {
      source := Or.inr ⟨incoming, by simp, rfl, hfresh⟩
      current_le := fun entry hentry =>
        ⟨incoming, rfl, le_of_lt (hfresh entry hentry)⟩
      offered_le := by simp }
  · rw [supersede_of_not hfresh]
    cases current with
    | none => exact absurd (supersedes_none incoming) hfresh
    | some entry =>
        rw [supersedes_some, not_lt] at hfresh
        exact {
          source := Or.inl rfl
          current_le := fun _ hentry => ⟨entry, rfl, by simp_all⟩
          offered_le := fun _ hoffer => ⟨entry, rfl, by simp_all⟩ }

theorem IsLatest.trans {current middle result : Option Entry}
    {left right : List Entry} (hleft : IsLatest stamp current left middle)
    (hright : IsLatest stamp middle right result) :
    IsLatest stamp current (left ++ right) result where
  source := by
    rcases hright.source with hsame | ⟨entry, hmem, hresult, hnewer⟩
    · rcases hleft.source with hstill | ⟨entry, hmem, hmiddle, hnewer⟩
      · exact Or.inl (hsame.trans hstill)
      · exact Or.inr ⟨entry, List.mem_append_left _ hmem,
          hsame.trans hmiddle, hnewer⟩
    · refine Or.inr ⟨entry, List.mem_append_right _ hmem, hresult, ?_⟩
      intro old hold
      obtain ⟨last, hmiddle, hle⟩ := hleft.current_le old hold
      exact lt_of_le_of_lt hle (hnewer last hmiddle)
  current_le := by
    intro entry hentry
    obtain ⟨last, hmiddle, hle⟩ := hleft.current_le entry hentry
    obtain ⟨final, hresult, hle'⟩ := hright.current_le last hmiddle
    exact ⟨final, hresult, le_trans hle hle'⟩
  offered_le := by
    intro entry hentry
    rcases List.mem_append.mp hentry with hmem | hmem
    · obtain ⟨last, hmiddle, hle⟩ := hleft.offered_le entry hmem
      obtain ⟨final, hresult, hle'⟩ := hright.current_le last hmiddle
      exact ⟨final, hresult, le_trans hle hle'⟩
    · exact hright.offered_le entry hmem

theorem isLatest_nil (current : Option Entry) :
    IsLatest stamp current [] current where
  source := Or.inl rfl
  current_le := fun entry hentry => ⟨entry, hentry, le_refl _⟩
  offered_le := by simp

theorem foldl_supersede_isLatest (entries : List Entry)
    (current : Option Entry) :
    IsLatest stamp current entries
      (entries.foldl (supersede stamp) current) := by
  induction entries generalizing current with
  | nil => exact isLatest_nil current
  | cons entry entries ih =>
      exact (supersede_isLatest current entry).trans (ih _)

theorem Advances.refl (current : Option Entry) :
    Advances stamp current current :=
  fun entry hentry => ⟨entry, hentry, Or.inl rfl⟩

theorem Advances.trans {before middle after : Option Entry}
    (hleft : Advances stamp before middle)
    (hright : Advances stamp middle after) : Advances stamp before after := by
  intro entry hentry
  obtain ⟨last, hlast, hsame | hlt⟩ := hleft entry hentry
  · exact hsame ▸ hright last hlast
  · obtain ⟨final, hfinal, hsame | hlt'⟩ := hright last hlast
    · exact ⟨final, hfinal, Or.inr (hsame ▸ hlt)⟩
    · exact ⟨final, hfinal, Or.inr (lt_trans hlt hlt')⟩

theorem IsLatest.advances {current result : Option Entry} {entries : List Entry}
    (hlatest : IsLatest stamp current entries result) :
    Advances stamp current result := by
  intro entry hentry
  rcases hlatest.source with hsame | ⟨last, -, hresult, hnewer⟩
  · exact ⟨entry, hsame.trans hentry, Or.inl rfl⟩
  · exact ⟨last, hresult, Or.inr (hnewer entry hentry)⟩

/-- The key changes exactly when some offer beats the current entry. -/
theorem IsLatest.ne_iff {current result : Option Entry} {entries : List Entry}
    (hlatest : IsLatest stamp current entries result) :
    result ≠ current ↔ ∃ entry ∈ entries, Supersedes stamp current entry := by
  constructor
  · intro hne
    rcases hlatest.source with hsame | ⟨entry, hmem, _, hnewer⟩
    · exact absurd hsame hne
    · exact ⟨entry, hmem, hnewer⟩
  · rintro ⟨entry, hmem, hnewer⟩ hsame
    obtain ⟨last, hlast, hle⟩ := hlatest.offered_le entry hmem
    exact absurd (hnewer last (hsame ▸ hlast)) (not_lt.mpr hle)

/-- A later offer is taken if it beats the first entry and every offer so
far. -/
theorem IsLatest.supersedes_iff {current result : Option Entry}
    {entries : List Entry} (hlatest : IsLatest stamp current entries result)
    (incoming : Entry) :
    Supersedes stamp result incoming ↔
      Supersedes stamp current incoming ∧
        ∀ entry ∈ entries, stamp entry < stamp incoming := by
  constructor
  · intro hnewer
    constructor
    · intro entry hentry
      obtain ⟨last, hlast, hle⟩ := hlatest.current_le entry hentry
      exact lt_of_le_of_lt hle (hnewer last hlast)
    · intro entry hmem
      obtain ⟨last, hlast, hle⟩ := hlatest.offered_le entry hmem
      exact lt_of_le_of_lt hle (hnewer last hlast)
  · rintro ⟨hcurrent, hentries⟩ last hlast
    rcases hlatest.source with hsame | ⟨entry, hmem, hresult, _⟩
    · exact hcurrent last (hsame ▸ hlast)
    · have heq : entry = last := Option.some.inj (hresult.symm.trans hlast)
      exact heq ▸ hentries entry hmem

/-- The stamps that are left do not depend on the order of the offers. -/
theorem IsLatest.stamp_eq {current left right : Option Entry}
    {leftEntries rightEntries : List Entry}
    (hleft : IsLatest stamp current leftEntries left)
    (hright : IsLatest stamp current rightEntries right)
    (hsame : ∀ entry, entry ∈ leftEntries ↔ entry ∈ rightEntries) :
    left.map stamp = right.map stamp := by
  have hle : ∀ {first second : Option Entry} {entries others : List Entry},
      IsLatest stamp current entries first →
      IsLatest stamp current others second →
      (∀ entry, entry ∈ entries → entry ∈ others) →
      ∀ last, first = some last →
        ∃ other, second = some other ∧ stamp last ≤ stamp other := by
    intro first second entries others hfirst hsecond hsub last hlast
    rcases hfirst.source with hcurrent | ⟨entry, hmem, hentry, _⟩
    · exact hsecond.current_le last (hcurrent ▸ hlast)
    · have heq : entry = last := Option.some.inj (hentry.symm.trans hlast)
      exact heq ▸ hsecond.offered_le entry (hsub entry hmem)
  cases left with
  | none =>
      cases right with
      | none => rfl
      | some last =>
          obtain ⟨other, hother, -⟩ := hle hright hleft
            (fun entry hmem => (hsame entry).mpr hmem) last rfl
          cases hother
  | some last =>
      obtain ⟨other, hother, hforth⟩ := hle hleft hright
        (fun entry hmem => (hsame entry).mp hmem) last rfl
      obtain ⟨back, hback, hbackward⟩ := hle hright hleft
        (fun entry hmem => (hsame entry).mpr hmem) other hother
      have heq : back = last := Option.some.inj hback.symm
      subst heq
      simp [hother, le_antisymm hforth hbackward]

/-- Where the latest offers agree, so do the entries that are left. -/
theorem IsLatest.eq {current left right : Option Entry}
    {leftEntries rightEntries : List Entry}
    (hleft : IsLatest stamp current leftEntries left)
    (hright : IsLatest stamp current rightEntries right)
    (hsame : ∀ entry, entry ∈ leftEntries ↔ entry ∈ rightEntries)
    (hagree : ∀ first ∈ leftEntries, ∀ second ∈ leftEntries,
      Supersedes stamp current first → stamp first = stamp second →
      (∀ entry ∈ leftEntries, stamp entry ≤ stamp first) →
        first = second) : left = right := by
  have hstamp := hleft.stamp_eq hright hsame
  rcases hleft.source with hcurrent | ⟨first, hfirst, hleftEq, hnewer⟩
  · rcases hright.source with hcurrent' | ⟨second, -, hrightEq, hnewer⟩
    · rw [hcurrent, hcurrent']
    · rw [hcurrent, hrightEq] at hstamp
      cases current with
      | none => simp at hstamp
      | some entry =>
          rw [supersedes_some] at hnewer
          exact absurd (Option.some.inj hstamp) (ne_of_lt hnewer)
  · rcases hright.source with hcurrent' | ⟨second, hsecond, hrightEq, -⟩
    · rw [hcurrent', hleftEq] at hstamp
      cases current with
      | none => simp at hstamp
      | some entry =>
          rw [supersedes_some] at hnewer
          exact absurd (Option.some.inj hstamp).symm (ne_of_lt hnewer)
    · rw [hleftEq, hrightEq] at hstamp ⊢
      have htop : ∀ entry ∈ leftEntries, stamp entry ≤ stamp first := by
        intro entry hentry
        obtain ⟨last, hlast, hle⟩ := hleft.offered_le entry hentry
        have heq : first = last := Option.some.inj (hleftEq.symm.trans hlast)
        exact heq ▸ hle
      rw [hagree first hfirst second ((hsame second).mpr hsecond) hnewer
        (Option.some.inj hstamp) htop]

end OneKey

section Store

variable [DecidableEq Key] (stamp : Entry → Stamp)

/-- Offer one entry under its key. -/
def offer (store : Key → Option Entry) (incoming : Key × Entry) :
    Key → Option Entry :=
  update store incoming.1 (supersede stamp (store incoming.1) incoming.2)

/-- The entries offered under one key. -/
def offersFor (key : Key) (offers : List (Key × Entry)) : List Entry :=
  (offers.filter (fun incoming => incoming.1 = key)).map Prod.snd

variable {stamp}

theorem mem_offersFor {key : Key} {offers : List (Key × Entry)}
    {entry : Entry} : entry ∈ offersFor key offers ↔ (key, entry) ∈ offers := by
  simp [offersFor]

theorem offer_apply (store : Key → Option Entry) (incoming : Key × Entry)
    (key : Key) :
    offer stamp store incoming key =
      (offersFor key [incoming]).foldl (supersede stamp) (store key) := by
  by_cases hkey : incoming.1 = key
  · subst hkey
    simp [offer, offersFor]
  · simp [offer, offersFor, hkey, update_of_ne (Ne.symm hkey)]

theorem foldl_offer_apply (offers : List (Key × Entry))
    (store : Key → Option Entry) (key : Key) :
    offers.foldl (offer stamp) store key =
      (offersFor key offers).foldl (supersede stamp) (store key) := by
  induction offers generalizing store with
  | nil => rfl
  | cons incoming offers ih =>
      rw [List.foldl_cons, ih, offer_apply, ← List.foldl_append]
      congr 1
      by_cases hkey : incoming.1 = key <;> simp [offersFor, hkey]

/-- Each key of the store holds the latest of its entry and its offers. -/
theorem foldl_offer_isLatest (offers : List (Key × Entry))
    (store : Key → Option Entry) (key : Key) :
    IsLatest stamp (store key) (offersFor key offers)
      (offers.foldl (offer stamp) store key) := by
  rw [foldl_offer_apply]
  exact foldl_supersede_isLatest _ _

/-- Offering while counting the entries taken. -/
def offerCounted (stamp : Entry → Stamp) (state : (Key → Option Entry) × ℕ)
    (incoming : Key × Entry) : (Key → Option Entry) × ℕ :=
  if Supersedes stamp (state.1 incoming.1) incoming.2 then
    (update state.1 incoming.1 (some incoming.2), state.2 + 1)
  else state

theorem offerCounted_fst (state : (Key → Option Entry) × ℕ)
    (incoming : Key × Entry) :
    (offerCounted stamp state incoming).1 = offer stamp state.1 incoming := by
  by_cases hfresh : Supersedes stamp (state.1 incoming.1) incoming.2
  · simp [offerCounted, offer, supersede, hfresh]
  · simp [offerCounted, offer, supersede, hfresh]

theorem foldl_offerCounted_fst (offers : List (Key × Entry))
    (state : (Key → Option Entry) × ℕ) :
    (offers.foldl (offerCounted stamp) state).1 =
      offers.foldl (offer stamp) state.1 := by
  induction offers generalizing state with
  | nil => rfl
  | cons incoming offers ih =>
      rw [List.foldl_cons, ih, offerCounted_fst, List.foldl_cons]

theorem le_foldl_offerCounted (offers : List (Key × Entry))
    (state : (Key → Option Entry) × ℕ) :
    state.2 ≤ (offers.foldl (offerCounted stamp) state).2 := by
  induction offers generalizing state with
  | nil => exact le_refl _
  | cons incoming offers ih =>
      refine le_trans ?_ (ih _)
      unfold offerCounted
      split_ifs
      · exact Nat.le_succ _
      · exact le_refl _

/-- The count moves exactly when some offer beats the entry the store started
with. -/
theorem lt_foldl_offerCounted_iff (offers : List (Key × Entry))
    (state : (Key → Option Entry) × ℕ) :
    state.2 < (offers.foldl (offerCounted stamp) state).2 ↔
      ∃ incoming ∈ offers,
        Supersedes stamp (state.1 incoming.1) incoming.2 := by
  induction offers generalizing state with
  | nil => simp
  | cons incoming offers ih =>
      rw [List.foldl_cons]
      by_cases hfresh : Supersedes stamp (state.1 incoming.1) incoming.2
      · have hstep : (offerCounted stamp state incoming).2 = state.2 + 1 := by
          simp [offerCounted, hfresh]
        have hle : (offerCounted stamp state incoming).2 ≤
            (offers.foldl (offerCounted stamp)
              (offerCounted stamp state incoming)).2 :=
          le_foldl_offerCounted offers _
        exact iff_of_true (by omega) ⟨incoming, by simp, hfresh⟩
      · have hstep : offerCounted stamp state incoming = state := by
          simp [offerCounted, hfresh]
        rw [hstep, ih]
        simp [hfresh]

/-- The count moves exactly when the store changes somewhere. -/
theorem lt_foldl_offerCounted_iff_ne (offers : List (Key × Entry))
    (state : (Key → Option Entry) × ℕ) :
    state.2 < (offers.foldl (offerCounted stamp) state).2 ↔
      ∃ key, offers.foldl (offer stamp) state.1 key ≠ state.1 key := by
  rw [lt_foldl_offerCounted_iff]
  constructor
  · rintro ⟨⟨key, entry⟩, hmem, hfresh⟩
    exact ⟨key, (foldl_offer_isLatest offers state.1 key).ne_iff.mpr
      ⟨entry, mem_offersFor.mpr hmem, hfresh⟩⟩
  · rintro ⟨key, hne⟩
    obtain ⟨entry, hmem, hfresh⟩ :=
      (foldl_offer_isLatest offers state.1 key).ne_iff.mp hne
    exact ⟨(key, entry), mem_offersFor.mp hmem, hfresh⟩

end Store

end NxccBridge.LastWriter
