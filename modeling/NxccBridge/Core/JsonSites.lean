import NxccBridge.Core.Serde

/-!
# Replacing objects inside a JSON value

A traversal that replaces the objects of one kind, the sites, wherever they
stand in a value, and threads a state through them.  It is a loop over the
sites in their order, and its value is a substitution: each site by what it
stands for, and everything else as it was.
-/

namespace NxccBridge.JsonSites

open NxccBridge.RoundTrip
open NxccBridge.Serde

abbrev Members := List (String × JsonValue)

/-! ## The values inside a value -/

def children : JsonValue → List JsonValue
  | .array elements => elements
  | .object members => members.map Prod.snd
  | _ => []

theorem sizeOf_lt_of_mem_children {value child : JsonValue}
    (hchild : child ∈ children value) : sizeOf child < sizeOf value := by
  cases value with
  | array elements =>
      have hlt : sizeOf child < sizeOf elements :=
        List.sizeOf_lt_of_mem hchild
      rw [JsonValue.array.sizeOf_spec]
      omega
  | object members =>
      obtain ⟨⟨name, member⟩, hmember, rfl⟩ := List.mem_map.mp hchild
      have hlt := List.sizeOf_lt_of_mem hmember
      rw [Prod.mk.sizeOf_spec] at hlt
      rw [JsonValue.object.sizeOf_spec]
      dsimp only
      omega
  | _ => exact absurd hchild List.not_mem_nil

/-- What holds of a value whenever it holds of its children holds of every
value. -/
theorem children_induction {motive : JsonValue → Prop}
    (step : ∀ value, (∀ child ∈ children value, motive child) → motive value)
    (value : JsonValue) : motive value :=
  step value fun child _ => children_induction step child
termination_by sizeOf value
decreasing_by exact sizeOf_lt_of_mem_children ‹_›

/-- A value stands somewhere in another one. -/
inductive Occurs (part : JsonValue) : JsonValue → Prop
  | whole : Occurs part part
  | child {value child : JsonValue} (hchild : child ∈ children value)
      (hoccurs : Occurs part child) : Occurs part value

theorem occurs_iff (part value : JsonValue) :
    Occurs part value ↔
      part = value ∨ ∃ child ∈ children value, Occurs part child := by
  constructor
  · intro hoccurs
    cases hoccurs with
    | whole => exact Or.inl rfl
    | child hchild hoccurs => exact Or.inr ⟨_, hchild, hoccurs⟩
  · rintro (rfl | ⟨child, hchild, hoccurs⟩)
    · exact Occurs.whole
    · exact Occurs.child hchild hoccurs

/-! ## Sites and substitution -/

section Sites

variable (isSite : Members → Bool)

mutual

/-- The sites in the order in which a traversal meets them.  A site is not
searched for others. -/
def sites : JsonValue → List Members
  | .array elements => elementSites elements
  | .object members =>
      if isSite members then [members] else memberSites members
  | _ => []

def elementSites : List JsonValue → List Members
  | [] => []
  | element :: rest => sites element ++ elementSites rest

def memberSites : Members → List Members
  | [] => []
  | (_, value) :: rest => sites value ++ memberSites rest

end

variable (replace : Members → JsonValue)

mutual

/-- The value with every site replaced. -/
def substitute : JsonValue → JsonValue
  | .array elements => .array (substituteElements elements)
  | .object members =>
      if isSite members then replace members
      else .object (substituteMembers members)
  | value => value

def substituteElements : List JsonValue → List JsonValue
  | [] => []
  | element :: rest => substitute element :: substituteElements rest

def substituteMembers : Members → Members
  | [] => []
  | (name, value) :: rest => (name, substitute value) :: substituteMembers rest

end

variable {isSite} {replace}

theorem substituteElements_eq (elements : List JsonValue) :
    substituteElements isSite replace elements =
      elements.map (substitute isSite replace) := by
  induction elements with
  | nil => rfl
  | cons element rest ih => rw [substituteElements, ih, List.map_cons]

theorem substituteMembers_eq (members : Members) :
    substituteMembers isSite replace members =
      members.map fun member =>
        (member.1, substitute isSite replace member.2) := by
  induction members with
  | nil => rfl
  | cons member rest ih => rw [substituteMembers, ih, List.map_cons]

theorem map_fst_substituteMembers (members : Members) :
    (substituteMembers isSite replace members).map Prod.fst =
      members.map Prod.fst := by
  rw [substituteMembers_eq, List.map_map]
  rfl

/-- No site is left when sites are told by their names and nothing that
replaces one contains one. -/
theorem not_isSite_of_occurs_substitute
    (hnames : ∀ left right : Members,
      left.map Prod.fst = right.map Prod.fst → isSite left = isSite right)
    (hreplace : ∀ members part,
      Occurs (.object part) (replace members) → isSite part = false)
    (value : JsonValue) (part : Members)
    (hoccurs : Occurs (.object part) (substitute isSite replace value)) :
    isSite part = false := by
  induction value using children_induction with
  | step value ih =>
  have hchildren : ∀ child ∈ (children value).map
        (substitute isSite replace),
      Occurs (.object part) child → isSite part = false := by
    intro child hchild hpart
    obtain ⟨old, hold, rfl⟩ := List.mem_map.mp hchild
    exact ih old hold hpart
  cases value with
  | array elements =>
      rw [substitute, substituteElements_eq, occurs_iff] at hoccurs
      cases hoccurs with
      | inl heq => cases heq
      | inr hinside =>
          obtain ⟨child, hchild, hpart⟩ := hinside
          exact hchildren child hchild hpart
  | object members =>
      rw [substitute] at hoccurs
      split_ifs at hoccurs with hsite
      · exact hreplace members part hoccurs
      rw [occurs_iff] at hoccurs
      cases hoccurs with
      | inl heq =>
          cases heq
          rw [hnames _ members (map_fst_substituteMembers members)]
          exact Bool.eq_false_iff.mpr hsite
      | inr hinside =>
          obtain ⟨child, hchild, hpart⟩ := hinside
          rw [children, substituteMembers_eq, List.map_map] at hchild
          apply hchildren child _ hpart
          rw [children, List.map_map]
          exact hchild
  | _ =>
      rw [substitute, occurs_iff] at hoccurs
      · simp [children] at hoccurs
      all_goals simp

end Sites

/-! ## The traversal -/

variable {Failure State : Type} (isSite : Members → Bool)
variable (act : Members → State → Except Failure (JsonValue × State))

mutual

/-- Replace the sites one after the other and stop at the first failure. -/
def replaceSites : JsonValue → State →
    Except Failure (JsonValue × State)
  | .array elements, state => do
      let (elements, state) ← replaceInElements elements state
      .ok (.array elements, state)
  | .object members, state =>
      if isSite members then act members state
      else do
        let (members, state) ← replaceInMembers members state
        .ok (.object members, state)
  | value, state => .ok (value, state)

def replaceInElements : List JsonValue → State →
    Except Failure (List JsonValue × State)
  | [], state => .ok ([], state)
  | element :: rest, state => do
      let (element, state) ← replaceSites element state
      let (rest, state) ← replaceInElements rest state
      .ok (element :: rest, state)

def replaceInMembers : Members → State → Except Failure (Members × State)
  | [], state => .ok ([], state)
  | (name, value) :: rest, state => do
      let (value, state) ← replaceSites value state
      let (rest, state) ← replaceInMembers rest state
      .ok ((name, value) :: rest, state)

end

/-- The loop over the sites alone. -/
def visitAll : List Members → State → Except Failure State
  | [], state => .ok state
  | members :: rest, state => do
      let (_, state) ← act members state
      visitAll rest state

variable {act}

theorem visitAll_append (before after : List Members) (state : State) :
    visitAll act (before ++ after) state =
      (visitAll act before state >>= visitAll act after) := by
  induction before generalizing state with
  | nil => rfl
  | cons members rest ih =>
      rw [List.cons_append, visitAll, visitAll]
      cases act members state with
      | error failure => rfl
      | ok result => exact ih result.2

/-- A loop fails at the first site that fails. -/
theorem visitAll_eq_error_iff {visited : List Members} {state : State}
    {failure : Failure} :
    visitAll act visited state = .error failure ↔
      ∃ before members after reached, visited = before ++ members :: after ∧
        visitAll act before state = .ok reached ∧
        act members reached = .error failure := by
  constructor
  · intro hfails
    induction visited generalizing state with
    | nil => cases hfails
    | cons members rest ih =>
        rw [visitAll] at hfails
        cases hact : act members state with
        | error reason =>
            rw [hact] at hfails
            cases hfails
            exact ⟨[], members, rest, state, rfl, rfl, hact⟩
        | ok result =>
            rw [hact] at hfails
            obtain ⟨before, failed, after, reached, rfl, hbefore, hfailed⟩ :=
              ih hfails
            refine ⟨members :: before, failed, after, reached, rfl, ?_,
              hfailed⟩
            rw [visitAll, hact]
            exact hbefore
  · rintro ⟨before, members, after, reached, rfl, hbefore, hact⟩
    rw [visitAll_append, hbefore, ok_bind, visitAll, hact]
    rfl

variable {isSite} {replace : Members → JsonValue}

/-- The traversal of a value as the loop over its sites. -/
def IsLoop (isSite : Members → Bool)
    (act : Members → State → Except Failure (JsonValue × State))
    (replace : Members → JsonValue) (value : JsonValue) : Prop :=
  ∀ state, replaceSites isSite act value state =
    (visitAll act (sites isSite value) state).map
      (substitute isSite replace value, ·)

theorem replaceInElements_eq {elements : List JsonValue}
    (helements : ∀ element ∈ elements, IsLoop isSite act replace element)
    (state : State) :
    replaceInElements isSite act elements state =
      (visitAll act (elementSites isSite elements) state).map
        (substituteElements isSite replace elements, ·) := by
  induction elements generalizing state with
  | nil => rfl
  | cons element rest ih =>
      rw [List.forall_mem_cons] at helements
      rw [replaceInElements, helements.1, elementSites, visitAll_append,
        substituteElements]
      cases visitAll act (sites isSite element) state with
      | error failure => rfl
      | ok reached =>
          simp only [Except.map, ok_bind, ih helements.2]
          cases visitAll act (elementSites isSite rest) reached <;> rfl

theorem replaceInMembers_eq {members : Members}
    (hmembers : ∀ member ∈ members, IsLoop isSite act replace member.2)
    (state : State) :
    replaceInMembers isSite act members state =
      (visitAll act (memberSites isSite members) state).map
        (substituteMembers isSite replace members, ·) := by
  induction members generalizing state with
  | nil => rfl
  | cons member rest ih =>
      rw [List.forall_mem_cons] at hmembers
      rw [replaceInMembers, hmembers.1, memberSites, visitAll_append,
        substituteMembers]
      cases visitAll act (sites isSite member.2) state with
      | error failure => rfl
      | ok reached =>
          simp only [Except.map, ok_bind, ih hmembers.2]
          cases visitAll act (memberSites isSite rest) reached <;> rfl

/-- When the state does not decide what a site is replaced by, the traversal is
the loop over the sites together with the substitution. -/
theorem replaceSites_eq
    (hact : ∀ members state value next,
      act members state = .ok (value, next) → value = replace members)
    (value : JsonValue) : IsLoop isSite act replace value := by
  induction value using children_induction with
  | step value ih =>
  intro state
  cases value with
  | array elements =>
      have helements : ∀ element ∈ elements,
          IsLoop isSite act replace element := ih
      rw [replaceSites, replaceInElements_eq helements, sites, substitute]
      cases visitAll act (elementSites isSite elements) state <;> rfl
  | object members =>
      rw [replaceSites, sites, substitute]
      split_ifs with hsite
      · rw [visitAll]
        cases hresult : act members state with
        | error failure => rfl
        | ok result =>
            rw [← hact members state result.1 result.2 hresult]
            rfl
      · have hmembers : ∀ member ∈ members,
            IsLoop isSite act replace member.2 :=
          fun member hmember => ih member.2 (List.mem_map_of_mem hmember)
        rw [replaceInMembers_eq hmembers]
        cases visitAll act (memberSites isSite members) state <;> rfl
  | _ => rfl

end NxccBridge.JsonSites
