import Mathlib.Data.List.Basic
import Mathlib.Logic.Function.Basic

/-!
# Binary hash trees over a list

A list is reduced to one item by combining neighbours pass after pass, an item
without a neighbour being combined with itself.  Reducing digests computes a
root; reducing trees records what was hashed on the way.  Leaves and inner
nodes share one hash function and are not separated by a tag, so equal roots
identify two trees only down to where one of them ends.
-/

namespace NxccBridge.MerkleTree

open Function

/-! ## Reducing a list -/

section Reduce

variable {A B : Type*}

/-- One pass: neighbours are combined, a last item alone with itself. -/
def pairUp (combine : A → A → A) : List A → List A
  | [] => []
  | [last] => [combine last last]
  | first :: second :: rest =>
      combine first second :: pairUp combine rest

theorem length_pairUp (combine : A → A → A) (items : List A) :
    (pairUp combine items).length = (items.length + 1) / 2 := by
  induction items using pairUp.induct with
  | case1 => simp [pairUp]
  | case2 last => simp [pairUp]
  | case3 first second rest ih =>
      simp only [pairUp, List.length_cons, ih]
      omega

/-- Passes are made while more than one item is left. -/
def reduce (combine : A → A → A) : List A → Option A
  | [] => none
  | [only] => some only
  | first :: second :: rest =>
      reduce combine (pairUp combine (first :: second :: rest))
termination_by items => items.length
decreasing_by
  simp only [length_pairUp, List.length_cons]
  omega

theorem pairUp_map {combine : A → A → A} (combine' : B → B → B) {f : A → B}
    (hf : ∀ left right, f (combine left right) = combine' (f left) (f right))
    (items : List A) :
    pairUp combine' (items.map f) = (pairUp combine items).map f := by
  induction items using pairUp.induct with
  | case1 => rfl
  | case2 last => simp [pairUp, hf]
  | case3 first second rest ih => simp [pairUp, hf, ih]

/-- A map that respects the combination commutes with the reduction. -/
theorem reduce_map {combine : A → A → A} (combine' : B → B → B) {f : A → B}
    (hf : ∀ left right, f (combine left right) = combine' (f left) (f right))
    (items : List A) :
    reduce combine' (items.map f) = (reduce combine items).map f := by
  induction items using reduce.induct combine with
  | case1 => simp [reduce]
  | case2 only => simp [reduce]
  | case3 first second rest ih =>
      rw [← pairUp_map combine' hf] at ih
      simpa only [List.map_cons, reduce] using ih

theorem reduce_isSome (combine : A → A → A) {items : List A}
    (hitems : items ≠ []) : ∃ item, reduce combine items = some item := by
  induction items using reduce.induct combine with
  | case1 => exact absurd rfl hitems
  | case2 only => exact ⟨only, by rw [reduce]⟩
  | case3 first second rest ih =>
      obtain ⟨item, hitem⟩ := ih (by simp [pairUp])
      exact ⟨item, by rw [reduce, hitem]⟩

/-- What every pass keeps and every item has, the result has. -/
theorem reduce_induction {motive : List A → Prop} {combine : A → A → A}
    (hpass : ∀ items, motive items → motive (pairUp combine items))
    {items : List A} (hitems : motive items) {item : A}
    (hitem : reduce combine items = some item) : motive [item] := by
  induction items using reduce.induct combine with
  | case1 => simp [reduce] at hitem
  | case2 only =>
      simp only [reduce, Option.some.injEq] at hitem
      exact hitem ▸ hitems
  | case3 first second rest ih =>
      rw [reduce] at hitem
      exact ih (hpass _ hitems) hitem

end Reduce

/-! ## Trees -/

inductive HashTree (A : Type*)
  | leaf (value : A)
  | node (left right : HashTree A)
  deriving DecidableEq

namespace HashTree

variable {A : Type*}

def leaves : HashTree A → List A
  | leaf value => [value]
  | node left right => left.leaves ++ right.leaves

def shape : HashTree A → HashTree Unit
  | leaf _ => leaf ()
  | node left right => node left.shape right.shape

/-- The tree of the passes over a list of leaves. -/
def ofList (values : List A) : Option (HashTree A) :=
  reduce node (values.map leaf)

theorem ofList_isSome {values : List A} (hvalues : values ≠ []) :
    ∃ tree, ofList values = some tree :=
  reduce_isSome node (by simpa using hvalues)

/-- The leaves are the list, then what the odd passes repeated. -/
theorem prefix_leaves {values : List A} {tree : HashTree A}
    (htree : ofList values = some tree) : values <+: tree.leaves := by
  have hpass : ∀ trees : List (HashTree A),
      trees.flatMap leaves <+: (pairUp node trees).flatMap leaves := by
    intro trees
    induction trees using pairUp.induct with
    | case1 => simp [pairUp]
    | case2 last => simp [pairUp, leaves]
    | case3 first second rest ih =>
        simpa [pairUp, leaves, List.append_assoc] using ih
  have hleaves := reduce_induction
    (motive := fun trees => values <+: trees.flatMap leaves)
    (fun trees htrees => htrees.trans (hpass trees))
    (by simp [List.flatMap_map, leaves]) htree
  simpa using hleaves

/-- No pass invents a leaf. -/
theorem leaves_subset {values : List A} {tree : HashTree A}
    (htree : ofList values = some tree) : tree.leaves ⊆ values := by
  have hpass : ∀ trees : List (HashTree A),
      (pairUp node trees).flatMap leaves ⊆ trees.flatMap leaves := by
    intro trees
    induction trees using pairUp.induct with
    | case1 => simp [pairUp]
    | case2 last => simp [pairUp, leaves]
    | case3 first second rest ih =>
        simp only [pairUp, leaves, List.flatMap_cons, List.append_assoc]
        intro value hvalue
        simp only [List.mem_append] at hvalue ⊢
        exact hvalue.imp_right (Or.imp_right fun hrest => ih hrest)
  have hsubset := reduce_induction
    (motive := fun trees => trees.flatMap leaves ⊆ values)
    (fun trees htrees => List.Subset.trans (hpass trees) htrees)
    (by simp [List.flatMap_map, leaves]) htree
  simpa using hsubset

theorem shape_ofList {values others : List A} {tree other : HashTree A}
    (hlength : values.length = others.length)
    (htree : ofList values = some tree) (hother : ofList others = some other) :
    tree.shape = other.shape := by
  have hshape : ∀ items : List A, (ofList items).map shape =
      reduce node (List.replicate items.length (leaf ())) := by
    intro items
    rw [ofList, ← reduce_map node (fun _ _ => rfl), List.map_map]
    congr 1
    exact List.map_eq_replicate_iff.mpr fun _ _ => rfl
  have heq : some tree.shape = some other.shape := by
    calc some tree.shape = (ofList values).map shape := by rw [htree]; rfl
      _ = (ofList others).map shape := by rw [hshape, hshape, hlength]
      _ = some other.shape := by rw [hother]; rfl
  exact Option.some.inj heq

/-- Lists of one length are read off their trees. -/
theorem ofList_inj {values others : List A} {tree : HashTree A}
    (hlength : values.length = others.length)
    (htree : ofList values = some tree) (hother : ofList others = some tree) :
    values = others := by
  have hvalues := List.prefix_iff_eq_take.mp (prefix_leaves htree)
  have hothers := List.prefix_iff_eq_take.mp (prefix_leaves hother)
  rw [hvalues, hothers, hlength]

end HashTree

/-! ## Digests and collisions -/

section Digest

variable {Message Digest : Type*}

/-- Two different messages of a list with one digest. -/
def Collision (hash : Message → Digest) (messages : List Message) : Prop :=
  ∃ left ∈ messages, ∃ right ∈ messages, left ≠ right ∧ hash left = hash right

instance [DecidableEq Message] [DecidableEq Digest] (hash : Message → Digest)
    (messages : List Message) : Decidable (Collision hash messages) :=
  inferInstanceAs (Decidable (∃ left ∈ messages, ∃ right ∈ messages,
    left ≠ right ∧ hash left = hash right))

theorem Collision.mono {hash : Message → Digest} {messages more : List Message}
    (hcollision : Collision hash messages) (hmore : messages ⊆ more) :
    Collision hash more := by
  obtain ⟨left, hleft, right, hright, hdistinct⟩ := hcollision
  exact ⟨left, hmore hleft, right, hmore hright, hdistinct⟩

variable (hash : Message → Digest) (pair : Digest → Digest → Message)

/-- The message hashed at the top of a tree. -/
def HashTree.message : HashTree Message → Message
  | leaf value => value
  | node left right => pair (hash left.message) (hash right.message)

def HashTree.digest (tree : HashTree Message) : Digest := hash (tree.message hash pair)

/-- Every message hashed in a tree. -/
def HashTree.messages : HashTree Message → List Message
  | leaf value => [value]
  | node left right =>
      (node left right).message hash pair :: (left.messages ++ right.messages)

/-- Reducing digests computes the digest of the reduced tree. -/
theorem reduce_digest (values : List Message) :
    reduce (fun left right => hash (pair left right)) (values.map hash) =
      (HashTree.ofList values).map (HashTree.digest hash pair) := by
  rw [HashTree.ofList, ← reduce_map (f := HashTree.digest hash pair)
    (fun left right => hash (pair left right)) (fun _ _ => rfl), List.map_map]
  rfl

theorem HashTree.message_mem_messages (tree : HashTree Message) :
    tree.message hash pair ∈ tree.messages hash pair := by
  cases tree with
  | leaf value => simp [HashTree.messages, HashTree.message]
  | node left right => simp [HashTree.messages]

/-- Two trees agree down to where one of them ends; a leaf of one may spell the
two digests that the other hashes in its place. -/
inductive Agree : HashTree Message → HashTree Message → Prop
  | leaf (value : Message) : Agree (.leaf value) (.leaf value)
  | node {left right left' right' : HashTree Message} :
      Agree left left' → Agree right right' →
        Agree (.node left right) (.node left' right')
  | leafNode (left right : HashTree Message) :
      Agree (.leaf (pair (left.digest hash pair) (right.digest hash pair)))
        (.node left right)
  | nodeLeaf (left right : HashTree Message) :
      Agree (.node left right)
        (.leaf (pair (left.digest hash pair) (right.digest hash pair)))

variable {hash pair}

theorem Agree.message_eq {left right : HashTree Message}
    (hagree : Agree hash pair left right) :
    left.message hash pair = right.message hash pair := by
  induction hagree with
  | leaf value => rfl
  | node _ _ hleft hright => simp only [HashTree.message, hleft, hright]
  | leafNode left right => rfl
  | nodeLeaf left right => rfl

theorem Agree.refl (tree : HashTree Message) : Agree hash pair tree tree := by
  induction tree with
  | leaf value => exact Agree.leaf value
  | node _ _ hleft hright => exact Agree.node hleft hright

theorem Agree.eq_of_shape {left right : HashTree Message}
    (hagree : Agree hash pair left right) (hshape : left.shape = right.shape) :
    left = right := by
  induction hagree with
  | leaf value => rfl
  | node _ _ hleft hright =>
      simp only [HashTree.shape, HashTree.node.injEq] at hshape
      rw [hleft hshape.1, hright hshape.2]
  | leafNode left right => simp [HashTree.shape] at hshape
  | nodeLeaf left right => simp [HashTree.shape] at hshape

/-- Trees whose leaves spell no two digests agree only when they are equal. -/
theorem Agree.eq_of_leaves {left right : HashTree Message}
    (hagree : Agree hash pair left right)
    (hleaves : ∀ value ∈ left.leaves ++ right.leaves,
      ∀ first second, value ≠ pair first second) : left = right := by
  induction hagree with
  | leaf value => rfl
  | node _ _ hleft hright =>
      simp only [HashTree.leaves, List.mem_append] at hleaves hleft hright
      rw [hleft fun value hvalue => hleaves value (by tauto),
        hright fun value hvalue => hleaves value (by tauto)]
  | leafNode left right =>
      exact absurd rfl (hleaves (pair (left.digest hash pair)
        (right.digest hash pair)) (by simp [HashTree.leaves]) _ _)
  | nodeLeaf left right =>
      exact absurd rfl (hleaves (pair (left.digest hash pair)
        (right.digest hash pair)) (by simp [HashTree.leaves]) _ _)

/-- Without a collision among the hashed messages, equal top messages come from
agreeing trees. -/
theorem agree_of_message_eq (hpair : ∀ left right left' right',
      pair left right = pair left' right' → left = left' ∧ right = right')
    {left right : HashTree Message}
    (hfree : ¬Collision hash
      (left.messages hash pair ++ right.messages hash pair))
    (heq : left.message hash pair = right.message hash pair) :
    Agree hash pair left right := by
  induction left generalizing right with
  | leaf value =>
      cases right with
      | leaf other =>
          simp only [HashTree.message] at heq
          exact heq ▸ Agree.leaf value
      | node first second =>
          simp only [HashTree.message] at heq
          exact heq ▸ Agree.leafNode first second
  | node first second ihFirst ihSecond =>
      cases right with
      | leaf other =>
          simp only [HashTree.message] at heq
          exact heq ▸ Agree.nodeLeaf first second
      | node first' second' =>
          obtain ⟨hfirst, hsecond⟩ := hpair _ _ _ _ heq
          have hchild : ∀ child child' : HashTree Message,
              child.messages hash pair ⊆ (first.messages hash pair ++
                second.messages hash pair) →
              child'.messages hash pair ⊆ (first'.messages hash pair ++
                second'.messages hash pair) →
              hash (child.message hash pair) =
                hash (child'.message hash pair) →
              ¬Collision hash (child.messages hash pair ++
                child'.messages hash pair) ∧
              child.message hash pair = child'.message hash pair := by
            intro child child' hsub hsub' hdigest
            have hmore : child.messages hash pair ++
                child'.messages hash pair ⊆
                (HashTree.node first second).messages hash pair ++
                  (HashTree.node first' second').messages hash pair := by
              apply List.append_subset.mpr
              constructor
              · intro message hmessage
                exact List.mem_append_left _
                  (List.mem_cons_of_mem _ (hsub hmessage))
              · intro message hmessage
                exact List.mem_append_right _
                  (List.mem_cons_of_mem _ (hsub' hmessage))
            refine ⟨fun hcollision => hfree (hcollision.mono hmore), ?_⟩
            by_contra hdistinct
            exact hfree ⟨_, hmore (List.mem_append_left _
                (child.message_mem_messages hash pair)), _,
              hmore (List.mem_append_right _
                (child'.message_mem_messages hash pair)), hdistinct, hdigest⟩
          obtain ⟨hfreeFirst, heqFirst⟩ := hchild first first'
            (List.subset_append_left _ _) (List.subset_append_left _ _) hfirst
          obtain ⟨hfreeSecond, heqSecond⟩ := hchild second second'
            (List.subset_append_right _ _) (List.subset_append_right _ _)
            hsecond
          exact Agree.node (ihFirst hfreeFirst heqFirst)
            (ihSecond hfreeSecond heqSecond)

/-- Equal digests: the trees agree, or a collision is exhibited. -/
theorem agree_of_digest_eq (hpair : ∀ left right left' right',
      pair left right = pair left' right' → left = left' ∧ right = right')
    {left right : HashTree Message}
    (heq : left.digest hash pair = right.digest hash pair) :
    Agree hash pair left right ∨ Collision hash
      (left.messages hash pair ++ right.messages hash pair) := by
  by_cases hcollision : Collision hash
      (left.messages hash pair ++ right.messages hash pair)
  · exact Or.inr hcollision
  apply Or.inl
  apply agree_of_message_eq hpair hcollision
  by_contra hdistinct
  exact hcollision ⟨_, List.mem_append_left _
      (left.message_mem_messages hash pair), _,
    List.mem_append_right _ (right.message_mem_messages hash pair),
    hdistinct, heq⟩

end Digest

end NxccBridge.MerkleTree
