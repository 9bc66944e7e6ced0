import NxccBridge.Attestation.Freshness

/-!
# What a Merkle root commits to

Two block lists with one root carry the same blocks when they have one length.
Otherwise an odd level that repeats its last hash, or a block whose bytes spell
two hashes of the other list, can give a second list with the same root.
-/

namespace NxccBridge.Freshness

open Function
open NxccBridge.Framing
open NxccBridge.LittleEndian
open NxccBridge.Indexing
open NxccBridge.MerkleTree
open NxccBridge.Interface

theorem pairBytes_inj (left right left' right' : Sha256Digest)
    (heq : pairBytes left right = pairBytes left' right') :
    left = left' ∧ right = right' := by
  obtain ⟨hleft, hright⟩ := List.append_inj heq (by simp)
  exact ⟨Subtype.ext hleft, Subtype.ext hright⟩

/-- The triple a block contributes to its leaf. -/
def committed (block : BlockInfo) : UInt64 × UInt64 × Bytes :=
  (block.chainId, block.blockNumber, block.blockHash)

theorem leafBytes_eq_iff {left right : BlockInfo} :
    leafBytes left = leafBytes right ↔ committed left = committed right := by
  constructor
  · intro heq
    simp only [leafBytes, List.append_assoc] at heq
    obtain ⟨hchain, htail⟩ := u64.toLeBytes_selfDelimiting _ _ _ _ heq
    obtain ⟨hnumber, hhash⟩ := u64.toLeBytes_selfDelimiting _ _ _ _ htail
    rw [committed, committed, hchain, hnumber, hhash]
  · intro heq
    simp only [committed, Prod.mk.injEq] at heq
    rw [leafBytes, leafBytes, heq.1, heq.2.1, heq.2.2]

theorem map_leafBytes_eq_iff {left right : List BlockInfo} :
    left.map leafBytes = right.map leafBytes ↔
      left.map committed = right.map committed := by
  induction left generalizing right with
  | nil => simp
  | cons head tail ih =>
      cases right with
      | nil => simp
      | cons other others =>
          simp only [List.map_cons, List.cons.injEq, leafBytes_eq_iff, ih]

/-! ## Trees of blocks -/

section Binding

variable (sha256 : Bytes → Sha256Digest)

def blockTree (blocks : List BlockInfo) : Option (HashTree Bytes) :=
  HashTree.ofList (blocks.map leafBytes)

/-- The strings hashed while the root of a list is computed. -/
def hashedStrings (blocks : List BlockInfo) : List Bytes :=
  ((blockTree blocks).map (HashTree.messages sha256 pairBytes)).getD []

theorem computeMerkleRoot_eq (blocks : List BlockInfo) :
    computeMerkleRoot sha256 blocks =
      ((blockTree blocks).map (HashTree.digest sha256 pairBytes)).getD
        zeroRoot := by
  have hleaves : (blocks.map fun block => sha256 (leafBytes block)) =
      (blocks.map leafBytes).map sha256 := by rw [List.map_map]; rfl
  rw [computeMerkleRoot, hleaves, reduce_digest, blockTree]

/-- A collision, or a preimage of the all-zero root, among some strings. -/
def Exhibited (strings : List Bytes) : Prop :=
  Collision sha256 strings ∨ ∃ string ∈ strings, sha256 string = zeroRoot

/-- The root binds two lists to each other. -/
def Binds (left right : List BlockInfo) : Prop :=
  computeMerkleRoot sha256 left = computeMerkleRoot sha256 right →
    left.map committed = right.map committed ∨
      Exhibited sha256
        (hashedStrings sha256 left ++ hashedStrings sha256 right)

/-- Different lists whose padded trees agree. -/
def Confusable (left right : List BlockInfo) : Prop :=
  left.map committed ≠ right.map committed ∧
    ∃ tree other, blockTree left = some tree ∧ blockTree right = some other ∧
      Agree sha256 pairBytes tree other

variable {sha256}

theorem exists_blockTree {blocks : List BlockInfo} (hblocks : blocks ≠ []) :
    ∃ tree, blockTree blocks = some tree :=
  HashTree.ofList_isSome (by simpa using hblocks)

theorem computeMerkleRoot_of_tree {blocks : List BlockInfo}
    {tree : HashTree Bytes} (htree : blockTree blocks = some tree) :
    computeMerkleRoot sha256 blocks = tree.digest sha256 pairBytes := by
  rw [computeMerkleRoot_eq, htree]
  rfl

theorem hashedStrings_of_tree {blocks : List BlockInfo}
    {tree : HashTree Bytes} (htree : blockTree blocks = some tree) :
    hashedStrings sha256 blocks = tree.messages sha256 pairBytes := by
  rw [hashedStrings, htree]
  rfl

/-- The empty list has the all-zero root, any other list that of a hash. -/
theorem exhibited_of_nil {blocks : List BlockInfo} (hblocks : blocks ≠ [])
    (heq : computeMerkleRoot sha256 [] = computeMerkleRoot sha256 blocks) :
    ∃ string ∈ hashedStrings sha256 blocks, sha256 string = zeroRoot := by
  obtain ⟨tree, htree⟩ := exists_blockTree hblocks
  have hzero : computeMerkleRoot sha256 [] = zeroRoot := by
    rw [computeMerkleRoot, List.map_nil, reduce]
    rfl
  refine ⟨tree.message sha256 pairBytes, ?_, ?_⟩
  · rw [hashedStrings_of_tree htree]
    exact tree.message_mem_messages sha256 pairBytes
  · calc sha256 (tree.message sha256 pairBytes) =
          computeMerkleRoot sha256 blocks :=
        (computeMerkleRoot_of_tree htree).symm
      _ = zeroRoot := by rw [← heq, hzero]

/-- Two nonempty lists with one root: their trees agree, or two of the hashed
strings collide. -/
theorem agree_of_root_eq {left right : List BlockInfo}
    {tree other : HashTree Bytes} (htree : blockTree left = some tree)
    (hother : blockTree right = some other)
    (heq : computeMerkleRoot sha256 left = computeMerkleRoot sha256 right) :
    Agree sha256 pairBytes tree other ∨ Collision sha256
      (hashedStrings sha256 left ++ hashedStrings sha256 right) := by
  rw [computeMerkleRoot_of_tree htree, computeMerkleRoot_of_tree hother] at heq
  rw [hashedStrings_of_tree htree, hashedStrings_of_tree hother]
  exact agree_of_digest_eq pairBytes_inj heq

/-- Lists of one length are bound up to a collision. -/
theorem committed_eq_of_root_eq {left right : List BlockInfo}
    (hlength : left.length = right.length)
    (heq : computeMerkleRoot sha256 left = computeMerkleRoot sha256 right) :
    left.map committed = right.map committed ∨ Collision sha256
      (hashedStrings sha256 left ++ hashedStrings sha256 right) := by
  by_cases hleft : left = []
  · subst hleft
    have hright : right = [] := List.length_eq_zero_iff.mp hlength.symm
    exact Or.inl (by rw [hright])
  have hright : right ≠ [] := by
    rintro rfl
    exact hleft (List.length_eq_zero_iff.mp hlength)
  obtain ⟨tree, htree⟩ := exists_blockTree hleft
  obtain ⟨other, hother⟩ := exists_blockTree hright
  rcases agree_of_root_eq htree hother heq with hagree | hcollision
  · have hleaves : (left.map leafBytes).length =
        (right.map leafBytes).length := by simpa using hlength
    have hsame := hagree.eq_of_shape
      (HashTree.shape_ofList hleaves htree hother)
    have hlists := HashTree.ofList_inj hleaves htree (hsame ▸ hother)
    exact Or.inl (map_leafBytes_eq_iff.mp hlists)
  · exact Or.inr hcollision

/-- Where no block hash has 48 bytes, only the repetitions of odd levels confuse
two lists. -/
theorem confusable_iff_of_hash_length {left right : List BlockInfo}
    (hhash : ∀ block ∈ left ++ right, block.blockHash.length ≠ 48) :
    Confusable sha256 left right ↔
      left.map committed ≠ right.map committed ∧
        blockTree left = blockTree right := by
  have hleaf : ∀ value ∈ left.map leafBytes ++ right.map leafBytes,
      ∀ first second : Sha256Digest, value ≠ pairBytes first second := by
    intro value hvalue first second heq
    rw [← List.map_append] at hvalue
    obtain ⟨block, hblock, rfl⟩ := List.mem_map.mp hvalue
    have hlength := congrArg List.length heq
    simp only [leafBytes, pairBytes, List.length_append, length_octets,
      Word.length_toLeBytes, u64] at hlength
    exact hhash block hblock (by omega)
  constructor
  · rintro ⟨hdistinct, tree, other, htree, hother, hagree⟩
    have hsame := hagree.eq_of_leaves fun value hvalue => hleaf value
      (List.append_subset.mpr
        ⟨List.Subset.trans (HashTree.leaves_subset htree)
            (List.subset_append_left _ _),
          List.Subset.trans (HashTree.leaves_subset hother)
            (List.subset_append_right _ _)⟩ hvalue)
    exact ⟨hdistinct, by rw [htree, hother, hsame]⟩
  · rintro ⟨hdistinct, hsame⟩
    have hleft : left ≠ [] := by
      rintro rfl
      by_cases hright : right = []
      · exact hdistinct (by rw [hright])
      obtain ⟨tree, htree⟩ := exists_blockTree hright
      rw [htree] at hsame
      simp [blockTree, HashTree.ofList, reduce] at hsame
    obtain ⟨tree, htree⟩ := exists_blockTree hleft
    exact ⟨hdistinct, tree, tree, htree, hsame ▸ htree, Agree.refl tree⟩

/-- The root binds two lists exactly if they are not confusable, up to what is
exhibited. -/
theorem binds_iff (left right : List BlockInfo) :
    Binds sha256 left right ↔
      (Confusable sha256 left right → Exhibited sha256
        (hashedStrings sha256 left ++ hashedStrings sha256 right)) := by
  constructor
  · rintro hbinds ⟨hdistinct, tree, other, htree, hother, hagree⟩
    have hroot : computeMerkleRoot sha256 left =
        computeMerkleRoot sha256 right := by
      rw [computeMerkleRoot_of_tree htree, computeMerkleRoot_of_tree hother]
      exact congrArg sha256 hagree.message_eq
    exact (hbinds hroot).resolve_left hdistinct
  · intro hconfusable heq
    by_cases hsame : left.map committed = right.map committed
    · exact Or.inl hsame
    apply Or.inr
    by_cases hleft : left = []
    · subst hleft
      have hright : right ≠ [] := by
        rintro rfl
        exact hsame rfl
      obtain ⟨string, hstring, hzero⟩ := exhibited_of_nil hright heq
      exact Or.inr ⟨string, List.mem_append_right _ hstring, hzero⟩
    by_cases hright : right = []
    · subst hright
      obtain ⟨string, hstring, hzero⟩ := exhibited_of_nil hleft heq.symm
      exact Or.inr ⟨string, List.mem_append_left _ hstring, hzero⟩
    obtain ⟨tree, htree⟩ := exists_blockTree hleft
    obtain ⟨other, hother⟩ := exists_blockTree hright
    rcases agree_of_root_eq htree hother heq with hagree | hcollision
    · exact hconfusable ⟨hsame, tree, other, htree, hother, hagree⟩
    · exact Or.inl hcollision

end Binding

/-! ## A repeated last block -/

instance (sha256 : Bytes → Sha256Digest) (strings : List Bytes) :
    Decidable (Exhibited sha256 strings) :=
  inferInstanceAs (Decidable (Collision sha256 strings ∨
    ∃ string ∈ strings, sha256 string = zeroRoot))

/-- A polynomial of the bytes in place of SHA-256. -/
def sampleSha256 (bytes : Bytes) : Sha256Digest :=
  ⟨LittleEndian.encode 32
    (bytes.foldl (fun state byte => state * 257 + byte.val + 1) 1),
    length_encode 32 _⟩

def threeBlocks : List BlockInfo :=
  [sampleBlock 1 7 1, sampleBlock 10 8 2, sampleBlock 56 9 3]

/-- The last of three blocks once more. -/
def fourBlocks : List BlockInfo := threeBlocks ++ [sampleBlock 56 9 3]

def sampleTree : HashTree Bytes :=
  .node (.node (.leaf (leafBytes (sampleBlock 1 7 1)))
      (.leaf (leafBytes (sampleBlock 10 8 2))))
    (.node (.leaf (leafBytes (sampleBlock 56 9 3)))
      (.leaf (leafBytes (sampleBlock 56 9 3))))

theorem blockTree_threeBlocks : blockTree threeBlocks = some sampleTree := by
  simp [blockTree, HashTree.ofList, threeBlocks, reduce, pairUp, sampleTree]

theorem blockTree_fourBlocks : blockTree fourBlocks = some sampleTree := by
  simp [blockTree, HashTree.ofList, fourBlocks, threeBlocks, reduce, pairUp,
    sampleTree]

/-- Three blocks, and the last of them twice, have one root. -/
theorem root_not_binding :
    ¬∀ (sha256 : Bytes → Sha256Digest) (left right : List BlockInfo),
      Binds sha256 left right := by
  intro hall
  have hroot : computeMerkleRoot sampleSha256 threeBlocks =
      computeMerkleRoot sampleSha256 fourBlocks := by
    rw [computeMerkleRoot_of_tree blockTree_threeBlocks,
      computeMerkleRoot_of_tree blockTree_fourBlocks]
  rcases hall sampleSha256 threeBlocks fourBlocks hroot with
    hsame | hexhibited
  · exact absurd (congrArg List.length hsame) (by decide)
  · rw [hashedStrings_of_tree blockTree_threeBlocks,
      hashedStrings_of_tree blockTree_fourBlocks] at hexhibited
    have hfree : ¬Exhibited sampleSha256
        (sampleTree.messages sampleSha256 pairBytes ++
          sampleTree.messages sampleSha256 pairBytes) := by
      decide +kernel
    exact hfree hexhibited

end NxccBridge.Freshness
