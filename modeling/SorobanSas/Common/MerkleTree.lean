import SorobanSas.Common.Merkle
import SorobanSas.Library.HashTree

namespace SorobanSas

open Library
open BytesN (toArray)

/-!
# Merkle roots

`merkle_root` hashes the leaves and combines the digests level by level; an odd node is promoted
unchanged.  `verify_proof` and `verify_proof_with` climb from a leaf along a list of siblings.  The
position of the leaf is not part of a proof, since the two children of a node are sorted before they
are hashed.

A hash function has collisions, so that a proof binds the leaf is a statement about the byte strings
that are hashed: those of the tree and those of the proof.  If no two of them have the same digest,
then the tags of leaves and nodes and the fixed length of a digest determine what was hashed.
-/

structure MerkleRoot where
  hash : BytesN 32
  deriving DecidableEq, Repr

structure MerkleProofStep where
  sibling : BytesN 32
  deriving DecidableEq, Repr

section

variable (crypto : Crypto)

def leafHash : Bytes -> BytesN 32 := leafHashWith crypto.sha256

def nodeHash : BytesN 32 -> BytesN 32 -> BytesN 32 := nodeHashWith crypto.sha256

/-- `merkle_root`.  Without leaves the last `unwrap` traps. -/
def merkleRoot (leaves : List Bytes) : Option MerkleRoot :=
  (collapse (nodeHash crypto) (leaves.map (leafHash crypto))).map .mk

def verifyProof (root : MerkleRoot) (leafData : Bytes) (proof : List MerkleProofStep) : Bool :=
  proof.foldl (fun current step => nodeHash crypto current step.sibling)
    (leafHash crypto leafData) = root.hash

/-- The string that is hashed for a leaf or for a node. -/
def merkleMessage : HashInput Bytes (BytesN 32) -> Bytes
  | .leaf data => 0x00 :: data
  | .node first second =>
    if first <= second then 0x01 :: (toArray first ++ toArray second)
    else 0x01 :: (toArray second ++ toArray first)

/-- The tree whose root `merkle_root` computes. -/
def merkleTree (leaves : List Bytes) : Option (HashTree Bytes) := collapse .node (leaves.map .leaf)

/-- Every string that `merkle_root` hashes. -/
def rootMessages (leaves : List Bytes) : List Bytes :=
  (merkleTree leaves).elim [] fun tree => (tree.inputs (leafHash crypto) (nodeHash crypto)).map merkleMessage

/-- Every string that is hashed to verify a proof. -/
def proofMessages (leafData : Bytes) (siblings : List (BytesN 32)) : List Bytes :=
  (HashInput.climb (leafHash crypto) (nodeHash crypto) leafData siblings).map merkleMessage

/-- SHA-256 has no collision among the strings of a tree and of a proof. -/
def NoMerkleCollision (leaves : List Bytes) (leafData : Bytes) (siblings : List (BytesN 32)) : Prop :=
  Set.InjOn crypto.sha256
    {message | message ∈ rootMessages crypto leaves ++ proofMessages crypto leafData siblings}

end

variable {crypto : Crypto} {siblings : List (BytesN 32)}

/-! ## What is hashed -/

theorem nodeHash_symm (first second : BytesN 32) : nodeHash crypto first second = nodeHash crypto second first := by
  unfold nodeHash nodeHashWith
  by_cases ordered : first <= second
  · by_cases reversed : second <= first
    · have same : first = second := BitVec.le_antisymm ordered reversed
      rw [same]
    · rw [if_pos ordered, if_neg reversed]
  · have reversed : second <= first := by
      rcases BitVec.le_total first second with le | le
      · exact absurd le ordered
      · exact le
    rw [if_neg ordered, if_pos reversed]

theorem hash_eq_sha256 (input : HashInput Bytes (BytesN 32)) :
    input.hash (leafHash crypto) (nodeHash crypto) = crypto.sha256 (merkleMessage input) := by
  cases input with
  | leaf => rfl
  | node first second =>
    change nodeHashWith crypto.sha256 first second = _
    by_cases ordered : first <= second
    · simp only [nodeHashWith, merkleMessage, if_pos ordered]
    · simp only [nodeHashWith, merkleMessage, if_neg ordered]

/-- The two digests of a node, in some order. -/
theorem merkleMessage_node (first second : BytesN 32) :
    ∃ left right, merkleMessage (.node first second) = 0x01 :: (toArray left ++ toArray right) ∧
      (left = first ∧ right = second ∨ left = second ∧ right = first) := by
  by_cases ordered : first <= second
  · exact ⟨first, second, if_pos ordered, .inl ⟨rfl, rfl⟩⟩
  · exact ⟨second, first, if_neg ordered, .inr ⟨rfl, rfl⟩⟩

/-- A string determines what it was made of, up to the order of the children. -/
theorem agrees_of_merkleMessage_eq {known climbed : HashInput Bytes (BytesN 32)}
    (same : merkleMessage known = merkleMessage climbed) : known.Agrees climbed := by
  cases known with
  | leaf =>
    cases climbed with
    | leaf => exact (List.cons.inj same).2.symm
    | node first second =>
      rcases merkleMessage_node first second with ⟨left, right, message, -⟩
      rw [message] at same
      exact absurd (List.cons.inj same).1 (by decide)
  | node left right =>
    rcases merkleMessage_node left right with ⟨inner, outer, message, sides⟩
    rw [message] at same
    cases climbed with
    | leaf => exact absurd (List.cons.inj same).1 (by decide)
    | node below sibling =>
      rcases merkleMessage_node below sibling with ⟨inner', outer', message', sides'⟩
      rw [message'] at same
      have parts := List.append_inj (List.cons.inj same).2
        ((BytesN.length_toArray inner).trans (BytesN.length_toArray inner').symm)
      have first : inner = inner' := BytesN.toArray_injective parts.1
      have second : outer = outer' := BytesN.toArray_injective parts.2
      subst first
      subst second
      change below = left ∨ below = right
      rcases sides with ⟨rfl, rfl⟩ | ⟨rfl, rfl⟩
      · rcases sides' with ⟨rfl, rfl⟩ | ⟨rfl, rfl⟩
        · exact .inl rfl
        · exact .inr rfl
      · rcases sides' with ⟨rfl, rfl⟩ | ⟨rfl, rfl⟩
        · exact .inr rfl
        · exact .inl rfl

/-! ## Proofs against a root -/

theorem merkleRoot_eq_label {leaves : List Bytes} {tree : HashTree Bytes} (built : merkleTree leaves = some tree) :
    merkleRoot crypto leaves = some ⟨tree.label (leafHash crypto) (nodeHash crypto)⟩ := by
  have labels := HashTree.label_collapse (leafHash crypto) (nodeHash crypto) leaves
  rw [merkleTree] at built
  rw [built] at labels
  rw [merkleRoot, ← labels]
  rfl

theorem verifyProof_iff {root : MerkleRoot} {leafData : Bytes} :
    verifyProof crypto root leafData (siblings.map .mk) = true ↔
      siblings.foldl (nodeHash crypto) (leafHash crypto leafData) = root.hash := by
  rw [verifyProof, List.foldl_map, decide_eq_true_iff]

theorem verifyProofWith_iff {root : MerkleRoot} {leafData : Bytes} :
    verifyProofWith crypto.sha256 root.hash leafData siblings = true ↔ siblings.length <= maxMerkleProofDepth ∧
        siblings.foldl (nodeHash crypto) (leafHash crypto leafData) = root.hash := by
  unfold verifyProofWith
  by_cases long : maxMerkleProofDepth < siblings.length
  · simp [long]
  · simp only [if_neg long, decide_eq_true_eq, Nat.le_of_not_lt long, true_and]
    rfl

/-- Merkle proofs are complete and sound for every list of at most 2^31 leaves. -/
theorem merkle_proofs_exact (crypto : Crypto) (leaves : List Bytes) (nonempty : leaves ≠ [])
    (bounded : leaves.length ≤ 2 ^ 31) : ∃ root, merkleRoot crypto leaves = some root ∧
      (forall (index : Nat) (leaf : Bytes), leaves[index]? = some leaf ->
        ∃ siblings : List (BytesN 32), siblings.length ≤ maxMerkleProofDepth ∧
          verifyProof crypto root leaf (siblings.map .mk) = true ∧
          verifyProofWith crypto.sha256 root.hash leaf siblings = true) ∧
      forall (data : Bytes) (siblings : List (BytesN 32)), NoMerkleCollision crypto leaves data siblings ->
        verifyProof crypto root data (siblings.map .mk) = true ∨
          verifyProofWith crypto.sha256 root.hash data siblings = true -> data ∈ leaves := by
  have filled : leaves.map HashTree.leaf ≠ [] := by simpa using nonempty
  rcases exists_collapse HashTree.node filled with ⟨tree, built⟩
  have committed : tree.leaves = leaves := HashTree.leaves_collapse built
  refine ⟨_, merkleRoot_eq_label built, ?_, ?_⟩
  · intro index leaf found
    have member : leaf ∈ tree.leaves := by
      rw [committed]
      exact List.mem_of_getElem? found
    have shallow : tree.depth ≤ 0 + 31 := by
      refine HashTree.depth_collapse (by simpa using bounded) ?_ built
      intro single among
      rcases List.mem_map.mp among with ⟨data, -, rfl⟩
      exact Nat.le_refl 0
    rcases tree.exists_opening nodeHash_symm member with ⟨siblings, short, reaches⟩
    have fits : siblings.length ≤ maxMerkleProofDepth := by
      unfold maxMerkleProofDepth
      omega
    exact ⟨siblings, fits, verifyProof_iff.mpr reaches, verifyProofWith_iff.mpr ⟨fits, reaches⟩⟩
  · intro data siblings distinct accepted
    have reached : siblings.foldl (nodeHash crypto) (leafHash crypto data) =
        tree.label (leafHash crypto) (nodeHash crypto) := by
      rcases accepted with plain | limited
      · exact verifyProof_iff.mp plain
      · exact (verifyProofWith_iff.mp limited).2
    rw [← committed]
    refine HashTree.mem_leaves_of_climb ?_ reached
    intro known inTree climbed inProof same
    rw [hash_eq_sha256, hash_eq_sha256] at same
    apply agrees_of_merkleMessage_eq
    apply distinct ?_ ?_ same
    · refine List.mem_append_left _ ?_
      rw [rootMessages, merkleTree, built]
      exact List.mem_map_of_mem inTree
    · exact List.mem_append_right _ (List.mem_map_of_mem inProof)

/-- Digests of the leaves 1 and 2 and of the node above them. -/
def twoLeafCrypto : Crypto :=
  .ofTable [([0, 1], 11), ([0, 2], 12), (0x01 :: (toArray (11 : BytesN 32) ++ toArray (12 : BytesN 32)), 13)] []

/-- What is hashed for the root, and again for the second leaf and its proof. -/
def twoLeafMessages : List Bytes :=
  [0x01 :: (toArray (11 : BytesN 32) ++ toArray (12 : BytesN 32)), [0, 1], [0, 2],
    [0, 2], 0x01 :: (toArray (11 : BytesN 32) ++ toArray (12 : BytesN 32))]

/-- A tree of two leaves, and the proof of the second. -/
theorem merkle_proofs_exact_two : ∃ root, merkleRoot twoLeafCrypto [[1], [2]] = some root ∧
      NoMerkleCollision twoLeafCrypto [[1], [2]] [2] [11] ∧
      verifyProof twoLeafCrypto root [2] [⟨11⟩] = true ∧ [2] ∈ [[1], [(2 : UInt8)]] := by
  rcases merkle_proofs_exact twoLeafCrypto [[1], [2]] (by decide) (by decide)
    with ⟨root, computed, -, sound⟩
  have tree : merkleTree [[1], [2]] = some (.node (.leaf [1]) (.leaf [2])) := by
    rw [merkleTree, collapse_of_long (by decide), collapse_of_short (by decide)]
    rfl
  have value : root = ⟨13⟩ := by
    rw [merkleRoot_eq_label tree] at computed
    cases computed
    decide
  have distinct : NoMerkleCollision twoLeafCrypto [[1], [2]] [2] [11] := by
    have pairs : ∀ first ∈ twoLeafMessages, forall second, second ∈ twoLeafMessages ->
        twoLeafCrypto.sha256 first = twoLeafCrypto.sha256 second -> first = second := by
      decide
    have messages : rootMessages twoLeafCrypto [[1], [2]] ++ proofMessages twoLeafCrypto [2] [11] =
        twoLeafMessages := by
      rw [rootMessages, tree]
      decide
    rw [NoMerkleCollision, messages]
    intro first among second other same
    exact pairs first among second other same
  subst value
  have accepted : verifyProof twoLeafCrypto ⟨13⟩ [2] [⟨11⟩] = true := rfl
  exact ⟨_, computed, distinct, accepted, sound _ [11] distinct (.inl accepted)⟩

end SorobanSas
