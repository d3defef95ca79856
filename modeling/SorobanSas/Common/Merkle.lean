import SorobanSas.Common.Hashing

namespace SorobanSas

open Library

/-!
# Merkle proofs

The tree format of `soroban_sas_common::merkle`.  A leaf and an inner node are hashed under
different tags, and the two children of a node enter its hash in sorted order, so a proof is
the list of siblings alone.
-/

inductive MerkleHash where
  | sha256
  | keccak256
  deriving DecidableEq, Repr

def maxMerkleProofDepth : Nat := 32

section

variable (digest : Bytes -> BytesN 32)

def leafHashWith (data : Bytes) : BytesN 32 := digest (0x00 :: data)

/-- `node_hash_with`.  The arrays are compared byte by byte, which for arrays of one length is
the order of the words they denote. -/
def nodeHashWith (first second : BytesN 32) : BytesN 32 :=
  if first <= second then digest (0x01 :: (BytesN.toArray first ++ BytesN.toArray second))
  else digest (0x01 :: (BytesN.toArray second ++ BytesN.toArray first))

def verifyProofWith (root : BytesN 32) (leafData : Bytes) (siblings : List (BytesN 32)) : Bool :=
  if maxMerkleProofDepth < siblings.length then false
  else siblings.foldl (nodeHashWith digest) (leafHashWith digest leafData) = root

end

/-- `digest`, with Keccak-256 as the host computes it. -/
def MerkleHash.digest (crypto : Crypto) (keccak256 : Bytes -> BytesN 32) : MerkleHash -> Bytes -> BytesN 32
  | .sha256 => crypto.sha256
  | .keccak256 => keccak256

/-- A byte string of full length as the word it denotes: `BytesN::from_array`. -/
def BytesN.ofArray (length : Nat) (bytes : Bytes) : BytesN length := BitVec.ofNat _ (fromBigEndian bytes)

theorem BytesN.ofArray_toArray {length : Nat} (value : BytesN length) : ofArray length (toArray value) = value := by
  have below := value.isLt
  rw [Nat.pow_mul] at below
  unfold ofArray toArray
  rw [fromBigEndian_bigEndian below, BitVec.ofNat_toNat, BitVec.setWidth_eq]

theorem BytesN.toArray_ofArray {length : Nat} {bytes : Bytes} (full : bytes.length = length) :
    toArray (ofArray length bytes) = bytes := by
  have below := fromBigEndian_lt bytes
  rw [full, show 256 = 2 ^ 8 from rfl, ← Nat.pow_mul] at below
  rw [toArray, ofArray, BitVec.toNat_ofNat, Nat.mod_eq_of_lt below, ← full, bigEndian_fromBigEndian]

end SorobanSas
