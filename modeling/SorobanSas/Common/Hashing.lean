import SorobanSas.Common.Types
import Mathlib.Data.Nat.Digits.Defs

namespace SorobanSas

open Library List
open BytesN (length_toArray toArray toArray_injective)

/-!
# Digests, identifiers and signatures

SHA-256 and ed25519 are host functions.  The model takes both as parameters and says
nothing about them here; a theorem that needs a property of them assumes it for the
byte strings it is about.

What is modelled exactly is the layout of every byte string that is hashed.  Each
digest is `sha256` of a named preimage, so that a theorem can refer to the preimage
itself.  Addresses, identifiers and byte strings enter a preimage in their ScVal XDR
form where the source calls `to_xdr`, and as raw bytes where it does not.
-/

/-- The host's cryptographic functions. -/
structure Crypto where
  sha256 : Bytes -> BytesN 32
  /-- Whether `ed25519_verify` accepts a signature, given key and message. -/
  ed25519Verify : BytesN 32 -> Bytes -> BytesN 64 -> Bool

/-- Host functions known on finitely many inputs: the listed digests, and the listed
signatures of a message under a key.  It is how concrete runs are evaluated. -/
def Crypto.ofTable (digests : List (Bytes × BytesN 32))
    (signatures : List (BytesN 32 × Bytes × BytesN 64)) : Crypto where
  sha256 := fun message => (digests.lookup message).getD 0
  ed25519Verify := fun key message signature => decide ((key, message, signature) ∈ signatures)

/-- The same functions with one more digest known. -/
def Crypto.learn (crypto : Crypto) (message : Bytes) (digest : BytesN 32) : Crypto :=
  { crypto with
    sha256 := fun other => if other = message then digest else crypto.sha256 other }

/-! ## ScVal XDR -/

namespace Xdr

def word (value : Nat) : Bytes := bigEndian 4 value

/-- A variable-length field: its length, its bytes, and padding to a multiple of four. -/
def lengthPrefixed (bytes : Bytes) : Bytes :=
  word bytes.length ++ bytes ++ List.replicate ((4 - bytes.length % 4) % 4) 0

def scBytes (bytes : Bytes) : Bytes := word 13 ++ lengthPrefixed bytes

def scString (bytes : Bytes) : Bytes := word 14 ++ lengthPrefixed bytes

/-- `UID` is a tuple struct, which is a vector of one byte string. -/
def scUid (uid : UID) : Bytes := word 16 ++ word 1 ++ word 1 ++ scBytes (toArray uid.hash)

/-- `ACCOUNT_ADDRESS_XDR_PREFIX`. -/
def accountPrefix : Bytes := [0, 0, 0, 18, 0, 0, 0, 0, 0, 0, 0, 0]

def contractPrefix : Bytes := [0, 0, 0, 18, 0, 0, 0, 1]

def scAddress : Address -> Bytes
  | .account key => accountPrefix ++ toArray key
  | .contract id => contractPrefix ++ toArray id

/-- No address encoding is the start of another one, so an address can be read off the
front of a longer byte string. -/
theorem scAddress_append_injective {first second : Address} {rest other : Bytes}
    (same : scAddress first ++ rest = scAddress second ++ other) : first = second ∧ rest = other := by
  cases first <;> cases second
  case account.contract | contract.account => simp [scAddress, accountPrefix, contractPrefix] at same
  all_goals
    simp only [scAddress, append_assoc, append_cancel_left_eq] at same
    have parts := append_inj same (by simp only [length_toArray])
    exact ⟨congrArg _ (toArray_injective parts.1), parts.2⟩

/-- The padding does not hide where the bytes end: their number is recorded modulo 256. -/
theorem scBytes_injective {first second : Bytes} (same : scBytes first = scBytes second) : first = second := by
  rw [scBytes, scBytes, append_cancel_left_eq, lengthPrefixed, lengthPrefixed, append_assoc, append_assoc] at same
  rcases append_inj same (by simp only [word, length_bigEndian]) with ⟨lengths, same⟩
  have byte : UInt8.ofNat first.length = UInt8.ofNat second.length := List.singleton_inj.mp (append_inj' lengths rfl).2
  have residue : first.length % 256 = second.length % 256 := by simpa using congrArg UInt8.toNat byte
  have total := congrArg List.length same
  simp only [length_append, length_replicate] at total
  exact (append_inj same (by omega)).1

end Xdr

/-- The byte of a boolean. -/
def boolByte (flag : Bool) : UInt8 := if flag then 1 else 0

def schemaUid (crypto : Crypto) (schema : Bytes) (resolver : Address) (revocable : Bool) : UID :=
  ⟨crypto.sha256 (Xdr.scString schema ++ Xdr.scAddress resolver ++ [boolByte revocable])⟩

def attestationUid (crypto : Crypto) (schemaUid : UID) (recipient attester : Address) (data : Bytes) : UID :=
  ⟨crypto.sha256 (Xdr.scUid schemaUid ++ Xdr.scAddress recipient ++ Xdr.scAddress attester ++ Xdr.scBytes data)⟩

/-! ## Signed digests -/

/-- The bytes of an ASCII constant of the source. -/
def ascii (text : String) : Bytes := text.toUTF8.data.toList

def payloadPrefix : Bytes := [0x19] ++ ascii "SorobanSAS" ++ [0x01]

def domainTypeTag : Bytes := ascii "SorobanSAS Domain v1(network_id,contract,nonce)"

def attestationTypeTag : Bytes :=
  ascii "SorobanSAS Attestation v1(uid,schema_uid,time,expiration_time,ref_uid,recipient,attester,revocable,data)"

def delegatedRevocationTypeTag : Bytes := ascii "SorobanSAS DelegatedRevocation v1(uid,attester)"

def delegatedReplacementConsentTypeTag : Bytes :=
  ascii "SorobanSAS DelegatedReplacementConsent v1" ++
    ascii "(network_id,contract,attester_nonce,recipient_nonce,old_uid,new_attestation)"

/-- The tag of `hash_scoped_attestation`. -/
def scopedDelegationTypeTag : Bytes := ascii "SorobanSAS ScopedDelegation v1"

def delegatedNonceInvalidationTypeTag : Bytes := ascii "SAS:delegated_nonce_invalidation:v1"

structure AttestationDomain where
  networkId : BytesN 32
  contract : Address
  nonce : UInt64
  deriving DecidableEq, Repr

structure ReplacementConsentDomain where
  networkId : BytesN 32
  contract : Address
  attesterNonce : UInt64
  recipientNonce : UInt64
  deriving DecidableEq, Repr

inductive DelegationSchemaScope where
  | any
  | only (schemaUid : UID)
  deriving DecidableEq, Repr

/-- `permissions` is a `u32`. -/
structure DelegationAuthorization where
  schemaScope : DelegationSchemaScope
  permissions : UInt32
  validUntil : UInt64
  deriving DecidableEq, Repr

def hashDomain (crypto : Crypto) (domain : AttestationDomain) : BytesN 32 :=
  crypto.sha256 (domainTypeTag ++ toArray domain.networkId ++ Xdr.scAddress domain.contract ++ toBeBytes domain.nonce)

variable (crypto : Crypto) (attestation : Attestation)

/-- What `hash_attestation_struct` hashes.  Neither `revocation_time` nor `valid_from`
occurs in it. -/
def attestationPreimage : Bytes :=
  attestationTypeTag ++ (toArray attestation.uid.hash ++
    (toArray attestation.schemaUid.hash ++ (toBeBytes attestation.time ++
      (toBeBytes attestation.expirationTime ++ (toArray attestation.refUid.hash ++
        (Xdr.scAddress attestation.recipient ++ (Xdr.scAddress attestation.attester ++
          ([boolByte attestation.revocable] ++ toArray (crypto.sha256 attestation.data)))))))))

def hashAttestationStruct : BytesN 32 := crypto.sha256 (attestationPreimage crypto attestation)

def offchainPreimage (domain : AttestationDomain) : Bytes :=
  payloadPrefix ++ (toArray (hashDomain crypto domain) ++ toArray (hashAttestationStruct crypto attestation))

def hashOffchainAttestation (domain : AttestationDomain) : BytesN 32 :=
  crypto.sha256 (offchainPreimage crypto attestation domain)

/-- The scope field of a scoped delegation. -/
def scopeBytes : DelegationSchemaScope -> Bytes
  | .only schema => [1] ++ toArray schema.hash
  | .any => [0]

variable (crypto : Crypto) (attestation : Attestation) (domain : AttestationDomain)
  (authorization : DelegationAuthorization)

def scopedPreimage : Bytes :=
  scopedDelegationTypeTag ++ (toArray (hashOffchainAttestation crypto attestation domain) ++
      (scopeBytes authorization.schemaScope ++ (bigEndian 4 authorization.permissions.toNat ++
        toBeBytes authorization.validUntil)))

def hashScopedAttestation : BytesN 32 := crypto.sha256 (scopedPreimage crypto attestation domain authorization)

def hashDelegatedRevocation (crypto : Crypto) (uid : UID) (attester : Address)
    (domain : AttestationDomain) : BytesN 32 :=
  crypto.sha256 (delegatedRevocationTypeTag ++ toArray (hashDomain crypto domain) ++
    toArray uid.hash ++ Xdr.scAddress attester)

variable (crypto : Crypto) (oldUid : UID) (newAttestation : Attestation) (domain : ReplacementConsentDomain)

def replacementPreimage : Bytes :=
  (delegatedReplacementConsentTypeTag ++ toArray domain.networkId ++
      Xdr.scAddress domain.contract ++ toBeBytes domain.attesterNonce ++
      toBeBytes domain.recipientNonce ++ toArray oldUid.hash) ++ toArray (hashAttestationStruct crypto newAttestation)

def hashDelegatedReplacementConsent : BytesN 32 :=
  crypto.sha256 (replacementPreimage crypto oldUid newAttestation domain)

def hashDelegatedNonceInvalidation (crypto : Crypto) (attester : Address)
    (minNonce maxNonce : UInt64) (domain : AttestationDomain) : BytesN 32 :=
  crypto.sha256 (delegatedNonceInvalidationTypeTag ++ toArray (hashDomain crypto domain) ++
    Xdr.scAddress attester ++ toBeBytes minNonce ++ toBeBytes maxNonce)

def ed25519GroupOrder : Bytes :=
  [0xed, 0xd3, 0xf5, 0x5c, 0x1a, 0x63, 0x12, 0x58, 0xd6, 0x9c, 0xf7, 0xa2, 0xde, 0xf9, 0xde, 0x14,
    0x00, 0x00, 0x00, 0x00, 0x00, 0x00, 0x00, 0x00, 0x00, 0x00, 0x00, 0x00, 0x00, 0x00, 0x00, 0x10]

/-- The order of byte arrays: lexicographic. -/
def bytesLess : Bytes -> Bytes -> Bool
  | _, [] => false
  | [], _ :: _ => true
  | a :: first, b :: second => a < b || (a = b && bytesLess first second)

def signatureScalarIsCanonical (signature : BytesN 64) : Bool :=
  bytesLess ((toArray signature).drop 32).reverse ed25519GroupOrder.reverse

def verifyOffchainSignature (crypto : Crypto) (payloadHash publicKey : BytesN 32)
    (signature : BytesN 64) : Except Trap Unit := do
  require (signatureScalarIsCanonical signature = true) (.contract .invalidSignature)
  require (crypto.ed25519Verify publicKey (toArray payloadHash) signature = true) Trap.crypto

def attesterMatchesKey (attester : Address) (publicKey : BytesN 32) : Bool :=
  Xdr.scAddress attester = Xdr.accountPrefix ++ toArray publicKey

theorem attesterMatchesKey_iff {attester : Address} {publicKey : BytesN 32} :
    attesterMatchesKey attester publicKey = true ↔ attester = .account publicKey := by
  unfold attesterMatchesKey
  rw [decide_eq_true_eq]
  constructor
  · intro same
    have account : Xdr.scAddress attester ++ [] = Xdr.scAddress (.account publicKey) ++ [] := by
      simpa [Xdr.scAddress] using same
    exact (Xdr.scAddress_append_injective account).1
  · rintro rfl
    rfl

structure FrostGroup where
  groupPublicKey : BytesN 32
  threshold : Nat
  maxSigners : Nat
  deriving DecidableEq, Repr

def validateFrostGroup (group : FrostGroup) : Except SASError Unit := do
  require (group.maxSigners <= 255) .limitExceeded
  require (¬ (group.threshold < 2 ∨ group.maxSigners < group.threshold ∨ group.groupPublicKey = 0)) .invalidValue

/-- The fields of an attestation that its struct preimage lists, with the payload
represented by its hash. -/
theorem attestationPreimage_injective {crypto : Crypto} {first second : Attestation}
    (same : attestationPreimage crypto first = attestationPreimage crypto second) :
    first.uid = second.uid ∧ first.schemaUid = second.schemaUid ∧ first.time = second.time ∧
      first.expirationTime = second.expirationTime ∧ first.refUid = second.refUid ∧
      first.recipient = second.recipient ∧ first.attester = second.attester ∧ first.revocable = second.revocable ∧
      crypto.sha256 first.data = crypto.sha256 second.data := by
  have uidOf {a b : UID} (equal : toArray a.hash = toArray b.hash) : a = b := by
    cases a; cases b
    exact congrArg _ (toArray_injective equal)
  unfold attestationPreimage at same
  rw [append_cancel_left_eq] at same
  rcases append_inj same (by simp only [length_toArray]) with ⟨uid, same⟩
  rcases append_inj same (by simp only [length_toArray]) with ⟨schema, same⟩
  rcases append_inj same (by simp only [length_toBeBytes]) with ⟨time, same⟩
  rcases append_inj same (by simp only [length_toBeBytes]) with ⟨expiration, same⟩
  rcases append_inj same (by simp only [length_toArray]) with ⟨reference, same⟩
  rcases Xdr.scAddress_append_injective same with ⟨recipient, same⟩
  rcases Xdr.scAddress_append_injective same with ⟨attester, same⟩
  rcases append_inj same (by simp) with ⟨revocable, data⟩
  refine ⟨uidOf uid, uidOf schema, toBeBytes_injective time, toBeBytes_injective expiration,
    uidOf reference, recipient, attester, ?_, toArray_injective data⟩
  revert revocable
  cases first.revocable <;> cases second.revocable <;> decide

/-! ## The scalar of a signature -/

theorem bytesLess_iff (first second : Bytes) : bytesLess first second = true ↔ first < second := by
  induction first generalizing second with
  | nil => cases second <;> simp [bytesLess]
  | cons a first ih => cases second <;> simp [bytesLess, cons_lt_cons_iff, ih]

/-- The number that bytes 32 to 63 denote, least significant byte first. -/
def signatureScalar (signature : BytesN 64) : Nat := Nat.ofDigits 256 (((toArray signature).drop 32).map UInt8.toNat)

theorem ofDigits_toNat (bytes : Bytes) : Nat.ofDigits 256 (bytes.map UInt8.toNat) = fromBigEndian bytes.reverse := by
  induction bytes with
  | nil => rfl
  | cons byte bytes ih =>
    rw [map_cons, Nat.ofDigits_cons, ih, reverse_cons, fromBigEndian_append_singleton, Nat.mul_comm, Nat.add_comm]

/-- The guard is the numeric bound, and it leaves at most one scalar of every residue class modulo the
group order. -/
theorem signatureScalarIsCanonical_bound (signature : BytesN 64) : (signatureScalarIsCanonical signature = true ↔
        signatureScalar signature < 2 ^ 252 + 27742317777372353535851937790883648493) ∧
      ¬ ∃ (other : BytesN 64) (k : Nat), signatureScalarIsCanonical signature = true ∧ 1 <= k ∧ signatureScalar other =
          signatureScalar signature + k * (2 ^ 252 + 27742317777372353535851937790883648493) ∧
        signatureScalarIsCanonical other = true := by
  have order : fromBigEndian ed25519GroupOrder.reverse = 2 ^ 252 + 27742317777372353535851937790883648493 := by decide
  have bound (signature : BytesN 64) : signatureScalarIsCanonical signature = true ↔
      signatureScalar signature < 2 ^ 252 + 27742317777372353535851937790883648493 := by
    have length : ((toArray signature).drop 32).reverse.length = ed25519GroupOrder.reverse.length := by
      rw [length_reverse, length_drop, length_toArray]
      rfl
    unfold signatureScalarIsCanonical signatureScalar
    rw [bytesLess_iff, ofDigits_toNat, ← order, fromBigEndian_lt_iff length]
  refine ⟨bound signature, ?_⟩
  rintro ⟨other, k, -, positive, shifted, accepted⟩
  have below := (bound other).1 accepted
  have := Nat.mul_le_mul_right (2 ^ 252 + 27742317777372353535851937790883648493) positive
  omega

end SorobanSas
