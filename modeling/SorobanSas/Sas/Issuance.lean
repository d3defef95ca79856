import SorobanSas.Sas.Internal
import Mathlib.Data.List.Dedup

namespace SorobanSas.Sas

open Library

/-!
# Issuing entry points

The attester authorises an issuance directly, by an off-chain signature, or next to a
zero-knowledge proof; a payment can come with it.  A batch holds the re-entrancy guard and
issues its items in order.
-/

variable {W : Type} (host : Host W) (crypto : Crypto) (env : Env)

/-! ## Keys, signatures and nonces -/

def registeredKeyMatches (state : State) (attester : Address) (publicKey : BytesN 32) : Bool :=
  match state.attesterKeys attester with
  | some record => !record.revoked && record.publicKey == publicKey
  | none => false

def requireAttesterKey (state : State) (attester : Address) (publicKey : BytesN 32) : Except Trap Unit :=
  require (attesterMatchesKey attester publicKey = true ∨
    registeredKeyMatches state attester publicKey = true) (.contract .unauthorized)

def schemaFrostGroup (ledger : Ledger W) (schemaUid : UID) : Except Trap (Option FrostGroup) := do
  let registry <- requireRegistry ledger.sas
  return (host.getSchemaFrostGroup ledger.world registry schemaUid).getD none

/-- The key that a group or, without one, an attester is bound to. -/
def bindDelegationKey (state : State) (group : Option FrostGroup) (attester : Address)
    (publicKey : BytesN 32) : Except Trap Unit := match group with
  | some group => require (publicKey = group.groupPublicKey) (.contract .unauthorized)
  | none => requireAttesterKey state attester publicKey

def requireDelegationKey (ledger : Ledger W) (schemaUid : UID) (attester : Address)
    (publicKey : BytesN 32) : Except Trap (Option FrostGroup) := do
  let group <- schemaFrostGroup host ledger schemaUid
  bindDelegationKey ledger.sas group attester publicKey
  return group

/-- `verify_delegated_signature`.  `verify_frost_aggregate_signature` is
`verify_offchain_signature` under the group key. -/
def verifyDelegatedSignature (payloadHash publicKey : BytesN 32) (signature : BytesN 64)
    (group : Option FrostGroup) : Except Trap Unit := match group with
  | some group => verifyOffchainSignature crypto payloadHash group.groupPublicKey signature
  | none => verifyOffchainSignature crypto payloadHash publicKey signature

/-- A nonce above the watermark, if there is one. -/
def freshNonce (last : Option UInt64) (nonce : UInt64) : Bool :=
  match last with
  | some last => last < nonce
  | none => true

def requireNonceNotReplayed (state : State) (attester : Address) (nonce : UInt64) : Except Trap Unit :=
  require (freshNonce (state.delegationNonces attester) nonce = true)
    (.contract .delegationReplay)

def consumeDelegationNonce (state : State) (attester : Address) (nonce : UInt64) : Except Trap State := do
  require (freshNonce (state.delegationNonces attester) nonce = true)
    (.contract .delegationReplay)
  return { state with
    delegationNonces := update state.delegationNonces attester (some nonce) }

/-- The domain of a delegated signature. -/
def delegationDomain (nonce : UInt64) : AttestationDomain := ⟨env.networkId, env.currentContract, nonce⟩

/-! ## Direct and delegated issuance -/

variable (ledger : Ledger W) (attestation : Attestation)

def attest : Except Trap (UID × Ledger W) := do
  rejectReentrant ledger.sas
  requireUnpaused ledger.sas .protocolPaused
  requireUnpaidAllowed ledger.sas attestation
  requireAuth env attestation.attester
  attestInternal host crypto env ledger attestation

variable (nonce : UInt64) (signature : BytesN 64) (publicKey : BytesN 32)

/-- What `attest_by_delegation` and each item of its batch do once the call is let in. -/
def attestDelegated : Except Trap (UID × Ledger W) := do
  require (attestation.revocationTime = 0) (.contract .alreadyRevoked)
  requireUnpaidAllowed ledger.sas attestation
  requireDelegationPolicy env ledger.sas attestation.attester attestation.schemaUid
  requireNonceNotReplayed ledger.sas attestation.attester nonce
  let group <- requireDelegationKey host ledger attestation.schemaUid attestation.attester publicKey
  verifyDelegatedSignature crypto
    (hashOffchainAttestation crypto attestation (delegationDomain env nonce)) publicKey signature
    group
  let consumed <- consumeDelegationNonce ledger.sas attestation.attester nonce
  attestInternal host crypto env { ledger with sas := consumed } attestation

def attestByDelegation : Except Trap (UID × Ledger W) := do
  rejectReentrant ledger.sas
  requireUnpaused ledger.sas .protocolPaused
  attestDelegated host crypto env ledger attestation nonce signature publicKey

/-- `attest_by_scoped_delegation`: the key is bound by `require_attester_key`, whatever
group the schema declares. -/
def attestByScopedDelegation (authorization : DelegationAuthorization) : Except Trap (UID × Ledger W) := do
  requireUnpaused ledger.sas .protocolPaused
  require (attestation.revocationTime = 0) (.contract .alreadyRevoked)
  requireUnpaidAllowed ledger.sas attestation
  require (grantsIssue env authorization.permissions authorization.validUntil
    authorization.schemaScope attestation.schemaUid = true) (.contract .delegationScopeDenied)
  requireAttesterKey ledger.sas attestation.attester publicKey
  requireDelegationPolicy env ledger.sas attestation.attester attestation.schemaUid
  verifyOffchainSignature crypto
    (hashScopedAttestation crypto attestation (delegationDomain env nonce) authorization) publicKey
    signature
  let consumed <- consumeDelegationNonce ledger.sas attestation.attester nonce
  attestInternal host crypto env { ledger with sas := consumed } attestation

def attestWithZk (proof : Bytes) (nullifier : BytesN 32) : Except Trap (UID × Ledger W) := do
  requireUnpaused ledger.sas .protocolPaused
  requireUnpaidAllowed ledger.sas attestation
  require (proof ≠ [] ∧ proof.length <= 4096) (.contract .invalidZKProof)
  require (ledger.sas.nullifiers nullifier = false) (.contract .nullifierAlreadyUsed)
  let verifier <- expect ledger.sas.zkVerifier (.contract .invalidZKProof)
  let verdict <- expect (host.verifyProof env ledger.world verifier proof
    [attestation.uid.hash, attestation.schemaUid.hash, nullifier]) (.contract .invalidZKProof)
  require (verdict.1 = true) (.contract .invalidZKProof)
  requireAuth env attestation.attester
  let issued <- attestInternal host crypto env { ledger with world := verdict.2 } attestation
  return (issued.1, { issued.2 with
    sas := { issued.2.sas with
      nullifiers := update issued.2.sas.nullifiers nullifier true } })

/-! ## Batches -/

def maxMultiAttest : Nat := 100

/-- The size of a `Map` with these keys. -/
def distinctCount (keys : List Address) : Nat := keys.dedup.length

/-- One more item of a batch. -/
def collect (issued : List UID × Ledger W) (issue : Ledger W -> Except Trap (UID × Ledger W)) :
    Except Trap (List UID × Ledger W) := do
  let next <- issue issued.2
  return (issued.1 ++ [next.1], next.2)

/-- The items of a batch, one after the other. -/
def collectAll (issue : Ledger W -> ι -> Except Trap (UID × Ledger W)) (items : List ι)
    (issued : List UID × Ledger W) : Except Trap (List UID × Ledger W) :=
  items.foldlM (fun issued item => collect issued fun current => issue current item) issued

/-- The end of a batch: its summary event, and the guard released. -/
def closeBatch (issued : List UID × Ledger W) (attesterCount : Nat) : List UID × Ledger W :=
  (issued.1, { issued.2 with
    sas := exitReentrancyGuard
      (issued.2.sas.publish (.batchAttested issued.1.length attesterCount)) })

/-- An item of `multi_attest`.  The source asks each distinct attester once; authorisation
does not change within a call. -/
def attestItem (ledger : Ledger W) (attestation : Attestation) : Except Trap (UID × Ledger W) := do
  requireUnpaidAllowed ledger.sas attestation
  requireAuth env attestation.attester
  attestInternal host crypto env ledger attestation

def multiAttest (ledger : Ledger W) (attestations : List Attestation) : Except Trap (List UID × Ledger W) := do
  requireUnpaused ledger.sas .protocolPaused
  require (attestations.length <= maxMultiAttest) (.contract .batchTooLarge)
  let guarded <- enterReentrancyGuard ledger.sas
  let issued <- collectAll (attestItem host crypto env) attestations ([], { ledger with sas := guarded })
  return closeBatch issued (distinctCount (attestations.map (·.attester)))

/-- An item of `multi_attest_by_delegation`, from its four parallel vectors. -/
structure DelegatedItem where
  attestation : Attestation
  nonce : UInt64
  signature : BytesN 64
  publicKey : BytesN 32

def attestDelegatedItem (ledger : Ledger W) (item : DelegatedItem) : Except Trap (UID × Ledger W) :=
  attestDelegated host crypto env ledger item.attestation item.nonce item.signature item.publicKey

/-- The items of four vectors of equal length. -/
def delegatedItems : List Attestation -> List UInt64 -> List (BytesN 64) -> List (BytesN 32) -> List DelegatedItem
  | attestation :: attestations, nonce :: nonces, signature :: signatures, publicKey :: publicKeys =>
      ⟨attestation, nonce, signature, publicKey⟩ :: delegatedItems attestations nonces signatures publicKeys
  | _, _, _, _ => []

def multiAttestByDelegation (ledger : Ledger W) (attestations : List Attestation)
    (nonces : List UInt64) (signatures : List (BytesN 64)) (publicKeys : List (BytesN 32)) :
    Except Trap (List UID × Ledger W) := do
  requireUnpaused ledger.sas .protocolPaused
  require (attestations.length <= maxMultiAttest) (.contract .batchTooLarge)
  require (nonces.length = attestations.length ∧ signatures.length = attestations.length ∧
    publicKeys.length = attestations.length) (.contract .invalidValue)
  let guarded <- enterReentrancyGuard ledger.sas
  let issued <- collectAll (attestDelegatedItem host crypto env)
    (delegatedItems attestations nonces signatures publicKeys) ([], { ledger with sas := guarded })
  return closeBatch issued (distinctCount (attestations.map (·.attester)))

/-- The attestation that `broadcast_attest_by_attester` builds for one recipient. -/
def broadcastAttestation (attester : Address) (schemaUid : UID) (data : Bytes)
    (expirationTime : UInt64) (revocable : Bool) (recipient : Address) : Attestation where
  uid := attestationUid crypto schemaUid recipient attester data
  schemaUid := schemaUid
  time := 0
  expirationTime := expirationTime
  revocationTime := 0
  refUid := UID.zero
  recipient := recipient
  attester := attester
  revocable := revocable
  data := data
  validFrom := 0

/-- The items of a broadcast, one after the other, which may not repeat. -/
def collectApart (issue : Ledger W -> Address -> Except Trap (UID × Ledger W)) (recipients : List Address)
    (progress : List Address × List UID × Ledger W) : Except Trap (List Address × List UID × Ledger W) :=
  recipients.foldlM (fun progress recipient => do
    require (recipient ∉ progress.1) (.contract .duplicateAttestation)
    let next <- collect progress.2 fun current => issue current recipient
    return (progress.1 ++ [recipient], next)) progress

def broadcastAttestByAttester (ledger : Ledger W) (attester : Address) (schemaUid : UID)
    (recipients : List Address) (data : Bytes) (expirationTime : UInt64) (revocable : Bool) :
    Except Trap (List UID × Ledger W) := do
  requireUnpaused ledger.sas .contractPaused
  require (recipients.length <= maxMultiAttest) (.contract .batchTooLarge)
  require (recipients ≠ []) (.contract .invalidValue)
  requireAuth env attester
  let guarded <- enterReentrancyGuard ledger.sas
  let issued <- collectApart (fun current recipient => attestInternal host crypto env current
    (broadcastAttestation crypto attester schemaUid data expirationTime revocable recipient))
    recipients ([], [], { ledger with sas := guarded })
  return closeBatch issued.2 1

def broadcastAttest (ledger : Ledger W) (schemaUid : UID) (recipients : List Address)
    (data : Bytes) (expirationTime : UInt64) (revocable : Bool) : Except Trap (List UID × Ledger W) := do
  let registry <- requireRegistry ledger.sas
  let attester <- expect ((host.getCreator ledger.world registry schemaUid).getD none)
    (.contract .schemaNotFound)
  broadcastAttestByAttester host crypto env ledger attester schemaUid recipients data
    expirationTime revocable

end SorobanSas.Sas
