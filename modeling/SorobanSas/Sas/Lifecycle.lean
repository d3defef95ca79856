import SorobanSas.Sas.Issuance

namespace SorobanSas.Sas

open Library

/-!
# Revocation, replacement, renewal and upkeep

The entry points that act on an attestation that is already stored.
-/

variable {W : Type} (host : Host W) (crypto : Crypto) (env : Env)

/-- The checks that a record can still be revoked. -/
def requireRevocable (attestation : Attestation) : Except Trap Unit := do
  require (attestation.revocable = true) (.contract .notRevocable)
  require (attestation.revocationTime = 0) (.contract .alreadyRevoked)

/-! ## Revocation -/

variable (ledger : Ledger W)

def revoke (uid : UID) : Except Trap (Ledger W) := do
  rejectReentrant ledger.sas
  requireUnpaused ledger.sas .protocolPaused
  let attestation <- requireStored ledger.sas uid
  requireAuth env attestation.attester
  revokeInternal host env ledger uid

/-- The registry authorises the address for the schema. -/
def requireSchemaAuthority (schemaUid : UID) (authorizer : Address) : Except Trap Unit := do
  let registry <- requireRegistry ledger.sas
  require ((host.isAuthorized env ledger.world registry schemaUid authorizer).getD false = true)
    (.contract .unauthorized)

/-- The attester needs no further authority. -/
def requireRevoker (attestation : Attestation) (authorizer : Address) : Except Trap Unit :=
  if authorizer = attestation.attester then return ()
  else requireSchemaAuthority host env ledger attestation.schemaUid authorizer

def revokeByAuthorizer (uid : UID) (authorizer : Address) : Except Trap (Ledger W) := do
  rejectReentrant ledger.sas
  requireUnpaused ledger.sas .protocolPaused
  let attestation <- requireStored ledger.sas uid
  requireAuth env authorizer
  requireRevoker host env ledger attestation authorizer
  revokeInternal host env ledger uid

def revokeByDelegate (uid : UID) (delegate : Address) : Except Trap (Ledger W) := do
  rejectReentrant ledger.sas
  requireUnpaused ledger.sas .protocolPaused
  revokeByAuthorizer host env ledger uid delegate

/-- The key binding and the signature of a delegated revocation. -/
def verifyRevocation (attestation : Attestation) (uid : UID) (nonce : UInt64)
    (signature : BytesN 64) (publicKey : BytesN 32) : Except Trap Unit := do
  requireNonceNotReplayed ledger.sas attestation.attester nonce
  let group <- requireDelegationKey host ledger attestation.schemaUid attestation.attester publicKey
  verifyDelegatedSignature crypto
    (hashDelegatedRevocation crypto uid attestation.attester (delegationDomain env nonce)) publicKey
    signature group

/-- Consume the nonce of a revocation and carry it out. -/
def revokeConsuming (uid : UID) (attester : Address) (nonce : UInt64) : Except Trap (Ledger W) := do
  let consumed <- consumeDelegationNonce ledger.sas attester nonce
  revokeInternal host env { ledger with sas := consumed } uid

def revokeByDelegation (uid : UID) (nonce : UInt64) (signature : BytesN 64)
    (publicKey : BytesN 32) : Except Trap (Ledger W) := do
  rejectReentrant ledger.sas
  requireUnpaused ledger.sas .protocolPaused
  let attestation <- requireStored ledger.sas uid
  verifyRevocation host crypto env ledger attestation uid nonce signature publicKey
  revokeConsuming host env ledger uid attestation.attester nonce

/-! ### Batches -/

/-- `MAX_MULTI_REVOKE` and `MAX_REVOKE_BY_SCHEMA`. -/
def maxMultiRevoke : Nat := 100

/-- The first pass of a batch: no UID twice, and each item passes its check. -/
def checkDistinct {ι : Type} (uidOf : ι -> UID) (check : ι -> Except Trap Unit) (items : List ι) :
    Except Trap (List UID) := items.foldlM (fun seen item => do
    require (uidOf item ∉ seen) (.contract .duplicateAttestation)
    check item
    return seen ++ [uidOf item]) []

/-- The last act of a batch. -/
def publishBatchRevoked (ledger : Ledger W) (count attesterCount : Nat) : Ledger W :=
  { ledger with sas := ledger.sas.publish (.batchRevoked count attesterCount) }

/-- What the first pass collects. -/
def attestersOf (state : State) (uids : List UID) : List Address :=
  uids.filterMap fun uid => (recordOf state uid).map (·.attester)

def multiRevoke (ledger : Ledger W) (uids : List UID) : Except Trap (Ledger W) := do
  rejectReentrant ledger.sas
  requireUnpaused ledger.sas .protocolPaused
  require (uids.length <= maxMultiRevoke) (.contract .batchTooLarge)
  let _ <- checkDistinct id (fun uid => do
    let attestation <- requireStored ledger.sas uid
    requireRevocable attestation) uids
  let attesters := (attestersOf ledger.sas uids).dedup
  attesters.forM (requireAuth env)
  let revoked <- uids.foldlM (revokeInternal host env) ledger
  return publishBatchRevoked revoked uids.length attesters.length

def revokeBySchema (ledger : Ledger W) (schemaUid : UID) (uids : List UID)
    (authorizer : Address) : Except Trap (Ledger W) := do
  requireUnpaused ledger.sas .contractPaused
  require (uids.length <= maxMultiRevoke) (.contract .batchTooLarge)
  requireAuth env authorizer
  requireSchemaAuthority host env ledger schemaUid authorizer
  let _ <- checkDistinct id (fun uid => do
    let attestation <- requireStored ledger.sas uid
    require (attestation.schemaUid = schemaUid) (.contract .invalidSchema)
    requireRevocable attestation) uids
  let revoked <- uids.foldlM (revokeInternal host env) ledger
  return publishBatchRevoked revoked uids.length 1

/-- An item of `multi_revoke_by_delegation`, from its four parallel vectors. -/
structure RevocationItem where
  uid : UID
  nonce : UInt64
  signature : BytesN 64
  publicKey : BytesN 32

/-- The items of four vectors of equal length. -/
def revocationItems : List UID -> List UInt64 -> List (BytesN 64) -> List (BytesN 32) -> List RevocationItem
  | uid :: uids, nonce :: nonces, signature :: signatures, publicKey :: publicKeys =>
    ⟨uid, nonce, signature, publicKey⟩ :: revocationItems uids nonces signatures publicKeys
  | _, _, _, _ => []

/-- The record was found by the first pass; `unwrap` cannot fail here. -/
def revokeItem (ledger : Ledger W) (item : RevocationItem) : Except Trap (Ledger W) := do
  let attestation <- requireStored ledger.sas item.uid
  revokeConsuming host env ledger item.uid attestation.attester item.nonce

def multiRevokeByDelegation (ledger : Ledger W) (uids : List UID) (nonces : List UInt64)
    (signatures : List (BytesN 64)) (publicKeys : List (BytesN 32)) : Except Trap (Ledger W) := do
  rejectReentrant ledger.sas
  requireUnpaused ledger.sas .protocolPaused
  require (uids.length <= maxMultiRevoke) (.contract .batchTooLarge)
  require (nonces.length = uids.length ∧ signatures.length = uids.length ∧
    publicKeys.length = uids.length) (.contract .invalidValue)
  let items := revocationItems uids nonces signatures publicKeys
  let _ <- checkDistinct RevocationItem.uid (fun item => do
    let attestation <- requireStored ledger.sas item.uid
    requireRevocable attestation
    verifyRevocation host crypto env ledger attestation item.uid item.nonce item.signature
      item.publicKey) items
  let revoked <- items.foldlM (revokeItem host env) ledger
  return publishBatchRevoked revoked uids.length (distinctCount (attestersOf ledger.sas uids))

/-! ## Replacement -/

def consumeRecipientConsentNonce (state : State) (recipient : Address) (nonce : UInt64) : Except Trap State := do
  require (freshNonce (state.consentNonces recipient) nonce = true)
    (.contract .delegationReplay)
  return { state with
    consentNonces := update state.consentNonces recipient (some nonce) }

/-- An expiration time may move later or become perpetual, but not earlier. -/
def requireNotShortened (oldExpiration newExpiration : UInt64) : Except Trap Unit :=
  require (¬ (oldExpiration ≠ 0 ∧ newExpiration ≠ 0 ∧ newExpiration < oldExpiration))
    (.contract .invalidTTL)

/-- `replace_internal` up to `handle_replace`. -/
def replaceRecords (ledger : Ledger W) (oldUid : UID) (newData old : Attestation) : Except Trap (UID × Ledger W) := do
  requireRevocable old
  require (¬ (old.expirationTime ≠ 0 ∧ old.expirationTime <= env.timestamp))
    (.contract .invalidTTL)
  require (newData.attester = old.attester ∧ newData.recipient = old.recipient)
    (.contract .unauthorized)
  requireNotShortened old.expirationTime newData.expirationTime
  let revoked <- revokeInternal host env ledger oldUid
  attestInternal host crypto env revoked { newData with refUid := oldUid }

def replaceInternal (ledger : Ledger W) (oldUid : UID) (newData old : Attestation) : Except Trap (UID × Ledger W) := do
  let issued <- replaceRecords host crypto env ledger oldUid newData old
  return (issued.1, { issued.2 with
    world := tellIndexer issued.2.sas.indexer issued.2.world fun indexer =>
      host.handleReplace env issued.2.world indexer oldUid newData.uid })

def replaceAttestation (ledger : Ledger W) (oldUid : UID) (newData : Attestation) : Except Trap (UID × Ledger W) := do
  rejectReentrant ledger.sas
  requireUnpaused ledger.sas .protocolPaused
  requireUnpaidAllowed ledger.sas newData
  let old <- requireStored ledger.sas oldUid
  requireAuth env old.attester
  replaceInternal host crypto env ledger oldUid newData old

/-- `replace_by_delegation_consent`: both keys are bound by `require_attester_key`, whatever
group the schema declares. -/
def replaceByDelegationConsent (ledger : Ledger W) (oldUid : UID) (newData : Attestation)
    (attesterApproval recipientApproval : ReplacementApproval) : Except Trap (UID × Ledger W) := do
  requireUnpaused ledger.sas .contractPaused
  let old <- requireStored ledger.sas oldUid
  require (newData.attester = old.attester ∧ newData.recipient = old.recipient)
    (.contract .unauthorized)
  requireAttesterKey ledger.sas old.attester attesterApproval.publicKey
  requireAttesterKey ledger.sas old.recipient recipientApproval.publicKey
  let digest := hashDelegatedReplacementConsent crypto oldUid newData
    ⟨env.networkId, env.currentContract, attesterApproval.nonce, recipientApproval.nonce⟩
  verifyOffchainSignature crypto digest attesterApproval.publicKey attesterApproval.signature
  verifyOffchainSignature crypto digest recipientApproval.publicKey recipientApproval.signature
  let attesterConsumed <- consumeDelegationNonce ledger.sas old.attester attesterApproval.nonce
  let consumed <- consumeRecipientConsentNonce attesterConsumed old.recipient
    recipientApproval.nonce
  replaceInternal host crypto env { ledger with sas := consumed } oldUid newData old

/-- `renew_attestation` up to `handle_renew`. -/
def renewRecord (ledger : Ledger W) (uid : UID) (newExpirationTime : UInt64) : Except Trap State := do
  rejectReentrant ledger.sas
  requireUnpaused ledger.sas .protocolPaused
  let attestation <- requireStored ledger.sas uid
  requireAuth env attestation.attester
  requireRevocable attestation
  panicOn (validateExpiration env attestation.expirationTime)
  requireNotShortened attestation.expirationTime newExpirationTime
  require (¬ (attestation.expirationTime = 0 ∧ newExpirationTime ≠ 0)) (.contract .invalidTTL)
  require (¬ (0 < newExpirationTime ∧ newExpirationTime <= attestation.validFrom))
    (.contract .invalidTimeRange)
  let registry <- requireRegistry ledger.sas
  requireWithinMaxTtl host env ledger.world registry attestation.schemaUid newExpirationTime
  panicOn (validateExpiration env newExpirationTime)
  return (writeAttestation ledger.sas { attestation with expirationTime := newExpirationTime }).publish
    (.renewed uid attestation.attester newExpirationTime)

def renewAttestation (ledger : Ledger W) (uid : UID) (newExpirationTime : UInt64) : Except Trap (UID × Ledger W) := do
  let written <- renewRecord host env ledger uid newExpirationTime
  return (uid, ⟨written, tellIndexer written.indexer ledger.world fun indexer =>
    host.handleRenew env ledger.world indexer uid newExpirationTime⟩)

/-! ## Upkeep -/

def maxPruneBatch : Nat := 100

/-- What `prune_expired` does with a record, with the number of records removed so far. -/
def pruneFound (pruned : Nat × State) (uid : UID) : Option Attestation -> Nat × State
  | none => pruned
  | some attestation =>
    if attestation.expirationTime ≠ 0 ∧ attestation.expirationTime <= env.timestamp then
      (pruned.1 + 1, (pruned.2.putSlot uid .empty).publish (.pruned uid))
    else pruned

/-- One iteration of `prune_expired`. -/
def pruneOne (pruned : Nat × State) (uid : UID) : Except Trap (Nat × State) := do
  let found <- readAttestation pruned.2 uid
  return pruneFound env pruned uid found

def pruneExpired (state : State) (uids : List UID) : Except Trap (Nat × State) := do
  require (state.autoPrune = true) (.contract .autoPruneDisabled)
  require (uids.length <= maxPruneBatch) (.contract .batchTooLarge)
  uids.foldlM (pruneOne env) (0, state)

/-- `migrate_attestation`, and whether a migration occurred.  The test for the compact layout succeeds
or traps, so that the code which rewrites a full record is not reached. -/
def migrateAttestation (state : State) (uid : UID) : Except Trap (Bool × State) := do
  rejectReentrant state
  let _ <- (state.records uid).entry.mapM Entry.tryCompact
  return (false, state)

def migrateAttestations (state : State) (uids : List UID) : Except Trap (Nat × State) := do
  rejectReentrant state
  uids.foldlM (fun counted uid => do
    let migrated <- migrateAttestation counted.2 uid
    return (if migrated.1 then counted.1 + 1 else counted.1, migrated.2)) (0, state)

/-- What `bulk_reindex` does with a record, with the UIDs that failed so far. -/
def reindexFound (indexer : Address) (progress : List UID × Ledger W) (uid : UID) :
    Option Attestation -> List UID × Ledger W
  | none => (progress.1 ++ [uid], progress.2)
  | some attestation =>
    match host.indexAttestation env progress.2.world indexer attestation with
    | none => (progress.1 ++ [uid], progress.2)
    | some world => (progress.1, ⟨progress.2.sas.publish (.reindexedBare uid), world⟩)

/-- One iteration of `bulk_reindex`. -/
def reindexOne (indexer : Address) (progress : List UID × Ledger W) (uid : UID) :
    Except Trap (List UID × Ledger W) := do
  let found <- readAttestation progress.2.sas uid
  return reindexFound host env indexer progress uid found

def bulkReindex (ledger : Ledger W) (uids : List UID) : Except Trap (List UID × Ledger W) := do
  requireUnpaused ledger.sas .protocolPaused
  rejectReentrant ledger.sas
  require (uids.length <= 100) (.contract .batchTooLarge)
  let indexer <- expect ledger.sas.indexer (.contract .notInitialized)
  uids.foldlM (reindexOne host env indexer) ([], ledger)

def reindexAttestation (ledger : Ledger W) (uid : UID) : Except Trap (Ledger W) := do
  requireUnpaused ledger.sas .protocolPaused
  rejectReentrant ledger.sas
  let attestation <- requireStored ledger.sas uid
  let indexer <- expect ledger.sas.indexer (.contract .notInitialized)
  let world <- expect (host.indexAttestation env ledger.world indexer attestation)
    (.contract .indexerUnavailable)
  return ⟨ledger.sas.publish (.reindexed uid), world⟩

end SorobanSas.Sas
