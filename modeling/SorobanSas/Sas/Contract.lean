import SorobanSas.Sas.Lifecycle
import SorobanSas.Sas.Payment

namespace SorobanSas.Sas

open Library

/-!
# Configuration, keys, nonces, and the calls of the contract

The entry points here write one or two entries each.  `Call` then lists every entry point
that can change storage, and `step` carries one of them out.
-/

variable {W : Type} (host : Host W) (crypto : Crypto) (env : Env)

/-! ## Administration -/

def init (ledger : Ledger W) (admin registry : Address) : Except Trap State := do
  rejectReentrant ledger.sas
  require (ledger.sas.admin = none) (.contract .alreadyInitialized)
  requireAuth env admin
  require (host.isRegistry ledger.world registry = true) (.contract .incompatibleDependency)
  return { ledger.sas with
    admin := some admin
    registry := some registry
    version := some (ledger.sas.version.getD 1) }

/-- The administrator calls and a change is made: `set_treasury` and the like.  Some of
these entry points do not reject a call from within a callback. -/
def administer (state : State) (guarded : Bool) (change : Address -> Except Trap State) : Except Trap State := do
  require (guarded = true -> state.guard = false ∧ state.callDepth = 0)
    (.contract .reentrancy)
  let admin <- requireAdmin state
  requireAuth env admin
  change admin

def maxKnownVersion : Nat := 2

variable (state : State)

def validateUpgrade (newWasmHash : BytesN 32) (newVersion : Nat) : Except Trap Unit := do
  require (state.admin ≠ none ∧ state.registry ≠ none) (.contract .incompatibleDependency)
  require (newVersion <= maxKnownVersion) (.contract .incompatibleDependency)
  require (newVersion = min (state.version.getD 1 + 1) (2 ^ 32 - 1)) (.contract .invalidValue)
  require (newWasmHash ≠ 0) (.contract .invalidValue)

def upgrade (newWasmHash : BytesN 32) (newVersion : Nat) : Except Trap State := do
  rejectReentrant state
  validateUpgrade state newWasmHash newVersion
  let admin <- requireAdmin state
  requireAuth env admin
  return { state with version := some newVersion, wasmHash := some newWasmHash }.publish
    (.contractUpgraded (state.wasmHash.getD 0) newWasmHash admin)

def proposeAdmin (newAdmin : Address) : Except Trap State :=
  administer env state true fun currentAdmin =>
    return { state with pendingAdmin := some newAdmin }.publish
      (.adminTransferProposed currentAdmin newAdmin)

def acceptAdmin : Except Trap State := do
  rejectReentrant state
  let pendingAdmin <- expect state.pendingAdmin (.contract .notInitialized)
  requireAuth env pendingAdmin
  let oldAdmin <- requireAdmin state
  return { state with admin := some pendingAdmin, pendingAdmin := none }.publish
    (.adminTransferCompleted oldAdmin pendingAdmin)

def setDelegationPolicy (attester : Address) (policy : DelegationPolicy) : Except Trap State := do
  requireAuth env attester
  return { state with
    delegationPolicies := update state.delegationPolicies attester (some policy) }

def pause : Except Trap State :=
  administer env state true fun admin =>
    return ({ state with paused := true }.publish (.contractPaused admin)).publish
      (.protocolPaused admin env.timestamp)

def unpause : Except Trap State :=
  administer env state true fun admin =>
    return ({ state with paused := false }.publish (.contractUnpaused admin)).publish
      (.protocolUnpaused admin env.timestamp)

def setIndexer (indexer : Address) : Except Trap State :=
  administer env state true fun admin =>
    return { state with indexer := some indexer }.publish
      (.indexerUpdated state.indexer indexer admin)

def setIndexerStrict (strict : Bool) : Except Trap State :=
  administer env state true fun admin =>
    return { state with indexerStrict := strict }.publish
      (.indexerStrictUpdated state.indexerStrict strict admin)

def setTreasury (treasury : Address) : Except Trap State :=
  administer env state true fun _ => return { state with treasury := some treasury }

def setAutoPrune (enabled : Bool) : Except Trap State :=
  administer env state false fun _ => return { state with autoPrune := enabled }

def setZkVerifier (verifier : Address) : Except Trap State :=
  administer env state false fun _ => return { state with zkVerifier := some verifier }

/-! ## Fees and limits -/

def setFee (token : Address) (amount : Int) : Except Trap State :=
  administer env state true fun admin => do
    require (0 < amount) (.contract .invalidValue)
    return { state with feeConfig := some (token, amount) }.publish
      (.feeConfigUpdated state.feeConfig (some (token, amount)) admin)

def clearFee : Except Trap State :=
  administer env state true fun admin =>
    return { state with feeConfig := none, feePerByte := none }.publish
      (.feeConfigUpdated state.feeConfig none admin)

def setFeePerByte (amount : Int) : Except Trap State :=
  administer env state false fun _ => do
    require (¬ (amount < 0 ∨ 0 < amount ∧ state.feeConfig = none)) (.contract .invalidValue)
    return { state with feePerByte := some amount }

def setSchemaZeroFee (schemaUid : UID) (enabled : Bool) : Except Trap State :=
  administer env state false fun _ =>
    return { state with zeroFeeSchemas := update state.zeroFeeSchemas schemaUid enabled }

def setAcceptedFee (token : Address) (amount : Int) : Except Trap State :=
  administer env state true fun _ => do
    require (0 < amount) (.contract .invalidValue)
    return { state with
      acceptedFees := update state.acceptedFees token (some amount)
      multiAssetActive := true }

def removeAcceptedFee (token : Address) : Except Trap State :=
  administer env state true fun _ =>
    return { state with acceptedFees := update state.acceptedFees token none }

def setFeeCeilings (maxFixedFee : Int) (maxBasisPoints : Nat) : Except Trap State :=
  administer env state false fun _ => do
    require (¬ (maxFixedFee < 0 ∨ maxCreatorBps < maxBasisPoints)) (.contract .invalidValue)
    return { state with feeCeilings := some ⟨maxFixedFee, maxBasisPoints⟩ }

def setIssuanceRateLimit (maxIssuances window : Nat) : Except Trap State :=
  administer env state true fun _ => do
    require (¬ (maxIssuances = 0 ∨ 100 < maxIssuances ∨ window = 0 ∨ 10000 < window))
      (.contract .invalidValue)
    return { state with rateLimit := some (maxIssuances, window) }

def clearIssuanceRateLimit : Except Trap State :=
  administer env state true fun _ => return { state with rateLimit := none }

def setRateLimitExempt (attester : Address) (exempt : Bool) : Except Trap State :=
  administer env state true fun _ =>
    return { state with rateExempt := update state.rateExempt attester exempt }

/-! ## Attester keys -/

/-- The guards that open the entry points about an attester's own keys and nonces. -/
def openOwn : Except Trap Unit := do
  rejectReentrant state
  requireUnpaused state .protocolPaused

/-- The next version of a key record, by checked addition. -/
def nextVersion (version : Nat) : Except Trap Nat := do
  require (version + 1 < 2 ^ 32) Trap.overflow
  return version + 1

def putAttesterKey (state : State) (attester : Address) (record : AttesterKeyRecord) : State :=
  { state with attesterKeys := update state.attesterKeys attester (some record) }

def keyReplaceable (existing : Option AttesterKeyRecord) : Bool :=
  match existing with
  | some record => record.revoked
  | none => true

def registeredVersion (existing : Option AttesterKeyRecord) : Except Trap Nat :=
  match existing with
  | some record => nextVersion record.version
  | none => return 1

variable (state : State) (attester : Address)

def registerAttesterKey (publicKey : BytesN 32) : Except Trap State := do
  openOwn state
  requireAuth env attester
  require (keyReplaceable (state.attesterKeys attester) = true)
    (.contract .attesterKeyAlreadyRegistered)
  let version <- registeredVersion (state.attesterKeys attester)
  return (putAttesterKey state attester ⟨publicKey, version, false⟩).publish
    (.attesterKeyRegistered attester publicKey version)

/-- The current key record, which must not be revoked. -/
def requireLiveKey : Except Trap AttesterKeyRecord := do
  let record <- expect (state.attesterKeys attester) (.contract .attesterKeyNotFound)
  require (record.revoked = false) (.contract .attesterKeyRevoked)
  return record

def rotateAttesterKey (newPublicKey : BytesN 32) : Except Trap State := do
  openOwn state
  requireAuth env attester
  let record <- requireLiveKey state attester
  let newVersion <- nextVersion record.version
  return (putAttesterKey state attester ⟨newPublicKey, newVersion, false⟩).publish
    (.attesterKeyRotated attester record.publicKey newPublicKey newVersion)

def revokeAttesterKey : Except Trap State := do
  openOwn state
  requireAuth env attester
  let record <- requireLiveKey state attester
  return (putAttesterKey state attester { record with revoked := true }).publish
    (.attesterKeyRevoked attester record.publicKey record.version)

def invalidateNoncesInternal (minNonce maxNonce : UInt64) : Except Trap State := do
  require ((state.delegationNonces attester).getD 0 < maxNonce) (.contract .invalidValue)
  return { state with
    delegationNonces := update state.delegationNonces attester (some maxNonce) }.publish
    (.noncesInvalidated attester minNonce maxNonce)

def invalidateNonces (minNonce maxNonce : UInt64) : Except Trap State := do
  openOwn state
  require (minNonce <= maxNonce) (.contract .invalidValue)
  requireAuth env attester
  invalidateNoncesInternal state attester minNonce maxNonce

/-- `u64::saturating_add(1)`. -/
def saturatingNext (nonce : UInt64) : UInt64 := if nonce + 1 = 0 then nonce else nonce + 1

def setNonceHighwaterMark (state : State) (attester : Address) (newNonce : UInt64) : Except Trap State := do
  openOwn state
  requireAuth env attester
  invalidateNoncesInternal state attester
    (saturatingNext ((state.delegationNonces attester).getD 0)) newNonce

def invalidateNoncesByDelegation (state : State) (attester : Address) (minNonce maxNonce : UInt64)
    (nonce : UInt64) (signature : BytesN 64) (publicKey : BytesN 32) : Except Trap State := do
  openOwn state
  require (minNonce <= maxNonce) (.contract .invalidValue)
  requireAttesterKey state attester publicKey
  verifyOffchainSignature crypto
    (hashDelegatedNonceInvalidation crypto attester minNonce maxNonce (delegationDomain env nonce))
    publicKey signature
  let consumed <- consumeDelegationNonce state attester nonce
  invalidateNoncesInternal consumed attester minNonce maxNonce

/-! ## Calls -/

inductive Call where
  | init (admin registry : Address)
  | upgrade (newWasmHash : BytesN 32) (newVersion : Nat)
  | proposeAdmin (newAdmin : Address)
  | acceptAdmin
  | setDelegationPolicy (attester : Address) (policy : DelegationPolicy)
  | pause
  | unpause
  | setIndexer (indexer : Address)
  | setIndexerStrict (strict : Bool)
  | setTreasury (treasury : Address)
  | setAutoPrune (enabled : Bool)
  | setZkVerifier (verifier : Address)
  | setFee (token : Address) (amount : Int)
  | clearFee
  | setFeePerByte (amount : Int)
  | setSchemaZeroFee (schemaUid : UID) (enabled : Bool)
  | setAcceptedFee (token : Address) (amount : Int)
  | removeAcceptedFee (token : Address)
  | setFeeCeilings (maxFixedFee : Int) (maxBasisPoints : Nat)
  | setSchemaFee (schemaUid : UID) (authorizer : Address) (feeType : Nat) (fixedAmount : Int) (basisPoints : Nat)
  | clearSchemaFee (schemaUid : UID) (authorizer : Address)
  | setIssuanceRateLimit (maxIssuances window : Nat)
  | clearIssuanceRateLimit
  | setRateLimitExempt (attester : Address) (exempt : Bool)
  | registerAttesterKey (attester : Address) (publicKey : BytesN 32)
  | rotateAttesterKey (attester : Address) (newPublicKey : BytesN 32)
  | revokeAttesterKey (attester : Address)
  | invalidateNonces (attester : Address) (minNonce maxNonce : UInt64)
  | setNonceHighwaterMark (attester : Address) (newNonce : UInt64)
  | invalidateNoncesByDelegation (attester : Address) (minNonce maxNonce nonce : UInt64)
      (signature : BytesN 64) (publicKey : BytesN 32)
  | withdrawTokens (authorizer token : Address) (amount : Int) (destination : Address)
  | withdrawCreatorFees (creator token : Address) (amount : Int) (destination : Address)
  | withdrawTreasuryFees (authorizer token : Address) (amount : Int) (destination : Address)
  | attest (attestation : Attestation)
  | attestByDelegation (attestation : Attestation) (nonce : UInt64) (signature : BytesN 64) (publicKey : BytesN 32)
  | attestByScopedDelegation (attestation : Attestation) (nonce : UInt64) (signature : BytesN 64)
      (publicKey : BytesN 32) (authorization : DelegationAuthorization)
  | attestWithZk (attestation : Attestation) (proof : Bytes) (nullifier : BytesN 32)
  | attestWithValue (attestation : Attestation) (token : Address) (value : Int)
  | multiAttest (attestations : List Attestation)
  | multiAttestByDelegation (attestations : List Attestation) (nonces : List UInt64)
      (signatures : List (BytesN 64)) (publicKeys : List (BytesN 32))
  | broadcastAttest (schemaUid : UID) (recipients : List Address) (data : Bytes)
      (expirationTime : UInt64) (revocable : Bool)
  | broadcastAttestByAttester (attester : Address) (schemaUid : UID) (recipients : List Address)
      (data : Bytes) (expirationTime : UInt64) (revocable : Bool)
  | revoke (uid : UID)
  | revokeByAuthorizer (uid : UID) (authorizer : Address)
  | revokeByDelegate (uid : UID) (delegate : Address)
  | revokeByDelegation (uid : UID) (nonce : UInt64) (signature : BytesN 64) (publicKey : BytesN 32)
  | multiRevoke (uids : List UID)
  | revokeBySchema (schemaUid : UID) (uids : List UID) (authorizer : Address)
  | multiRevokeByDelegation (uids : List UID) (nonces : List UInt64)
      (signatures : List (BytesN 64)) (publicKeys : List (BytesN 32))
  | replaceAttestation (oldUid : UID) (newData : Attestation)
  | replaceByDelegationConsent (oldUid : UID) (newData : Attestation)
      (attesterApproval recipientApproval : ReplacementApproval)
  | renewAttestation (uid : UID) (newExpirationTime : UInt64)
  | pruneExpired (uids : List UID)
  | migrateAttestation (uid : UID)
  | migrateAttestations (uids : List UID)
  | reindexAttestation (uid : UID)
  | bulkReindex (uids : List UID)

/-- A call that returns a value besides the ledger it leaves. -/
def ledgerOf {α : Type} (result : Except Trap (α × Ledger W)) : Except Trap (Ledger W) := do
  let value <- result
  return value.2

/-- A call that writes only the service's own storage. -/
def locally (ledger : Ledger W) (result : Except Trap State) : Except Trap (Ledger W) := do
  let state <- result
  return { ledger with sas := state }

/-- The same for a call that returns a value. -/
def locallyWith {α : Type} (ledger : Ledger W) (result : Except Trap (α × State)) : Except Trap (Ledger W) := do
  let value <- result
  return { ledger with sas := value.2 }

/-- One call of the contract. -/
def step (ledger : Ledger W) (input : Env × Call) : Except Trap (Ledger W) :=
  let env := input.1
  match input.2 with
  | .init admin registry => locally ledger (init host env ledger admin registry)
  | .upgrade newWasmHash newVersion =>
    locally ledger (upgrade env ledger.sas newWasmHash newVersion)
  | .proposeAdmin newAdmin => locally ledger (proposeAdmin env ledger.sas newAdmin)
  | .acceptAdmin => locally ledger (acceptAdmin env ledger.sas)
  | .setDelegationPolicy attester policy =>
    locally ledger (setDelegationPolicy env ledger.sas attester policy)
  | .pause => locally ledger (pause env ledger.sas)
  | .unpause => locally ledger (unpause env ledger.sas)
  | .setIndexer indexer => locally ledger (setIndexer env ledger.sas indexer)
  | .setIndexerStrict strict => locally ledger (setIndexerStrict env ledger.sas strict)
  | .setTreasury treasury => locally ledger (setTreasury env ledger.sas treasury)
  | .setAutoPrune enabled => locally ledger (setAutoPrune env ledger.sas enabled)
  | .setZkVerifier verifier => locally ledger (setZkVerifier env ledger.sas verifier)
  | .setFee token amount => locally ledger (setFee env ledger.sas token amount)
  | .clearFee => locally ledger (clearFee env ledger.sas)
  | .setFeePerByte amount => locally ledger (setFeePerByte env ledger.sas amount)
  | .setSchemaZeroFee schemaUid enabled =>
    locally ledger (setSchemaZeroFee env ledger.sas schemaUid enabled)
  | .setAcceptedFee token amount => locally ledger (setAcceptedFee env ledger.sas token amount)
  | .removeAcceptedFee token => locally ledger (removeAcceptedFee env ledger.sas token)
  | .setFeeCeilings maxFixedFee maxBasisPoints =>
    locally ledger (setFeeCeilings env ledger.sas maxFixedFee maxBasisPoints)
  | .setSchemaFee schemaUid authorizer feeType fixedAmount basisPoints =>
    locally ledger (setSchemaFee host env ledger schemaUid authorizer feeType fixedAmount basisPoints)
  | .clearSchemaFee schemaUid authorizer =>
    locally ledger (clearSchemaFee host env ledger schemaUid authorizer)
  | .setIssuanceRateLimit maxIssuances window =>
    locally ledger (setIssuanceRateLimit env ledger.sas maxIssuances window)
  | .clearIssuanceRateLimit => locally ledger (clearIssuanceRateLimit env ledger.sas)
  | .setRateLimitExempt attester exempt =>
    locally ledger (setRateLimitExempt env ledger.sas attester exempt)
  | .registerAttesterKey attester publicKey =>
    locally ledger (registerAttesterKey env ledger.sas attester publicKey)
  | .rotateAttesterKey attester newPublicKey =>
    locally ledger (rotateAttesterKey env ledger.sas attester newPublicKey)
  | .revokeAttesterKey attester => locally ledger (revokeAttesterKey env ledger.sas attester)
  | .invalidateNonces attester minNonce maxNonce =>
    locally ledger (invalidateNonces env ledger.sas attester minNonce maxNonce)
  | .setNonceHighwaterMark attester newNonce =>
    locally ledger (setNonceHighwaterMark env ledger.sas attester newNonce)
  | .invalidateNoncesByDelegation attester minNonce maxNonce nonce signature publicKey =>
    locally ledger (invalidateNoncesByDelegation crypto env ledger.sas attester minNonce maxNonce
      nonce signature publicKey)
  | .withdrawTokens authorizer token amount destination =>
    withdrawTokens host env ledger authorizer token amount destination
  | .withdrawCreatorFees creator token amount destination =>
    withdrawCreatorFees host env ledger creator token amount destination
  | .withdrawTreasuryFees authorizer token amount destination =>
    withdrawTreasuryFees host env ledger authorizer token amount destination
  | .attest attestation => ledgerOf (attest host crypto env ledger attestation)
  | .attestByDelegation attestation nonce signature publicKey =>
    ledgerOf (attestByDelegation host crypto env ledger attestation nonce signature publicKey)
  | .attestByScopedDelegation attestation nonce signature publicKey authorization =>
    ledgerOf (attestByScopedDelegation host crypto env ledger attestation nonce signature publicKey authorization)
  | .attestWithZk attestation proof nullifier =>
    ledgerOf (attestWithZk host crypto env ledger attestation proof nullifier)
  | .attestWithValue attestation token value =>
    ledgerOf (attestWithValue host crypto env ledger attestation token value)
  | .multiAttest attestations => ledgerOf (multiAttest host crypto env ledger attestations)
  | .multiAttestByDelegation attestations nonces signatures publicKeys =>
    ledgerOf (multiAttestByDelegation host crypto env ledger attestations nonces signatures publicKeys)
  | .broadcastAttest schemaUid recipients data expirationTime revocable =>
    ledgerOf (broadcastAttest host crypto env ledger schemaUid recipients data expirationTime revocable)
  | .broadcastAttestByAttester attester schemaUid recipients data expirationTime revocable =>
    ledgerOf (broadcastAttestByAttester host crypto env ledger attester schemaUid recipients data
      expirationTime revocable)
  | .revoke uid => revoke host env ledger uid
  | .revokeByAuthorizer uid authorizer => revokeByAuthorizer host env ledger uid authorizer
  | .revokeByDelegate uid delegate => revokeByDelegate host env ledger uid delegate
  | .revokeByDelegation uid nonce signature publicKey =>
    revokeByDelegation host crypto env ledger uid nonce signature publicKey
  | .multiRevoke uids => multiRevoke host env ledger uids
  | .revokeBySchema schemaUid uids authorizer =>
    revokeBySchema host env ledger schemaUid uids authorizer
  | .multiRevokeByDelegation uids nonces signatures publicKeys =>
    multiRevokeByDelegation host crypto env ledger uids nonces signatures publicKeys
  | .replaceAttestation oldUid newData =>
    ledgerOf (replaceAttestation host crypto env ledger oldUid newData)
  | .replaceByDelegationConsent oldUid newData attesterApproval recipientApproval =>
    ledgerOf (replaceByDelegationConsent host crypto env ledger oldUid newData attesterApproval recipientApproval)
  | .renewAttestation uid newExpirationTime =>
    ledgerOf (renewAttestation host env ledger uid newExpirationTime)
  | .pruneExpired uids => locallyWith ledger (pruneExpired env ledger.sas uids)
  | .migrateAttestation uid => locallyWith ledger (migrateAttestation ledger.sas uid)
  | .migrateAttestations uids => locallyWith ledger (migrateAttestations ledger.sas uids)
  | .reindexAttestation uid => reindexAttestation host env ledger uid
  | .bulkReindex uids => ledgerOf (bulkReindex host env ledger uids)

/-- What can happen on the ledger: a call of this contract, or anything at all elsewhere. -/
inductive Move (W : Type) where
  | call (env : Env) (call : Call)
  | outside (world : W)

def advance (ledger : Ledger W) : Move W -> Except Trap (Ledger W)
  | .call env call => step host crypto ledger (env, call)
  | .outside world => .ok { ledger with world := world }

end SorobanSas.Sas
