import SorobanSas.Sas.State

namespace SorobanSas.Sas

open Library
open Registry (RevocationPolicy)

/-!
# Issuance and revocation

Every way of issuing an attestation ends in `attest_internal`, and every way of revoking
one in `revoke_internal`.  This module has those two and the guards the entry points share,
each under the name the source gives it and in the order of its checks.
-/

variable {W : Type} (host : Host W) (crypto : Crypto) (env : Env) (state : State)

def i128Max : Int := 2 ^ 127 - 1

def i128Min : Int := -2 ^ 127

def checkedI128 (value : Int) : Option Int := if i128Min <= value ∧ value <= i128Max then some value else none

def saturatingI128 (value : Int) : Int := max i128Min (min i128Max value)

/-! ## Guards -/

def requireAdmin : Except Trap Address := expect state.admin (.contract .notInitialized)

def requireRegistry : Except Trap Address := expect state.registry (.contract .notInitialized)

/-- The check of `is_paused_status` that opens most entry points; the error depends on the
entry point. -/
def requireUnpaused (failure : SASError) : Except Trap Unit := require (state.paused = false) (Trap.contract failure)

def rejectReentrant : Except Trap Unit := require (state.guard = false ∧ state.callDepth = 0) (.contract .reentrancy)

def enterReentrancyGuard : Except Trap State := do
  require (state.guard = false) (.contract .reentrancy)
  return { state with guard := true }

def exitReentrancyGuard : State := { state with guard := false }

def enterCallbackContext : Except Trap State := do
  require (state.callDepth + 1 < 2 ^ 32) (.contract .reentrancy)
  return { state with callDepth := state.callDepth + 1, guard := true }

/-- What `enter_callback_context` returns: whether this frame is the one to release the
guard. -/
def ownsGuard : Bool := !state.guard

def exitCallbackContext (owns : Bool) : State :=
  { state with callDepth := state.callDepth - 1, guard := state.guard && !owns }

def maxAttestationDataBytes : Nat := 10000

def feeQuote (schemaUid : UID) (size : Nat) : Except Trap Int := do
  require (size <= maxAttestationDataBytes) (.contract .payloadTooLarge)
  if state.zeroFeeSchemas schemaUid then
    return 0
  else
    let base := (state.feeConfig.map (·.2)).getD 0
    let perByte := state.feePerByte.getD 0
    expect ((checkedI128 (perByte * size)).bind fun extra => checkedI128 (base + extra))
      (.contract .invalidValue)

def requireUnpaidAllowed (attestation : Attestation) : Except Trap Unit :=
  if 0 < state.feePerByte.getD 0 then do
    let quote <- feeQuote state attestation.schemaUid attestation.data.length
    require (quote <= 0) (.contract .insufficientFee)
  else
    return ()

/-- The `ISSUE` bit is set, the grant has not run out, and the schema is in scope. -/
def grantsIssue (permissions : UInt32) (validUntil : UInt64) (scope : DelegationSchemaScope)
    (schemaUid : UID) : Bool := permissions &&& 1 != 0 && (validUntil == 0 || decide (env.timestamp <= validUntil)) &&
    match scope with
    | .only uid => uid = schemaUid
    | .any => true

def requireDelegationPolicy (attester : Address) (schemaUid : UID) : Except Trap Unit :=
  whenSome (state.delegationPolicies attester) fun policy =>
    require (grantsIssue env policy.permissions policy.validUntil policy.authorizedSchemaUid
      schemaUid = true) (.contract .delegationScopeDenied)

def consumeIssuanceQuota (attester : Address) : Except Trap State :=
  match state.rateLimit with
  | none => return state
  | some (maxIssuances, window) =>
    if state.rateExempt attester then
      return state
    else do
      let oldest := env.sequence - (window - 1)
      let recent := (state.rateHistory attester).filter fun issuedAt =>
        oldest <= issuedAt && issuedAt <= env.sequence
      require (recent.length < maxIssuances) (.contract .rateLimitExceeded)
      return { state with
        rateHistory := update state.rateHistory attester (recent ++ [env.sequence]) }

def validateExpiration (expirationTime : UInt64) : Except SASError Unit :=
  require (¬ (expirationTime ≠ 0 ∧ expirationTime <= env.timestamp)) .alreadyExpired

/-- `validate_recipient`: the two zero addresses stand for nobody. -/
def validateRecipient (recipient : Address) : Except SASError Unit :=
  require (recipient ≠ .account 0 ∧ recipient ≠ .contract 0) .invalidRecipient

def validateAttestationParties (recipient attester : Address) : Except SASError Unit := do
  validateRecipient recipient
  validateRecipient attester
  require (recipient ≠ attester) .invalidRecipient

def checkPolicy (policy : RevocationPolicy) (revocable : Bool) : Except SASError Unit :=
  match policy with
  | .revocableOnly => require (revocable = true) .invalidRevocability
  | .irrevocableOnly => require (revocable = false) .notRevocable
  | .permissive => .ok ()

variable (world : W) (registry : Address) (schemaUid : UID)

def schemaAttesterAclStatus (attester : Address) : Bool × Bool :=
  if (host.isAttesterAuthorized world registry schemaUid attester).getD false then (true, true)
  else (false, (host.isSchemaRestricted world registry schemaUid).getD false)

/-- The attester is the owner of the schema, a delegate, or on its access control list. -/
def requireIssuer (attester : Address) : Except Trap Unit :=
  if (host.isAuthorized env world registry schemaUid attester).getD false then
    return ()
  else
    let (onAcl, restricted) := schemaAttesterAclStatus host world registry schemaUid attester
    if onAcl then return ()
    else throw (Trap.contract (if restricted then .unauthorizedAttester else .unauthorized))

/-- The window that `get_max_ttl` imposes on an expiration time. -/
def requireWithinMaxTtl (expirationTime : UInt64) : Except Trap Unit :=
  let maxTtl := (host.getMaxTtl world registry schemaUid).getD 0
  require (maxTtl = 0 ∨ expirationTime ≠ 0 ∧
      ¬ (env.timestamp < expirationTime ∧ maxTtl < expirationTime - env.timestamp))
    (.contract .invalidExpirationTime)

/-- A callback whose failure is ignored, made to the indexer if one is bound. -/
def tellIndexer (indexer : Option Address) (world : W) (callback : Address -> Option W) : W :=
  match indexer with
  | some bound => (callback bound).getD world
  | none => world

def notifyIndexerOfIssuance (ledger : Ledger W) (indexer : Address) (attestation : Attestation) :
    Except Trap (Ledger W) := match host.indexAttestation env ledger.world indexer attestation with
  | some world =>
    if 0 < attestation.validFrom then
      return { ledger with
        world := (host.setValidFrom env world indexer attestation.uid attestation.validFrom).getD world }
    else
      return { ledger with world := world }
  | none =>
    if ledger.sas.indexerStrict then
      throw (.contract .indexerUnavailable)
    else
      return { ledger with sas := ledger.sas.publish (.indexFailed attestation.uid) }

/-- The notification, if an indexer is bound. -/
def notifyIssuance (ledger : Ledger W) (attestation : Attestation) : Except Trap (Ledger W) :=
  match ledger.sas.indexer with
  | some indexer => notifyIndexerOfIssuance host env ledger indexer attestation
  | none => return ledger

/-! ## The two internal operations -/

def writeAnchor (uid : UID) (revocation : Bool) : Except Trap State := do
  require ((state.records uid).anchor revocation = none) (.contract .invalidTimestamp)
  return state.putSlot uid
    ((state.records uid).setAnchor revocation ⟨env.sequence, env.timestamp⟩)

/-- The record as it is stored. -/
def stamp (attestation : Attestation) : Attestation := { attestation with time := env.timestamp }

/-- `attest_internal` up to `on_attest`: the state and the schema at that moment. -/
def admitAttestation (ledger : Ledger W) (attestation : Attestation) : Except Trap (State × Registry.SchemaRecord) := do
  let entered <- enterCallbackContext ledger.sas
  let registry <- requireRegistry entered
  require (attestation.data.length <= maxAttestationDataBytes) (.contract .payloadTooLarge)
  require (hasAttestation entered attestation.uid = false) (.contract .duplicateAttestation)
  require (attestation.uid = attestationUid crypto attestation.schemaUid attestation.recipient
    attestation.attester attestation.data) (.contract .invalidUID)
  panicOn (validateExpiration env attestation.expirationTime)
  require (¬ (0 < attestation.expirationTime ∧ attestation.expirationTime <= attestation.validFrom))
    (.contract .invalidTimeRange)
  panicOn (validateAttestationParties attestation.recipient attestation.attester)
  require (attestation.refUid ≠ attestation.uid) (.contract .invalidRefUid)
  require (attestation.refUid = UID.zero ∨ hasAttestation entered attestation.refUid = true)
    (.contract .invalidRefUid)
  let schemaOpt <- host.getSchema ledger.world registry attestation.schemaUid
  let schema <- expect schemaOpt (.contract .invalidSchema)
  require ((host.isSchemaQuarantined ledger.world registry attestation.schemaUid).getD false = false)
    (.contract .schemaQuarantined)
  requireWithinMaxTtl host env ledger.world registry attestation.schemaUid
    attestation.expirationTime
  requireIssuer host env ledger.world registry attestation.schemaUid attestation.attester
  let metered <- consumeIssuanceQuota env entered attestation.attester
  panicOn (checkPolicy ((host.getSchemaPolicy ledger.world registry attestation.schemaUid).getD
    (.ofRevocable schema.revocable)) attestation.revocable)
  return (metered, schema)

/-- `attest_internal` up to the notification of the indexer. -/
def recordAttestation (ledger : Ledger W) (attestation : Attestation) : Except Trap (Ledger W) := do
  let admitted <- admitAttestation host crypto env ledger attestation
  let world <- expect (host.onAttest env ledger.world admitted.2.resolver attestation) (.contract .resolverRejected)
  let anchored <- writeAnchor env (writeAttestation admitted.1 (stamp env attestation)) attestation.uid false
  return ⟨anchored, world⟩

def attestInternal (ledger : Ledger W) (attestation : Attestation) : Except Trap (UID × Ledger W) := do
  let recorded <- recordAttestation host crypto env ledger attestation
  let issued := stamp env attestation
  let notified <- notifyIssuance host env recorded issued
  let published := notified.sas.publish
    (.attested issued.uid issued.schemaUid issued.attester issued.recipient)
  return (issued.uid, ⟨exitCallbackContext published (ownsGuard ledger.sas), notified.world⟩)

/-- The stored record, or `AttestationNotFound`. -/
def requireStored (uid : UID) : Except Trap Attestation := do
  let found <- readAttestation state uid
  expect found (.contract .attestationNotFound)

/-- `revoke_internal` up to `on_revoke`: the state, the revoked record and its schema. -/
def admitRevocation (ledger : Ledger W) (uid : UID) : Except Trap (State × Attestation × Registry.SchemaRecord) := do
  let entered <- enterCallbackContext ledger.sas
  let attestation <- requireStored entered uid
  require (attestation.revocable = true) (.contract .notRevocable)
  require (attestation.revocationTime = 0) (.contract .alreadyRevoked)
  let revoked := { attestation with revocationTime := env.timestamp }
  let anchored <- writeAnchor env (writeAttestation entered revoked) uid true
  let published := anchored.publish (.revoked uid env.timestamp)
  let registry <- requireRegistry published
  let schemaOpt <- host.getSchema ledger.world registry revoked.schemaUid
  let schema <- expect schemaOpt (.contract .invalidSchema)
  return (published, revoked, schema)

def revokeInternal (ledger : Ledger W) (uid : UID) : Except Trap (Ledger W) := do
  let admitted <- admitRevocation host env ledger uid
  let world <- expect (host.onRevoke env ledger.world admitted.2.2.resolver admitted.2.1)
    (.contract .resolverRejected)
  let told := tellIndexer admitted.1.indexer world fun indexer => host.handleRevoke env world indexer uid
  return ⟨exitCallbackContext admitted.1 (ownsGuard ledger.sas), told⟩

/-- `verify_attestation_record`, without its renewal of storage lifetimes. -/
def verifyAttestationRecord (uid : UID) : Except Trap Bool := do
  match <- readAttestation state uid with
  | none => return false
  | some attestation =>
    return attestation.revocationTime = 0 &&
      !(attestation.validFrom ≠ 0 && env.timestamp < attestation.validFrom) &&
      !(attestation.expirationTime ≠ 0 && attestation.expirationTime <= env.timestamp)

def verifyAttestation (uid : UID) : Except Trap Bool := verifyAttestationRecord env state uid

def getAttestation (uid : UID) : Except Trap (Option Attestation) := readAttestation state uid

end SorobanSas.Sas
