import SorobanSas.Sas.Storage
import SorobanSas.Registry.State

namespace SorobanSas.Sas

open Library
open Registry (RevocationPolicy SchemaRecord)

/-!
# Storage of the attestation service and the contracts it calls

Every storage key of the contract is a field of `State`, and a key with parameters is a
function of them.  Time to live is not modelled: persistent entries stay until the
contract removes them.

The registry, the resolvers, the indexer, the token contracts and the proof verifier are
other contracts.  `Host` is what the service can observe of them: each query and each
callback is a function of the world outside the service, and a callback returns the world
it leaves behind.  The host refuses re-entry into a contract that is on the call stack, so
no callback can write the service's own storage.
-/

structure DelegationPolicy where
  authorizedSchemaUid : DelegationSchemaScope
  permissions : UInt32
  validUntil : UInt64
  deriving DecidableEq, Repr

structure AttesterKeyRecord where
  publicKey : BytesN 32
  version : Nat
  revoked : Bool
  deriving DecidableEq, Repr

structure SchemaFeeConfig where
  feeType : Nat
  fixedAmount : Int
  basisPoints : Nat
  deriving DecidableEq, Repr

structure FeeCeilings where
  maxFixedFee : Int
  maxBasisPoints : Nat
  deriving DecidableEq, Repr

structure ReplacementApproval where
  nonce : UInt64
  signature : BytesN 64
  publicKey : BytesN 32
  deriving DecidableEq, Repr

/-- The events of the service, with their topics and data. -/
inductive Event where
  | attested (uid schemaUid : UID) (attester recipient : Address)
  | attestedWithFee (uid schemaUid : UID) (attester recipient : Address) (feeAmount : Int)
  | revoked (uid : UID) (timestamp : UInt64)
  | renewed (uid : UID) (attester : Address) (newExpirationTime : UInt64)
  | pruned (uid : UID)
  | batchAttested (count attesterCount : Nat)
  | batchRevoked (count attesterCount : Nat)
  | indexFailed (uid : UID)
  /-- `reindex_attestation`: the UID is topic and data. -/
  | reindexed (uid : UID)
  /-- `bulk_reindex`: the UID is the topic only. -/
  | reindexedBare (uid : UID)
  | withdrawal (token : Address) (amount : Int) (destination authorizer : Address)
  /-- `publish_fee_distributed`. -/
  | feeDistributed (schemaUid : UID) (token : Address)
      (totalFee treasuryAmount creatorAmount : Int) (creator : Address)
  /-- The same topics from `distribute_attestation_fee`, with the two shares only. -/
  | feeShares (schemaUid : UID) (treasuryAmount creatorAmount : Int)
  | feeConfigUpdated (old new : Option (Address × Int)) (authorizer : Address)
  | indexerUpdated (old : Option Address) (new authorizer : Address)
  | indexerStrictUpdated (old new : Bool) (admin : Address)
  | adminTransferProposed (currentAdmin proposedAdmin : Address)
  | adminTransferCompleted (oldAdmin newAdmin : Address)
  | contractUpgraded (oldWasmHash newWasmHash : BytesN 32) (authorizer : Address)
  | contractPaused (authorizer : Address)
  | contractUnpaused (authorizer : Address)
  | protocolPaused (authorizer : Address) (timestamp : UInt64)
  | protocolUnpaused (authorizer : Address) (timestamp : UInt64)
  | attesterKeyRegistered (attester : Address) (publicKey : BytesN 32) (version : Nat)
  | attesterKeyRotated (attester : Address) (oldPublicKey newPublicKey : BytesN 32) (newVersion : Nat)
  | attesterKeyRevoked (attester : Address) (publicKey : BytesN 32) (version : Nat)
  | noncesInvalidated (attester : Address) (minNonce maxNonce : UInt64)
  deriving DecidableEq

structure Settings where
  admin : Option Address := none
  pendingAdmin : Option Address := none
  registry : Option Address := none
  indexer : Option Address := none
  indexerStrict : Bool := false
  treasury : Option Address := none
  version : Option Nat := none
  wasmHash : Option (BytesN 32) := none
  paused : Bool := false
  autoPrune : Bool := false
  zkVerifier : Option Address := none
  feeConfig : Option (Address × Int) := none
  feePerByte : Option Int := none
  feeCeilings : Option FeeCeilings := none
  /-- `(FEE_ASSET, token)`. -/
  acceptedFees : Address -> Option Int := fun _ => none
  multiAssetActive : Bool := false
  /-- The largest number of issuances and the width of the window in ledgers. -/
  rateLimit : Option (Nat × Nat) := none
  rateExempt : Address -> Bool := fun _ => false
  zeroFeeSchemas : UID -> Bool := fun _ => false
  schemaFees : UID -> Option SchemaFeeConfig := fun _ => none

structure Credentials where
  delegationPolicies : Address -> Option DelegationPolicy := fun _ => none
  attesterKeys : Address -> Option AttesterKeyRecord := fun _ => none
  delegationNonces : Address -> Option UInt64 := fun _ => none
  consentNonces : Address -> Option UInt64 := fun _ => none
  nullifiers : BytesN 32 -> Bool := fun _ => false

/-- The storage of the contract, by default as it is before `init`. -/
structure State extends settings : Settings, credentials : Credentials where
  rateHistory : Address -> List Nat := fun _ => []
  /-- `REENTRANCY_GUARD`, present or absent. -/
  guard : Bool := false
  /-- `CALL_DEPTH`, absent when zero. -/
  callDepth : Nat := 0
  treasuryFees : Address -> Int := fun _ => 0
  /-- By creator and token. -/
  creatorFees : Address -> Address -> Int := fun _ _ => 0
  records : (uid : UID) -> Slot uid := fun _ => .empty
  events : List Event := []

def State.deployed : State := {}

export State (deployed)

def State.publish (state : State) (event : Event) : State := { state with events := state.events ++ [event] }

/-- Replace the entries of one UID. -/
def State.putSlot (state : State) (uid : UID) (slot : Slot uid) : State :=
  { state with records := update state.records uid slot }

/-- The record of a UID, in whichever layout it is stored. -/
def recordOf (state : State) (uid : UID) : Option Attestation := (state.records uid).content

def readAttestation (state : State) (uid : UID) : Except Trap (Option Attestation) := (state.records uid).read

def hasAttestation (state : State) (uid : UID) : Bool := (state.records uid).has

def writeAttestation (state : State) (attestation : Attestation) : State :=
  state.putSlot attestation.uid ((state.records attestation.uid).write attestation)

/-- What the service observes of the contracts it calls.  The address of the callee comes
first.  `Option` is the outcome of `try_invoke_contract`, `Except` that of a call whose
failure aborts the caller. -/
structure Host (W : Type) where
  /-- Whether one of the probes `SASREG` and `sasreg` answers `true`. -/
  isRegistry : W -> Address -> Bool
  getSchema : W -> Address -> UID -> Except Trap (Option SchemaRecord)
  isSchemaQuarantined : W -> Address -> UID -> Option Bool
  getMaxTtl : W -> Address -> UID -> Option UInt64
  isAuthorized : Env -> W -> Address -> UID -> Address -> Option Bool
  isAttesterAuthorized : W -> Address -> UID -> Address -> Option Bool
  isSchemaRestricted : W -> Address -> UID -> Option Bool
  getSchemaPolicy : W -> Address -> UID -> Option RevocationPolicy
  getCreator : W -> Address -> UID -> Option (Option Address)
  getCreatorRoyalty : W -> Address -> UID -> Option Nat
  getSchemaFrostGroup : W -> Address -> UID -> Option (Option FrostGroup)
  onAttest : Env -> W -> Address -> Attestation -> Option W
  onRevoke : Env -> W -> Address -> Attestation -> Option W
  /-- `index_attestation` with the UID, recipient, schema, attester and expiration time of
  the attestation. -/
  indexAttestation : Env -> W -> Address -> Attestation -> Option W
  setValidFrom : Env -> W -> Address -> UID -> UInt64 -> Option W
  handleRevoke : Env -> W -> Address -> UID -> Option W
  /-- `handle_replace` with the old and the new UID. -/
  handleReplace : Env -> W -> Address -> UID -> UID -> Option W
  handleRenew : Env -> W -> Address -> UID -> UInt64 -> Option W
  /-- The verdict of `verify_proof` on a proof and its public inputs. -/
  verifyProof : Env -> W -> Address -> Bytes -> List (BytesN 32) -> Option (Bool × W)
  /-- `transfer` of an amount from one address to another. -/
  transfer : Env -> W -> Address -> Address -> Address -> Int -> Except Trap W
  balance : W -> Address -> Address -> Except Trap Int

/-- The service together with the world outside it. -/
structure Ledger (W : Type) where
  sas : State
  world : W

/-- The same, with the reentrancy guard raised. -/
def Ledger.raised {W : Type} (ledger : Ledger W) : Ledger W := { ledger with sas := { ledger.sas with guard := true } }

end SorobanSas.Sas
