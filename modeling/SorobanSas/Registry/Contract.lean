import SorobanSas.Registry.State
import Mathlib.Data.List.Nodup

namespace SorobanSas.Registry

open Library List

/-!
# Entry points of the schema registry

Each definition follows one public function of the contract, in the order of its
checks.  `register_with_value` and its variants call the token contract; whether that
transfer succeeds is an argument of the model.  Reading functions that other contracts
call are at the end.
-/

variable (crypto : Crypto) (env : Env) (state : State)

/-! ## Configuration -/

def init (admin : Address) : Except Trap State := do
  require (state.admin = none) (.contract .alreadyInitialized)
  requireAuth env admin
  return { state with admin := some admin, version := some (state.version.getD 1) }

def maxKnownVersion : Nat := 2

/-- `u32::saturating_add(1)`. -/
def saturatingSucc (value : Nat) : Nat := min (value + 1) (2 ^ 32 - 1)

/-- `upgrade`.  The code that the new hash selects is outside the model. -/
def upgrade (newWasmHash : BytesN 32) (newVersion : Nat) : Except Trap State := do
  let admin <- requireRegistryAdmin state
  let oldVersion := state.version.getD 1
  require (newVersion <= maxKnownVersion) (.contract .incompatibleDependency)
  require (newVersion = saturatingSucc oldVersion) (.contract .invalidValue)
  require (newWasmHash ≠ 0) (.contract .invalidValue)
  requireAuth env admin
  return { state with version := some newVersion, wasmHash := some newWasmHash }.publish
    (.upgraded oldVersion newVersion (state.wasmHash.getD 0) newWasmHash admin)

def setFee (token : Address) (amount : Int) : Except Trap State := do
  let admin <- requireRegistryAdmin state
  requireAuth env admin
  require (0 < amount) (.contract .invalidValue)
  return { state with schemaFee := some (token, amount) }.publish
    (.feeUpdated state.schemaFee (token, amount) admin)

def clearFee : Except Trap State := do
  let admin <- requireRegistryAdmin state
  requireAuth env admin
  return { state with schemaFee := none }

def setTreasury (treasury : Address) : Except Trap State := do
  let admin <- requireRegistryAdmin state
  requireAuth env admin
  return { state with treasury := some treasury }.publish
    (.treasuryUpdated state.treasury treasury admin)

/-- `withdraw_fees` checks the administrator and does nothing else. -/
def withdrawFees (_amount : Int) : Except Trap State := do
  let admin <- requireRegistryAdmin state
  requireAuth env admin
  return state

/-- `deprecate` sets the `DEPRECATED` key. -/
def deprecateKey (uid : UID) (authorizer : Address) : Except Trap State := do
  let admin <- requireRegistryAdmin state
  require (state.schemas uid ≠ none) (.contract .schemaNotFound)
  requireAuth env authorizer
  require (authorizer = admin ∨ state.creator uid = some authorizer) (.contract .unauthorized)
  if state.deprecated uid then
    return state
  else
    let marked := { state with deprecated := update state.deprecated uid true }
    return marked.publish (.deprecated uid authorizer)

/-- `deprecate_schema` marks the record, not the `DEPRECATED` key. -/
def deprecateSchema (sender : Address) (uid : UID) : Except Trap State := do
  requireAuth env sender
  let record <- expect (getSchema state uid) (.contract .schemaNotFound)
  require (isOwnerAddress state uid sender = true) (.contract .unauthorized)
  return { state with
    schemas := update state.schemas uid (some { record with deprecated := true }) }.publish
    (.deprecatedBare uid sender)

def maxExplanationUriLen : Nat := 256

variable (uid : UID)

def setSchemaQuarantine (quarantined : Bool) (explanationUri : Bytes) : Except Trap State := do
  let admin <- requireRegistryAdmin state
  requireAuth env admin
  require (state.schemas uid ≠ none) (.contract .schemaNotFound)
  require (explanationUri.length ≠ 0 ∧ explanationUri.length <= maxExplanationUriLen)
    (.contract .invalidValue)
  return { state with
    quarantine := update state.quarantine uid quarantined
    quarantineUri := update state.quarantineUri uid (some explanationUri) }.publish
    (.quarantined uid quarantined explanationUri)

/-! ## Delegates and attester lists -/

variable (delegate : Address)

def addToDelegateList : State :=
  let list := (state.delegateList uid).getD []
  if delegate ∈ list then state
  else { state with
    delegateList := update state.delegateList uid (some (list ++ [delegate])) }

def removeFromDelegateList : State :=
  match state.delegateList uid with
  | none => state
  | some list =>
    let newList := list.filter (· ≠ delegate)
    { state with
      delegateList := update state.delegateList uid
        (if newList.isEmpty then none else some newList) }

/-- The body shared by `add_delegate` and `add_delegate_with_expiry`. -/
def authorizeDelegate (expiry : Option UInt64) : Except Trap State := do
  let owner <- requireCreatorAuth env state uid
  let listed := addToDelegateList { state with
    delegates := update state.delegates uid
      (update (state.delegates uid) delegate true)
    delegateExpiry := update state.delegateExpiry uid
      (update (state.delegateExpiry uid) delegate expiry) } uid delegate
  return listed.publish (.delegateAdded uid delegate owner)

def addDelegate : Except Trap State := authorizeDelegate env state uid delegate none

def addDelegateWithExpiry (expiryTimestamp : UInt64) : Except Trap State :=
  authorizeDelegate env state uid delegate (some expiryTimestamp)

/-- The writes shared by `remove_delegate` and `self_revoke_delegate`. -/
def dropDelegate (delegate authorizer : Address) : State :=
  (removeFromDelegateList { state with
    delegates := update state.delegates uid
      (update (state.delegates uid) delegate false)
    delegateExpiry := update state.delegateExpiry uid
      (update (state.delegateExpiry uid) delegate none) } uid delegate).publish
    (.delegateRemoved uid delegate authorizer)

def removeDelegate (delegate : Address) : Except Trap State := do
  let owner <- requireCreatorAuth env state uid
  return dropDelegate state uid delegate owner

/-- `self_revoke_delegate`, also exported as `revoke_delegate` and `self_revoke`. -/
def selfRevokeDelegate (delegate : Address) : Except Trap State := do
  require (state.schemas uid ≠ none) (.contract .schemaNotFound)
  requireAuth env delegate
  return dropDelegate state uid delegate delegate

def aclCount : Nat := (state.aclCount uid).getD 0

def addAuthorizedAttester (attester : Address) : Except Trap State := do
  let owner <- requireCreatorAuth env state uid
  if state.acl uid attester then
    return state
  else
    let listed := { state with
      aclCount := update state.aclCount uid (some (saturatingSucc (aclCount state uid)))
      acl := update state.acl uid (update (state.acl uid) attester true) }
    return listed.publish (.attesterAdded uid attester owner)

def removeAuthorizedAttester (attester : Address) : Except Trap State := do
  let owner <- requireCreatorAuth env state uid
  if state.acl uid attester then
    let count := aclCount state uid - 1
    let removed := { state with
      acl := update state.acl uid (update (state.acl uid) attester false)
      aclCount := update state.aclCount uid (if count = 0 then none else some count) }
    return removed.publish (.attesterRemoved uid attester owner)
  else
    return state

/-! ## Ownership -/

/-- Store a new creator. -/
def setCreator (owner : Address) : State := { state with creator := update state.creator uid (some owner) }

def finalizeOwnershipTransfer (oldOwner newOwner : Address) : State :=
  ({ setCreator state uid newOwner with
    pendingOwnership := update state.pendingOwnership uid none }).publish
    (.ownershipTransferred uid oldOwner newOwner)

def transferSchemaOwnership (newOwner : Address) : Except Trap State := do
  requireTransferableSchema state uid
  rejectSingleSigTransferForMultisig state uid
  let oldOwner <- requireCreator state uid
  requireAuth env oldOwner
  return (setCreator state uid newOwner).publish (.ownershipTransferred uid oldOwner newOwner)

def transferOwnership (sender : Address) (uid : UID) (newOwner : Address) : Except Trap State := do
  requireAuth env sender
  let _ <- expect (getSchema state uid) (.contract .schemaNotFound)
  rejectSingleSigTransferForMultisig state uid
  require (state.creator uid = some sender ∨ state.admin = some sender)
    (.contract .unauthorized)
  return (setCreator state uid newOwner).publish (.ownershipTransferredBare uid sender newOwner)

def proposeSchemaOwner (schemaUid : UID) (newOwner : Address) : Except Trap State := do
  requireTransferableSchema state schemaUid
  let currentOwner <- requireCreator state schemaUid
  requireAuth env currentOwner
  require (currentOwner ≠ newOwner) (.contract .invalidValue)
  return { state with
    pendingSchemaOwner := update state.pendingSchemaOwner schemaUid
      (some newOwner) }.publish (.ownershipProposed schemaUid currentOwner newOwner)

/-- `claim_schema_ownership`: neither the owner set nor the proposer is consulted. -/
def claimSchemaOwnership (schemaUid : UID) : Except Trap State := do
  requireTransferableSchema state schemaUid
  let proposedOwner <- expect (state.pendingSchemaOwner schemaUid) (.contract .unauthorized)
  requireAuth env proposedOwner
  let oldOwner <- requireCreator state schemaUid
  return ({ setCreator state schemaUid proposedOwner with
    pendingSchemaOwner := update state.pendingSchemaOwner schemaUid none }).publish
    (.ownershipTransferred schemaUid oldOwner proposedOwner)

def cancelSchemaOwnershipTransfer (schemaUid : UID) : Except Trap State := do
  requireTransferableSchema state schemaUid
  let currentOwner <- requireCreator state schemaUid
  requireAuth env currentOwner
  require (state.pendingSchemaOwner schemaUid ≠ none) (.contract .schemaNotFound)
  return { state with
    pendingSchemaOwner := update state.pendingSchemaOwner schemaUid none }.publish
    (.ownerTransferCancelled schemaUid currentOwner)

def configureOwnerSet (uid : UID) (authorizer : Address) (owners : List Address)
    (threshold : Nat) : Except Trap State := do
  requireTransferableSchema state uid
  requireAuth env authorizer
  require (isOwnerAddress state uid authorizer = true) (.contract .unauthorized)
  let valid <- validateOwnerSet owners threshold
  let version :=
    match state.owners uid with
    | some existing => saturatingSucc existing.version
    | none => 1
  let set : OwnerSet := ⟨owners, threshold, version, valid.down⟩
  return { state with
    owners := update state.owners uid (some set)
    pendingOwnership := update state.pendingOwnership uid none }.publish
    (.ownerSetUpdated uid authorizer set)

def proposeOwnershipTransfer (uid : UID) (proposer newOwner : Address) : Except Trap State := do
  requireTransferableSchema state uid
  requireAuth env proposer
  require (isOwnerAddress state uid proposer = true) (.contract .unauthorized)
  let currentOwner <- requireCreator state uid
  require (currentOwner ≠ newOwner) (.contract .invalidValue)
  if effectiveThreshold state uid <= 1 then
    return finalizeOwnershipTransfer state uid currentOwner newOwner
  else
    let pending : PendingOwnershipTransfer :=
      ⟨effectiveVersion state uid, newOwner, [proposer], env.timestamp, nodup_singleton _⟩
    return { state with
      pendingOwnership := update state.pendingOwnership uid (some pending) }.publish
      (.ownerProposed uid proposer pending)

def PendingOwnershipTransfer.approve (pending : PendingOwnershipTransfer) (approver : Address)
    (fresh : approver ∉ pending.approvals) : PendingOwnershipTransfer := { pending with
    approvals := pending.approvals ++ [approver]
    distinct := by
      rw [nodup_append]
      refine ⟨pending.distinct, nodup_singleton _, ?_⟩
      rintro first member second last rfl
      exact fresh (List.mem_singleton.mp last ▸ member) }

def recordApproval (uid : UID) (approver : Address) : Except Trap (PendingOwnershipTransfer × State) := do
  let pending <- expect (state.pendingOwnership uid) (.contract .schemaNotFound)
  require (pending.ownerSetVersion = effectiveVersion state uid) (.contract .unauthorized)
  require (isOwnerAddress state uid approver = true) (.contract .unauthorized)
  if fresh : approver ∉ pending.approvals then
    let approved := pending.approve approver fresh
    return (approved, { state with
      pendingOwnership := update state.pendingOwnership uid (some approved) }.publish
      (.ownerApproved uid approver approved.approvals.length))
  else throw (.contract .invalidValue)

def approveOwnershipTransfer (uid : UID) (approver : Address) : Except Trap State := do
  requireTransferableSchema state uid
  requireAuth env approver
  let (pending, recorded) <- recordApproval state uid approver
  if pending.approvals.length < effectiveThreshold recorded uid then
    return recorded
  else
    let oldOwner <- requireCreator recorded uid
    return finalizeOwnershipTransfer recorded uid oldOwner pending.newOwner

def cancelOwnershipTransfer (uid : UID) (canceller : Address) : Except Trap State := do
  requireTransferableSchema state uid
  requireAuth env canceller
  require (isOwnerAddress state uid canceller = true) (.contract .unauthorized)
  require (state.pendingOwnership uid ≠ none) (.contract .schemaNotFound)
  return { state with
    pendingOwnership := update state.pendingOwnership uid none }.publish
    (.ownerTransferCancelled uid canceller)

end SorobanSas.Registry
