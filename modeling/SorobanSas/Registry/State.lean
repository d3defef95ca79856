import SorobanSas.Common.Hashing
import SorobanSas.Common.SchemaSyntax

namespace SorobanSas.Registry

open Library

/-!
# Storage of the schema registry

Every storage key of the contract is a field of `State`, and a key with parameters
is a function of them.  The owner set and the pending transfer of a schema carry the
facts their writers check, so that no reachable or unreachable state holds a
duplicate owner, an unattainable threshold or a repeated approval.
-/

inductive RevocationPolicy where
  | revocableOnly | irrevocableOnly | permissive
  deriving DecidableEq, Repr

def RevocationPolicy.ofRevocable (revocable : Bool) : RevocationPolicy :=
  if revocable then .permissive else .irrevocableOnly

structure SchemaRecord where
  uid : UID
  resolver : Address
  revocable : Bool
  schema : Bytes
  deprecated : Bool
  parentSchemaUid : Option UID
  deriving DecidableEq, Repr

def maxOwnerSet : Nat := 10

/-- What `validate_owner_set` accepts. -/
structure ValidOwners (owners : List Address) (threshold : Nat) : Prop where
  nonempty : owners ≠ []
  bounded : owners.length <= maxOwnerSet
  positive : 0 < threshold
  attainable : threshold <= owners.length
  distinct : owners.Nodup

structure OwnerSet where
  owners : List Address
  threshold : Nat
  version : Nat
  valid : ValidOwners owners threshold
  deriving DecidableEq

structure PendingOwnershipTransfer where
  ownerSetVersion : Nat
  newOwner : Address
  approvals : List Address
  createdAt : UInt64
  distinct : approvals.Nodup
  deriving DecidableEq

/-- The events of the registry, with their topics and data. -/
inductive Event where
  | upgraded (oldVersion newVersion : Nat) (oldWasmHash newWasmHash : BytesN 32) (authorizer : Address)
  | feeUpdated (old : Option (Address × Int)) (new : Address × Int) (authorizer : Address)
  | treasuryUpdated (old : Option Address) (new authorizer : Address)
  | registered (schemaUid : UID) (owner : Address)
  /-- `deprecate`: a `SchemaDeprecatedEvent`. -/
  | deprecated (schemaUid : UID) (deprecatedBy : Address)
  /-- `deprecate_schema`: the bare sender. -/
  | deprecatedBare (schemaUid : UID) (sender : Address)
  | delegateAdded (schemaUid : UID) (delegate authorizer : Address)
  | delegateRemoved (schemaUid : UID) (delegate authorizer : Address)
  | attesterAdded (schemaUid : UID) (attester authorizer : Address)
  | attesterRemoved (schemaUid : UID) (attester authorizer : Address)
  | ownershipTransferred (schemaUid : UID) (oldOwner newOwner : Address)
  /-- `transfer_ownership`: the pair of sender and new owner. -/
  | ownershipTransferredBare (schemaUid : UID) (sender newOwner : Address)
  | ownershipProposed (schemaUid : UID) (currentOwner proposedOwner : Address)
  | ownerSetUpdated (schemaUid : UID) (authorizer : Address) (set : OwnerSet)
  | ownerProposed (schemaUid : UID) (proposer : Address) (pending : PendingOwnershipTransfer)
  | ownerApproved (schemaUid : UID) (approver : Address) (count : Nat)
  | ownerTransferCancelled (schemaUid : UID) (canceller : Address)
  | quarantined (schemaUid : UID) (quarantined : Bool) (explanationUri : Bytes)
  | frostGroupUpdated (schemaUid : UID) (authorizer : Address) (enabled : Bool) (group : FrostGroup)
  | merkleRootUpdated (schemaUid : UID) (authorizer : Address) (enabled : Bool)
      (merkleRoot : BytesN 32) (threshold : Nat)
  | metadataUpdated (schemaUid : UID) (metadataUri : Bytes) (authorizer : Address)
  deriving DecidableEq

/-- Who owns a schema. -/
structure Ownership where
  creator : UID -> Option Address := fun _ => none
  owners : UID -> Option OwnerSet := fun _ => none
  pendingSchemaOwner : UID -> Option Address := fun _ => none
  pendingOwnership : UID -> Option PendingOwnershipTransfer := fun _ => none

/-- Which schemas there are. -/
structure Catalogue where
  schemas : UID -> Option SchemaRecord := fun _ => none
  deprecated : UID -> Bool := fun _ => false

structure Records extends catalogue : Catalogue where
  count : Option Nat := none
  index : Nat -> Option UID := fun _ => none
  categoryCount : Bytes -> Option Nat := fun _ => none
  categoryIndex : Bytes -> Nat -> Option UID := fun _ _ => none
  predecessor : UID -> Option UID := fun _ => none

structure Authority where
  delegates : UID -> Address -> Bool := fun _ _ => false
  delegateExpiry : UID -> Address -> Option UInt64 := fun _ _ => none
  delegateList : UID -> Option (List Address) := fun _ => none
  acl : UID -> Address -> Bool := fun _ _ => false
  aclCount : UID -> Option Nat := fun _ => none

/-- The storage of the contract, by default as it is before `init`. -/
structure State extends ownership : Ownership, records : Records, authority : Authority where
  admin : Option Address := none
  version : Option Nat := none
  wasmHash : Option (BytesN 32) := none
  schemaFee : Option (Address × Int) := none
  treasury : Option Address := none
  maxTtl : UID -> Option UInt64 := fun _ => none
  policy : UID -> Option RevocationPolicy := fun _ => none
  royalty : UID -> Option Nat := fun _ => none
  quarantine : UID -> Bool := fun _ => false
  quarantineUri : UID -> Option Bytes := fun _ => none
  frostGroup : UID -> Option FrostGroup := fun _ => none
  merkleRoot : UID -> Option (BytesN 32) := fun _ => none
  metadataUri : UID -> Option Bytes := fun _ => none
  category : UID -> Option Bytes := fun _ => none
  events : List Event := []

def State.deployed : State := {}

export State (deployed)

variable (state : State)

def State.publish (event : Event) : State := { state with events := state.events ++ [event] }

def requireRegistryAdmin : Except Trap Address := expect state.admin (.contract .notInitialized)

variable (uid : UID)

def getSchema : Option SchemaRecord := if state.deprecated uid then none else state.schemas uid

/-- `effective_owner_set`, the number of approvals required. -/
def effectiveThreshold : Nat :=
  match state.owners uid with
  | some set => set.threshold
  | none => 1

/-- `effective_owner_set`, the version in force. -/
def effectiveVersion : Nat :=
  match state.owners uid with
  | some set => set.version
  | none => 0

/-- `is_owner_address`: a member of the owner set, the creator, or the administrator. -/
def isOwnerAddress (who : Address) : Bool :=
  (match state.owners uid with
    | some set => decide (who ∈ set.owners)
    | none => false) ||
  decide (state.creator uid = some who) || decide (state.admin = some who)

def rejectSingleSigTransferForMultisig : Except Trap Unit :=
  require (effectiveThreshold state uid <= 1) (.contract .unauthorized)

def requireTransferableSchema : Except Trap Unit := do
  require (state.schemas uid ≠ none) (.contract .schemaNotFound)
  require (state.deprecated uid = false) (.contract .invalidSchema)

/-- `schema_creator`, where the source panics without one. -/
def requireCreator : Except Trap Address := expect (state.creator uid) (.contract .schemaNotFound)

def requireCreatorAuth (env : Env) (state : State) (uid : UID) : Except Trap Address := do
  require (state.schemas uid ≠ none) (.contract .schemaNotFound)
  let owner <- requireCreator state uid
  requireAuth env owner
  return owner

def validateOwnerSet (owners : List Address) (threshold : Nat) : Except Trap (PLift (ValidOwners owners threshold)) :=
  if bounds : owners ≠ [] ∧ owners.length <= maxOwnerSet then
    if fits : 0 < threshold ∧ threshold <= owners.length then
      if distinct : owners.Nodup then
        .ok ⟨⟨bounds.1, bounds.2, fits.1, fits.2, distinct⟩⟩
      else .error (.contract .invalidValue)
    else .error (.contract .invalidValue)
  else .error (.contract .limitExceeded)

end SorobanSas.Registry
