import SorobanSas.Registry.Contract

namespace SorobanSas.Registry

open Library

/-!
# Registration and the calls of a run

The variants of `register` differ in what they check before, and write after, the
common body `registerInternal`.  The inductive type `Call` then lists every entry
point that can change storage, and `step` runs one of them.
-/

variable (crypto : Crypto) (env : Env) (state : State)

/-! ## The common body -/

def maxSchemaLineageDepth : Nat := 32

/-- The loop of `lineage_root`: the depth of a schema below its root. -/
def lineageDepth : Nat -> UID -> Nat -> Except Trap Nat
  | 0, _, _ => .error (.contract .limitExceeded)
  | fuel + 1, current, hops =>
    match (state.schemas current).bind (·.parentSchemaUid) with
    | some parent => lineageDepth fuel parent (hops + 1)
    | none => .ok hops

def validateParentSchema (owner : Address) (parent : UID) : Except Trap Unit := do
  require (state.schemas parent ≠ none) (.contract .invalidSchema)
  require (isOwnerAddress state parent owner = true) (.contract .unauthorized)
  let depth <- lineageDepth state (maxSchemaLineageDepth + 1) parent 0
  require (depth < maxSchemaLineageDepth) (.contract .limitExceeded)

def maxMetadataUriLength : Nat := 256

def validateMetadataUri (uri : Bytes) : Except Trap Unit :=
  require (uri.length <= maxMetadataUriLength) (.contract .invalidValue)

/-- The number of registered schemas, or a panic when it is missing while the first
index entry is still there. -/
def schemaCount : Except Trap Nat :=
  match state.count with
  | some count => .ok count
  | none => do
      require (state.index 0 = none) (.contract .countMetadataExpired)
      return 0

variable (owner : Address) (schema : Bytes) (resolver : Address) (revocable : Bool)

def registerInternal (maxTtl : UInt64) (parentSchemaUid : Option UID) (metadataUri : Option Bytes) :
    Except Trap (UID × State) := do
  panicOn (SchemaSyntax.validateSchemaLexical schema)
  panicOn (SchemaSyntax.validateSchemaSyntax schema)
  whenSome parentSchemaUid (validateParentSchema state owner)
  let uid := schemaUid crypto schema resolver revocable
  require (state.schemas uid = none) (.contract .schemaAlreadyExists)
  whenSome metadataUri validateMetadataUri
  let count <- schemaCount state
  require (count + 1 < 2 ^ 32) Trap.overflow
  let record : SchemaRecord := ⟨uid, resolver, revocable, schema, false, parentSchemaUid⟩
  let stored := { state with
    schemas := update state.schemas uid (some record)
    maxTtl := if 0 < maxTtl then update state.maxTtl uid (some maxTtl) else state.maxTtl
    creator := update state.creator uid (some owner)
    policy := update state.policy uid
      (some ((state.policy uid).getD (RevocationPolicy.ofRevocable revocable)))
    metadataUri := update state.metadataUri uid
      (metadataUri.or (state.metadataUri uid))
    index := update state.index count (some uid)
    count := some (count + 1) }
  return (uid, stored.publish (.registered uid owner))

/-! ## Variants -/

def register : Except Trap (UID × State) := do
  requireAuth env owner
  registerInternal crypto state owner schema resolver revocable 0 none none

def registerWithParent (parentSchemaUid : Option UID) : Except Trap (UID × State) := do
  requireAuth env owner
  registerInternal crypto state owner schema resolver revocable 0 parentSchemaUid none

/-- `register_with_ttl`, also exported as `register_with_max_ttl`. -/
def registerWithTtl (maxTtl : UInt64) : Except Trap (UID × State) := do
  requireAuth env owner
  registerInternal crypto state owner schema resolver revocable maxTtl none none

def registerWithPolicy (policy : RevocationPolicy) : Except Trap (UID × State) := do
  requireAuth env owner
  let (uid, registered) <- registerInternal crypto state owner schema resolver
    (decide (policy ≠ .irrevocableOnly)) 0 none none
  return (uid, { registered with
    policy := update registered.policy uid (some policy) })

def maxCreatorRoyaltyBps : Nat := 5000

def registerWithRoyalty (royaltyBps : Nat) : Except Trap (UID × State) := do
  require (royaltyBps <= maxCreatorRoyaltyBps) (.contract .invalidValue)
  let (uid, registered) <- register crypto env state owner schema resolver revocable
  return (uid, { registered with
    royalty := update registered.royalty uid (some royaltyBps) })

/-- Whether token and amount are exactly the configured registration fee. -/
def matchesFee (fee : Option (Address × Int)) (token : Address) (value : Int) : Bool :=
  match fee with
  | some (feeToken, feeAmount) => token = feeToken && value = feeAmount
  | none => value = 0

/-- The payment checks shared by the `_with_value` variants. -/
def chargeRegistration (owner token : Address) (value : Int) (transferred : Bool) : Except Trap Unit := do
  require (0 <= value) (.contract .invalidValue)
  require (matchesFee state.schemaFee token value = true) (.contract .feeMismatch)
  requireAuth env owner
  if 0 < value then
    let _ <- expect state.treasury (.contract .treasuryNotSet)
    require (transferred = true) Trap.callee
  else
    return ()

/-- `register_with_value_and_ttl`; `register_with_value` passes zero for `max_ttl`. -/
def registerWithValueAndTtl (token : Address) (value : Int) (maxTtl : UInt64) (transferred : Bool) :
    Except Trap (UID × State) := do
  chargeRegistration env state owner token value transferred
  registerInternal crypto state owner schema resolver revocable maxTtl none none

/-- `register_schema`; `register_with_metadata` always passes a URI. -/
def registerSchema (metadataUri : Option Bytes) : Except Trap (UID × State) := do
  requireAuth env owner
  registerInternal crypto state owner schema resolver revocable 0 none metadataUri

def registerSchemaWithValue (token : Address) (value : Int) (metadataUri : Option Bytes)
    (transferred : Bool) : Except Trap (UID × State) := do
  chargeRegistration env state owner token value transferred
  registerInternal crypto state owner schema resolver revocable 0 none metadataUri

structure SchemaBatchItem where
  owner : Address
  schema : Bytes
  resolver : Address
  revocable : Bool

def maxSchemaBatchSize : Nat := 50

/-- One turn of the loop of `register_schemas_batch`.  Authorization is asked once per
distinct owner, which is the same as asking for it every time. -/
def registerBatchItem (state : State) (item : SchemaBatchItem) : Except Trap State := do
  requireAuth env item.owner
  let (_, registered) <- registerInternal crypto state item.owner item.schema item.resolver
    item.revocable 0 none none
  return registered

def registerSchemasBatch (items : List SchemaBatchItem) : Except Trap State := do
  require (items.length <= maxSchemaBatchSize) (.contract .batchTooLarge)
  require (items.length ≠ 0) (.contract .invalidValue)
  items.foldlM (registerBatchItem crypto env) state

def maxCategoryBytes : Nat := 32

def validateCategory (category : Bytes) : Except Trap Unit := do
  require (category.length <= maxCategoryBytes) (.contract .invalidValue)
  require (category.all (fun byte => SchemaSyntax.isAsciiAlphanumeric byte || byte = 0x2d) = true)
    (.contract .invalidValue)

/-- The number of schemas in a category, with the same panic as `schemaCount`. -/
def categoryCount (category : Bytes) : Except Trap Nat :=
  match state.categoryCount category with
  | some count => .ok count
  | none => do
      require (state.categoryIndex category 0 = none) (.contract .countMetadataExpired)
      return 0

def indexCategory (uid : UID) (category : Bytes) : Except Trap State := do
  let count <- categoryCount state category
  require (count + 1 < 2 ^ 32) (.contract .limitExceeded)
  return { state with
    category := update state.category uid (some category)
    categoryIndex := update state.categoryIndex category
      (update (state.categoryIndex category) count (some uid))
    categoryCount := update state.categoryCount category (some (count + 1)) }

def registerWithCategory (category : Option Bytes) : Except Trap State := do
  requireAuth env owner
  whenSome category validateCategory
  let (uid, registered) <- registerInternal crypto state owner schema resolver revocable 0 none none
  match category with
  | some name => if name.isEmpty then return registered else indexCategory registered uid name
  | none => return registered

def isAppendOnlySchema (predecessor successor : Bytes) : Bool :=
  if successor.length <= predecessor.length || 1024 < predecessor.length ||
      1024 < successor.length then false
  else successor.take predecessor.length = predecessor &&
    successor[predecessor.length]? = some SchemaSyntax.comma

def maxSchemaHistoryDepth : Nat := 64

def schemaHistory : Nat -> UID -> List UID -> Except Trap (List UID)
  | 0, _, _ => .error (.contract .invalidSchemaDefinition)
  | fuel + 1, current, seen => do
      require (seen.length < maxSchemaHistoryDepth) (.contract .invalidSchemaDefinition)
      require (state.schemas current ≠ none) (.contract .schemaNotFound)
      match state.predecessor current with
      | none => return seen ++ [current]
      | some parent => schemaHistory fuel parent (seen ++ [current])

def registerWithPredecessor (predecessorUid : UID) : Except Trap (UID × State) := do
  panicOn (SchemaSyntax.validateSchemaSyntax schema)
  let predecessor <- expect (state.schemas predecessorUid) (.contract .schemaNotFound)
  let predecessorOwner <- requireCreator state predecessorUid
  panicOn (SchemaSyntax.validateSchemaSyntax predecessor.schema)
  require (isAppendOnlySchema predecessor.schema schema = true)
    (.contract .invalidSchemaDefinition)
  requireAuth env predecessorOwner
  requireAuth env owner
  let lineage <- schemaHistory state (maxSchemaHistoryDepth + 1) predecessorUid []
  require (lineage.length < maxSchemaHistoryDepth) (.contract .invalidSchemaDefinition)
  let (uid, registered) <- registerInternal crypto state owner schema resolver revocable 0 none none
  return (uid, { registered with
    predecessor := update registered.predecessor uid (some predecessorUid) })

/-! ## Properties kept beside the record -/

variable (authorizer : Address) (uid : UID)

/-- The checks shared by the setters that the owners of a live schema may call. -/
def requireSchemaOwner : Except Trap Unit := do
  requireAuth env authorizer
  let _ <- expect (getSchema state uid) (.contract .schemaNotFound)
  require (isOwnerAddress state uid authorizer = true) (.contract .unauthorized)

def setSchemaFrostGroup (group : FrostGroup) : Except Trap State := do
  requireSchemaOwner env state authorizer uid
  panicOn (validateFrostGroup group)
  return { state with
    frostGroup := update state.frostGroup uid (some group) }.publish
    (.frostGroupUpdated uid authorizer true group)

def clearSchemaFrostGroup : Except Trap State := do
  requireSchemaOwner env state authorizer uid
  return { state with frostGroup := update state.frostGroup uid none }.publish
    (.frostGroupUpdated uid authorizer false ⟨0, 0, 0⟩)

def setSchemaMerkleRoot (merkleRoot : BytesN 32) : Except Trap State := do
  requireSchemaOwner env state authorizer uid
  return { state with
    merkleRoot := update state.merkleRoot uid (some merkleRoot) }.publish
    (.merkleRootUpdated uid authorizer true merkleRoot 1)

def clearSchemaMerkleRoot : Except Trap State := do
  requireSchemaOwner env state authorizer uid
  return { state with merkleRoot := update state.merkleRoot uid none }.publish
    (.merkleRootUpdated uid authorizer false 0 0)

def updateSchemaMetadata (uid : UID) (authorizer : Address) (metadataUri : Bytes) : Except Trap State := do
  requireTransferableSchema state uid
  requireAuth env authorizer
  require (isOwnerAddress state uid authorizer = true) (.contract .unauthorized)
  validateMetadataUri metadataUri
  return { state with
    metadataUri := update state.metadataUri uid (some metadataUri) }.publish
    (.metadataUpdated uid metadataUri authorizer)

def setCreatorRoyalty (caller : Address) (uid : UID) (royaltyBps : Nat) : Except Trap State := do
  require (royaltyBps <= maxCreatorRoyaltyBps) (.contract .invalidValue)
  requireAuth env caller
  let creator <- requireCreator state uid
  let admin <- requireRegistryAdmin state
  require (caller = creator ∨ caller = admin) (.contract .unauthorized)
  return { state with royalty := update state.royalty uid (some royaltyBps) }

variable (uid : UID)

def getCreatorRoyalty : Nat := (state.royalty uid).getD 0

def getMaxTtl : UInt64 := (state.maxTtl uid).getD 0

def isSchemaQuarantined : Bool := state.quarantine uid

def getSchemaPolicy : RevocationPolicy :=
  match state.policy uid with
  | some policy => policy
  | none =>
    match state.schemas uid with
    | some record => .ofRevocable record.revocable
    | none => .permissive

def isDelegate (delegate : Address) : Bool :=
  state.delegates uid delegate &&
    match state.delegateExpiry uid delegate with
    | some expiry => !(expiry ≠ 0 && expiry <= env.timestamp)
    | none => true

def isAuthorized (attester : Address) : Bool :=
  if state.deprecated uid then false
  else match state.creator uid with
    | some creator => creator = attester || isDelegate env state uid attester
    | none => false

def isAttesterAuthorized (attester : Address) : Bool := !state.deprecated uid && state.acl uid attester

def isSchemaRestricted : Bool := 0 < aclCount state uid

/-! ## Runs -/

inductive Call where
  | init (admin : Address)
  | upgrade (newWasmHash : BytesN 32) (newVersion : Nat)
  | setFee (token : Address) (amount : Int)
  | clearFee
  | setTreasury (treasury : Address)
  | withdrawFees (amount : Int)
  | deprecateKey (uid : UID) (authorizer : Address)
  | deprecateSchema (sender : Address) (uid : UID)
  | setSchemaQuarantine (uid : UID) (quarantined : Bool) (explanationUri : Bytes)
  | addDelegate (uid : UID) (delegate : Address)
  | addDelegateWithExpiry (uid : UID) (delegate : Address) (expiryTimestamp : UInt64)
  | removeDelegate (uid : UID) (delegate : Address)
  | selfRevokeDelegate (uid : UID) (delegate : Address)
  | addAuthorizedAttester (uid : UID) (attester : Address)
  | removeAuthorizedAttester (uid : UID) (attester : Address)
  | transferSchemaOwnership (uid : UID) (newOwner : Address)
  | transferOwnership (sender : Address) (uid : UID) (newOwner : Address)
  | proposeSchemaOwner (uid : UID) (newOwner : Address)
  | claimSchemaOwnership (uid : UID)
  | cancelSchemaOwnershipTransfer (uid : UID)
  | configureOwnerSet (uid : UID) (authorizer : Address) (owners : List Address) (threshold : Nat)
  | proposeOwnershipTransfer (uid : UID) (proposer newOwner : Address)
  | approveOwnershipTransfer (uid : UID) (approver : Address)
  | cancelOwnershipTransfer (uid : UID) (canceller : Address)
  | register (owner : Address) (schema : Bytes) (resolver : Address) (revocable : Bool)
  | registerWithParent (owner : Address) (schema : Bytes) (resolver : Address) (revocable : Bool)
      (parentSchemaUid : Option UID)
  | registerWithTtl (owner : Address) (schema : Bytes) (resolver : Address) (revocable : Bool) (maxTtl : UInt64)
  | registerWithPolicy (owner : Address) (schema : Bytes) (resolver : Address) (policy : RevocationPolicy)
  | registerWithRoyalty (owner : Address) (schema : Bytes) (resolver : Address) (revocable : Bool) (royaltyBps : Nat)
  | registerWithValueAndTtl (owner : Address) (schema : Bytes) (resolver : Address)
      (revocable : Bool) (token : Address) (value : Int) (maxTtl : UInt64) (transferred : Bool)
  | registerSchema (owner : Address) (schema : Bytes) (resolver : Address) (revocable : Bool)
      (metadataUri : Option Bytes)
  | registerSchemaWithValue (owner : Address) (schema : Bytes) (resolver : Address)
      (revocable : Bool) (token : Address) (value : Int) (metadataUri : Option Bytes) (transferred : Bool)
  | registerSchemasBatch (items : List SchemaBatchItem)
  | registerWithCategory (owner : Address) (schema : Bytes) (resolver : Address)
      (revocable : Bool) (category : Option Bytes)
  | registerWithPredecessor (owner : Address) (schema : Bytes) (resolver : Address)
      (revocable : Bool) (predecessorUid : UID)
  | setSchemaFrostGroup (authorizer : Address) (uid : UID) (group : FrostGroup)
  | clearSchemaFrostGroup (authorizer : Address) (uid : UID)
  | setSchemaMerkleRoot (authorizer : Address) (uid : UID) (merkleRoot : BytesN 32)
  | clearSchemaMerkleRoot (authorizer : Address) (uid : UID)
  | updateSchemaMetadata (uid : UID) (authorizer : Address) (metadataUri : Bytes)
  | setCreatorRoyalty (caller : Address) (uid : UID) (royaltyBps : Nat)

/-- The state of a result that also carries a UID. -/
def stateOf (result : Except Trap (UID × State)) : Except Trap State := do
  let (_, next) <- result
  return next

/-- One call in its host environment. -/
def step (state : State) (input : Env × Call) : Except Trap State :=
  let env := input.1
  match input.2 with
  | .init admin => init env state admin
  | .upgrade newWasmHash newVersion => upgrade env state newWasmHash newVersion
  | .setFee token amount => setFee env state token amount
  | .clearFee => clearFee env state
  | .setTreasury treasury => setTreasury env state treasury
  | .withdrawFees amount => withdrawFees env state amount
  | .deprecateKey uid authorizer => deprecateKey env state uid authorizer
  | .deprecateSchema sender uid => deprecateSchema env state sender uid
  | .setSchemaQuarantine uid quarantined uri => setSchemaQuarantine env state uid quarantined uri
  | .addDelegate uid delegate => addDelegate env state uid delegate
  | .addDelegateWithExpiry uid delegate expiry => addDelegateWithExpiry env state uid delegate expiry
  | .removeDelegate uid delegate => removeDelegate env state uid delegate
  | .selfRevokeDelegate uid delegate => selfRevokeDelegate env state uid delegate
  | .addAuthorizedAttester uid attester => addAuthorizedAttester env state uid attester
  | .removeAuthorizedAttester uid attester => removeAuthorizedAttester env state uid attester
  | .transferSchemaOwnership uid newOwner => transferSchemaOwnership env state uid newOwner
  | .transferOwnership sender uid newOwner => transferOwnership env state sender uid newOwner
  | .proposeSchemaOwner uid newOwner => proposeSchemaOwner env state uid newOwner
  | .claimSchemaOwnership uid => claimSchemaOwnership env state uid
  | .cancelSchemaOwnershipTransfer uid => cancelSchemaOwnershipTransfer env state uid
  | .configureOwnerSet uid authorizer owners threshold =>
    configureOwnerSet env state uid authorizer owners threshold
  | .proposeOwnershipTransfer uid proposer newOwner =>
    proposeOwnershipTransfer env state uid proposer newOwner
  | .approveOwnershipTransfer uid approver => approveOwnershipTransfer env state uid approver
  | .cancelOwnershipTransfer uid canceller => cancelOwnershipTransfer env state uid canceller
  | .register owner schema resolver revocable =>
    stateOf (register crypto env state owner schema resolver revocable)
  | .registerWithParent owner schema resolver revocable parent =>
    stateOf (registerWithParent crypto env state owner schema resolver revocable parent)
  | .registerWithTtl owner schema resolver revocable maxTtl =>
    stateOf (registerWithTtl crypto env state owner schema resolver revocable maxTtl)
  | .registerWithPolicy owner schema resolver policy =>
    stateOf (registerWithPolicy crypto env state owner schema resolver policy)
  | .registerWithRoyalty owner schema resolver revocable royaltyBps =>
    stateOf (registerWithRoyalty crypto env state owner schema resolver revocable royaltyBps)
  | .registerWithValueAndTtl owner schema resolver revocable token value maxTtl transferred =>
    stateOf (registerWithValueAndTtl crypto env state owner schema resolver revocable token value maxTtl transferred)
  | .registerSchema owner schema resolver revocable metadataUri =>
    stateOf (registerSchema crypto env state owner schema resolver revocable metadataUri)
  | .registerSchemaWithValue owner schema resolver revocable token value metadataUri transferred =>
    stateOf (registerSchemaWithValue crypto env state owner schema resolver revocable token value
      metadataUri transferred)
  | .registerSchemasBatch items => registerSchemasBatch crypto env state items
  | .registerWithCategory owner schema resolver revocable category =>
    registerWithCategory crypto env state owner schema resolver revocable category
  | .registerWithPredecessor owner schema resolver revocable predecessorUid =>
    stateOf (registerWithPredecessor crypto env state owner schema resolver revocable predecessorUid)
  | .setSchemaFrostGroup authorizer uid group => setSchemaFrostGroup env state authorizer uid group
  | .clearSchemaFrostGroup authorizer uid => clearSchemaFrostGroup env state authorizer uid
  | .setSchemaMerkleRoot authorizer uid merkleRoot =>
    setSchemaMerkleRoot env state authorizer uid merkleRoot
  | .clearSchemaMerkleRoot authorizer uid => clearSchemaMerkleRoot env state authorizer uid
  | .updateSchemaMetadata uid authorizer metadataUri =>
    updateSchemaMetadata env state uid authorizer metadataUri
  | .setCreatorRoyalty caller uid royaltyBps => setCreatorRoyalty env state caller uid royaltyBps

end SorobanSas.Registry
