import SorobanSas.Common.Types

namespace SorobanSas.Indexer

open Library

/-!
# The Indexer contract

The indexer keeps, for every recipient, schema, attester and expiration class,
the list of attestation UIDs indexed under it.  Each list is split into numbered
chunks with a separate counter for its length.  The recipient and the attester
lists have separate counters, while both keep their chunks under the storage key
`(Address, chunk_index)`; the model keeps that sharing.

Counters are natural numbers, and the additions that the source performs on
`u32` values with overflow checks are checked here as well.  Storage lifetimes are
not modelled: no entry expires.
-/

def defaultChunkSize : Nat := 100

def minChunkSize : Nat := 25

def maxChunkSize : Nat := 100

def uidBytes : Nat := 36

def maxChunkBytes : Nat := 32768

/-- The two lookup dimensions keyed by an address.  Each value stands for the
pair of a counter prefix and a dimension symbol that the source passes along. -/
inductive AddressDimension where
  | recipient | attester
  deriving DecidableEq, Repr

inductive ExpirationStatus where
  | perpetual | expiring
  deriving DecidableEq, Repr

inductive IndexStatus where
  | active | revoked | replaced
  deriving DecidableEq, Repr

/-- `IndexRecord`: what a UID was first indexed with. -/
structure IndexRecord where
  recipient : Address
  schemaUid : UID
  attester : Address
  expirationTime : UInt64
  deriving DecidableEq, Repr

/-- `CHUNK_ALLOCATED` and `CHUNK_FULL`, without the dimension and the key. -/
inductive ChunkEvent where
  | allocated (chunkIndex : Nat)
  | full (chunkIndex totalItems : Nat)
  deriving DecidableEq, Repr

inductive Event where
  | addressChunk (dimension : AddressDimension) (key : Address) (event : ChunkEvent)
  | schemaChunk (key : UID) (event : ChunkEvent)
  | indexingProgress (recipient : Address) (uid : UID) (recipientTotal schemaTotal attesterTotal : Nat)
  | contractUpgraded (oldWasmHash newWasmHash : BytesN 32) (authorizer : Address)
  deriving DecidableEq, Repr

/-- The chunks stored under one lookup key. -/
abbrev Row := Nat -> Option (List UID)

/-- Instance and persistent storage of the contract, by default as it is before `init`. -/
structure State where
  admin : Option Address := none
  sas : Option Address := none
  version : Option Nat := none
  wasmHash : Option (BytesN 32) := none
  chunkCapacity : Option Nat := none
  chunkTier : Option Nat := none
  addressTotal : AddressDimension -> Address -> Nat := fun _ _ => 0
  schemaTotal : UID -> Nat := fun _ => 0
  expirationTotal : ExpirationStatus -> Nat := fun _ => 0
  addressChunks : Address -> Row := fun _ _ => none
  schemaChunks : UID -> Row := fun _ _ => none
  expirationChunks : ExpirationStatus -> Row := fun _ _ => none
  status : UID -> Option IndexStatus := fun _ => none
  validFrom : UID -> Option UInt64 := fun _ => none
  indexed : UID -> Option IndexRecord := fun _ => none
  recipientAttestation : Address -> UID -> Bool := fun _ _ => false
  recipientAttestationCount : Address -> Nat := fun _ => 0
  schemaAttestation : UID -> UID -> Bool := fun _ _ => false
  schemaAttestationCount : UID -> Nat := fun _ => 0
  events : List Event := []

def State.deployed : State := {}

export State (deployed)

/-- Addition or multiplication on `u32`, checked. -/
def checkedU32 (value : Nat) : Except Trap Nat := if value < 2 ^ 32 then .ok value else .error Trap.overflow

def saturatingAdd (first second : Nat) : Nat := min (first + second) (2 ^ 32 - 1)

/-- The bounds both capacity functions clamp to. -/
def capacityBounds : Nat × Nat :=
  let byteBound := maxChunkBytes / uidBytes
  let upper := min maxChunkSize byteBound
  (min minChunkSize upper, upper)

/-- `u32::clamp`. -/
def clamp (value lower upper : Nat) : Nat := if value < lower then lower else if upper < value then upper else value

def chunkCapacity (state : State) : Nat :=
  clamp (state.chunkCapacity.getD defaultChunkSize) capacityBounds.1 capacityBounds.2

def adaptiveCapacityForTier (tier : Nat) : Nat :=
  let candidate :=
    match tier with
    | 0 => minChunkSize
    | 1 => 50
    | 2 => 100
    | _ => maxChunkSize
  clamp candidate capacityBounds.1 capacityBounds.2

/-! ## The write path -/

/-- The body shared by `index_address_uid` and `index_uid_uid`: put `uid` into the
chunk that the counter points to, or into the next one when that is full. -/
def appendUid (capacity total : Nat) (row : Row) (uid : UID) : Row × List ChunkEvent :=
  let chunkIndex := total / capacity
  let chunk := (row chunkIndex).getD []
  if capacity <= chunk.length then
    let next := chunkIndex + 1
    let appended := (row next).getD [] ++ [uid]
    (update row next (some appended), [.full chunkIndex chunk.length, .allocated next] ++
        if appended.length = capacity then [.full next appended.length] else [])
  else
    let appended := chunk ++ [uid]
    (update row chunkIndex (some appended), (if chunk.isEmpty then [.allocated chunkIndex] else []) ++
        if appended.length = capacity then [.full chunkIndex appended.length] else [])

variable (state : State)

/-- `index_address_uid`.  The chunk row does not depend on the dimension. -/
def indexAddressUid (key : Address) (uid : UID) (dimension : AddressDimension) : Except Trap State := do
  let total := state.addressTotal dimension key
  let (row, events) := appendUid (chunkCapacity state) total (state.addressChunks key) uid
  let newTotal <- checkedU32 (total + 1)
  return { state with
    addressChunks := update state.addressChunks key row
    addressTotal := update state.addressTotal dimension
      (update (state.addressTotal dimension) key newTotal)
    events := state.events ++ events.map (.addressChunk dimension key) }

/-- `index_uid_uid`, used for the schema dimension only. -/
def indexUidUid (key : UID) (uid : UID) : Except Trap State := do
  let total := state.schemaTotal key
  let (row, events) := appendUid (chunkCapacity state) total (state.schemaChunks key) uid
  let newTotal <- checkedU32 (total + 1)
  return { state with
    schemaChunks := update state.schemaChunks key row
    schemaTotal := update state.schemaTotal key newTotal
    events := state.events ++ events.map (.schemaChunk key) }

/-- `index_expiration_status`: always at `MAX_CHUNK_SIZE`, and without events. -/
def indexExpirationStatus (key : ExpirationStatus) (uid : UID) : Except Trap State := do
  let total := state.expirationTotal key
  let (row, _) := appendUid maxChunkSize total (state.expirationChunks key) uid
  let newTotal <- checkedU32 (total + 1)
  return { state with
    expirationChunks := update state.expirationChunks key row
    expirationTotal := update state.expirationTotal key newTotal }

def indexRecipientAttestation (recipient : Address) (uid : UID) : State :=
  if state.recipientAttestation recipient uid then state
  else { state with
    recipientAttestation := update state.recipientAttestation recipient
      (update (state.recipientAttestation recipient) uid true)
    recipientAttestationCount := update state.recipientAttestationCount recipient
      (saturatingAdd (state.recipientAttestationCount recipient) 1) }

def indexSchemaAttestation (schemaUid uid : UID) : State :=
  if state.schemaAttestation schemaUid uid then state
  else { state with
    schemaAttestation := update state.schemaAttestation schemaUid
      (update (state.schemaAttestation schemaUid) uid true)
    schemaAttestationCount := update state.schemaAttestationCount schemaUid
      (saturatingAdd (state.schemaAttestationCount schemaUid) 1) }

def isActive (uid : UID) : Bool :=
  match state.status uid with
  | some .active | none => true
  | some .revoked | some .replaced => false

/-- The loop of `collect_filtered`, reading positions `index` up to `total`.  Every
turn advances `index`, so `fuel` bounds the number of turns. -/
def collectLoop (capacity total : Nat) (getChunk : Row) (keep : UID -> Bool) :
    Nat -> Nat -> List UID -> Except Trap (List UID)
  | 0, _, out => .ok out
  | fuel + 1, index, out =>
    if index < total then
      match getChunk (index / capacity) with
      | none => .ok out
      | some chunk =>
        if chunk.length <= index % capacity then do
          let next <- checkedU32 ((index / capacity + 1) * capacity)
          collectLoop capacity total getChunk keep fuel next out
        else
          let take := min (chunk.length - index % capacity) (total - index)
          collectLoop capacity total getChunk keep fuel (index + take)
            (out ++ ((chunk.drop (index % capacity)).take take).filter keep)
    else .ok out

variable (state : State)

def collectFiltered (total : Nat) (getChunk : Row) (includeRevoked : Bool) : Except Trap (List UID) :=
  collectLoop (chunkCapacity state) total getChunk
    (fun uid => includeRevoked || isActive state uid) total 0 []

def getCountByRecipient (address : Address) : Nat := state.addressTotal .recipient address

def getCountByAttester (address : Address) : Nat := state.addressTotal .attester address

def getCountBySchema (schemaUid : UID) : Nat := state.schemaTotal schemaUid

def getAttestationsByRecipient (recipient : Address) : Except Trap (List UID) :=
  collectFiltered state (state.addressTotal .recipient recipient) (state.addressChunks recipient)
    true

def getAttestationsByAttester (attester : Address) : Except Trap (List UID) :=
  collectFiltered state (state.addressTotal .attester attester) (state.addressChunks attester)
    true

def getAttestationsBySchema (schemaUid : UID) : Except Trap (List UID) :=
  collectFiltered state (state.schemaTotal schemaUid) (state.schemaChunks schemaUid) true

def getAttestationsByExpiration (expirationStatus : ExpirationStatus) : Except Trap (List UID) :=
  collectFiltered state (state.expirationTotal expirationStatus)
    (state.expirationChunks expirationStatus) true

/-! ## Entry points -/

/-- `Indexer::init`.  The compatibility probe of the SAS contract is an external
call; its verdict is an argument. -/
def init (env : Env) (compatible : Bool) (state : State) (admin sas : Address) : Except Trap State := do
  require (state.admin = none) (.contract .alreadyInitialized)
  requireAuth env admin
  require (compatible = true) (.contract .incompatibleDependency)
  return { state with
    admin := some admin
    sas := some sas
    version := some (state.version.getD 1) }

def maxKnownVersion : Nat := 2

def validateUpgrade (state : State) (newWasmHash : BytesN 32) (newVersion : Nat) : Except Trap Address := do
  let admin <- expect state.admin (.contract .incompatibleDependency)
  let _ <- expect state.sas (.contract .incompatibleDependency)
  require (newVersion <= maxKnownVersion) (.contract .incompatibleDependency)
  require (newVersion = saturatingAdd (state.version.getD 1) 1) (.contract .invalidValue)
  require (newWasmHash ≠ 0) (.contract .invalidValue)
  return admin

/-- `Indexer::upgrade`.  The code that the new hash selects is outside the model. -/
def upgrade (env : Env) (state : State) (newWasmHash : BytesN 32) (newVersion : Nat) : Except Trap State := do
  let admin <- validateUpgrade state newWasmHash newVersion
  requireAuth env admin
  return { state with
    version := some newVersion
    wasmHash := some newWasmHash
    events := state.events ++ [.contractUpgraded (state.wasmHash.getD 0) newWasmHash admin] }

def setChunkTier (env : Env) (state : State) (tier : Nat) : Except Trap State := do
  let admin <- expect state.admin (.contract .notInitialized)
  requireAuth env admin
  return { state with
    chunkCapacity := some (adaptiveCapacityForTier tier)
    chunkTier := some tier }

/-- The bound SAS contract, which must authorize the call. -/
def requireSas (env : Env) (state : State) : Except Trap Unit := do
  let sas <- expect state.sas (.contract .unauthorized)
  requireAuth env sas

/-- The class `index_attestation` files a UID under. -/
def expirationStatusOf (expirationTime : UInt64) : ExpirationStatus :=
  if expirationTime = 0 then .perpetual else .expiring

/-- The writes of `index_attestation` for a UID that is not indexed yet. -/
def indexNew (state : State) (uid : UID) (record : IndexRecord) : Except Trap State := do
  let state := { state with indexed := update state.indexed uid (some record) }
  let state <- indexAddressUid state record.recipient uid .recipient
  let state := indexRecipientAttestation state record.recipient uid
  let state <- indexUidUid state record.schemaUid uid
  let state := indexSchemaAttestation state record.schemaUid uid
  let state <- indexAddressUid state record.attester uid .attester
  let state <- indexExpirationStatus state (expirationStatusOf record.expirationTime) uid
  return { state with
    events := state.events ++ [.indexingProgress record.recipient uid
      (state.addressTotal .recipient record.recipient) (state.schemaTotal record.schemaUid)
      (state.addressTotal .attester record.attester)] }

def indexAttestation (env : Env) (state : State) (uid : UID) (record : IndexRecord) : Except Trap State := do
  requireSas env state
  match state.indexed uid with
  | some existing =>
    require (existing = record) (.contract .duplicateAttestation)
    return state
  | none => indexNew state uid record

def setIndexStatus (state : State) (uid : UID) (status : IndexStatus) : State :=
  { state with status := update state.status uid (some status) }

/-- `Indexer::handle_revoke`: no authorization is required. -/
def handleRevoke (state : State) (uid : UID) : State := setIndexStatus state uid .revoked

/-- `Indexer::handle_replace`: the new UID is ignored. -/
def handleReplace (state : State) (oldUid _newUid : UID) : State := setIndexStatus state oldUid .replaced

def setValidFrom (env : Env) (state : State) (uid : UID) (validFrom : UInt64) : Except Trap State := do
  requireSas env state
  return { state with validFrom := update state.validFrom uid (some validFrom) }

/-- The calls that can change the indexer's storage.  Queries are left out: apart
from lifetimes they change only the per-ledger query counter. -/
inductive Call where
  | init (compatible : Bool) (admin sas : Address)
  | upgrade (newWasmHash : BytesN 32) (newVersion : Nat)
  | setChunkTier (tier : Nat)
  | indexAttestation (uid : UID) (record : IndexRecord)
  | handleRevoke (uid : UID)
  | handleReplace (oldUid newUid : UID)
  | setValidFrom (uid : UID) (validFrom : UInt64)

/-- One call in its host environment. -/
def step (state : State) : Env × Call -> Except Trap State
  | (env, .init compatible admin sas) => init env compatible state admin sas
  | (env, .upgrade newWasmHash newVersion) => upgrade env state newWasmHash newVersion
  | (env, .setChunkTier tier) => setChunkTier env state tier
  | (env, .indexAttestation uid record) => indexAttestation env state uid record
  | (_, .handleRevoke uid) => .ok (handleRevoke state uid)
  | (_, .handleReplace oldUid newUid) => .ok (handleReplace state oldUid newUid)
  | (env, .setValidFrom uid validFrom) => setValidFrom env state uid validFrom

end SorobanSas.Indexer
