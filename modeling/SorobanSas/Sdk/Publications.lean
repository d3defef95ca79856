import SorobanSas.Sdk.Events
import SorobanSas.Sas.State

namespace SorobanSas
namespace Sdk

open Library

/-!
# The events of the two contracts on the wire

An event of the model says what was published.  Here it gets its wire form: the topics and the
payload that the host stores, with the encodings that `#[contracttype]` generates.  A struct is a
map from the names of its fields, in alphabetical order, a tuple is a vector, an identifier is a
tuple of one byte string, and an enum is a vector that begins with the name of the variant.

Most events are one publication.  An upgrade of the registry is two.

`meaning` is what a reader of the event has to learn from it, for the events that the parser knows.
-/

namespace ScVal

def bytesN {length : Nat} (value : BytesN length) : ScVal := .bytes (BytesN.toArray value)

def uid (value : UID) : ScVal := .vec (some [bytesN value.hash])

def count (value : Nat) : ScVal := .u32 (UInt32.ofNat value)

def amount (value : Int) : ScVal :=
  .i128 ((BitVec.ofInt 128 value).extractLsb' 64 64) ((BitVec.ofInt 128 value).extractLsb' 0 64)

/-- An `Option<i128>`. -/
def optionalAmount : Option Int -> ScVal
  | none => .void
  | some value => amount value

def previousAddress : Option Address -> ScVal
  | none => .vec (some [.symbol "None"])
  | some value => .vec (some [.symbol "Some", .address value])

def tuple (values : List ScVal) : ScVal := .vec (some values)

def struct (fields : List (String × ScVal)) : ScVal := .map (some (fields.map fun field => (.symbol field.1, field.2)))

end ScVal

open ScVal (bytesN uid count amount optionalAmount previousAddress tuple struct)

/-- What the host stores of one `publish`. -/
structure Publication where
  topics : List ScVal
  data : ScVal

/-- A publication with a symbol as its first topic. -/
def publication (name : String) (topics : List ScVal) (data : ScVal) : Publication := ⟨.symbol name :: topics, data⟩

end Sdk

open Sdk Sdk.ScVal

/-! ## The registry -/

def Registry.OwnerSet.wire (set : Registry.OwnerSet) : ScVal :=
  struct [("owners", tuple (set.owners.map .address)), ("threshold", count set.threshold),
    ("version", count set.version)]

def Registry.PendingOwnershipTransfer.wire (pending : Registry.PendingOwnershipTransfer) : ScVal :=
  struct [("approvals", tuple (pending.approvals.map .address)),
    ("created_at", .u64 pending.createdAt), ("new_owner", .address pending.newOwner),
    ("owner_set_version", count pending.ownerSetVersion)]

namespace Registry

def Event.publications : Event -> List Publication
  | .upgraded oldVersion newVersion oldWasmHash newWasmHash authorizer =>
    [publication "UPGRADE" [count oldVersion, count newVersion]
      (tuple [count oldVersion, count newVersion, bytesN newWasmHash]),
    publication "UPGRADED" [.address authorizer] (struct [("authorizer", .address authorizer),
      ("new_wasm_hash", bytesN newWasmHash), ("old_wasm_hash", bytesN oldWasmHash)])]
  | .feeUpdated old new authorizer =>
    [publication "FEEUPD" [.address authorizer] (struct [("authorizer", .address authorizer),
      ("new_fee_amount", amount new.2), ("new_fee_token", .address new.1),
      ("old_fee_amount", optionalAmount (old.map Prod.snd)), ("old_fee_token", previousAddress (old.map Prod.fst))])]
  | .treasuryUpdated old new authorizer =>
    [publication "TRSUPD" [.address authorizer] (struct [("authorizer", .address authorizer),
      ("new_treasury", .address new), ("old_treasury", previousAddress old)])]
  | .registered schemaUid owner =>
    [publication "REGISTER" [uid schemaUid] (struct [("owner", .address owner), ("schema_uid", uid schemaUid)])]
  | .deprecated schemaUid deprecatedBy =>
    [publication "SCHDEP" [uid schemaUid]
      (struct [("deprecated_by", .address deprecatedBy), ("schema_uid", uid schemaUid)])]
  | .deprecatedBare schemaUid sender => [publication "SCHDEP" [uid schemaUid] (.address sender)]
  | .delegateAdded schemaUid delegate authorizer =>
    [publication "DELADD" [uid schemaUid] (struct [("authorizer", .address authorizer),
      ("delegate", .address delegate), ("schema_uid", uid schemaUid)])]
  | .delegateRemoved schemaUid delegate authorizer =>
    [publication "DELREM" [uid schemaUid] (struct [("authorizer", .address authorizer),
      ("delegate", .address delegate), ("schema_uid", uid schemaUid)])]
  | .attesterAdded schemaUid attester authorizer =>
    [publication "ATTADD" [uid schemaUid] (struct [("attester", .address attester),
      ("authorizer", .address authorizer), ("schema_uid", uid schemaUid)])]
  | .attesterRemoved schemaUid attester authorizer =>
    [publication "ATTREM" [uid schemaUid] (struct [("attester", .address attester),
      ("authorizer", .address authorizer), ("schema_uid", uid schemaUid)])]
  | .ownershipTransferred schemaUid oldOwner newOwner =>
    [publication "SCHOWN" [uid schemaUid] (struct [("new_owner", .address newOwner),
      ("old_owner", .address oldOwner), ("schema_uid", uid schemaUid)])]
  | .ownershipTransferredBare schemaUid sender newOwner =>
    [publication "SCHOWN" [uid schemaUid] (tuple [.address sender, .address newOwner])]
  | .ownershipProposed schemaUid currentOwner proposedOwner =>
    [publication "SCHPROP" [uid schemaUid] (struct [("current_owner", .address currentOwner),
      ("proposed_owner", .address proposedOwner), ("schema_uid", uid schemaUid)])]
  | .ownerSetUpdated schemaUid authorizer set =>
    [publication "OWNSETUP" [uid schemaUid] (tuple [.address authorizer, set.wire])]
  | .ownerProposed schemaUid proposer pending =>
    [publication "OWNPROP" [uid schemaUid] (tuple [.address proposer, pending.wire])]
  | .ownerApproved schemaUid approver approvals =>
    [publication "OWNAPPR" [uid schemaUid] (tuple [.address approver, count approvals])]
  | .ownerTransferCancelled schemaUid canceller =>
    [publication "OWNCANC" [uid schemaUid] (.address canceller)]
  | .quarantined schemaUid active explanationUri =>
    [publication "SCHQUAR" [uid schemaUid, .bool active] (.string explanationUri)]
  | .frostGroupUpdated schemaUid authorizer enabled group =>
    [publication "FROSTGRP" [uid schemaUid] (struct [("authorizer", .address authorizer),
      ("enabled", .bool enabled), ("group_public_key", bytesN group.groupPublicKey),
      ("max_signers", count group.maxSigners), ("schema_uid", uid schemaUid), ("threshold", count group.threshold)])]
  | .merkleRootUpdated schemaUid authorizer enabled merkleRoot threshold =>
    [publication "MERKROOT" [uid schemaUid] (struct [("authorizer", .address authorizer),
      ("enabled", .bool enabled), ("merkle_root", bytesN merkleRoot),
      ("schema_uid", uid schemaUid), ("threshold", count threshold)])]
  | .metadataUpdated schemaUid metadataUri authorizer =>
    [publication "METAUPD" [uid schemaUid] (struct [("authorizer", .address authorizer),
      ("metadata_uri", .string metadataUri), ("schema_uid", uid schemaUid)])]

def Event.meaning : Event -> Option SasEvent
  | .registered schemaUid owner => some (.schemaRegistered ⟨schemaUid.hash, owner⟩)
  | .deprecated schemaUid deprecatedBy =>
    some (.schemaDeprecated ⟨schemaUid.hash, deprecatedBy⟩)
  | .deprecatedBare schemaUid sender => some (.schemaDeprecated ⟨schemaUid.hash, sender⟩)
  | _ => none

end Registry

/-! ## The attestation service -/

namespace Sas

def Event.publications : Event -> List Publication
  | .attested attestation schemaUid attester recipient =>
    [publication "ATTESTED" [uid schemaUid, .address attester]
      (struct [("attester", .address attester), ("recipient", .address recipient),
        ("schema_uid", uid schemaUid), ("uid", uid attestation)])]
  | .attestedWithFee attestation schemaUid attester recipient feeAmount =>
    [publication "ATTFEE" [uid schemaUid, .address attester]
      (struct [("attester", .address attester), ("fee_amount", amount feeAmount),
        ("recipient", .address recipient), ("schema_uid", uid schemaUid), ("uid", uid attestation)])]
  | .revoked attestation timestamp =>
    [publication "REVOKED" [uid attestation] (struct [("timestamp", .u64 timestamp), ("uid", uid attestation)])]
  | .renewed attestation attester newExpirationTime =>
    [publication "ATSTRENEW" [uid attestation, .address attester] (struct [("attester", .address attester),
        ("new_expiration_time", .u64 newExpirationTime), ("uid", uid attestation)])]
  | .pruned attestation => [publication "PRUNED" [uid attestation] (uid attestation)]
  | .batchAttested items attesters =>
    [publication "BATCHATT" [] (struct [("attester_count", count attesters), ("count", count items)])]
  | .batchRevoked items attesters =>
    [publication "BATCHREV" [] (struct [("attester_count", count attesters), ("count", count items)])]
  | .indexFailed attestation => [publication "IDXFAIL" [uid attestation] (uid attestation)]
  | .reindexed attestation => [publication "REINDEX" [uid attestation] (uid attestation)]
  | .reindexedBare attestation => [publication "REINDEXED" [uid attestation] .void]
  | .withdrawal token value destination authorizer =>
    [publication "WITHDRAW" [.address token, .address authorizer]
      (tuple [amount value, .address destination, .address token, .address authorizer])]
  | .feeDistributed schemaUid token totalFee treasuryAmount creatorAmount creator =>
    [publication "FEEDIST" [uid schemaUid] (struct [("creator", .address creator),
      ("creator_amount", amount creatorAmount), ("schema_uid", uid schemaUid),
      ("token", .address token), ("total_fee", amount totalFee), ("treasury_amount", amount treasuryAmount)])]
  | .feeShares schemaUid treasuryAmount creatorAmount =>
    [publication "FEEDIST" [uid schemaUid] (tuple [amount treasuryAmount, amount creatorAmount])]
  | .feeConfigUpdated old new authorizer =>
    [publication "FEECFGUPD" [.address authorizer] (struct [("authorizer", .address authorizer),
      ("new_amount", optionalAmount (new.map Prod.snd)), ("new_token", previousAddress (new.map Prod.fst)),
      ("old_amount", optionalAmount (old.map Prod.snd)), ("old_token", previousAddress (old.map Prod.fst))])]
  | .indexerUpdated old new authorizer =>
    [publication "IDXUPD" [.address authorizer] (struct [("authorizer", .address authorizer),
      ("new_indexer", .address new), ("old_indexer", previousAddress old)])]
  | .indexerStrictUpdated old new admin =>
    [publication "IDXSTRUP" [.address admin] (struct [("admin", .address admin),
      ("new_strict", .bool new), ("old_strict", .bool old)])]
  | .adminTransferProposed currentAdmin proposedAdmin =>
    [publication "ADMPROP" [.address currentAdmin] (struct [("current_admin", .address currentAdmin),
        ("proposed_admin", .address proposedAdmin)])]
  | .adminTransferCompleted oldAdmin newAdmin =>
    [publication "ADMCOMP" [.address oldAdmin]
      (struct [("new_admin", .address newAdmin), ("old_admin", .address oldAdmin)])]
  | .contractUpgraded oldWasmHash newWasmHash authorizer =>
    [publication "UPGRADED" [.address authorizer] (struct [("authorizer", .address authorizer),
      ("new_wasm_hash", bytesN newWasmHash), ("old_wasm_hash", bytesN oldWasmHash)])]
  | .contractPaused authorizer =>
    [publication "PAUSED" [.address authorizer] (struct [("authorizer", .address authorizer)])]
  | .contractUnpaused authorizer =>
    [publication "UNPAUSED" [.address authorizer] (struct [("authorizer", .address authorizer)])]
  | .protocolPaused authorizer timestamp =>
    [publication "PRTPAUSED" [.address authorizer]
      (struct [("authorizer", .address authorizer), ("timestamp", .u64 timestamp)])]
  | .protocolUnpaused authorizer timestamp =>
    [publication "PRTUNPAUS" [.address authorizer]
      (struct [("authorizer", .address authorizer), ("timestamp", .u64 timestamp)])]
  | .attesterKeyRegistered attester publicKey version =>
    [publication "ATTKREG" [.address attester] (struct [("attester", .address attester),
      ("public_key", bytesN publicKey), ("version", count version)])]
  | .attesterKeyRotated attester oldPublicKey newPublicKey newVersion =>
    [publication "ATTKROT" [.address attester] (struct [("attester", .address attester),
      ("new_public_key", bytesN newPublicKey), ("new_version", count newVersion),
      ("old_public_key", bytesN oldPublicKey)])]
  | .attesterKeyRevoked attester publicKey version =>
    [publication "ATTKREV" [.address attester] (struct [("attester", .address attester),
      ("public_key", bytesN publicKey), ("version", count version)])]
  | .noncesInvalidated attester minNonce maxNonce =>
    [publication "NONCEINV" [.address attester] (struct [("attester", .address attester),
      ("max_nonce", .u64 maxNonce), ("min_nonce", .u64 minNonce)])]

def Event.meaning : Event -> Option SasEvent
  | .attested attestation schemaUid attester recipient =>
    some (.attestationIssued ⟨attestation.hash, schemaUid.hash, attester, recipient⟩)
  | .revoked attestation timestamp => some (.attestationRevoked ⟨attestation.hash, timestamp⟩)
  | .batchAttested items attesters =>
    some (.batchAttested ⟨UInt32.ofNat items, UInt32.ofNat attesters⟩)
  | .batchRevoked items attesters =>
    some (.batchRevoked ⟨UInt32.ofNat items, UInt32.ofNat attesters⟩)
  | .feeConfigUpdated old new authorizer =>
    some (.feeConfigUpdated ⟨old.map Prod.fst, old.map fun fee => BitVec.ofInt 128 fee.2,
      new.map Prod.fst, new.map fun fee => BitVec.ofInt 128 fee.2, authorizer⟩)
  | .indexerStrictUpdated old new admin => some (.indexerStrictUpdated ⟨old, new, admin⟩)
  | _ => none

end Sas

namespace Sdk

open Library

@[simp] theorem decodeUid_uid (value : UID) : decodeUid (uid value) = .ok value.hash := by
  simp only [decodeUid, uid, bytesN, decodeUidBytes, BytesN.length_toArray, if_true, BytesN.ofArray_toArray]

@[simp] theorem decodeAddress_address (value : Address) : decodeAddress (.address value) = .ok value := rfl

@[simp] theorem decodeU32_count (value : Nat) : decodeU32 (count value) = .ok (UInt32.ofNat value) := rfl

@[simp] theorem decodeOptionalAddress_previousAddress (value : Option Address) :
    decodeOptionalAddress (previousAddress value) = .ok value := by
  cases value <;> rfl

/-- The two words of an `i128`, put together again. -/
theorem join_words (word : BitVec 128) :
    (word.extractLsb' 64 64).signExtend 128 <<< 64 ||| (word.extractLsb' 0 64).setWidth 128 = word := by
  ext index bound
  by_cases low : index < 64
  · simp [low, BitVec.getLsbD_eq_getElem bound]
  · have shifted : 64 + (index - 64) = index := by omega
    have high : index - 64 < 64 := by omega
    simp [low, high, BitVec.getElem_signExtend, shifted, BitVec.getLsbD_eq_getElem bound]

@[simp] theorem decodeOptionalAmount_optionalAmount (value : Option Int) :
    decodeOptionalAmount (optionalAmount value) = .ok (value.map (BitVec.ofInt 128)) := by
  cases value with
  | none => rfl
  | some value =>
    simp only [optionalAmount, amount, decodeOptionalAmount, join_words, Option.map_some]

@[simp] theorem expectMap_struct (fields : List (String × ScVal)) :
    expectMap (struct fields) = .ok (fields.map fun field => (ScVal.symbol field.1, field.2)) := rfl

@[simp] theorem mapGet_self (key : String) (value : ScVal) (rest : List (ScVal × ScVal)) :
    mapGet ((.symbol key, value) :: rest) key = .ok value := by
  simp [mapGet, isKey]

@[simp] theorem mapGet_of_ne {name key : String} (different : name ≠ key) (value : ScVal)
    (rest : List (ScVal × ScVal)) : mapGet ((.symbol name, value) :: rest) key = mapGet rest key := by
  simp [mapGet, isKey, different]

/-! ## Events that the parser understands -/

/-- The topics that `parse_event` handles. -/
def handledTopics : List String :=
  [topicFeeConfigUpdated, topicIndexerStrictUpdated, topicSchemaRegistered, topicSchemaDeprecated,
    topicAttestationIssued, topicAttestationRevoked, topicBatchAttested, topicBatchRevoked]

/-- The first topic is one that the parser handles. -/
def Publication.Handled (publication : Publication) : Prop :=
  ∃ name, name ∈ handledTopics ∧ ∃ rest, publication.topics = .symbol name :: rest

/-- Every publication with a handled topic is parsed to the meaning of its event. -/
def Understood (publications : List Publication) (meaning : Option SasEvent) : Prop :=
  ∀ publication ∈ publications, publication.Handled ->
    ∃ event, meaning = some event ∧ parseEvent publication.topics publication.data = .ok event

theorem understood_of_parsed {name : String} {topics : List ScVal} {data : ScVal}
    {event : SasEvent} (parsed : parseEvent (.symbol name :: topics) data = .ok event) :
    Understood [publication name topics data] (some event) := by
  rintro published member -
  cases List.mem_singleton.mp member
  exact ⟨event, rfl, parsed⟩

theorem understood_nil (meaning : Option SasEvent) : Understood [] meaning := by
  rintro published member
  cases member

theorem understood_unhandled {name : String} {topics : List ScVal} {data : ScVal}
    {publications : List Publication} {meaning : Option SasEvent} (unhandled : name ∉ handledTopics)
    (rest : Understood publications meaning) : Understood (publication name topics data :: publications) meaning := by
  rintro published member handled
  rcases List.mem_cons.mp member with rfl | later
  · rcases handled with ⟨first, known, others, same⟩
    cases same
    exact absurd known unhandled
  · exact rest published later handled

theorem parseEvent_symbol (name : String) (topics : List ScVal) (data : ScVal) :
    parseEvent (.symbol name :: topics) data =
      if name = "FEECFGUPD" then parseFeeConfigUpdated (.symbol name :: topics) data
      else if name = "IDXSTRUP" then parseIndexerStrictUpdated (.symbol name :: topics) data
      else if name = "REGISTER" then parseSchemaRegistered (.symbol name :: topics) data
      else if name = "SCHDEP" then parseSchemaDeprecated (.symbol name :: topics) data
      else if name = "ATTESTED" then parseAttestationIssued (.symbol name :: topics) data
      else if name = "REVOKED" then parseAttestationRevoked (.symbol name :: topics) data
      else if name = "BATCHATT" then (parseBatchSummary data).map .batchAttested
      else if name = "BATCHREV" then (parseBatchSummary data).map .batchRevoked
      else .error .notSasEvent := rfl

theorem parse_attested (attestation schemaUid : UID) (attester recipient : Address) :
    parseEvent [.symbol "ATTESTED", uid schemaUid, .address attester]
      (struct [("attester", .address attester), ("recipient", .address recipient),
        ("schema_uid", uid schemaUid), ("uid", uid attestation)]) =
      .ok (.attestationIssued ⟨attestation.hash, schemaUid.hash, attester, recipient⟩) := by
  simp [parseEvent_symbol, parseAttestationIssued, decodeTopic, require]

theorem parse_revoked (attestation : UID) (timestamp : UInt64) : parseEvent [.symbol "REVOKED", uid attestation]
      (struct [("timestamp", .u64 timestamp), ("uid", uid attestation)]) =
      .ok (.attestationRevoked ⟨attestation.hash, timestamp⟩) := by
  simp [parseEvent_symbol, parseAttestationRevoked, decodeTopic, decodeTimestamp, require]

theorem parse_batchSummary (items attesters : Nat) :
    parseBatchSummary (struct [("attester_count", count attesters), ("count", count items)]) =
      .ok ⟨UInt32.ofNat items, UInt32.ofNat attesters⟩ := by
  simp [parseBatchSummary]

theorem parse_batchAttested (items attesters : Nat) : parseEvent [.symbol "BATCHATT"]
      (struct [("attester_count", count attesters), ("count", count items)]) =
      .ok (.batchAttested ⟨UInt32.ofNat items, UInt32.ofNat attesters⟩) := by
  simp [parseEvent_symbol, parse_batchSummary, Except.map]

theorem parse_batchRevoked (items attesters : Nat) : parseEvent [.symbol "BATCHREV"]
      (struct [("attester_count", count attesters), ("count", count items)]) =
      .ok (.batchRevoked ⟨UInt32.ofNat items, UInt32.ofNat attesters⟩) := by
  simp [parseEvent_symbol, parse_batchSummary, Except.map]

theorem parse_feeConfigUpdated (old new : Option (Address × Int)) (authorizer : Address) :
    parseEvent [.symbol "FEECFGUPD", .address authorizer] (struct [("authorizer", .address authorizer),
        ("new_amount", optionalAmount (new.map Prod.snd)), ("new_token", previousAddress (new.map Prod.fst)),
        ("old_amount", optionalAmount (old.map Prod.snd)), ("old_token", previousAddress (old.map Prod.fst))]) =
      .ok (.feeConfigUpdated ⟨old.map Prod.fst, old.map fun fee => BitVec.ofInt 128 fee.2,
        new.map Prod.fst, new.map fun fee => BitVec.ofInt 128 fee.2, authorizer⟩) := by
  simp [parseEvent_symbol, parseFeeConfigUpdated, require, Function.comp_def]

theorem parse_indexerStrictUpdated (old new : Bool) (admin : Address) : parseEvent [.symbol "IDXSTRUP", .address admin]
      (struct [("admin", .address admin), ("new_strict", .bool new), ("old_strict", .bool old)]) =
      .ok (.indexerStrictUpdated ⟨old, new, admin⟩) := by
  simp [parseEvent_symbol, parseIndexerStrictUpdated, decodeBool, require]

theorem parse_registered (schemaUid : UID) (owner : Address) : parseEvent [.symbol "REGISTER", uid schemaUid]
      (struct [("owner", .address owner), ("schema_uid", uid schemaUid)]) =
      .ok (.schemaRegistered ⟨schemaUid.hash, owner⟩) := by
  simp [parseEvent_symbol, parseSchemaRegistered, decodeTopic, require]

theorem parse_deprecatedBare (schemaUid : UID) (sender : Address) :
    parseEvent [.symbol "SCHDEP", uid schemaUid] (.address sender) =
      .ok (.schemaDeprecated ⟨schemaUid.hash, sender⟩) := by
  simp [parseEvent_symbol, parseSchemaDeprecated]

theorem parse_deprecated (schemaUid : UID) (deprecatedBy : Address) : parseEvent [.symbol "SCHDEP", uid schemaUid]
      (struct [("deprecated_by", .address deprecatedBy), ("schema_uid", uid schemaUid)]) =
      .error (.malformedPayload "field is not an address") := by
  simp [parseEvent_symbol, parseSchemaDeprecated, struct, decodeAddress]
  rfl

end Sdk

theorem Sas.Event.understood (event : Sas.Event) : Understood event.publications event.meaning := by
  cases event with
  | attested attestation schemaUid attester recipient =>
    exact understood_of_parsed (parse_attested attestation schemaUid attester recipient)
  | revoked attestation timestamp =>
    exact understood_of_parsed (parse_revoked attestation timestamp)
  | batchAttested items attesters =>
    exact understood_of_parsed (parse_batchAttested items attesters)
  | batchRevoked items attesters => exact understood_of_parsed (parse_batchRevoked items attesters)
  | feeConfigUpdated old new authorizer =>
    exact understood_of_parsed (parse_feeConfigUpdated old new authorizer)
  | indexerStrictUpdated old new admin =>
    exact understood_of_parsed (parse_indexerStrictUpdated old new admin)
  | _ => exact understood_unhandled (by decide) (understood_nil _)

/-- The one event of the two contracts that the parser does not understand. -/
theorem Registry.Event.understood_iff (event : Registry.Event) : Understood event.publications event.meaning ↔
    ∀ schemaUid deprecatedBy, event ≠ .deprecated schemaUid deprecatedBy := by
  constructor
  · rintro understood schemaUid deprecatedBy rfl
    rcases understood _ (List.mem_singleton_self _) ⟨"SCHDEP", by decide, _, rfl⟩ with ⟨_, -, parsed⟩
    cases (parse_deprecated schemaUid deprecatedBy).symm.trans parsed
  intro otherwise
  cases event with
  | registered schemaUid owner => exact understood_of_parsed (parse_registered schemaUid owner)
  | deprecatedBare schemaUid sender =>
    exact understood_of_parsed (parse_deprecatedBare schemaUid sender)
  | deprecated schemaUid deprecatedBy => exact absurd rfl (otherwise schemaUid deprecatedBy)
  | upgraded =>
    exact understood_unhandled (by decide) (understood_unhandled (by decide) (understood_nil _))
  | _ => exact understood_unhandled (by decide) (understood_nil _)

end SorobanSas
