import SorobanSas.Common.Merkle

namespace SorobanSas.Sdk

open Library

/-!
# The event parser of the client library

The node returns an event as a list of topics and a payload, all of them values of the host's
generic type `ScVal`.  `parse_event` looks at the first topic and decodes the rest by the shape
that it expects for that topic.

A parsed event holds machine words: a count is a `u32`, a time a `u64` and an amount an `i128`.
A vector or a map may be absent in the wire format, which is the option in the two constructors.
The kinds of values that no event of the contracts holds are left out; the parser rejects them
with the same error as any other value of the wrong kind.
-/

/-- `ScVal`.  An `i128` is the pair of its high and its low word. -/
inductive ScVal where
  | void
  | bool (value : Bool)
  | u32 (value : UInt32)
  | u64 (value : UInt64)
  | i128 (high low : BitVec 64)
  | bytes (value : Bytes)
  | string (value : Bytes)
  | symbol (name : String)
  | vec (values : Option (List ScVal))
  | map (entries : Option (List (ScVal × ScVal)))
  | address (value : Address)

structure SchemaRegistered where
  schemaUid : BytesN 32
  owner : Address
  deriving DecidableEq

structure SchemaDeprecated where
  schemaUid : BytesN 32
  deprecatedBy : Address
  deriving DecidableEq

structure AttestationIssued where
  uid : BytesN 32
  schemaUid : BytesN 32
  attester : Address
  recipient : Address
  deriving DecidableEq

structure AttestationRevoked where
  uid : BytesN 32
  timestamp : UInt64
  deriving DecidableEq

/-- `BatchAttested` and `BatchRevoked`. -/
structure BatchSummary where
  count : UInt32
  attesterCount : UInt32
  deriving DecidableEq

structure FeeConfigUpdated where
  oldToken : Option Address
  oldAmount : Option (BitVec 128)
  newToken : Option Address
  newAmount : Option (BitVec 128)
  authorizer : Address
  deriving DecidableEq

structure IndexerStrictUpdated where
  oldStrict : Bool
  newStrict : Bool
  admin : Address
  deriving DecidableEq

inductive SasEvent where
  | schemaRegistered (event : SchemaRegistered)
  | schemaDeprecated (event : SchemaDeprecated)
  | attestationIssued (event : AttestationIssued)
  | attestationRevoked (event : AttestationRevoked)
  | batchAttested (event : BatchSummary)
  | batchRevoked (event : BatchSummary)
  | feeConfigUpdated (event : FeeConfigUpdated)
  | indexerStrictUpdated (event : IndexerStrictUpdated)
  deriving DecidableEq

inductive EventParseError where
  | notSasEvent
  | missingTopic
  | malformedPayload (reason : String)
  deriving DecidableEq

/-! ## Decoding one value -/

def expectMap : ScVal -> Except EventParseError (List (ScVal × ScVal))
  | .map (some entries) => .ok entries
  | _ => .error (.malformedPayload "payload is not a map")

/-- Whether a key of a map is the given symbol. -/
def isKey (key : String) : ScVal -> Bool
  | .symbol name => name == key
  | _ => false

def mapGet (entries : List (ScVal × ScVal)) (key : String) : Except EventParseError ScVal :=
  match entries.find? fun entry => isKey key entry.1 with
  | some entry => .ok entry.2
  | none => .error (.malformedPayload "missing payload field")

/-- The bytes of an identifier. -/
def decodeUidBytes : ScVal -> Except EventParseError (BytesN 32)
  | .bytes bytes =>
    if bytes.length = 32 then .ok (BytesN.ofArray 32 bytes)
    else .error (.malformedPayload "uid is not 32 bytes")
  | _ => .error (.malformedPayload "uid is not a bytes value")

/-- `decode_uid` also reads an identifier that is wrapped in a vector of one value. -/
def decodeUid : ScVal -> Except EventParseError (BytesN 32)
  | .vec (some [inner]) => decodeUidBytes inner
  | other => decodeUidBytes other

def decodeAddress : ScVal -> Except EventParseError Address
  | .address address => .ok address
  | _ => .error (.malformedPayload "field is not an address")

def decodeOptionalAddress : ScVal -> Except EventParseError (Option Address)
  | .vec (some [.symbol tag]) =>
    if tag = "None" then .ok none
    else .error (.malformedPayload "field is not an optional address")
  | .vec (some [.symbol tag, address]) =>
    if tag = "Some" then (decodeAddress address).map some
    else .error (.malformedPayload "field is not an optional address")
  | _ => .error (.malformedPayload "field is not an optional address")

def decodeOptionalAmount : ScVal -> Except EventParseError (Option (BitVec 128))
  | .void => .ok none
  | .i128 high low => .ok (some (high.signExtend 128 <<< 64 ||| low.setWidth 128))
  | _ => .error (.malformedPayload "field is not an optional i128")

def decodeU32 : ScVal -> Except EventParseError UInt32
  | .u32 value => .ok value
  | _ => .error (.malformedPayload "field is not a u32")

def decodeBool : ScVal -> Except EventParseError Bool
  | .bool value => .ok value
  | _ => .error (.malformedPayload "field is not a bool")

/-- The timestamp of a revocation. -/
def decodeTimestamp : ScVal -> Except EventParseError UInt64
  | .u64 value => .ok value
  | _ => .error (.malformedPayload "timestamp is not a u64")

/-! ## Decoding an event -/

def topicSchemaRegistered : String := "REGISTER"

def topicSchemaDeprecated : String := "SCHDEP"

def topicAttestationIssued : String := "ATTESTED"

def topicAttestationRevoked : String := "REVOKED"

def topicBatchAttested : String := "BATCHATT"

def topicBatchRevoked : String := "BATCHREV"

def topicFeeConfigUpdated : String := "FEECFGUPD"

def topicIndexerStrictUpdated : String := "IDXSTRUP"

section Branches

variable (topics : List ScVal) (data : ScVal)

/-- Decode a topic that may be missing. -/
def decodeTopic {α : Type} (index : Nat) (missing : String)
    (decode : ScVal -> Except EventParseError α) : Except EventParseError α := match topics[index]? with
  | some topic => decode topic
  | none => .error (.malformedPayload missing)

/-- The branch of `parse_event` for a fee configuration. -/
def parseFeeConfigUpdated : Except EventParseError SasEvent := do
  let map <- expectMap data
  let authorizer <- decodeAddress (<- mapGet map "authorizer")
  require (topics.length = 2 ∧ topics[1]?.map decodeAddress = some (.ok authorizer))
    (.malformedPayload "authorizer topic does not match payload")
  let oldToken <- decodeOptionalAddress (<- mapGet map "old_token")
  let oldAmount <- decodeOptionalAmount (<- mapGet map "old_amount")
  let newToken <- decodeOptionalAddress (<- mapGet map "new_token")
  let newAmount <- decodeOptionalAmount (<- mapGet map "new_amount")
  return .feeConfigUpdated ⟨oldToken, oldAmount, newToken, newAmount, authorizer⟩

/-- The branch for the indexer's strictness. -/
def parseIndexerStrictUpdated : Except EventParseError SasEvent := do
  let map <- expectMap data
  let admin <- decodeAddress (<- mapGet map "admin")
  require (topics.length = 2 ∧ topics[1]?.map decodeAddress = some (.ok admin))
    (.malformedPayload "admin topic does not match payload")
  let oldStrict <- decodeBool (<- mapGet map "old_strict")
  let newStrict <- decodeBool (<- mapGet map "new_strict")
  return .indexerStrictUpdated ⟨oldStrict, newStrict, admin⟩

/-- The branch for a registration. -/
def parseSchemaRegistered : Except EventParseError SasEvent := do
  let map <- expectMap data
  let schemaUid <- decodeUid (<- mapGet map "schema_uid")
  require (decodeTopic topics 1 "missing topic schema_uid" decodeUid = .ok schemaUid)
    (.malformedPayload "schema_uid topic does not match payload")
  let owner <- decodeAddress (<- mapGet map "owner")
  return .schemaRegistered ⟨schemaUid, owner⟩

/-- The branch for a deprecation: the payload is the address itself. -/
def parseSchemaDeprecated : Except EventParseError SasEvent :=
  match topics with
  | [_, topic] => do
      let schemaUid <- decodeUid topic
      let deprecatedBy <- decodeAddress data
      return .schemaDeprecated ⟨schemaUid, deprecatedBy⟩
  | _ => .error (.malformedPayload "schema deprecation event must have two topics")

/-- The branch for an issuance. -/
def parseAttestationIssued : Except EventParseError SasEvent := do
  let map <- expectMap data
  let uid <- decodeUid (<- mapGet map "uid")
  let schemaUid <- decodeUid (<- mapGet map "schema_uid")
  let attester <- decodeAddress (<- mapGet map "attester")
  require (decodeTopic topics 1 "missing topic schema_uid" decodeUid = .ok schemaUid)
    (.malformedPayload "schema_uid topic does not match payload")
  require (decodeTopic topics 2 "missing topic attester" decodeAddress = .ok attester)
    (.malformedPayload "attester topic does not match payload")
  let recipient <- decodeAddress (<- mapGet map "recipient")
  return .attestationIssued ⟨uid, schemaUid, attester, recipient⟩

/-- The branch for a revocation. -/
def parseAttestationRevoked : Except EventParseError SasEvent := do
  let map <- expectMap data
  let uid <- decodeUid (<- mapGet map "uid")
  let timestamp <- decodeTimestamp (<- mapGet map "timestamp")
  require (decodeTopic topics 1 "missing topic uid" decodeUid = .ok uid)
    (.malformedPayload "uid topic does not match payload")
  return .attestationRevoked ⟨uid, timestamp⟩

/-- The payload of the two branches for batches. -/
def parseBatchSummary : Except EventParseError BatchSummary := do
  let map <- expectMap data
  let count <- decodeU32 (<- mapGet map "count")
  let attesterCount <- decodeU32 (<- mapGet map "attester_count")
  return ⟨count, attesterCount⟩

def parseEvent : Except EventParseError SasEvent :=
  match topics.head? with
  | none => .error .missingTopic
  | some (.symbol name) =>
    if name = topicFeeConfigUpdated then parseFeeConfigUpdated topics data
    else if name = topicIndexerStrictUpdated then parseIndexerStrictUpdated topics data
    else if name = topicSchemaRegistered then parseSchemaRegistered topics data
    else if name = topicSchemaDeprecated then parseSchemaDeprecated topics data
    else if name = topicAttestationIssued then parseAttestationIssued topics data
    else if name = topicAttestationRevoked then parseAttestationRevoked topics data
    else if name = topicBatchAttested then (parseBatchSummary data).map .batchAttested
    else if name = topicBatchRevoked then (parseBatchSummary data).map .batchRevoked
    else .error .notSasEvent
  | some _ => .error .notSasEvent

end Branches

end SorobanSas.Sdk
