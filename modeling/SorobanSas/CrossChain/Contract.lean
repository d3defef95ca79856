import SorobanSas.Common.Merkle

namespace SorobanSas.CrossChain

open Library

/-!
# The cross-chain verifier

`CrossChainVerifier` keeps, for each UID, the last remote verdict that it was told, and the
proof that came with it.  Messages arrive on two channels.  On the first, anybody may hand in
a message, and the Axelar gateway that `init` has fixed is asked whether it was approved.  On
the second, the LayerZero endpoint delivers the message itself, and `set_lz_config` says which
endpoint and which remote sender are trusted.

The host decides what Keccak-256 and the decoding of a Stellar address return, and the gateway
what it answers.  The answer is part of each call, so that it may depend on anything.  Neither
the gateway nor the endpoint can enter the verifier while it is running: the host refuses that.
-/

/-! ## Messages -/

def maxValiditySeconds : Nat := 24 * 60 * 60

def statusPayloadLen : Nat := 50

def proofPayloadHeaderLen : Nat := statusPayloadLen + 32 + 20 + 56 + 2

def maxProofDataLen : Nat := 1024

def maxChainLen : Nat := 64

def maxAddressLen : Nat := 128

def maxMessageIdLen : Nat := 128

inductive CrossChainError where
  | alreadyInitialized | notInitialized | invalidConfig | wrongSource | invalidPayload
  | invalidValidity | staleRevision | messageNotApproved | unauthorizedEndpoint
  deriving DecidableEq, Repr

/-- Why a call was rolled back. -/
inductive Abort where
  | error (reason : CrossChainError)
  /-- `require_auth` of an address that did not authorize the call. -/
  | auth
  /-- `Address::from_string_bytes` on a malformed address. -/
  | strkey
  deriving DecidableEq, Repr

structure RemoteAttestation where
  uid : UID
  revision : UInt64
  validUntil : UInt64
  valid : Bool
  deriving DecidableEq, Repr

structure RemoteProof where
  schemaUid : UID
  evmRecipient : BytesN 20
  recipient : Address
  data : Bytes
  deriving DecidableEq, Repr

/-- The functions of the host that the verifier calls. -/
structure Host where
  keccak256 : Bytes -> BytesN 32
  /-- `Address::from_string_bytes`, which traps on a malformed address. -/
  addressFromStringBytes : Bytes -> Option Address

def window (payload : Bytes) (start length : Nat) : Bytes := (payload.drop start).take length

/-- The loop of `decode_status` that reads the two words in parallel. -/
def readWords (payload : Bytes) : Except Abort (UInt64 × UInt64) :=
  (List.range 8).foldlM (fun words i => do
    let revision <- expect payload[33 + i]? (Abort.error .invalidPayload)
    let validUntil <- expect payload[41 + i]? (Abort.error .invalidPayload)
    return (words.1 <<< 8 ||| revision.toUInt64, words.2 <<< 8 ||| validUntil.toUInt64)) (0, 0)

/-- The validity flag. -/
def decodeFlag : Option UInt8 -> Except Abort Bool
  | some 0 => .ok false
  | some 1 => .ok true
  | _ => .error (Abort.error .invalidPayload)

def decodeStatus (payload : Bytes) : Except Abort RemoteAttestation := do
  require (¬ ((payload[0]? = some 1 ∧ payload.length ≠ statusPayloadLen) ∨
      (payload[0]? = some 2 ∧ payload.length < proofPayloadHeaderLen) ∨
      ¬ (payload[0]? = some 1 ∨ payload[0]? = some 2))) (Abort.error .invalidPayload)
  let uid <- (List.range 32).mapM fun i => expect payload[1 + i]? (Abort.error .invalidPayload)
  let (revision, validUntil) <- readWords payload
  let valid <- decodeFlag payload[49]?
  return ⟨⟨BytesN.ofArray 32 uid⟩, revision, validUntil, valid⟩

/-- `decode_proof`.  The check of the length comes before the loops that copy the fields, so
that none of their `unwrap`s fails. -/
def decodeProof (host : Host) (payload : Bytes) : Except Abort (Option RemoteProof) :=
  if payload[0]? ≠ some 2 then return none
  else do
    let high <- expect payload[158]? (Abort.error .invalidPayload)
    let low <- expect payload[159]? (Abort.error .invalidPayload)
    let dataLen := high.toNat * 256 + low.toNat
    require (dataLen <= maxProofDataLen ∧ payload.length = proofPayloadHeaderLen + dataLen)
      (Abort.error .invalidPayload)
    let recipient <- expect (host.addressFromStringBytes (window payload 102 56)) Abort.strkey
    return some ⟨⟨BytesN.ofArray 32 (window payload 50 32)⟩, BytesN.ofArray 20 (window payload 82 20), recipient,
      window payload 160 dataLen⟩

structure SourceConfig where
  admin : Address
  gateway : Address
  sourceChain : Bytes
  sourceAddress : Bytes
  deriving DecidableEq, Repr

structure LayerZeroConfig where
  endpoint : Address
  srcEid : UInt32
  sender : BytesN 32
  deriving DecidableEq, Repr

structure Origin where
  srcEid : UInt32
  sender : BytesN 32
  nonce : UInt64
  deriving DecidableEq, Repr

inductive Event where
  | remoteAttestationUpdated (messageId : Bytes) (status : RemoteAttestation)
  | crossChainAttestationReceived (guid : BytesN 32) (srcEid : UInt32) (sender : BytesN 32)
      (uid : UID) (revision : UInt64) (valid : Bool)
  deriving DecidableEq, Repr

/-- The storage, one field for each key. -/
structure State where
  config : Option SourceConfig
  admin : Option Address
  lzConfig : Option LayerZeroConfig
  status : UID -> Option RemoteAttestation
  proof : UID -> Option RemoteProof
  events : List Event

def State.deployed : State := ⟨none, none, none, fun _ => none, fun _ => none, []⟩

export State (deployed)

/-- What `execute` asks the gateway. -/
structure ApprovalRequest where
  contractAddress : Address
  sourceChain : Bytes
  messageId : Bytes
  sourceAddress : Bytes
  payloadHash : BytesN 32
  deriving DecidableEq, Repr

/-- What a call can observe: the environment, and what the contract at an address answers to
`validate_message`, if it answers with a truth value at all. -/
structure Context extends Env where
  validateMessage : Address -> ApprovalRequest -> Option Bool

/-! ## Entry points -/

section EntryPoints

variable (host : Host) (context : Context) (state : State)

def requireAuth (address : Address) : Except Abort Unit := require (context.authorized address = true) Abort.auth

def init (admin gateway : Address) (sourceChain sourceAddress : Bytes) : Except Abort State := do
  require (state.config = none) (Abort.error .alreadyInitialized)
  requireAuth context admin
  require (¬ (gateway = context.currentContract ∨ sourceChain = [] ∨
      maxChainLen < sourceChain.length ∨ sourceAddress = [] ∨
      maxAddressLen < sourceAddress.length)) (Abort.error .invalidConfig)
  return { state with config := some ⟨admin, gateway, sourceChain, sourceAddress⟩ }

def latestValidity (now : UInt64) : Nat := min (now.toNat + maxValiditySeconds) (2 ^ 64 - 1)

/-- The condition under which `execute` and `lz_receive` return `InvalidValidity`. -/
def InvalidValidity (now : UInt64) (status : RemoteAttestation) : Prop :=
  status.revision = 0 ∨
    (status.valid = true ∧ (status.validUntil <= now ∨ latestValidity now < status.validUntil.toNat)) ∨
    (status.valid = false ∧ status.validUntil ≠ 0)

instance (now : UInt64) (status : RemoteAttestation) : Decidable (InvalidValidity now status) := by
  unfold InvalidValidity
  infer_instance

/-- The lines that `execute` and `lz_receive` have in common: they decode the message and check
it against the time and against the verdict on file. -/
def judge (payload : Bytes) : Except Abort (RemoteAttestation × Option RemoteProof) := do
  let status <- decodeStatus payload
  let proof <- decodeProof host payload
  require (¬ InvalidValidity context.timestamp status) (Abort.error .invalidValidity)
  whenSome (state.status status.uid) fun previous =>
    require (¬ status.revision <= previous.revision) (Abort.error .staleRevision)
  return (status, proof)

/-- The writes that both have in common.  A message without proof removes an older one. -/
def record (status : RemoteAttestation) (proof : Option RemoteProof) (event : Event) : State :=
  { state with
    status := update state.status status.uid (some status)
    proof := update state.proof status.uid proof
    events := state.events ++ [event] }

def execute (sourceChain messageId sourceAddress payload : Bytes) : Except Abort (RemoteAttestation × State) := do
  let trusted <- expect state.config (Abort.error .notInitialized)
  require (sourceChain = trusted.sourceChain ∧ sourceAddress = trusted.sourceAddress)
    (Abort.error .wrongSource)
  require (messageId ≠ [] ∧ messageId.length <= maxMessageIdLen) (Abort.error .invalidPayload)
  let (status, proof) <- judge host context state payload
  require (context.validateMessage trusted.gateway ⟨context.currentContract, sourceChain, messageId,
    sourceAddress, host.keccak256 payload⟩ = some true) (Abort.error .messageNotApproved)
  return (status, record state status proof (.remoteAttestationUpdated messageId status))

def setLzConfig (caller endpoint : Address) (srcEid : UInt32) (sender : BytesN 32) : Except Abort State := do
  requireAuth context caller
  let admin := match state.config with
    | some config => config.admin
    | none => state.admin.getD caller
  require (caller = admin) (Abort.error .unauthorizedEndpoint)
  require (¬ (endpoint = context.currentContract ∨ srcEid = 0)) (Abort.error .invalidConfig)
  return { state with admin := some admin, lzConfig := some ⟨endpoint, srcEid, sender⟩ }

def getLzConfig : Except Abort LayerZeroConfig := expect state.lzConfig (Abort.error .notInitialized)

/-- `lz_receive`, which ignores its last two arguments. -/
def lzReceive (origin : Origin) (guid : BytesN 32) (message : Bytes) : Except Abort (RemoteAttestation × State) := do
  let trusted <- getLzConfig state
  requireAuth context trusted.endpoint
  require (origin.srcEid = trusted.srcEid) (Abort.error .unauthorizedEndpoint)
  require (origin.sender = trusted.sender) (Abort.error .wrongSource)
  require (guid ≠ 0) (Abort.error .invalidPayload)
  let (status, proof) <- judge host context state message
  return (status, record state status proof (.crossChainAttestationReceived guid origin.srcEid
    origin.sender status.uid status.revision status.valid))

def getStatus (uid : UID) : Option RemoteAttestation := state.status uid

def getProof (uid : UID) : Option RemoteProof := state.proof uid

def verifyRemote (now : UInt64) (uid : UID) : Bool :=
  match getStatus state uid with
  | none => false
  | some status => status.valid && now < status.validUntil

end EntryPoints

inductive Call where
  | init (admin gateway : Address) (sourceChain sourceAddress : Bytes)
  | execute (sourceChain messageId sourceAddress payload : Bytes)
  | setLzConfig (caller endpoint : Address) (srcEid : UInt32) (sender : BytesN 32)
  | lzReceive (origin : Origin) (guid : BytesN 32) (message : Bytes)

/-- The state that a call leaves, without the value it returns. -/
def stateOf (result : Except Abort (RemoteAttestation × State)) : Except Abort State := do
  let (_, state) <- result
  return state

/-- One call of the contract. -/
def step (host : Host) (state : State) (input : Context × Call) : Except Abort State :=
  let (context, call) := input
  match call with
  | .init admin gateway sourceChain sourceAddress =>
    init context state admin gateway sourceChain sourceAddress
  | .execute sourceChain messageId sourceAddress payload =>
    stateOf (execute host context state sourceChain messageId sourceAddress payload)
  | .setLzConfig caller endpoint srcEid sender =>
    setLzConfig context state caller endpoint srcEid sender
  | .lzReceive origin guid message =>
    stateOf (lzReceive host context state origin guid message)

def Call.payload : Call -> Option Bytes
  | .execute _ _ _ payload => some payload
  | .lzReceive _ _ message => some message
  | _ => none

end SorobanSas.CrossChain
