import SorobanSas.Library.Transaction
import SorobanSas.Library.BigEndian

namespace SorobanSas

open Library

/-!
# Host values and protocol records

The three contracts exchange addresses, 32-byte identifiers, timestamps and
byte strings.  Identifiers and keys are bit vectors, so that comparing them is
cheap; `BytesN.toArray` recovers the bytes wherever a digest or a packed record
needs them.  Timestamps and nonces are genuine 64-bit words because the storage
codec depends on their width.

An entry point that aborts does so with a `Trap`.  The panics of the contracts
carry their `SASError`; the remaining constructors are failures raised by the
host itself.
-/

/-- The host's variable-length `Bytes` and `String` values. -/
abbrev Bytes := List UInt8

/-- A byte string of fixed length, as the big-endian word it denotes. -/
abbrev BytesN (length : Nat) := BitVec (8 * length)

/-- The bytes of a fixed-length value, first byte first. -/
def BytesN.toArray {length : Nat} (value : BytesN length) : Bytes := bigEndian length value.toNat

theorem BytesN.length_toArray {length : Nat} (value : BytesN length) : (BytesN.toArray value).length = length :=
  length_bigEndian _ _

theorem BytesN.toArray_injective {length : Nat} {first second : BytesN length}
    (same : BytesN.toArray first = BytesN.toArray second) : first = second := by
  have bound (value : BytesN length) : value.toNat < 256 ^ length := by
    have below := value.isLt
    rwa [Nat.pow_mul] at below
  exact BitVec.eq_of_toNat_eq (bigEndian_injective (bound first) (bound second) same)

/-- The big-endian bytes of a 64-bit word. -/
def toBeBytes (value : UInt64) : Bytes := bigEndian 8 value.toNat

/-- Read a 64-bit word from its big-endian bytes. -/
def fromBeBytes (bytes : Bytes) : UInt64 := UInt64.ofNat (fromBigEndian bytes)

theorem length_toBeBytes (value : UInt64) : (toBeBytes value).length = 8 := length_bigEndian _ _

theorem fromBeBytes_toBeBytes (value : UInt64) : fromBeBytes (toBeBytes value) = value := by
  unfold fromBeBytes toBeBytes
  rw [fromBigEndian_bigEndian (by simpa using value.toNat_lt)]
  exact UInt64.ofNat_toNat

theorem toBeBytes_injective {first second : UInt64} (same : toBeBytes first = toBeBytes second) : first = second := by
  rw [← fromBeBytes_toBeBytes first, same, fromBeBytes_toBeBytes]

/-- A ledger address: an account identified by its ed25519 key, or a contract. -/
inductive Address where
  | account (key : BytesN 32)
  | contract (id : BytesN 32)
  deriving DecidableEq, Repr

/-- A schema or attestation identifier. -/
structure UID where
  hash : BytesN 32
  deriving DecidableEq, Repr

/-- The account and the identifier with a given number. -/
def Address.accountOfNat (number : Nat) : Address := .account (BitVec.ofNat _ number)

def UID.ofNat (number : Nat) : UID := ⟨BitVec.ofNat _ number⟩

/-- The all-zero identifier, which stands for "no reference". -/
def UID.zero : UID := ⟨0⟩

/-- `soroban_sas_common::SASError`. -/
inductive SASError where
  | alreadyInitialized | notInitialized
  | invalidSchema | emptySchema | invalidSchemaDefinition | schemaAlreadyExists | schemaNotFound
  | attestationNotFound | alreadyRevoked | notRevocable | alreadyExpired | duplicateAttestation
  | invalidRevocability
  | unauthorized | invalidSignature | delegationReplay | unauthorizedAttester
  | invalidTTL | invalidRecipient | invalidValue | incompatibleDependency | batchTooLarge
  | attesterKeyAlreadyRegistered | attesterKeyNotFound | attesterKeyRevoked | resolverRejected
  | feeMismatch | indexerUnavailable | countMetadataExpired | invalidRefUid | payloadTooLarge
  | treasuryNotSet | invalidUID | limitExceeded | invalidTimeRange | invalidExpirationTime
  | invalidTimestamp | timestampAnchorNotFound | schemaQuarantined | cooldownActive | invalidToken
  | rateLimitExceeded | autoPruneDisabled
  | contractPaused | protocolPaused | insufficientFee | delegationScopeDenied | invalidZKProof
  | nullifierAlreadyUsed | reentrancy
  deriving DecidableEq, Repr

/-- Why a call was rolled back. -/
inductive Trap where
  /-- `panic_with_error!`. -/
  | contract (error : SASError)
  /-- `require_auth` of an address that did not authorize the call. -/
  | auth
  /-- `ed25519_verify` on a signature that does not verify. -/
  | crypto
  /-- A nested `invoke_contract` whose callee trapped. -/
  | callee
  /-- Checked arithmetic, on in every build profile of the workspace. -/
  | overflow
  /-- A storage access that the host refuses: an entry decoded as another type than it was
  written as, or an absent entry whose lifetime is extended. -/
  | storage
  deriving DecidableEq, Repr

instance : Coe SASError Trap := ⟨Trap.contract⟩

/-- A panic raised by a validator. -/
def panicOn {α : Type} (result : Except SASError α) : Except Trap α :=
  match result with
  | .ok value => .ok value
  | .error failure => .error (Trap.contract failure)

@[simp] theorem panicOn_eq_ok {α : Type} {result : Except SASError α} {value : α} :
    panicOn result = .ok value ↔ result = .ok value := by
  cases result <;> simp [panicOn]

/-- The part of the host environment that one call can observe.  No contract of
this repository implements `__check_auth`, so a contract never authorizes
itself as the caller of its own entry points. -/
structure Env where
  timestamp : UInt64
  sequence : Nat
  networkId : BytesN 32
  /-- `env.current_contract_address()`. -/
  currentContract : Address
  /-- The addresses whose `require_auth` succeeds in this call. -/
  authorized : Address -> Bool
  self_silent : authorized currentContract = false

/-- The environment of a call that exactly the given addresses authorize. -/
def Env.signedBy (signers : List Address) (timestamp : UInt64) (sequence : Nat)
    (currentContract : Address) (silent : currentContract ∉ signers) : Env where
  timestamp := timestamp
  sequence := sequence
  networkId := 0
  currentContract := currentContract
  authorized := fun address => decide (address ∈ signers)
  self_silent := decide_eq_false silent

/-- `address.require_auth()`. -/
def requireAuth (env : Env) (address : Address) : Except Trap Unit := require (env.authorized address = true) Trap.auth

@[simp] theorem requireAuth_eq_ok {env : Env} {address : Address} {done : Unit} :
    requireAuth env address = .ok done ↔ env.authorized address = true := by
  simp [requireAuth]

/-- `soroban_sas_common::Attestation`. -/
structure Attestation where
  uid : UID
  schemaUid : UID
  time : UInt64
  expirationTime : UInt64
  revocationTime : UInt64
  refUid : UID
  recipient : Address
  attester : Address
  revocable : Bool
  data : Bytes
  validFrom : UInt64
  deriving DecidableEq, Repr

end SorobanSas
