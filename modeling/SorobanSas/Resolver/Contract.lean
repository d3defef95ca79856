import SorobanSas.Common.Merkle

namespace SorobanSas.Resolver

open Library

/-!
# The multisig resolver

`MultisigResolver` is a resolver that accepts an attestation only with the signatures of several
configured keys.  The signatures travel in the data of the attestation, as blocks of a key and a
signature, and they sign the struct digest of the attestation with the data left out.

The contract verifies the signatures itself, with the `ed25519_dalek` library and not with the
host.  The library is a parameter here, like the hash function.

`EndorsementResolver` forwards its entry points to those of `MultisigResolver`, so it needs no
model of its own.
-/

/-- The two functions of `ed25519_dalek` that the contract calls. -/
structure Ed25519 where
  /-- Whether `VerifyingKey::from_bytes` accepts the bytes as a key. -/
  fromBytes : BytesN 32 -> Bool
  /-- Whether the key verifies a signature of a message. -/
  verify : BytesN 32 -> Bytes -> BytesN 64 -> Bool

structure Endorsement where
  signer : BytesN 32
  signature : BytesN 64
  deriving DecidableEq, Repr

/-- `threshold` is a `u32`, which is only compared with lengths. -/
structure ResolverConfig where
  threshold : Nat
  signers : List (BytesN 32)
  deriving DecidableEq, Repr

inductive ResolverError where
  | notInitialized | invalidConfig | invalidSignature | signerNotAuthorized | duplicateSignature
  | insufficientSignatures
  deriving DecidableEq, Repr

/-- The entry under `CONFIG_KEY`. -/
structure State where
  config : Option ResolverConfig
  deriving DecidableEq, Repr

def State.deployed : State := ⟨none⟩

export State (deployed)

def requireConfig (state : State) : Except ResolverError ResolverConfig := expect state.config .notInitialized

def validateConfig (threshold : Nat) (signers : List (BytesN 32)) : Except ResolverError Unit :=
  require (¬ (threshold = 0 ∨ signers.isEmpty = true ∨ signers.length < threshold)) .invalidConfig

/-! ## Endorsements -/

/-- The bytes in `[offset, offset + length)`, read one by one. -/
def readArray (payload : Bytes) (offset length : Nat) : Except ResolverError Bytes :=
  (List.range length).mapM fun i => expect payload[offset + i]? .invalidSignature

/-- The loop of `parse_endorsements`.  Every turn advances the offset, so the length of the
payload bounds their number. -/
def parseBlocks (payload : Bytes) : Nat -> Nat -> Except ResolverError (List Endorsement)
  | 0, _ => return []
  | turns + 1, offset =>
    if offset < payload.length then do
      let signer <- readArray payload offset 32
      let signature <- readArray payload (offset + 32) 64
      let rest <- parseBlocks payload turns (offset + 32 + 64)
      return ⟨.ofArray 32 signer, .ofArray 64 signature⟩ :: rest
    else
      return []

def parseEndorsements (payload : Bytes) : Except ResolverError (List Endorsement) :=
  if payload.isEmpty then
    return []
  else do
    require (payload.length % 96 = 0) .invalidSignature
    parseBlocks payload payload.length 0

def signerIsAuthorized (config : ResolverConfig) (signer : BytesN 32) : Bool := config.signers.any (· = signer)

def attestationWithoutEndorsements (attestation : Attestation) : Attestation := { attestation with data := [] }

/-- The digest that the endorsers sign. -/
def endorsementDigest (crypto : Crypto) (attestation : Attestation) : BytesN 32 :=
  hashAttestationStruct crypto (attestationWithoutEndorsements attestation)

section Approval

variable (crypto : Crypto) (ed25519 : Ed25519)

def verifyPayloadSignature (signer : BytesN 32) (signature : BytesN 64) (digest : BytesN 32) :
    Except ResolverError Unit := do
  require (ed25519.fromBytes signer = true) .invalidSignature
  require (ed25519.verify signer (BytesN.toArray digest) signature = true) .invalidSignature

/-- One turn of the loop of `resolve_valid_count`, with the keys seen so far and their count. -/
def countEndorsement (config : ResolverConfig) (digest : BytesN 32)
    (counted : List (BytesN 32) × Nat) (endorsement : Endorsement) : Except ResolverError (List (BytesN 32) × Nat) :=
  if endorsement.signer ∈ counted.1 then
    return counted
  else do
    require (signerIsAuthorized config endorsement.signer = true) .signerNotAuthorized
    verifyPayloadSignature ed25519 endorsement.signer endorsement.signature digest
    return (counted.1 ++ [endorsement.signer], counted.2 + 1)

def resolveValidCount (attestation : Attestation) (config : ResolverConfig) : Except ResolverError Nat := do
  let endorsements <- parseEndorsements attestation.data
  let digest := endorsementDigest crypto attestation
  let counted <- endorsements.foldlM (countEndorsement ed25519 config digest) ([], 0)
  require (config.threshold <= counted.2) .insufficientSignatures
  return counted.2

variable (state : State) (attestation : Attestation)

def checkApproval : Except ResolverError Unit := do
  let config <- requireConfig state
  let _ <- resolveValidCount crypto ed25519 attestation config
  return ()

def verifyEndorsements : Except ResolverError Nat := do
  let config <- requireConfig state
  resolveValidCount crypto ed25519 attestation config

def onAttest : Except ResolverError Unit := checkApproval crypto ed25519 state attestation

def onRevoke : Except ResolverError Unit := checkApproval crypto ed25519 state attestation

end Approval

def init (_state : State) (threshold : Nat) (signers : List (BytesN 32)) : Except ResolverError State := do
  validateConfig threshold signers
  return ⟨some ⟨threshold, signers⟩⟩

variable (state : State) (threshold : Nat) (signers : List (BytesN 32))

/-- `initialize`. -/
def initialise : Except ResolverError State := init state threshold signers

def configure : Except ResolverError State := init state threshold signers

def setPolicy : Except ResolverError State := init state threshold signers

def setThreshold (state : State) (threshold : Nat) : Except ResolverError State := do
  let config <- requireConfig state
  validateConfig threshold config.signers
  return ⟨some { config with threshold := threshold }⟩

def setSigners (state : State) (signers : List (BytesN 32)) : Except ResolverError State := do
  let config <- requireConfig state
  validateConfig config.threshold signers
  return ⟨some { config with signers := signers }⟩

/-- The entry points that may change the state, and the two callbacks.  The account that makes
the call is in the environment: no entry point looks at it. -/
inductive Call where
  | init (threshold : Nat) (signers : List (BytesN 32))
  | initialise (threshold : Nat) (signers : List (BytesN 32))
  | configure (threshold : Nat) (signers : List (BytesN 32))
  | setPolicy (threshold : Nat) (signers : List (BytesN 32))
  | setThreshold (threshold : Nat)
  | setSigners (signers : List (BytesN 32))
  | onAttest (attestation : Attestation)
  | onRevoke (attestation : Attestation)
  deriving DecidableEq, Repr

/-- One call, made in an environment. -/
def step (crypto : Crypto) (ed25519 : Ed25519) (state : State) (input : Env × Call) : Except ResolverError State :=
  match input.2 with
  | .init threshold signers => init state threshold signers
  | .initialise threshold signers => initialise state threshold signers
  | .configure threshold signers => configure state threshold signers
  | .setPolicy threshold signers => setPolicy state threshold signers
  | .setThreshold threshold => setThreshold state threshold
  | .setSigners signers => setSigners state signers
  | .onAttest attestation => do
      onAttest crypto ed25519 state attestation
      return state
  | .onRevoke attestation => do
      onRevoke crypto ed25519 state attestation
      return state

end SorobanSas.Resolver
