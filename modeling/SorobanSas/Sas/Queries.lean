import SorobanSas.Common.Merkle
import SorobanSas.Sas.Contract

namespace SorobanSas.Sas

open Library

/-!
# The entry points that only read

A query changes no entry; what it renews is the lifetime of entries, which is not modelled.
`Query` lists every reader of the contract and `ask` answers it.  A reader that traps gives
no answer.
-/

variable {W : Type} (host : Host W) (crypto : Crypto) (keccak256 : Bytes -> BytesN 32) (env : Env)

def maxVerifyBatch : Nat := 100

def verifyAttestations (state : State) (uids : List UID) : Except Trap (List Bool) := do
  require (uids.length <= maxVerifyBatch) (.contract .batchTooLarge)
  uids.mapM (verifyAttestationRecord env state)

def verifyAllAttestations (state : State) (uids : List UID) : Except Trap Bool := do
  require (uids.length <= maxVerifyBatch) (.contract .batchTooLarge)
  uids.allM (verifyAttestationRecord env state)

/-- `get_valid_from`.  It extends the lifetime of the entry under the UID itself, which a
record under `CompactAttestationKey` does not have. -/
def getValidFrom (state : State) (uid : UID) : Except Trap UInt64 := do
  match <- readAttestation state uid with
  | none => return 0
  | some attestation =>
    require ((state.records uid).entry ≠ none) Trap.storage
    return attestation.validFrom

/-- The on-chain copy of an off-chain attestation, if there is one, is not revoked.  The
entry under the UID is decoded as the legacy `Attestation`. -/
def requireCopyUnrevoked (state : State) (uid : UID) : Except Trap Unit :=
  match (state.records uid).entry with
  | none => return ()
  | some (.legacy stored _) =>
    require (stored.revocationTime = 0) (.contract .alreadyRevoked)
  | some (.compact _) => throw Trap.storage

def verifyOffchainAttestation (ledger : Ledger W) (attestation : Attestation) (nonce : UInt64)
    (publicKey : BytesN 32) (signature : BytesN 64) : Except Trap Bool := do
  let group <- requireDelegationKey host ledger attestation.schemaUid attestation.attester publicKey
  require (attestation.revocationTime = 0) (.contract .alreadyRevoked)
  if attestation.validFrom ≠ 0 ∧ env.timestamp < attestation.validFrom then
    return false
  else
    panicOn (validateExpiration env attestation.expirationTime)
    requireCopyUnrevoked ledger.sas attestation.uid
    let registry <- requireRegistry ledger.sas
    let schema <- host.getSchema ledger.world registry attestation.schemaUid
    require (schema ≠ none) (.contract .invalidSchema)
    verifyDelegatedSignature crypto
      (hashOffchainAttestation crypto attestation (delegationDomain env nonce)) publicKey signature
      group
    return true

structure Eip712Domain where
  name : Bytes
  version : Bytes
  chainId : BytesN 32
  verifyingContract : Address
  deriving DecidableEq

def eip712Domain : Eip712Domain where
  name := ascii "Stellar Attestation Service"
  version := ascii "1"
  chainId := env.networkId
  verifyingContract := env.currentContract

/-- Both anchors exist, and the revocation comes before the issuance. -/
def anchorsInverted (issuance revocation : Option TimestampAnchor) : Bool :=
  match issuance, revocation with
  | some issued, some revoked =>
    revoked.ledgerSequence < issued.ledgerSequence ||
      revoked.ledgerTimestamp < issued.ledgerTimestamp
  | _, _ => false

def checkClaim (state : State) (uid : UID) (claim : TimestampAnchor) : Except SASError Unit := do
  let issuance := (state.records uid).anchor false
  let revocation := (state.records uid).anchor true
  require (¬ (issuance = none ∧ revocation = none)) .timestampAnchorNotFound
  require (anchorsInverted issuance revocation = false) .invalidTimestamp
  require (¬ (env.sequence < claim.ledgerSequence ∨ env.timestamp < claim.ledgerTimestamp))
    .invalidTimestamp
  require (issuance = some claim ∨ revocation = some claim) .invalidTimestamp

def rootLen : Nat := 32

def verifyLeaf (state : State) (uid : UID) (leaf : Bytes) (proof : List (BytesN 32)) (algo : MerkleHash) :
    Except Trap Bool := do
  if maxMerkleProofDepth < proof.length ∨ maxAttestationDataBytes < leaf.length then return false
  else match <- readAttestation state uid with
    | none => return false
    | some attestation =>
      if attestation.data.length ≠ rootLen then return false
      else if <- verifyAttestationRecord env state uid then
        return verifyProofWith (algo.digest crypto keccak256) (BytesN.ofArray 32 attestation.data) leaf
          proof
      else return false

/-! ## Queries -/

inductive Query where
  | sasv1
  | admin
  | getVersion
  | getDelegationPolicy (attester : Address)
  | isPaused
  | getIndexer
  | getTreasury
  | getFee
  | getAcceptedFee (token : Address)
  | getIssuanceRateLimit
  | isRateLimitExempt (attester : Address)
  | getFeePerByte
  | quoteAttestationFee (schemaUid : UID) (dataLen : Nat)
  | getFeeCeilings
  | getSchemaFee (schemaUid : UID)
  | getTreasuryFeeBalance (token : Address)
  | getCreatorFeeBalance (creator token : Address)
  | hashDelegationDigest (attestation : Attestation) (nonce : UInt64)
  | getZkVerifier
  | isZkNullifierUsed (nullifier : BytesN 32)
  | isAutoPruneEnabled
  | getIndexerStrict
  | getNonceHighwaterMark (attester : Address)
  | verifyOffchainAttestation (attestation : Attestation) (nonce : UInt64)
      (publicKey : BytesN 32) (signature : BytesN 64)
  | getEip712Domain
  | getEip712PayloadHash (attestation : Attestation) (nonce : UInt64)
  | verifyAttestation (uid : UID)
  | verifyAttestations (uids : List UID)
  | verifyAllAttestations (uids : List UID)
  | getAttestation (uid : UID)
  | getAttestationView (uid : UID)
  | verifyAttestationView (uid : UID)
  | getValidFrom (uid : UID)
  | getIssuanceTimestamp (uid : UID)
  | getRevocationTimestamp (uid : UID)
  | verifyTimestamp (uid : UID) (claim : TimestampAnchor)
  | checkTimestamp (uid : UID) (claim : TimestampAnchor)
  | verifyMerkleLeaf (uid : UID) (leaf : Bytes) (proof : List (BytesN 32))
  | verifyMerkleLeafKeccak (uid : UID) (leaf : Bytes) (proof : List (BytesN 32))
  | getDelegationNonce (attester : Address)
  | getRecipientConsentNonce (recipient : Address)
  | getAttesterKey (attester : Address)

def Query.Answer : Query -> Type
  | .sasv1 | .isPaused | .isRateLimitExempt _ | .isZkNullifierUsed _ | .isAutoPruneEnabled
  | .getIndexerStrict | .verifyOffchainAttestation .. | .verifyAttestation _
  | .verifyAllAttestations _ | .verifyAttestationView _ | .verifyTimestamp ..
  | .verifyMerkleLeaf .. | .verifyMerkleLeafKeccak .. => Bool
  | .verifyAttestations _ => List Bool
  | .admin => Address
  | .getIndexer | .getTreasury | .getZkVerifier => Option Address
  | .getVersion => Nat
  | .getDelegationPolicy _ => Option DelegationPolicy
  | .getFee => Option (Address × Int)
  | .getAcceptedFee _ => Option Int
  | .getIssuanceRateLimit => Option (Nat × Nat)
  | .getFeePerByte | .quoteAttestationFee .. | .getTreasuryFeeBalance _
  | .getCreatorFeeBalance .. => Int
  | .getFeeCeilings => FeeCeilings
  | .getSchemaFee _ => Option SchemaFeeConfig
  | .hashDelegationDigest .. | .getEip712PayloadHash .. => BytesN 32
  | .getNonceHighwaterMark _ | .getValidFrom _ => UInt64
  | .getDelegationNonce _ | .getRecipientConsentNonce _ => Option UInt64
  | .getEip712Domain => Eip712Domain
  | .getAttestation _ | .getAttestationView _ => Option Attestation
  | .getIssuanceTimestamp _ | .getRevocationTimestamp _ => Option TimestampAnchor
  | .checkTimestamp .. => Unit
  | .getAttesterKey _ => Option AttesterKeyRecord

def ask (ledger : Ledger W) (query : Query) : Except Trap query.Answer :=
  let state := ledger.sas
  match query with
  | .sasv1 => .ok true
  | .admin => requireAdmin state
  | .getVersion => .ok (state.version.getD 1)
  | .getDelegationPolicy attester => .ok (state.delegationPolicies attester)
  | .isPaused => .ok state.paused
  | .getIndexer => .ok state.indexer
  | .getTreasury => .ok state.treasury
  | .getFee => .ok state.feeConfig
  | .getAcceptedFee token => .ok (state.acceptedFees token)
  | .getIssuanceRateLimit => .ok state.rateLimit
  | .isRateLimitExempt attester => .ok (state.rateExempt attester)
  | .getFeePerByte => .ok (state.feePerByte.getD 0)
  | .quoteAttestationFee schemaUid dataLen => feeQuote state schemaUid dataLen
  | .getFeeCeilings => .ok (getFeeCeilings state)
  | .getSchemaFee schemaUid => .ok (state.schemaFees schemaUid)
  | .getTreasuryFeeBalance token => .ok (state.treasuryFees token)
  | .getCreatorFeeBalance creator token => .ok (state.creatorFees creator token)
  | .hashDelegationDigest attestation nonce =>
    .ok (hashOffchainAttestation crypto attestation (delegationDomain env nonce))
  | .getZkVerifier => .ok state.zkVerifier
  | .isZkNullifierUsed nullifier => .ok (state.nullifiers nullifier)
  | .isAutoPruneEnabled => .ok state.autoPrune
  | .getIndexerStrict => .ok state.indexerStrict
  | .getNonceHighwaterMark attester => .ok ((state.delegationNonces attester).getD 0)
  | .verifyOffchainAttestation attestation nonce publicKey signature =>
    verifyOffchainAttestation host crypto env ledger attestation nonce publicKey signature
  | .getEip712Domain => .ok (eip712Domain env)
  | .getEip712PayloadHash attestation nonce =>
    .ok (hashOffchainAttestation crypto attestation (delegationDomain env nonce))
  | .verifyAttestation uid => verifyAttestation env state uid
  | .verifyAttestations uids => verifyAttestations env state uids
  | .verifyAllAttestations uids => verifyAllAttestations env state uids
  | .getAttestation uid => getAttestation state uid
  | .getAttestationView uid => readAttestation state uid
  -- The same checks as `verify_attestation_record`, without the renewal.
  | .verifyAttestationView uid => verifyAttestationRecord env state uid
  | .getValidFrom uid => getValidFrom state uid
  | .getIssuanceTimestamp uid => .ok ((state.records uid).anchor false)
  | .getRevocationTimestamp uid => .ok ((state.records uid).anchor true)
  | .verifyTimestamp uid claim => .ok (checkClaim env state uid claim).isOk
  | .checkTimestamp uid claim => panicOn (checkClaim env state uid claim)
  | .verifyMerkleLeaf uid leaf proof =>
    verifyLeaf crypto keccak256 env state uid leaf proof .sha256
  | .verifyMerkleLeafKeccak uid leaf proof =>
    verifyLeaf crypto keccak256 env state uid leaf proof .keccak256
  | .getDelegationNonce attester => .ok (state.delegationNonces attester)
  | .getRecipientConsentNonce recipient => .ok (state.consentNonces recipient)
  | .getAttesterKey attester => .ok (state.attesterKeys attester)

end SorobanSas.Sas
