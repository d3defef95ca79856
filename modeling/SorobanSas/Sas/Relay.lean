import SorobanSas.Sas.Replacement
import SorobanSas.Sas.Threshold

namespace SorobanSas.Sas

open Library List

/-!
# What a delegated signature fixes

A relayer submits an attestation that somebody else has signed.  If two attestations are
both accepted from the same state with the same nonce, key and signature, then they have the
same digest, hence the same fields as far as the digest covers them.

The struct digest covers neither `valid_from` nor `revocation_time`.  The issuing entry
points require the latter to be zero; the replacement does not.  What a relayer can change
in the stored record is therefore `valid_from`, and in a replacement `revocation_time` too.

SHA-256 has collisions, so the theorem does not assume that there are none.  It assumes that
the byte strings hashed in the two calls do not collide, and that this signature does not
verify on two different digests.
-/

variable {W : Type} {host : Host W} {crypto : Crypto} {env : Env} {first second : Attestation}
  {firstScope secondScope : DelegationAuthorization} {domain : AttestationDomain} {ledger : Ledger W}

/-! ## Relayed calls -/

/-- What the relayer holds: the way of submission with its nonces, keys and signatures. -/
inductive Relay where
  | delegation (nonce : UInt64) (signature : BytesN 64) (publicKey : BytesN 32)
  | scopedDelegation (nonce : UInt64) (signature : BytesN 64) (publicKey : BytesN 32)
  | replacement (oldUid : UID) (attesterApproval recipientApproval : ReplacementApproval)

namespace Relay

/-- The call that submits an attestation.  Only a scoped delegation uses the authorization. -/
def call (relay : Relay) (attestation : Attestation) (authorization : DelegationAuthorization) : Call :=
  match relay with
  | .delegation nonce signature publicKey =>
    .attestByDelegation attestation nonce signature publicKey
  | .scopedDelegation nonce signature publicKey =>
    .attestByScopedDelegation attestation nonce signature publicKey authorization
  | .replacement oldUid attesterApproval recipientApproval =>
    .replaceByDelegationConsent oldUid attestation attesterApproval recipientApproval

variable (relay : Relay) (crypto : Crypto) (env : Env) (attestation : Attestation)
  (authorization : DelegationAuthorization)

/-- The byte strings that depend on the attestation and are hashed, the last one to the
digest that is verified. -/
def preimages : List Bytes :=
  [attestation.data, attestationPreimage crypto attestation] ++ match relay with
    | .delegation nonce _ _ => [offchainPreimage crypto attestation (delegationDomain env nonce)]
    | .scopedDelegation nonce _ _ =>
      [offchainPreimage crypto attestation (delegationDomain env nonce),
        scopedPreimage crypto attestation (delegationDomain env nonce) authorization]
    | .replacement oldUid attesterApproval recipientApproval =>
      [replacementPreimage crypto oldUid attestation
        ⟨env.networkId, env.currentContract, attesterApproval.nonce, recipientApproval.nonce⟩]

/-- The digest that the attester's signature is verified on. -/
def digest : BytesN 32 :=
  match relay with
  | .delegation nonce _ _ =>
    hashOffchainAttestation crypto attestation (delegationDomain env nonce)
  | .scopedDelegation nonce _ _ =>
    hashScopedAttestation crypto attestation (delegationDomain env nonce) authorization
  | .replacement oldUid attesterApproval recipientApproval =>
    hashDelegatedReplacementConsent crypto oldUid attestation
      ⟨env.networkId, env.currentContract, attesterApproval.nonce, recipientApproval.nonce⟩

def signature : Relay -> BytesN 64
  | .delegation _ signature _ => signature
  | .scopedDelegation _ signature _ => signature
  | .replacement _ attesterApproval _ => attesterApproval.signature

/-- The key that comes with it. -/
def publicKey : Relay -> BytesN 32
  | .delegation _ _ publicKey => publicKey
  | .scopedDelegation _ _ publicKey => publicKey
  | .replacement _ attesterApproval _ => attesterApproval.publicKey

/-- The entry point rejects a payload that is already revoked. -/
def checksRevocation : Relay -> Bool
  | .delegation .. | .scopedDelegation .. => true
  | .replacement .. => false

/-- The record that is stored for an attestation. -/
def record (relay : Relay) (env : Env) (attestation : Attestation) : Attestation :=
  match relay with
  | .delegation .. | .scopedDelegation .. => stamp env attestation
  | .replacement oldUid _ _ => stamp env { attestation with refUid := oldUid }

/-- The book to which the record is added. -/
def base (relay : Relay) (env : Env) (book : Book) : Book :=
  match relay with
  | .delegation .. | .scopedDelegation .. => book
  | .replacement oldUid _ _ =>
    match (book oldUid).attestation with
    | some old => book.revoke env oldUid old
    | none => book

end Relay

/-! ## What the digest covers -/

/-- The digests of these byte strings are distinct. -/
def NoCollision (crypto : Crypto) (messages : List Bytes) : Prop :=
  ∀ first ∈ messages, ∀ second, second ∈ messages -> crypto.sha256 first = crypto.sha256 second -> first = second

/-- The fields that the struct digest covers. -/
structure SamePayload (first second : Attestation) : Prop where
  uid : first.uid = second.uid
  schemaUid : first.schemaUid = second.schemaUid
  time : first.time = second.time
  expirationTime : first.expirationTime = second.expirationTime
  refUid : first.refUid = second.refUid
  recipient : first.recipient = second.recipient
  attester : first.attester = second.attester
  revocable : first.revocable = second.revocable
  data : first.data = second.data

theorem SamePayload.of_struct {messages : List Bytes} (distinct : NoCollision crypto messages)
    (firstData : first.data ∈ messages) (secondData : second.data ∈ messages)
    (firstStruct : attestationPreimage crypto first ∈ messages)
    (secondStruct : attestationPreimage crypto second ∈ messages)
    (same : hashAttestationStruct crypto first = hashAttestationStruct crypto second) : SamePayload first second := by
  have preimages := distinct _ firstStruct _ secondStruct same
  rcases attestationPreimage_injective preimages with ⟨uid, schemaUid, time, expirationTime, refUid,
    recipient, attester, revocable, data⟩
  exact ⟨uid, schemaUid, time, expirationTime, refUid, recipient, attester, revocable,
    distinct _ firstData _ secondData data⟩

theorem struct_of_offchainPreimage
    (same : offchainPreimage crypto first domain = offchainPreimage crypto second domain) :
    hashAttestationStruct crypto first = hashAttestationStruct crypto second := by
  rw [offchainPreimage, offchainPreimage, append_cancel_left_eq, append_cancel_left_eq] at same
  exact BytesN.toArray_injective same

theorem offchain_of_scopedPreimage
    (same : scopedPreimage crypto first domain firstScope = scopedPreimage crypto second domain secondScope) :
    hashOffchainAttestation crypto first domain = hashOffchainAttestation crypto second domain := by
  rw [scopedPreimage, scopedPreimage, append_cancel_left_eq] at same
  have parts := append_inj same (by simp only [BytesN.length_toArray])
  exact BytesN.toArray_injective parts.1

theorem struct_of_replacementPreimage {oldUid : UID} {domain : ReplacementConsentDomain}
    (same : replacementPreimage crypto oldUid first domain = replacementPreimage crypto oldUid second domain) :
    hashAttestationStruct crypto first = hashAttestationStruct crypto second := by
  rw [replacementPreimage, replacementPreimage, append_cancel_left_eq] at same
  exact BytesN.toArray_injective same

theorem Relay.samePayload {relay : Relay} (distinct : NoCollision crypto (relay.preimages crypto env first firstScope ++
      relay.preimages crypto env second secondScope)) (same : relay.digest crypto env first firstScope =
      relay.digest crypto env second secondScope) : SamePayload first second := by
  have structs : hashAttestationStruct crypto first = hashAttestationStruct crypto second := by
    cases relay with
    | delegation =>
      exact struct_of_offchainPreimage (distinct _ (by simp [preimages]) _ (by simp [preimages]) same)
    | scopedDelegation =>
      have offchain := offchain_of_scopedPreimage (distinct _ (by simp [preimages]) _ (by simp [preimages]) same)
      exact struct_of_offchainPreimage (distinct _ (by simp [preimages]) _ (by simp [preimages]) offchain)
    | replacement =>
      exact struct_of_replacementPreimage (distinct _ (by simp [preimages]) _ (by simp [preimages]) same)
  exact .of_struct distinct (by simp [preimages]) (by simp [preimages])
    (by simp [preimages]) (by simp [preimages]) structs

/-! ## What is stored -/

/-- What a relayed call has done when it succeeds. -/
structure Relay.Accepted (relay : Relay) (crypto : Crypto) (env : Env) (before : Book)
    (attestation : Attestation) (authorization : DelegationAuthorization) (after : Book) : Prop where
  verified : verifyOffchainSignature crypto
    (relay.digest crypto env attestation authorization) relay.publicKey relay.signature = .ok ()
  checked : relay.checksRevocation = true -> attestation.revocationTime = 0
  stored : after = (relay.base env before).issue env (relay.record env attestation)

/-- Whether or not there is a group, the signature verifies under the key that was given. -/
theorem verified_of_delegationKey {schemaUid : UID} {attester : Address} {publicKey payloadHash : BytesN 32}
    {signature : BytesN 64} {bound : Option FrostGroup}
    (binding : requireDelegationKey host ledger schemaUid attester publicKey = .ok bound)
    (verified : verifyDelegatedSignature crypto payloadHash publicKey signature bound = .ok ()) :
    verifyOffchainSignature crypto payloadHash publicKey signature = .ok () := by
  cases bound with
  | none => exact verified
  | some group =>
    simp only [requireDelegationKey, eq_ok] at binding
    rcases binding with ⟨found, -, bound, rfl⟩
    cases require_eq_ok.mp bound
    exact verified

theorem attestInternal_stored {consumed : State} {attester : Address} {nonce : UInt64}
    {attestation : Attestation} {result : UID × Ledger W}
    (consuming : consumeDelegationNonce ledger.sas attester nonce = .ok consumed)
    (success : attestInternal host crypto env { ledger with sas := consumed } attestation = .ok result) :
    result.2.sas.book = ledger.sas.book.issue env (stamp env attestation) := by
  rw [(attestInternal_ok success).2.book, book_congr (consumeDelegationNonce_quiet consuming ledger.world).records]

theorem Relay.accepted {relay : Relay} {next : Ledger W} {attestation : Attestation}
    {authorization : DelegationAuthorization}
    (success : step host crypto ledger (env, relay.call attestation authorization) = .ok next) :
    relay.Accepted crypto env ledger.sas.book attestation authorization next.sas.book := by
  cases relay with
  | delegation =>
    simp only [step, Relay.call, ledgerOf, attestByDelegation, attestDelegated, eq_ok] at success
    rcases success with ⟨result, ⟨-, -, unrevoked, -, -, -, bound, binding, verified, consumed,
      consuming, issuing⟩, rfl⟩
    exact ⟨verified_of_delegationKey binding verified, fun _ => unrevoked, attestInternal_stored consuming issuing⟩
  | scopedDelegation =>
    simp only [step, Relay.call, ledgerOf, attestByScopedDelegation, eq_ok] at success
    rcases success with ⟨result, ⟨-, unrevoked, -, -, -, -, verified, consumed, consuming, issuing⟩, rfl⟩
    exact ⟨verified, fun _ => unrevoked, attestInternal_stored consuming issuing⟩
  | replacement =>
    simp only [step, Relay.call, ledgerOf, eq_ok] at success
    rcases success with ⟨result, replacing, rfl⟩
    rcases replaceByDelegationConsent_ok replacing with ⟨old, stored, replaced⟩
    simp only [replaceByDelegationConsent, eq_ok] at replacing
    rcases replacing with ⟨-, -, -, -, -, -, verified, -⟩
    refine ⟨verified, ?_, ?_⟩
    · intro checks
      cases checks
    · simp only [Relay.base, stored]
      exact replaced.book

theorem records_eq_iff {base : Book} (same : first.uid = second.uid) :
    (∀ uid, (base.issue env first uid).attestation = (base.issue env second uid).attestation) ↔ first = second := by
  constructor
  · intro equal
    have here := equal first.uid
    rw [Book.issue_self, same, Book.issue_self] at here
    exact Option.some.inj here
  · rintro rfl uid
    rfl

/-- With the payload fixed, two records agree exactly in the two uncovered fields. -/
theorem SamePayload.record_eq_iff {relay : Relay} (payload : SamePayload first second) :
    relay.record env first = relay.record env second ↔
      first.validFrom = second.validFrom ∧ first.revocationTime = second.revocationTime := by
  cases first
  cases second
  rcases payload with ⟨rfl, rfl, rfl, rfl, rfl, rfl, rfl, rfl, rfl⟩
  cases relay <;> simp [Relay.record, stamp, and_comm]

/-- Two attestations that are accepted from the same state under the same signature leave
the same records exactly when they agree in `valid_from`, and in `revocation_time` where the
entry point does not check it. -/
theorem relayed_records_fixed_iff (host : Host W) (crypto : Crypto) (env : Env)
    (ledger firstAfter secondAfter : Ledger W) (relay : Relay) (first second : Attestation)
    (firstScope secondScope : DelegationAuthorization)
    (firstSuccess : step host crypto ledger (env, relay.call first firstScope) = .ok firstAfter)
    (secondSuccess : step host crypto ledger (env, relay.call second secondScope) = .ok secondAfter)
    (distinct : NoCollision crypto (relay.preimages crypto env first firstScope ++
      relay.preimages crypto env second secondScope))
    (unequivocal : verifyOffchainSignature crypto (relay.digest crypto env first firstScope) relay.publicKey
        relay.signature = .ok () ->
      verifyOffchainSignature crypto (relay.digest crypto env second secondScope) relay.publicKey
        relay.signature = .ok () ->
      relay.digest crypto env first firstScope = relay.digest crypto env second secondScope) :
    (forall uid, recordOf firstAfter.sas uid = recordOf secondAfter.sas uid) ↔ first.validFrom = second.validFrom ∧
        (relay.checksRevocation = false -> first.revocationTime = second.revocationTime) := by
  have one := Relay.accepted firstSuccess
  have two := Relay.accepted secondSuccess
  have payload : SamePayload first second := Relay.samePayload distinct (unequivocal one.verified two.verified)
  have sameUid : (relay.record env first).uid = (relay.record env second).uid := by
    cases relay <;> exact payload.uid
  have records : (forall uid, recordOf firstAfter.sas uid =
      recordOf secondAfter.sas uid) ↔ relay.record env first = relay.record env second := by
    rw [← records_eq_iff sameUid, ← one.stored, ← two.stored]
    rfl
  rw [records, payload.record_eq_iff]
  apply and_congr_right
  intro _
  cases checks : relay.checksRevocation with
  | false => exact ⟨fun equal _ => equal, fun equal => equal rfl⟩
  | true => exact iff_of_true ((one.checked checks).trans (two.checked checks).symm) nofun

/-- The answer, made valid from time 150 on. -/
def laterAnswer : Attestation := { okAnswer true with validFrom := 150 }

theorem relayed_records_fixed_iff_later : ¬ forall uid, recordOf (commit (step okHost relayCrypto)
        (run (advance okHost relayCrypto) ⟨deployed, ()⟩ keyRegistered) (signedAt [] 100,
          Relay.call (.delegation 1 attesterSignature attesterKey) (okAnswer true) ⟨.any, 1, 0⟩)).sas uid =
      recordOf (commit (step okHost relayCrypto)
        (run (advance okHost relayCrypto) ⟨deployed, ()⟩ keyRegistered) (signedAt [] 100,
          Relay.call (.delegation 1 attesterSignature attesterKey) laterAnswer ⟨.any, 1, 0⟩)).sas uid := by
  intro same
  have agree := (relayed_records_fixed_iff okHost relayCrypto (signedAt [] 100)
    (run (advance okHost relayCrypto) ⟨deployed, ()⟩ keyRegistered) _ _
    (.delegation 1 attesterSignature attesterKey) (okAnswer true) laterAnswer ⟨.any, 1, 0⟩
    ⟨.any, 1, 0⟩ (commit_ok (by decide +kernel)) (commit_ok (by decide +kernel))
    (by unfold NoCollision; decide +kernel) (fun _ _ => rfl)).mp same
  exact absurd agree.1 (by decide)

/-- The signature of account 2 on its answer is good for the answer from time 150 on. -/
theorem relayed_valid_from_altered :
    let ledger := run (advance okHost relayCrypto) ⟨deployed, ()⟩ keyRegistered
    let relayed (attestation : Attestation) := advance okHost relayCrypto ledger
      (.call (signedAt [] 100) (.attestByDelegation attestation 1 attesterSignature attesterKey))
    (relayed (okAnswer true)).toOption.map (fun after => recordOf after.sas
        (okAnswer true).uid) = some (some { okAnswer true with time := 100 }) ∧
      (relayed laterAnswer).toOption.map (fun after => recordOf after.sas
        (okAnswer true).uid) = some (some { okAnswer true with time := 100, validFrom := 150 }) := by
  decide +kernel

end SorobanSas.Sas
