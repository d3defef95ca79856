import SorobanSas.Sas.Frames
import SorobanSas.Sas.Replacement
import SorobanSas.Sas.Threshold

namespace SorobanSas.Sas

open Library

/-!
# Delegation policies

An attester restricts what may be issued on the strength of its signatures by a policy: a
permission, a last date and a schema.  The policy is a check that the entry points make one
by one.  `attest_by_delegation`, its batch and `attest_by_scoped_delegation` make it.

`replace_by_delegation_consent` does not.  It issues a new record on two signatures, under any
schema, whatever the attester's policy says.
-/

variable {W : Type} {host : Host W} {crypto : Crypto} {env : Env} {ledger : Ledger W}
  {policy : DelegationPolicy} {attestation newData : Attestation} {oldUid : UID} {result : UID × Ledger W}

/-- The policy does not allow an issuance under this schema at this time. -/
def DelegationPolicy.Denies (policy : DelegationPolicy) (time : UInt64) (schemaUid : UID) : Prop :=
  policy.permissions &&& 1 = 0 ∨ (policy.validUntil ≠ 0 ∧ policy.validUntil < time) ∨
    ∃ only, policy.authorizedSchemaUid = .only only ∧ only ≠ schemaUid

theorem grantsIssue_eq_false {schemaUid : UID} :
    grantsIssue env policy.permissions policy.validUntil policy.authorizedSchemaUid schemaUid =
        false ↔ policy.Denies env.timestamp schemaUid := by
  unfold grantsIssue DelegationPolicy.Denies
  cases policy.authorizedSchemaUid with
  | any | only =>
    simp
    rw [← UInt64.not_le]
    tauto

/-- The entry points that issue on the strength of a signature of the attester. -/
def Call.issuesSigned : Call -> Bool
  | .attestByDelegation .. | .multiAttestByDelegation .. | .attestByScopedDelegation ..
  | .replaceByDelegationConsent .. => true
  | _ => false

/-- A new attestation of the attester under the schema is stored. -/
def StoresNew (before after : State) (attester : Address) (schemaUid : UID) : Prop :=
  ∃ uid attestation, recordOf before uid = none ∧
    recordOf after uid = some attestation ∧ attestation.attester = attester ∧ attestation.schemaUid = schemaUid

/-! ## The check -/

theorem requireDelegationPolicy_denied {state : State} {attester : Address} {schemaUid : UID}
    {done : Unit} (stored : state.delegationPolicies attester = some policy)
    (denies : policy.Denies env.timestamp schemaUid)
    (allowed : requireDelegationPolicy env state attester schemaUid = .ok done) : False := by
  simp only [requireDelegationPolicy, stored, whenSome, require_eq_ok] at allowed
  cases (grantsIssue_eq_false.mpr denies).symm.trans allowed

theorem attestDelegated_permitted {nonce : UInt64} {signature : BytesN 64} {publicKey : BytesN 32} :
    Yields (attestDelegated host crypto env ledger attestation nonce signature publicKey)
      fun _ => requireDelegationPolicy env ledger.sas attestation.attester attestation.schemaUid = .ok () :=
  .skip2 <| .bind fun _ allowed => fun _ _ => allowed

/-- Where the check is made, nothing is issued against the policy. -/
theorem permitted_of_asks {next : Ledger W} {call : Call} (signed : call.issuesSigned = true)
    (direct : ∀ oldUid newData attesterApproval recipientApproval,
      call ≠ .replaceByDelegationConsent oldUid newData attesterApproval recipientApproval)
    (success : step host crypto ledger (env, call) = .ok next) (asked : call.asks crypto env attestation)
    (stored : ledger.sas.delegationPolicies attestation.attester = some policy) :
    ¬ policy.Denies env.timestamp attestation.schemaUid := by
  intro denies
  -- The stored record has the attester and the schema of the payload.
  have refused (payload : Attestation) {state : State} {done : Unit}
      (same : state.delegationPolicies = ledger.sas.delegationPolicies)
      (alike : attestation.attester = payload.attester ∧ attestation.schemaUid = payload.schemaUid)
      (allowed : requireDelegationPolicy env state payload.attester payload.schemaUid = .ok done) :
      False := by
    rw [← alike.1, ← alike.2] at allowed
    exact requireDelegationPolicy_denied ((congrFun same _).trans stored) denies allowed
  cases call with
  | attestByDelegation payload =>
    rcases asked with ⟨-, rfl⟩
    simp only [step, ledgerOf, attestByDelegation, eq_ok] at success
    rcases success with ⟨result, ⟨-, -, delegated⟩, -⟩
    exact refused payload rfl ⟨rfl, rfl⟩ (attestDelegated_permitted result delegated)
  | attestByScopedDelegation payload =>
    rcases asked with ⟨-, rfl⟩
    simp only [step, ledgerOf, attestByScopedDelegation, eq_ok] at success
    rcases success with ⟨_, ⟨-, -, -, -, -, allowed, -⟩, -⟩
    exact refused payload rfl ⟨rfl, rfl⟩ allowed
  | multiAttestByDelegation =>
    rcases asked with ⟨payload, member, -, rfl⟩
    simp only [step, ledgerOf, multiAttestByDelegation, enterReentrancyGuard, eq_ok] at success
    rcases success with ⟨_, ⟨-, -, lengths, guarded, ⟨-, rfl⟩, issued, items, -⟩, -⟩
    rcases item_of_attestation_mem lengths member with ⟨item, among, rfl⟩
    rcases visited_item (·.delegationPolicies) (fun _ _ => attestDelegated_standing.mono
      fun _ standing => standing.policies) items among with ⟨current, same, result, taken⟩
    exact refused item.attestation same ⟨rfl, rfl⟩ (attestDelegated_permitted result taken)
  | replaceByDelegationConsent => exact absurd rfl (direct _ _ _ _)
  | _ => cases signed

theorem replaceInternal_absent {old : Attestation}
    (success : replaceInternal host crypto env ledger oldUid newData old = .ok result) :
    (ledger.sas.book newData.uid).attestation = none := by
  simp only [replaceInternal, replaceRecords, bind_assoc, eq_ok] at success
  rcases success with ⟨-, -, -, -, revoked, revoking, issued, issuing, -⟩
  rcases (revokeInternal_ok revoking).revocable with ⟨old, stored, -, -, -, book⟩
  have absent : (revoked.sas.book newData.uid).attestation = none := (attestInternal_ok issuing).2.issuable.absent
  rw [book] at absent
  by_cases same : newData.uid = oldUid
  · rw [same, Book.revoke_self] at absent
    cases absent
  · exact (congrArg Page.attestation (update_of_ne same _ _)).symm.trans absent

theorem replaceByDelegationConsent_stores {attesterApproval recipientApproval : ReplacementApproval}
    (success : replaceByDelegationConsent host crypto env ledger oldUid newData attesterApproval
      recipientApproval = .ok result) : StoresNew ledger.sas result.2.sas newData.attester newData.schemaUid := by
  rcases replaceByDelegationConsent_ok success with ⟨old, -, replaced⟩
  refine ⟨result.1, _, ?_, replaced.new, rfl, rfl⟩
  simp only [replaceByDelegationConsent, eq_ok] at success
  rcases success with ⟨-, stored, -, -, -, -, -, -, attesterConsumed, first, consumed, second, replacing⟩
  have quiet : Quiet ledger { ledger with sas := consumed } :=
    (consumeDelegationNonce_quiet first ledger.world).trans (consumeRecipientConsentNonce_quiet second ledger.world)
  have absent := replaceInternal_absent replacing
  rw [book_congr quiet.records, ← replaced.returned] at absent
  exact absent

/-- Under a policy that denies, a call that issues on the attester's signature stores nothing
against it, exactly unless it is a replacement by consent. -/
theorem policy_binds_iff (host : Host W) (crypto : Crypto) (env : Env) (ledger next : Ledger W)
    (call : Call) (attester : Address) (schemaUid : UID) (policy : DelegationPolicy)
    (signed : call.issuesSigned = true) (stored : ledger.sas.delegationPolicies attester = some policy)
    (denies : policy.Denies env.timestamp schemaUid) (success : step host crypto ledger (env, call) = .ok next) :
    ¬ StoresNew ledger.sas next.sas attester schemaUid ↔ forall oldUid newData attesterApproval recipientApproval,
        call = .replaceByDelegationConsent oldUid newData attesterApproval recipientApproval ->
          ¬ (newData.attester = attester ∧ newData.schemaUid = schemaUid) := by
  constructor
  · rintro none oldUid newData attesterApproval recipientApproval rfl ⟨rfl, rfl⟩
    simp only [step, ledgerOf, eq_ok] at success
    rcases success with ⟨result, replaced, rfl⟩
    exact none (replaceByDelegationConsent_stores replaced)
  · rintro other ⟨uid, attestation, absent, present, rfl, rfl⟩
    have asked : call.asks crypto env attestation := (step_effect next success).added absent present
    by_cases direct : forall oldUid newData attesterApproval recipientApproval,
        call ≠ .replaceByDelegationConsent oldUid newData attesterApproval recipientApproval
    · exact permitted_of_asks signed direct success asked stored denies
    · push Not at direct
      rcases direct with ⟨oldUid, newData, attesterApproval, recipientApproval, rfl⟩
      cases asked
      exact other oldUid newData attesterApproval recipientApproval rfl ⟨rfl, rfl⟩

/-! ### A policy that is passed over -/

open Address (accountOfNat)
open Registry (okSchemaUid)

/-- Account 2 allows issuance under the schema `bool ok` only. -/
def okScope : Move Unit := .call (signedAt [2] 100) (.setDelegationPolicy (accountOfNat 2) ⟨.only okSchemaUid, 1, 0⟩)

theorem policy_binds_iff_scoped :
    let before := run (advance okHost relayCrypto) ⟨deployed, ()⟩ (keyRegistered ++ [okScope])
    ∃ next, step okHost relayCrypto before
        (signedAt [] 100, .attestByDelegation (okAnswer true) 1 attesterSignature attesterKey) = .ok next ∧
      ¬ StoresNew before.sas next.sas (accountOfNat 2) UID.zero := by
  intro before
  have succeeds : (step okHost relayCrypto before (signedAt [] 100,
      .attestByDelegation (okAnswer true) 1 attesterSignature attesterKey)).isOk = true := by
    decide +kernel
  rcases exists_of_isOk succeeds with ⟨next, success⟩
  refine ⟨next, success, (policy_binds_iff okHost relayCrypto (signedAt [] 100) before next _
    (accountOfNat 2) UID.zero ⟨.only okSchemaUid, 1, 0⟩ rfl rfl ?_ success).mpr ?_⟩
  · exact .inr (.inr ⟨okSchemaUid, rfl, by decide⟩)
  · intro oldUid newData attesterApproval recipientApproval same
    cases same

/-- The key of account 3. -/
def recipientKey : BytesN 32 := 0xed4928c628d1c2c6eae90338905995612959273a5c63f93636c14614ac8737d1#256

def amendedCrypto : Crypto :=
  payloadCrypto.learn (attestationPreimage payloadCrypto (okAnswer false))
    0x5e48e5fdcf17c5d347c1d053480d9b84974affed86070e2e83a3d507338e91a4#256

/-- The digest of the replacement of one answer by the other, under nonce 1 of both parties. -/
def amendmentDigest : BytesN 32 := 0xb90304871c9c76c1bcd5e39801af840bf40e57beea9be1dd01ce4e65bed148cd#256

/-- The approvals of account 2 and account 3. -/
def attesterConsent : ReplacementApproval where
  nonce := 1
  signature :=
    0x0bfe07b682bda15b388eee79072ea8f196cd332e118468d0a47c9201f9e56a7b#256 ++
      0xcc6d8520d0957728ebff6ca55860f0b9b63cd017ebec4d315ec44f00b8d67103#256
  publicKey := attesterKey

def recipientConsent : ReplacementApproval where
  nonce := 1
  signature :=
    0x6dcd80f27125c8bbd0fc49c922540fca2a4b5a4f7cf239225075c25d379c62f4#256 ++
      0x8b25eb882ee2566182975f7fe3a82108861b30b7a280b13c9783d8438aa1a807#256
  publicKey := recipientKey

def consentCrypto : Crypto :=
  { amendedCrypto.learn (replacementPreimage amendedCrypto (okAnswer true).uid (okAnswer false)
      ⟨0, .contract 8, 1, 1⟩) amendmentDigest with
    ed25519Verify := (Crypto.ofTable [] [(attesterKey, BytesN.toArray amendmentDigest, attesterConsent.signature),
        (recipientKey, BytesN.toArray amendmentDigest, recipientConsent.signature)]).ed25519Verify }

/-- Accounts 2 and 3 register their keys, account 2 answers, and then allows nothing to be
issued on its signature any more. -/
def okForbidden : List (Move Unit) :=
  keyRegistered ++ [.call (signedAt [3] 100) (.registerAttesterKey (accountOfNat 3) recipientKey),
      .call (signedAt [2] 100) (.attest (okAnswer true)),
      .call (signedAt [2] 100) (.setDelegationPolicy (accountOfNat 2) ⟨.any, 0, 0⟩)]

/-- The answer is replaced on the two signatures all the same. -/
theorem policy_bypassed :
    let before := run (advance okHost consentCrypto) ⟨deployed, ()⟩ okForbidden
    before.sas.delegationPolicies (accountOfNat 2) = some ⟨.any, 0, 0⟩ ∧
      DelegationPolicy.Denies ⟨.any, 0, 0⟩ 200 okSchemaUid ∧ recordOf before.sas (okAnswer false).uid = none ∧
      (step okHost consentCrypto before (signedAt [] 200, .replaceByDelegationConsent
        (okAnswer true).uid (okAnswer false) attesterConsent recipientConsent)).toOption.map
          (fun next => recordOf next.sas (okAnswer false).uid) =
        some (some { okAnswer false with time := 200, refUid := (okAnswer true).uid }) := by
  refine ⟨by decide +kernel, .inl (by decide), by decide +kernel, by decide +kernel⟩

end SorobanSas.Sas
