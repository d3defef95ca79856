import SorobanSas.Sas.Anchors

namespace SorobanSas.Sas

open Library

/-!
# Replacement

`replace_internal` revokes a record and issues another one in the same call.  The documented
guarantee is that there is no gap: the old record stops being valid and the new one is valid
at once.

The new record is valid at once unless the caller brought a `revocation_time` or a
`valid_from` that lies ahead, neither of which is checked.  The old one stops being valid
because its `revocation_time` is the ledger's timestamp, which is zero at genesis only.
-/

variable {W : Type} {host : Host W} {crypto : Crypto} {env : Env} {oldUid newUid : UID}
  {newData : Attestation} {ledger : Ledger W} {result : UID × Ledger W} {before after : Book}

/-- A record that is in force. -/
structure Attestation.InForce (env : Env) (attestation : Attestation) : Prop where
  unrevoked : attestation.revocationTime = 0
  active : attestation.validFrom <= env.timestamp
  live : ¬ Expired env attestation.expirationTime

/-- The verdict on a record that can be read. -/
theorem verifyAttestation_eq_ok {state : State} {uid : UID} {verdict : Bool} :
    verifyAttestation env state uid = .ok verdict ↔ (state.records uid).isLegacy = false ∧
      (verdict = true ↔ ∃ attestation, (state.book uid).attestation = some attestation ∧
        Attestation.InForce env attestation) := by
  have page : recordOf state uid = (state.book uid).attestation := rfl
  simp only [verifyAttestation, verifyAttestationRecord, bind_eq_ok, readAttestation_eq_ok, page, and_assoc,
    exists_and_left, exists_eq_left', and_congr_right_iff]
  intro _
  cases (state.book uid).attestation with
  | none => simp
  | some attestation =>
    have reached : (attestation.validFrom = 0 ∨ attestation.validFrom <= env.timestamp) ↔
        attestation.validFrom <= env.timestamp := or_iff_right_of_imp fun zero => zero ▸ UInt64.zero_le
    have fields : Attestation.InForce env attestation ↔ attestation.revocationTime = 0 ∧
        attestation.validFrom <= env.timestamp ∧ ¬ Expired env attestation.expirationTime := by
      constructor
      · intro force
        exact ⟨force.unrevoked, force.active, force.live⟩
      · rintro ⟨unrevoked, active, live⟩
        exact ⟨unrevoked, active, live⟩
    rw [pure_eq_ok, eq_comm, Bool.eq_iff_iff]
    refine iff_congr Iff.rfl ?_
    simp [fields, Expired, reached, and_assoc, or_iff_not_imp_left]

theorem verifyAttestation_eq_true {state : State} {uid : UID} : verifyAttestation env state uid = .ok true ↔
    (state.records uid).isLegacy = false ∧ ∃ attestation, (state.book uid).attestation = some attestation ∧
      Attestation.InForce env attestation := by
  simp only [verifyAttestation_eq_ok, true_iff]

theorem verifyAttestation_eq_false {state : State} {uid : UID} {attestation : Attestation}
    (stored : (state.book uid).attestation = some attestation) : verifyAttestation env state uid = .ok false ↔
      (state.records uid).isLegacy = false ∧ ¬ Attestation.InForce env attestation := by
  simp only [verifyAttestation_eq_ok, stored, Bool.false_eq_true, false_iff, Option.some.injEq, exists_eq_left']

/-! ## What a replacement does -/

/-- What `replace_internal` does when it succeeds. -/
structure Replaced (crypto : Crypto) (env : Env) (before : Book) (oldUid : UID)
    (newData old : Attestation) (newUid : UID) (after : Book) : Prop where
  returned : newUid = newData.uid
  distinct : newData.uid ≠ oldUid
  attester : newData.attester = old.attester
  recipient : newData.recipient = old.recipient
  live : ¬ Expired env newData.expirationTime
  absent : (before newData.uid).attestation = none
  book : after = (before.revoke env oldUid old).issue env (stamp env { newData with refUid := oldUid })

theorem replaceInternal_ok {old : Attestation} (stored : (ledger.sas.book oldUid).attestation = some old)
    (success : replaceInternal host crypto env ledger oldUid newData old = .ok result) :
    Replaced crypto env ledger.sas.book oldUid newData old result.1 result.2.sas.book := by
  simp only [replaceInternal, replaceRecords, bind_assoc, eq_ok] at success
  rcases success with ⟨-, -, ⟨attester, recipient⟩, -, revoked, revoking, issued, issuing, rfl⟩
  rcases (revokeInternal_ok revoking).revocable with ⟨old', stored', -, -, -, revokedBook⟩
  cases stored.symm.trans stored'
  rcases attestInternal_ok issuing with ⟨returned, attested⟩
  have issuable := attested.issuable
  rw [revokedBook] at issuable
  have distinct : newData.uid ≠ oldUid := by
    rintro rfl
    cases issuable.absent.symm.trans (Book.revoke_self _ env newData.uid old)
  refine ⟨returned, distinct, attester, recipient, issuable.live, ?_, ?_⟩
  · exact (congrArg Page.attestation (update_of_ne distinct _ _)).symm.trans issuable.absent
  · rw [← revokedBook]
    exact attested.book

theorem Replaced.old {old : Attestation} (replaced : Replaced crypto env before oldUid newData old newUid after) :
    (after oldUid).attestation = some { old with revocationTime := env.timestamp } := by
  have elsewhere : oldUid ≠ (stamp env { newData with refUid := oldUid }).uid := replaced.distinct.symm
  rw [replaced.book, Book.issue_of_ne _ env elsewhere, Book.revoke_self]

theorem Replaced.new {old : Attestation} (replaced : Replaced crypto env before oldUid newData old newUid after) :
    (after newUid).attestation = some (stamp env { newData with refUid := oldUid }) := by
  rw [replaced.book, replaced.returned]
  exact Book.issue_self _ env (stamp env { newData with refUid := oldUid })

/-- Both entry points come down to `replace_internal` on the stored record. -/
theorem replaceAttestation_ok (success : replaceAttestation host crypto env ledger oldUid newData = .ok result) :
    ∃ old, (ledger.sas.book oldUid).attestation = some old ∧
      Replaced crypto env ledger.sas.book oldUid newData old result.1 result.2.sas.book := by
  simp only [replaceAttestation, requireStored_eq_ok, eq_ok] at success
  rcases success with ⟨-, -, -, old, ⟨-, stored⟩, -, replacing⟩
  exact ⟨old, stored, replaceInternal_ok stored replacing⟩

theorem replaceByDelegationConsent_ok {attesterApproval recipientApproval : ReplacementApproval}
    (success : replaceByDelegationConsent host crypto env ledger oldUid newData attesterApproval
      recipientApproval = .ok result) : ∃ old, (ledger.sas.book oldUid).attestation = some old ∧
      Replaced crypto env ledger.sas.book oldUid newData old result.1 result.2.sas.book := by
  simp only [replaceByDelegationConsent, requireStored_eq_ok, eq_ok] at success
  rcases success with ⟨-, old, ⟨-, stored⟩, -, -, -, -, -, attesterConsumed, first, consumed, second, replacing⟩
  have quiet : Quiet ledger { ledger with sas := consumed } :=
    (consumeDelegationNonce_quiet first ledger.world).trans (consumeRecipientConsentNonce_quiet second ledger.world)
  have found : (ledger.sas.book oldUid).attestation = some old := stored
  rw [← book_congr quiet.records] at found ⊢
  exact ⟨old, found, replaceInternal_ok found replacing⟩

/-! ## No gap -/

/-- The old record is out of force, and the new one is in force and about the same parties. -/
structure NoGap (env : Env) (before : State) (oldUid : UID) (after : State) (newUid : UID) :
    Prop where
  oldInvalid : verifyAttestation env after oldUid = .ok false
  newValid : verifyAttestation env after newUid = .ok true
  linked : ∃ old new, recordOf before oldUid = some old ∧ recordOf after newUid = some new ∧ new.refUid = oldUid ∧
    new.attester = old.attester ∧ new.recipient = old.recipient

theorem Replaced.noGap_iff {before after : State} {old : Attestation}
    (stored : (before.book oldUid).attestation = some old) (valid : verifyAttestation env before oldUid = .ok true)
    (layout : KeepsLayout before after)
    (replaced : Replaced crypto env before.book oldUid newData old newUid after.book) :
    NoGap env before oldUid after newUid ↔
      env.timestamp ≠ 0 ∧ newData.revocationTime = 0 ∧ newData.validFrom <= env.timestamp := by
  rcases verifyAttestation_eq_true.mp valid with ⟨compact, old', stored', inForce⟩
  cases stored.symm.trans stored'
  constructor
  · intro noGap
    rcases verifyAttestation_eq_true.mp noGap.newValid with ⟨-, new, current, newInForce⟩
    cases replaced.new.symm.trans current
    refine ⟨fun genesis => ?_, newInForce.unrevoked, newInForce.active⟩
    -- At timestamp zero the old record is revoked at time zero, that is, not at all.
    exact ((verifyAttestation_eq_false replaced.old).mp noGap.oldInvalid).2 ⟨genesis, inForce.active, inForce.live⟩
  · rintro ⟨positive, unrevoked, active⟩
    refine ⟨?_, ?_, ?_⟩
    · exact (verifyAttestation_eq_false replaced.old).mpr
        ⟨layout.compact compact, fun stillInForce => positive stillInForce.unrevoked⟩
    · have fresh : (before.records newUid).isLegacy = false :=
        not_isLegacy_of_absent (replaced.returned ▸ replaced.absent)
      exact verifyAttestation_eq_true.mpr
        ⟨layout.compact fresh, _, replaced.new, unrevoked, active, replaced.live⟩
    · exact ⟨old, _, stored, replaced.new, rfl, replaced.attester, replaced.recipient⟩

/-- A replacement of a valid record leaves no gap exactly when the new data is neither
revoked nor activated later and the ledger is past timestamp zero. -/
theorem replacement_no_gap_iff (host : Host W) (crypto : Crypto) (env : Env) (ledger : Ledger W)
    (oldUid : UID) (newData : Attestation) (result : UID × Ledger W)
    (success : replaceAttestation host crypto env ledger oldUid newData = .ok result ∨
      ∃ attesterApproval recipientApproval, replaceByDelegationConsent host crypto env ledger
        oldUid newData attesterApproval recipientApproval = .ok result)
    (valid : verifyAttestation env ledger.sas oldUid = .ok true) : NoGap env ledger.sas oldUid result.2.sas result.1 ↔
      env.timestamp ≠ 0 ∧ newData.revocationTime = 0 ∧ newData.validFrom ≤ env.timestamp := by
  rcases success with direct | ⟨attesterApproval, recipientApproval, relayed⟩
  · rcases replaceAttestation_ok direct with ⟨old, stored, replaced⟩
    have called : step host crypto ledger (env, .replaceAttestation oldUid newData) = .ok result.2 := by
      simp only [step, ledgerOf, direct]
      rfl
    exact replaced.noGap_iff stored valid (step_layout _ called)
  · rcases replaceByDelegationConsent_ok relayed with ⟨old, stored, replaced⟩
    have called : step host crypto ledger (env, .replaceByDelegationConsent oldUid newData attesterApproval
        recipientApproval) = .ok result.2 := by
      simp only [step, ledgerOf, relayed]
      rfl
    exact replaced.noGap_iff stored valid (step_layout _ called)

theorem replacement_no_gap_iff_answered : ∃ result, replaceAttestation okHost answerCrypto (signedAt [2] 200)
        (run (advance okHost answerCrypto) ⟨deployed, ()⟩ okIssued) (okAnswer true).uid (okAnswer false) = .ok result ∧
      NoGap (signedAt [2] 200) (run (advance okHost answerCrypto) ⟨deployed, ()⟩ okIssued).sas (okAnswer true).uid
        result.2.sas result.1 := by
  have succeeds : (replaceAttestation okHost answerCrypto (signedAt [2] 200)
      (run (advance okHost answerCrypto) ⟨deployed, ()⟩ okIssued) (okAnswer true).uid
      (okAnswer false)).isOk = true := rfl
  rcases exists_of_isOk succeeds with ⟨result, success⟩
  exact ⟨result, success, (replacement_no_gap_iff okHost answerCrypto (signedAt [2] 200) _
    (okAnswer true).uid (okAnswer false) result (.inl success) (by decide)).mpr
      (by decide)⟩

/-- The answer is replaced at time 200 by one that is valid from time 300. -/
def postponed : Move Unit :=
  .call (signedAt [2] 200)
    (.replaceAttestation (okAnswer true).uid { okAnswer false with validFrom := 300 })

/-- The call succeeds on a valid record, and afterwards neither record is valid. -/
theorem replacement_gap :
    let before := run (advance okHost answerCrypto) ⟨deployed, ()⟩ okIssued
    let after := run (advance okHost answerCrypto) ⟨deployed, ()⟩ (okIssued ++ [postponed])
    verifyAttestation (signedAt [2] 200) before.sas (okAnswer true).uid = .ok true ∧
      (advance okHost answerCrypto before postponed).isOk = true ∧
      verifyAttestation (signedAt [2] 200) after.sas (okAnswer true).uid = .ok false ∧
      verifyAttestation (signedAt [2] 200) after.sas (okAnswer false).uid = .ok false := by
  decide

end SorobanSas.Sas
