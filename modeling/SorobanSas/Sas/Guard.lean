import SorobanSas.Sas.Reentrancy

namespace SorobanSas.Sas

open Library
open Registry (SchemaRecord)

/-!
# The guard over a whole call

A batch of issuances raises the guard before its first item and releases it after its last
one.  Each internal operation counts one frame more in `CALL_DEPTH`, raises the guard if it
is not up, and undoes on return what it did itself.  This module shows that the two fit
together: no call that commits leaves guard or depth changed, and at every callback inside an
internal operation the guard is up and the depth is the number of open frames.

Batches of revocations do not raise the guard themselves.  Between two of their items it is
down, while each item runs under the guard of its own frame.
-/

variable {W : Type} {host : Host W} {crypto : Crypto} {env : Env} {ι : Type} {attestation : Attestation}
  {nonce : UInt64} {attester recipient token : Address} {entered between : Ledger W} {items : List ι}
  {value : Int} {uid : UID} {call : Call} {ledger : Ledger W}

/-- Guard and depth are as before. -/
structure Balanced (before after : State) : Prop where
  guard : after.guard = before.guard
  depth : after.callDepth = before.callDepth

namespace Balanced

theorem refl (state : State) : Balanced state state := ⟨rfl, rfl⟩

theorem trans {first middle last : State} (one : Balanced first middle)
    (two : Balanced middle last) : Balanced first last := ⟨two.guard.trans one.guard, two.depth.trans one.depth⟩

end Balanced

theorem Frame.balanced {before after : State} (frame : Frame before after) : Balanced before after := by
  rcases frame with ⟨_, _, _, rfl⟩
  exact ⟨rfl, rfl⟩

theorem attestInternal_balanced :
    Yields (attestInternal host crypto env ledger attestation) fun result => Balanced ledger.sas result.2.sas :=
  fun _ success => (attestInternal_ok success).2.frame.balanced

theorem settleFee_balanced {baseAmount creatorAmount : Int} :
    Yields (settleFee host env ledger attestation token value baseAmount creatorAmount)
      fun after => Balanced ledger.sas after.sas :=
  settleFee_related (fun before after => Balanced before.sas after.sas) ⟨fun _ => .refl _, .trans⟩
    (fun _ _ _ _ _ _ _ => .refl _) (fun _ _ _ => ⟨rfl, rfl⟩)
    (fun _ _ => ⟨rfl, rfl⟩)

theorem revokeInternal_balanced :
    Yields (revokeInternal host env ledger uid) fun after => Balanced ledger.sas after.sas :=
  fun _ success => (revokeInternal_ok success).frame.balanced

theorem Part.balanced {before after : Ledger W} {issuing : Bool}
    (part : Part host crypto env call issuing before after) : Balanced before.sas after.sas := by
  cases part with
  | issue payload result success => exact attestInternal_balanced result success
  | revoke uid after success => exact revokeInternal_balanced after success
  | renew | prune | reindex | relay | account | publish => exact ⟨rfl, rfl⟩
  | replaced | verify | transfer => exact .refl _

/-- No call that commits changes guard or depth: a batch releases the guard that it raised. -/
theorem step_balanced : Yields (step host crypto ledger (env, call)) fun after => Balanced ledger.sas after.sas := by
  by_cases configures : call.configures = true
  · exact (step_configured configures).mono fun _ configured => ⟨configured.steady.guard, configured.steady.depth⟩
  have parts {issuing : Bool} {before after : Ledger W}
      (parts : Parts host crypto env call issuing before after) : Balanced before.sas after.sas :=
    parts.related (fun before after => Balanced before.sas after.sas) ⟨fun _ => .refl _, .trans⟩
      fun _ _ part => part.balanced
  refine (step_anatomy (Bool.eq_false_of_not_eq_true configures)).mono fun after anatomy => ?_
  cases anatomy with
  | plain middle after early late => exact (parts early).trans (parts late)
  | batch issued event down issues items => exact ⟨down.symm, (parts items).depth⟩

/-! ## Inside a call -/

section Inside

variable (host crypto env ledger)

/-- Between two items of a batch, before the first one or after the last one. -/
inductive Boundary : Call -> Ledger W -> Prop where
  | multiAttest earlier later guarded issued (entered : enterReentrancyGuard ledger.sas = .ok guarded)
      (reached : collectAll (attestItem host crypto env) earlier ([], { ledger with sas := guarded }) = .ok issued) :
      Boundary (.multiAttest (earlier ++ later)) issued.2
  | multiAttestByDelegation attestations nonces signatures publicKeys earlier later guarded issued
      (items : delegatedItems attestations nonces signatures publicKeys = earlier ++ later)
      (entered : enterReentrancyGuard ledger.sas = .ok guarded) (reached :
        collectAll (attestDelegatedItem host crypto env) earlier ([], { ledger with sas := guarded }) = .ok issued) :
      Boundary (.multiAttestByDelegation attestations nonces signatures publicKeys) issued.2
  | broadcastAttestByAttester attester schemaUid earlier later data expirationTime revocable guarded issued
      (entered : enterReentrancyGuard ledger.sas = .ok guarded) (reached :
        collectApart (fun current recipient => attestInternal host crypto env current
          (broadcastAttestation crypto attester schemaUid data expirationTime revocable recipient))
          earlier ([], [], { ledger with sas := guarded }) = .ok issued) :
      Boundary (.broadcastAttestByAttester attester schemaUid (earlier ++ later) data expirationTime revocable)
        issued.2.2
  | broadcastAttest attester schemaUid recipients data expirationTime revocable between (inner :
        Boundary (.broadcastAttestByAttester attester schemaUid recipients data expirationTime revocable) between) :
      Boundary (.broadcastAttest schemaUid recipients data expirationTime revocable) between
  | multiRevoke earlier later revoked (reached : earlier.foldlM (revokeInternal host env) ledger = .ok revoked) :
      Boundary (.multiRevoke (earlier ++ later)) revoked
  | revokeBySchema schemaUid earlier later authorizer revoked
      (reached : earlier.foldlM (revokeInternal host env) ledger = .ok revoked) :
      Boundary (.revokeBySchema schemaUid (earlier ++ later) authorizer) revoked
  | multiRevokeByDelegation uids nonces signatures publicKeys earlier later revoked
      (items : revocationItems uids nonces signatures publicKeys = earlier ++ later)
      (reached : earlier.foldlM (revokeItem host env) ledger = .ok revoked) :
      Boundary (.multiRevokeByDelegation uids nonces signatures publicKeys) revoked

/-- The ledger in which a call enters `attest_internal` or `revoke_internal`.  The items of a
batch enter at a boundary, after their nonce is consumed if they have one. -/
inductive Enters : Call -> Ledger W -> Prop where
  | attest attestation : Enters (.attest attestation) ledger
  | attestByDelegation attestation nonce signature publicKey consumed
      (success : consumeDelegationNonce ledger.sas attestation.attester nonce = .ok consumed) :
      Enters (.attestByDelegation attestation nonce signature publicKey) { ledger with sas := consumed }
  | attestByScopedDelegation attestation nonce signature publicKey authorization consumed
      (success : consumeDelegationNonce ledger.sas attestation.attester nonce = .ok consumed) :
      Enters (.attestByScopedDelegation attestation nonce signature publicKey authorization)
        { ledger with sas := consumed }
  | attestWithZk attestation proof nullifier world :
      Enters (.attestWithZk attestation proof nullifier) { ledger with world := world }
  | attestWithValue attestation token value baseAmount creatorAmount settled
      (paid : settleFee host env ledger attestation token value baseAmount creatorAmount = .ok settled) :
      Enters (.attestWithValue attestation token value) settled
  | revoke uid : Enters (.revoke uid) ledger
  | revokeByAuthorizer uid authorizer : Enters (.revokeByAuthorizer uid authorizer) ledger
  | revokeByDelegate uid delegate : Enters (.revokeByDelegate uid delegate) ledger
  | revokeByDelegation uid nonce signature publicKey attester consumed
      (success : consumeDelegationNonce ledger.sas attester nonce = .ok consumed) :
      Enters (.revokeByDelegation uid nonce signature publicKey) { ledger with sas := consumed }
  | replaceAttestation oldUid newData : Enters (.replaceAttestation oldUid newData) ledger
  | replaceAttestationIssue oldUid newData revoked (success : revokeInternal host env ledger oldUid = .ok revoked) :
      Enters (.replaceAttestation oldUid newData) revoked
  | replaceByDelegationConsent oldUid newData attesterApproval recipientApproval attester recipient attesterConsumed
      consumed (first : consumeDelegationNonce ledger.sas attester attesterApproval.nonce = .ok attesterConsumed)
      (second : consumeRecipientConsentNonce attesterConsumed recipient recipientApproval.nonce = .ok consumed) :
      Enters (.replaceByDelegationConsent oldUid newData attesterApproval recipientApproval)
        { ledger with sas := consumed }
  | replaceByDelegationConsentIssue oldUid newData attesterApproval recipientApproval consumed revoked
      (opened : Enters (.replaceByDelegationConsent oldUid newData attesterApproval recipientApproval) consumed)
      (success : revokeInternal host env consumed oldUid = .ok revoked) :
      Enters (.replaceByDelegationConsent oldUid newData attesterApproval recipientApproval) revoked
  | item call between (boundary : Boundary host crypto env ledger call between) : Enters call between
  | delegatedItem call between attester nonce consumed (boundary : Boundary host crypto env ledger call between)
      (success : consumeDelegationNonce between.sas attester nonce = .ok consumed) :
      Enters call { between with sas := consumed }

/-- Storage during a callback of an internal operation that was entered in this ledger.  The
indexer is told of an issuance in one or two calls, with the same storage. -/
inductive Handover (entered : Ledger W) : State -> Prop where
  | onAttest attestation admitted (reached : admitAttestation host crypto env entered attestation = .ok admitted) :
      Handover entered admitted.1
  | indexIssued attestation recorded
      (reached : recordAttestation host crypto env entered attestation = .ok recorded) : Handover entered recorded.sas
  | onRevoke uid admitted (reached : admitRevocation host env entered uid = .ok admitted) :
      Handover entered admitted.1
  | handleRevoke uid admitted world (reached : admitRevocation host env entered uid = .ok admitted)
      (accepted : host.onRevoke env entered.world admitted.2.2.resolver admitted.2.1 = some world) :
      Handover entered admitted.1

end Inside

/-! ### What the internal operations keep -/

/-- The batches that raise the guard themselves. -/
def Call.holdsGuard : Call -> Bool
  | .multiAttest .. | .multiAttestByDelegation .. | .broadcastAttest ..
  | .broadcastAttestByAttester .. => true
  | _ => false

section Related

variable {related : State -> State -> Prop}
  (unchanged : ∀ {before after : State}, after.records = before.records -> Balanced before after ->
    related before after)
  (transitive : ∀ {first middle last}, related first middle -> related middle last -> related first last)
  (attests : ∀ current attestation, Yields (attestInternal host crypto env current attestation)
    (fun result => related current.sas result.2.sas))
  (revokes : ∀ current uid, Yields (revokeInternal host env current uid) (fun after => related current.sas after.sas))

include unchanged

theorem consumeDelegationNonce_related {state : State} :
    Yields (consumeDelegationNonce state attester nonce) (related state) := .skip <| .pure (unchanged rfl ⟨rfl, rfl⟩)

theorem consumeRecipientConsentNonce_related {state : State} :
    Yields (consumeRecipientConsentNonce state recipient nonce) (related state) :=
  .skip <| .pure (unchanged rfl ⟨rfl, rfl⟩)

variable (related)

include transitive attests revokes

/-- A relation that the two internal operations establish, and whatever leaves the records, the
guard and the depth as they are, holds at every point between two items from the point where the
guard is raised. -/
theorem Boundary.keeps (boundary : Boundary host crypto env ledger call between) :
    related { ledger.sas with guard := ledger.sas.guard || call.holdsGuard } between.sas := by
  have cumulative : Cumulative related := ⟨fun _ => unchanged rfl (.refl _), transitive⟩
  induction boundary with
  | multiAttest earlier later guarded issued entered reached =>
    rcases enterReentrancyGuard_ok.mp entered with ⟨-, rfl⟩
    rw [Call.holdsGuard, Bool.or_true]
    refine items_related related cumulative (fun current attestation => ?_) reached
    exact .skip2 <| attests current attestation
  | multiAttestByDelegation _ _ _ _ earlier later guarded issued items entered reached =>
    rcases enterReentrancyGuard_ok.mp entered with ⟨-, rfl⟩
    rw [Call.holdsGuard, Bool.or_true]
    refine items_related related cumulative (fun current item => ?_) reached
    exact .skip4 <| .skip2 <| .bind fun consumed success => (attests _ item.attestation).mono fun _ kept => transitive
          (consumeDelegationNonce_related unchanged consumed success) kept
  | broadcastAttestByAttester _ _ earlier later _ _ _ guarded issued entered reached =>
    rcases enterReentrancyGuard_ok.mp entered with ⟨-, rfl⟩
    rw [Call.holdsGuard, Bool.or_true]
    exact recipients_related (fun before after => related before.sas after.sas)
      (cumulative.comap _) (fun _ _ current => attests current _) reached
  | broadcastAttest _ _ _ _ _ _ between inner ih => exact ih
  | multiRevoke earlier later revoked reached | revokeBySchema _ earlier later _ revoked reached =>
    simp only [Call.holdsGuard, Bool.or_false]
    exact revocations_related related cumulative revokes reached
  | multiRevokeByDelegation _ _ _ _ earlier later revoked items reached =>
    simp only [Call.holdsGuard, Bool.or_false]
    refine revocations_related related cumulative (fun current item => ?_) reached
    exact .skip <| .bind fun consumed success => (revokes _ item.uid).mono fun _ kept =>
      transitive (consumeDelegationNonce_related unchanged consumed success) kept

/-- It holds wherever an internal operation is entered, if it does not depend on the guard. -/
theorem Enters.keeps (guarded : ∀ state guard, related state { state with guard := guard })
    (enters : Enters host crypto env ledger call entered) : related ledger.sas entered.sas := by
  induction enters with
  | attest | attestWithZk | revoke | revokeByAuthorizer | revokeByDelegate _ _
  | replaceAttestation => exact unchanged rfl ⟨rfl, rfl⟩
  | attestByDelegation _ _ _ _ consumed success
  | attestByScopedDelegation _ _ _ _ _ consumed success
  | revokeByDelegation _ _ _ _ _ consumed success =>
    exact consumeDelegationNonce_related unchanged consumed success
  | attestWithValue _ _ _ _ _ settled paid =>
    exact unchanged (settleFee_records settled paid) (settleFee_balanced settled paid)
  | replaceAttestationIssue _ _ revoked success => exact revokes _ _ revoked success
  | replaceByDelegationConsent _ _ _ _ _ _ attesterConsumed consumed first second =>
    exact transitive (consumeDelegationNonce_related unchanged attesterConsumed first)
      (consumeRecipientConsentNonce_related unchanged consumed second)
  | replaceByDelegationConsentIssue _ _ _ _ consumed revoked opened success ih =>
    exact transitive ih (revokes _ _ revoked success)
  | item call between boundary =>
    exact transitive (guarded _ _) (boundary.keeps related unchanged transitive attests revokes)
  | delegatedItem call between _ _ consumed boundary success =>
    exact transitive (transitive (guarded _ _) (boundary.keeps related unchanged transitive attests revokes))
      (consumeDelegationNonce_related unchanged consumed success)

end Related

/-- Between the items of a batch no frame is open, and the guard is up if the batch raises it. -/
theorem Boundary.state (boundary : Boundary host crypto env ledger call between) (down : ledger.sas.guard = false) :
    between.sas.guard = call.holdsGuard ∧ between.sas.callDepth = ledger.sas.callDepth := by
  have balanced := boundary.keeps Balanced (fun _ balanced => balanced) .trans
    (fun _ _ => attestInternal_balanced) fun _ _ => revokeInternal_balanced
  refine ⟨balanced.guard.trans ?_, balanced.depth⟩
  change (ledger.sas.guard || call.holdsGuard) = call.holdsGuard
  rw [down, Bool.false_or]

/-- An internal operation is never entered from within another one. -/
theorem Enters.depth (enters : Enters host crypto env ledger call entered) :
    entered.sas.callDepth = ledger.sas.callDepth :=
  enters.keeps (fun before after => after.callDepth = before.callDepth)
    (fun _ balanced => balanced.depth) (fun one two => two.trans one)
    (fun _ _ result success => (attestInternal_balanced result success).depth)
    (fun _ _ after success => (revokeInternal_balanced after success).depth) fun _ _ => rfl

/-! ### Depth at a callback -/

theorem enterCallbackContext_depth {state : State} :
    Yields (enterCallbackContext state) fun entered => entered.callDepth = state.callDepth + 1 := .skip <| .pure rfl

theorem admitAttestation_depth : Yields (admitAttestation host crypto env ledger attestation) fun admitted =>
      admitted.1.callDepth = ledger.sas.callDepth + 1 := by
  refine .bind fun entered enters => .skip4 <| .skip4 <|
    .skip4 <| .skip2 <| .bind fun metered quota => .skip <| .pure ?_
  have deeper : entered.callDepth = ledger.sas.callDepth + 1 := enterCallbackContext_depth entered enters
  rcases consumeIssuanceQuota_frame _ _ metered quota with ⟨rateHistory, rfl⟩
  exact deeper

theorem writeAnchor_depth {state : State} {revocation : Bool} :
    Yields (writeAnchor env (writeAttestation state attestation) uid revocation) fun anchored =>
      anchored.callDepth = state.callDepth := by
  intro anchored success
  rcases writeAnchor_ok.mp success with ⟨-, rfl⟩
  rfl

theorem recordAttestation_depth : Yields (recordAttestation host crypto env ledger attestation) fun recorded =>
      recorded.sas.callDepth = ledger.sas.callDepth + 1 := by
  refine .bind fun admitted admits => .skip <| .bind fun anchored anchors => .pure ?_
  exact (writeAnchor_depth anchored anchors).trans (admitAttestation_depth admitted admits)

theorem admitRevocation_depth : Yields (admitRevocation host env ledger uid) fun admitted =>
      admitted.1.callDepth = ledger.sas.callDepth + 1 := by
  refine .bind fun entered enters => .skip3 <| .bind fun anchored anchors => .skip3 <| .pure ?_
  exact (writeAnchor_depth anchored anchors).trans (enterCallbackContext_depth entered enters)

theorem Handover.state {state : State} (handover : Handover host crypto env entered state) :
    state.guard = true ∧ state.callDepth = entered.sas.callDepth + 1 := by
  cases handover with
  | onAttest attestation admitted reached =>
    exact ⟨admitAttestation_guard admitted reached, admitAttestation_depth admitted reached⟩
  | indexIssued attestation recorded reached =>
    exact ⟨recordAttestation_guard recorded reached, recordAttestation_depth recorded reached⟩
  | onRevoke uid admitted reached | handleRevoke uid admitted _ reached =>
    exact ⟨admitRevocation_guard admitted reached, admitRevocation_depth admitted reached⟩

/-- From storage without guard and depth: a call that commits leaves none, a batch of issuances
holds the guard from its first item to its last, and every callback of an internal operation
runs under the guard at depth one. -/
theorem guard_released (host : Host W) (crypto : Crypto) (env : Env) (ledger : Ledger W)
    (call : Call) (down : ledger.sas.guard = false) (shallow : ledger.sas.callDepth = 0) :
    (forall next, step host crypto ledger (env, call) = .ok next -> next.sas.guard = false ∧ next.sas.callDepth = 0) ∧
    (forall between, Boundary host crypto env ledger call between ->
      between.sas.guard = call.holdsGuard ∧ between.sas.callDepth = 0) ∧
    (forall entered, Enters host crypto env ledger call entered ->
      entered.sas.callDepth = 0 ∧ forall state, Handover host crypto env entered state ->
        state.guard = true ∧ state.callDepth = 1) := by
  refine ⟨?_, ?_, ?_⟩
  · intro next success
    have balanced := step_balanced next success
    exact ⟨balanced.guard.trans down, balanced.depth.trans shallow⟩
  · intro between boundary
    have state := boundary.state down
    exact ⟨state.1, state.2.trans shallow⟩
  · intro entered enters
    have depth : entered.sas.callDepth = 0 := enters.depth.trans shallow
    refine ⟨depth, fun state handover => ?_⟩
    rw [handover.state.1, handover.state.2, depth]
    exact ⟨rfl, rfl⟩

open Address (accountOfNat)

/-- Account 2 gives both answers. -/
def okBoth : Ledger Unit :=
  run (advance okHost answerCrypto) ⟨deployed, ()⟩
    (okIssued ++ [.call (signedAt [2] 100) (.attest (okAnswer false))])

/-- A replacement, which revokes and issues, leaves no guard and no depth. -/
theorem guard_released_replaced : ∃ next, step okHost answerCrypto okIndexed (signedAt [2] 200,
        .replaceAttestation (okAnswer true).uid (okAnswer false)) = .ok next ∧
      next.sas.guard = false ∧ next.sas.callDepth = 0 := by
  have replaces : (step okHost answerCrypto okIndexed (signedAt [2] 200,
      .replaceAttestation (okAnswer true).uid (okAnswer false))).isOk = true := by decide +kernel
  rcases exists_of_isOk replaces with ⟨next, success⟩
  have released := guard_released okHost answerCrypto (signedAt [2] 200) okIndexed
    (.replaceAttestation (okAnswer true).uid (okAnswer false)) (by decide +kernel)
    rfl
  exact ⟨next, success, released.1 next success⟩

/-- Account 2 takes both answers back in one batch.  After the first of them the guard is
down. -/
theorem guard_down_between_revocations :
    let batch : Call := .multiRevoke [(okAnswer true).uid, (okAnswer false).uid]
    okBoth.sas.guard = false ∧ okBoth.sas.callDepth = 0 ∧
    (step okHost answerCrypto okBoth (signedAt [2] 200, batch)).isOk = true ∧
    ∃ between, Boundary okHost answerCrypto (signedAt [2] 200) okBoth batch between ∧
      recordOf between.sas (okAnswer true).uid = some { okAnswer true with time := 100, revocationTime := 200 } ∧
      recordOf between.sas (okAnswer false).uid = some { okAnswer false with time := 100 } ∧
      between.sas.guard = false := by
  have facts : ([(okAnswer true).uid].foldlM (revokeInternal okHost (signedAt [2] 200))
      okBoth).toOption.map (fun between => (recordOf between.sas (okAnswer true).uid,
          recordOf between.sas (okAnswer false).uid, between.sas.guard)) =
      some (some { okAnswer true with time := 100, revocationTime := 200 },
        some { okAnswer false with time := 100 }, false) := by decide +kernel
  refine ⟨by decide +kernel, by decide +kernel, by decide +kernel, ?_⟩
  cases outcome : [(okAnswer true).uid].foldlM (revokeInternal okHost (signedAt [2] 200))
      okBoth with
  | error failure =>
    rw [outcome] at facts
    cases facts
  | ok between =>
    simp only [outcome, Except.toOption, Option.map_some, Option.some.injEq, Prod.mk.injEq] at facts
    rcases facts with ⟨first, second, guard⟩
    exact ⟨between, .multiRevoke [(okAnswer true).uid] [(okAnswer false).uid] between outcome, first, second, guard⟩

end SorobanSas.Sas
