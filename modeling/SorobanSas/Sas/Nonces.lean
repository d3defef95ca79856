import SorobanSas.Sas.Frames
import SorobanSas.Library.Watermark

namespace SorobanSas.Sas

open Library List

/-!
# Delegation nonces

A delegated operation carries a nonce that its attester signed, and the service keeps the
largest nonce of each attester.  Seven entry points consume nonces, two of them one for each
item of a batch, and three can raise the watermark to a bound that the attester names.
`replace_by_delegation_consent` also consumes a nonce of the recipient, against a watermark
of its own.

Whose nonce a call consumes depends on the state when the call names a record by its UID:
then it is the attester on record.  The lists below say which numbers a call uses and closes
off if it succeeds, and `step_spends` that the two watermarks move accordingly and in no
other way.
-/

variable {W : Type} {host : Host W} {crypto : Crypto} {env : Env} {ledger : Ledger W}
  {nonce : UInt64} {attester : Address} {before after middle : State} {attestation : Attestation}
  {nonces : List UInt64} {signatures : List (BytesN 64)} {publicKeys : List (BytesN 32)}
  {state : State} {uid : UID} {signature : BytesN 64} {publicKey : BytesN 32}

/-- The attester on record. -/
def attesterOf (state : State) (uid : UID) : Option Address := (recordOf state uid).map (·.attester)

def nonceFor (state : State) (uid : UID) (nonce : UInt64) : List (Address × UInt64) :=
  ((attesterOf state uid).map fun attester => (attester, nonce)).toList

/-- The delegated operations of a call, in order: the attester and the nonce of each. -/
def Call.operations (state : State) : Call -> List (Address × UInt64)
  | .attestByDelegation payload nonce _ _ => [(payload.attester, nonce)]
  | .attestByScopedDelegation payload nonce _ _ _ => [(payload.attester, nonce)]
  | .multiAttestByDelegation payloads nonces signatures publicKeys =>
    (delegatedItems payloads nonces signatures publicKeys).flatMap fun item =>
      [(item.attestation.attester, item.nonce)]
  | .revokeByDelegation uid nonce _ _ => nonceFor state uid nonce
  | .multiRevokeByDelegation uids nonces signatures publicKeys =>
    (revocationItems uids nonces signatures publicKeys).flatMap fun item => nonceFor state item.uid item.nonce
  | .replaceByDelegationConsent oldUid _ attesterApproval _ =>
    nonceFor state oldUid attesterApproval.nonce
  | .invalidateNoncesByDelegation attester _ _ nonce _ _ => [(attester, nonce)]
  | _ => []

/-- The bound up to which a call closes off the nonces of an attester. -/
def Call.invalidations : Call -> List (Address × UInt64)
  | .invalidateNonces attester _ maxNonce => [(attester, maxNonce)]
  | .setNonceHighwaterMark attester newNonce => [(attester, newNonce)]
  | .invalidateNoncesByDelegation attester _ maxNonce _ _ _ => [(attester, maxNonce)]
  | _ => []

def Call.consents (state : State) : Call -> List (Address × UInt64)
  | .replaceByDelegationConsent oldUid _ _ recipientApproval =>
    ((recordOf state oldUid).map fun old => (old.recipient, recipientApproval.nonce)).toList
  | _ => []

/-! ## Consuming -/

theorem freshNonce_iff {last : Option UInt64} : freshNonce last nonce = true ↔ Fresh last nonce := by
  cases last <;> simp [freshNonce, Fresh]

/-- How the two watermarks move. -/
structure Spends (before after : State) (operations consents : List (Address × UInt64)) :
    Prop where
  delegation : Consumes before.delegationNonces operations after.delegationNonces
  consent : Consumes before.consentNonces consents after.consentNonces

theorem Spends.nothing (delegation : after.delegationNonces = before.delegationNonces)
    (consent : after.consentNonces = before.consentNonces) : Spends before after [] [] := ⟨delegation, consent⟩

theorem Spends.of_credentials (same : after.credentials = before.credentials) : Spends before after [] [] :=
  .nothing (congrArg Credentials.delegationNonces same) (congrArg Credentials.consentNonces same)

theorem Spends.trans {first last : State} {operations moreOperations consents moreConsents : List (Address × UInt64)}
    (one : Spends first middle operations consents) (two : Spends middle last moreOperations moreConsents) :
    Spends first last (operations ++ moreOperations) (consents ++ moreConsents) :=
  ⟨one.delegation.append two.delegation, one.consent.append two.consent⟩

theorem Spends.append_nil {operations consents : List (Address × UInt64)}
    (spends : Spends before after operations consents) : Spends before after (operations ++ []) consents := by
  rw [List.append_nil]
  exact spends

/-- What follows leaves the credentials alone. -/
theorem Spends.kept {first last : State} {operations consents : List (Address × UInt64)}
    (spends : Spends first middle operations consents) (kept : Kept middle last) :
    Spends first last operations consents := by
  have all := spends.trans (.of_credentials kept.credentials)
  rw [List.append_nil, List.append_nil] at all
  exact all

theorem consumeDelegationNonce_spends : Yields (consumeDelegationNonce state attester nonce) fun after =>
      Spends state after [(attester, nonce)] [] :=
  .bind fun _ fresh => .pure ⟨.one (freshNonce_iff.mp (require_eq_ok.mp fresh)), .nothing _⟩

theorem consumeRecipientConsentNonce_spends {recipient : Address} :
    Yields (consumeRecipientConsentNonce state recipient nonce) fun after =>
      Spends state after [] [(recipient, nonce)] :=
  .bind fun _ fresh => .pure ⟨.nothing _, .one (freshNonce_iff.mp (require_eq_ok.mp fresh))⟩

/-- The bound is compared with zero when the attester has no watermark. -/
theorem fresh_of_getD_lt {last : Option UInt64} {bound : UInt64} (above : last.getD 0 < bound) : Fresh last bound := by
  rintro old rfl
  exact above

theorem invalidateNoncesInternal_spends {minNonce maxNonce : UInt64} :
    Yields (invalidateNoncesInternal state attester minNonce maxNonce) fun after =>
      Spends state after [(attester, maxNonce)] [] :=
  .bind fun _ above => .pure ⟨.one (fresh_of_getD_lt (require_eq_ok.mp above)), .nothing _⟩

theorem attestDelegated_spends : Yields (attestDelegated host crypto env ledger attestation nonce signature publicKey)
      fun result => Spends ledger.sas result.2.sas [(attestation.attester, nonce)] [] :=
  .skip4 <| .skip2 <| .bind fun consumed success => attestInternal_kept.mono fun _ kept =>
      (consumeDelegationNonce_spends consumed success).kept kept

theorem attestByScopedDelegation_spends {authorization : DelegationAuthorization} :
    Yields (attestByScopedDelegation host crypto env ledger attestation nonce signature publicKey
      authorization) fun result => Spends ledger.sas result.2.sas [(attestation.attester, nonce)] [] :=
  .skip4 <| .skip3 <| .bind fun consumed success => attestInternal_kept.mono fun _ kept =>
      (consumeDelegationNonce_spends consumed success).kept kept

theorem revokeConsuming_spends : Yields (revokeConsuming host env ledger uid attester nonce) fun after =>
      Spends ledger.sas after.sas [(attester, nonce)] [] :=
  .bind fun consumed success => revokeInternal_kept.mono fun _ kept =>
    (consumeDelegationNonce_spends consumed success).kept kept

/-! ### Batches -/

/-- The items of a loop spend their nonces in order.  The invariant is for items whose
attester is looked up. -/
theorem foldlM_spends {σ ι : Type} (sas : σ -> State) {body : σ -> ι -> Except Trap σ}
    (uses : ι -> List (Address × UInt64)) (invariant : State -> Prop)
    (each : ∀ current item, invariant (sas current) -> Yields (body current item) (fun next =>
      Spends (sas current) (sas next) (uses item) [] ∧ invariant (sas next)))
    {items : List ι} {first last : σ} (start : invariant (sas first)) (success : items.foldlM body first = .ok last) :
    Spends (sas first) (sas last) (items.flatMap uses) [] := by
  induction items generalizing first with
  | nil =>
    simp only [foldlM_nil, pure_eq_ok] at success
    cases success
    exact .nothing rfl rfl
  | cons item rest ih =>
    simp only [foldlM_cons, bind_eq_ok] at success
    rcases success with ⟨middle, taken, remaining⟩
    rcases each first item start middle taken with ⟨spends, kept⟩
    rw [flatMap_cons]
    exact spends.trans (ih kept remaining)

theorem multiAttestByDelegation_spends {attestations : List Attestation} :
    Yields (multiAttestByDelegation host crypto env ledger attestations nonces signatures
      publicKeys) fun result => Spends ledger.sas result.2.sas
        ((delegatedItems attestations nonces signatures publicKeys).flatMap fun item =>
          [(item.attestation.attester, item.nonce)]) [] := by
  refine .skip3 <| .bind fun guarded entered => .bind fun issued success => .pure ?_
  rcases enterReentrancyGuard_ok.mp entered with ⟨-, rfl⟩
  have items := foldlM_spends (fun issued : List UID × Ledger W => issued.2.sas)
    (fun item : DelegatedItem => [(item.attestation.attester, item.nonce)]) (fun _ => True)
    (fun _ _ _ => .bind fun result stored => .pure ⟨attestDelegated_spends result stored, trivial⟩) trivial success
  exact ⟨items.delegation, items.consent⟩

/-- A revocation does not change who the attester is. -/
theorem revokeInternal_attesters : Yields (revokeInternal host env ledger uid) fun after => ∀ other,
      attesterOf after.sas other = attesterOf ledger.sas other := by
  intro after success other
  rcases (revokeInternal_ok success).revocable with ⟨attestation, stored, -, -, -, book⟩
  have page : recordOf after.sas other = (after.sas.book other).attestation := rfl
  unfold attesterOf
  rw [page, book]
  by_cases same : other = uid
  · subst same
    have found : recordOf ledger.sas other = some attestation := stored
    rw [Book.revoke_self, found]
    rfl
  · rw [Book.revoke, update_of_ne same]
    rfl

theorem revokeConsuming_attesters : Yields (revokeConsuming host env ledger uid attester nonce) fun after => ∀ other,
      attesterOf after.sas other = attesterOf ledger.sas other := by
  refine .bind fun consumed success => revokeInternal_attesters.mono fun after same other => ?_
  have records : consumed.records = ledger.sas.records := (consumeDelegationNonce_quiet success ledger.world).records
  rw [same other]
  simp only [attesterOf, recordOf, records]

theorem nonceFor_of_attesterOf (nonce : UInt64)
    (recorded : attesterOf state uid = some attester) : nonceFor state uid nonce = [(attester, nonce)] := by
  simp only [nonceFor, recorded, Option.map_some, Option.toList_some]

theorem attesterOf_of_requireStored
    (found : requireStored state uid = .ok attestation) : attesterOf state uid = some attestation.attester := by
  rw [attesterOf, (requireStored_eq_ok.mp found).2]
  rfl

theorem revokeByDelegation_spends :
    Yields (revokeByDelegation host crypto env ledger uid nonce signature publicKey) fun after =>
      Spends ledger.sas after.sas (nonceFor ledger.sas uid nonce) [] := by
  refine .skip2 <| .bind fun attestation found => .skip ?_
  intro _
  rw [nonceFor_of_attesterOf nonce (attesterOf_of_requireStored found)]
  exact revokeConsuming_spends

theorem multiRevokeByDelegation_spends {uids : List UID} :
    Yields (multiRevokeByDelegation host crypto env ledger uids nonces signatures publicKeys)
      fun after => Spends ledger.sas after.sas ((revocationItems uids nonces signatures publicKeys).flatMap fun item =>
          nonceFor ledger.sas item.uid item.nonce) [] := by
  refine .skip3 <| .skip2 <| .bind fun revoked success => .pure ?_
  -- The second pass looks the attesters up again; they are still the ones of the first.
  have items : Spends ledger.sas revoked.sas ((revocationItems uids nonces signatures publicKeys).flatMap fun item =>
        nonceFor ledger.sas item.uid item.nonce) [] := by
    refine foldlM_spends (fun current : Ledger W => current.sas) _ (fun state =>
      ∀ uid, attesterOf state uid = attesterOf ledger.sas uid) ?_ (fun _ => rfl) success
    intro current item same
    refine .bind fun attestation found next taken => ?_
    have recorded : attesterOf ledger.sas item.uid = some attestation.attester :=
      (same item.uid).symm.trans (attesterOf_of_requireStored found)
    have spends : Spends current.sas next.sas [(attestation.attester, item.nonce)] [] :=
      revokeConsuming_spends next taken
    rw [← nonceFor_of_attesterOf item.nonce recorded] at spends
    exact ⟨spends, fun uid => (revokeConsuming_attesters next taken uid).trans (same uid)⟩
  exact ⟨items.delegation, items.consent⟩

theorem replaceByDelegationConsent_spends {oldUid : UID} {newData : Attestation}
    {attesterApproval recipientApproval : ReplacementApproval} :
    Yields (replaceByDelegationConsent host crypto env ledger oldUid newData attesterApproval
      recipientApproval) fun result => Spends ledger.sas result.2.sas
        (nonceFor ledger.sas oldUid attesterApproval.nonce)
        (((recordOf ledger.sas oldUid).map fun old => (old.recipient, recipientApproval.nonce)).toList) := by
  refine .skip <| .bind fun old found => .skip3 <| .skip2 <|
    .bind fun attesterConsumed first => .bind fun consumed second => ?_
  rw [nonceFor_of_attesterOf _ (attesterOf_of_requireStored found), (requireStored_eq_ok.mp found).2]
  have approvals := (consumeDelegationNonce_spends attesterConsumed first).trans
    (consumeRecipientConsentNonce_spends consumed second)
  exact replaceInternal_kept.mono fun _ kept => approvals.kept kept

/-! ## Every call -/

theorem locally_spends {result : Except Trap State} {operations consents : List (Address × UInt64)}
    (spends : Yields result (fun after => Spends ledger.sas after operations consents)) :
    Yields (locally ledger result) fun after => Spends ledger.sas after.sas operations consents :=
  .bind fun after success => .pure (spends after success)

/-- A call that handles records or configures carries no nonce. -/
theorem Call.numberless {call : Call} (plain : call.handles = true ∨ call.sets = true) (state : State) :
    call.operations state ++ call.invalidations = [] ∧ call.consents state = [] := by
  cases call <;> first
    | exact ⟨rfl, rfl⟩
    | (rcases plain with handles | sets
       · cases handles
       · cases sets)

theorem step_spends {call : Call} :
    Yields (step host crypto ledger (env, call)) fun after => Spends ledger.sas after.sas
      (call.operations ledger.sas ++ call.invalidations) (call.consents ledger.sas) := by
  by_cases plain : call.handles = true ∨ call.sets = true
  · rcases Call.numberless plain ledger.sas with ⟨noOperations, noConsents⟩
    rw [noOperations, noConsents]
    rcases plain with handles | sets
    · exact (step_kept handles).mono fun _ kept => .of_credentials kept.credentials
    · exact (step_sets_credentials sets).mono fun _ same => .of_credentials same
  cases call with
  | setDelegationPolicy => exact locally_spends (.skip <| .pure (.nothing rfl rfl))
  | registerAttesterKey | rotateAttesterKey =>
    exact locally_spends (.skip4 <| .pure (.nothing rfl rfl))
  | revokeAttesterKey => exact locally_spends (.skip3 <| .pure (.nothing rfl rfl))
  | attestWithZk =>
    refine ledgerOf_yields (.skip4 <| .skip4 <| .bind fun issued success => .pure ?_)
    have kept := (attestInternal_kept issued success).credentials
    have nonces := congrArg Credentials.delegationNonces kept
    have consents := congrArg Credentials.consentNonces kept
    exact .nothing nonces consents
  | invalidateNonces => exact locally_spends (.skip3 <| invalidateNoncesInternal_spends)
  | setNonceHighwaterMark => exact locally_spends (.skip2 <| invalidateNoncesInternal_spends)
  | invalidateNoncesByDelegation =>
    exact locally_spends (.skip4 <| .bind fun consumed success => invalidateNoncesInternal_spends.mono fun _ bounded =>
        (consumeDelegationNonce_spends consumed success).trans bounded)
  | attestByDelegation => exact ledgerOf_yields (.skip2 <| attestDelegated_spends)
  | attestByScopedDelegation => exact ledgerOf_yields attestByScopedDelegation_spends
  | multiAttestByDelegation =>
    exact ledgerOf_yields (multiAttestByDelegation_spends.mono fun _ => Spends.append_nil)
  | revokeByDelegation => exact revokeByDelegation_spends.mono fun _ => Spends.append_nil
  | multiRevokeByDelegation => exact multiRevokeByDelegation_spends.mono fun _ => Spends.append_nil
  | replaceByDelegationConsent =>
    exact ledgerOf_yields (replaceByDelegationConsent_spends.mono fun _ => Spends.append_nil)
  | _ => exact absurd (by first | exact .inl rfl | exact .inr rfl) plain

def Move.operations (ledger : Ledger W) : Move W -> List (Address × UInt64)
  | .call _ invocation => invocation.operations ledger.sas
  | .outside _ => []

def Move.invalidations (_ : Ledger W) : Move W -> List (Address × UInt64)
  | .call _ invocation => invocation.invalidations
  | .outside _ => []

def Move.consents (ledger : Ledger W) : Move W -> List (Address × UInt64)
  | .call _ invocation => invocation.consents ledger.sas
  | .outside _ => []

theorem advance_spends {next : Ledger W} {move : Move W} (success : advance host crypto ledger move = .ok next) :
    Spends ledger.sas next.sas (move.operations ledger ++ move.invalidations ledger) (move.consents ledger) := by
  cases move with
  | outside =>
    cases success
    exact .nothing rfl rfl
  | call => exact step_spends next success

/-- In every run the nonces of delegated operations are protected against replay, and the
consent nonces of recipients are so by themselves. -/
theorem delegated_replay_protected (host : Host W) (crypto : Crypto) (start : Ledger W) (moves : List (Move W)) :
    ReplayProtected (advance host crypto) (fun ledger => ledger.sas.delegationNonces)
        (fun ledger move => move.operations ledger) (fun ledger move => move.invalidations ledger) start moves ∧
      ReplayProtected (advance host crypto) (fun ledger => ledger.sas.consentNonces)
        (fun ledger move => move.consents ledger) (fun _ _ => []) start moves := by
  constructor
  · apply replayProtected
    intro ledger move next success
    exact (advance_spends success).delegation
  · apply replayProtected
    intro ledger move next success
    rw [List.append_nil]
    exact (advance_spends success).consent

end SorobanSas.Sas
