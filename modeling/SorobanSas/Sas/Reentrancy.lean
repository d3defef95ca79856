import SorobanSas.Sas.Frames
import SorobanSas.Sas.AppendOnly

namespace SorobanSas.Sas

open Library
open Registry (SchemaRecord)

/-!
# The re-entrancy guard

The service hands control to a resolver or to the indexer in the middle of a call.  The
host refuses to enter a contract that is on the call stack, and the service has a guard of
its own as a second line: `enter_callback_context` raises it, and every public mutating
entry point is meant to refuse while it is up.

This module is about that second line alone.  It names the moments at which control is
handed over, with the storage as it is then, and asks which calls the service would accept
in that storage.  The moments inside `attest_internal` and `revoke_internal` are under the
guard.  `handle_replace`, `handle_renew` and the re-indexing of a record are called without
it.  And fifteen entry points never look at it, so that no moment is sealed.
-/

variable {W : Type} {host : Host W} {crypto : Crypto} {env : Env} {α : Type} {ledger : Ledger W}
  {attestation : Attestation} {state : State} {rest : Unit -> Except Trap α}

/-! ## The moments -/

/-- Where control is handed over.  `index_attestation` is called on issuance and by the two
entry points that index a record again. -/
inductive Site where
  | onAttest | onRevoke | indexIssued | setValidFrom | handleRevoke | handleReplace | handleRenew
  | reindex
  deriving DecidableEq, Repr

/-- The sites inside `attest_internal` and `revoke_internal`. -/
def Site.guarded : Site -> Bool
  | .onAttest | .onRevoke | .indexIssued | .setValidFrom | .handleRevoke => true
  | .handleReplace | .handleRenew | .reindex => false

variable (host crypto env) in
/-- Storage at a moment at which control is handed over.  Every entry point reaches these
sites through the operations above, in whatever state of the ledger it comes to them. -/
inductive Moment : Site -> State -> Prop where
  | onAttest ledger attestation admitted
      (reached : admitAttestation host crypto env ledger attestation = .ok admitted) : Moment .onAttest admitted.1
  | indexIssued ledger recorded attestation indexer
      (reached : recordAttestation host crypto env ledger attestation = .ok recorded)
      (bound : recorded.sas.indexer = some indexer) : Moment .indexIssued recorded.sas
  | setValidFrom ledger recorded attestation indexer world
      (reached : recordAttestation host crypto env ledger attestation = .ok recorded)
      (bound : recorded.sas.indexer = some indexer)
      (indexed : host.indexAttestation env recorded.world indexer (stamp env attestation) = some world)
      (postponed : 0 < attestation.validFrom) : Moment .setValidFrom recorded.sas
  | onRevoke ledger uid admitted (reached : admitRevocation host env ledger uid = .ok admitted) :
      Moment .onRevoke admitted.1
  | handleRevoke ledger uid admitted world indexer (reached : admitRevocation host env ledger uid = .ok admitted)
      (accepted : host.onRevoke env ledger.world admitted.2.2.resolver admitted.2.1 = some world)
      (bound : admitted.1.indexer = some indexer) : Moment .handleRevoke admitted.1
  | handleReplace ledger oldUid newData old issued indexer
      (reached : replaceRecords host crypto env ledger oldUid newData old = .ok issued)
      (bound : issued.2.sas.indexer = some indexer) : Moment .handleReplace issued.2.sas
  | handleRenew ledger uid newExpirationTime written indexer
      (reached : renewRecord host env ledger uid newExpirationTime = .ok written)
      (bound : written.indexer = some indexer) : Moment .handleRenew written
  | reindex (ledger : Ledger W) uid attestation indexer (stored : recordOf ledger.sas uid = some attestation)
      (bound : ledger.sas.indexer = some indexer) : Moment .reindex ledger.sas

/-! ### The guard is up inside the two internal operations -/

theorem admitRevocation_guard {uid : UID} :
    Yields (admitRevocation host env ledger uid) fun admitted => admitted.1.guard = true := by
  refine .bind fun entered enters => .skip3 <| .bind fun anchored anchors => .skip3 <| .pure ?_
  have up : entered.guard = true := enterCallbackContext_guard entered enters
  exact (writeAnchor_guard anchored anchors).trans up

theorem Moment.guard {site : Site} {state : State} (moment : Moment host crypto env site state)
    (guarded : site.guarded = true) : state.guard = true := by
  cases moment with
  | onAttest ledger attestation admitted reached => exact admitAttestation_guard admitted reached
  | indexIssued ledger recorded attestation indexer reached
  | setValidFrom ledger recorded attestation indexer world reached =>
    exact recordAttestation_guard recorded reached
  | onRevoke ledger uid admitted reached => exact admitRevocation_guard admitted reached
  | handleRevoke ledger uid admitted world indexer reached =>
    exact admitRevocation_guard admitted reached
  | handleReplace | handleRenew | reindex => cases guarded

/-! ## The calls that look at the guard -/

/-- The entry points that call `reject_reentrant` or `enter_reentrancy_guard`. -/
def Call.rejectsReentry : Call -> Bool
  | .setDelegationPolicy .. | .setAutoPrune .. | .setZkVerifier .. | .setFeePerByte ..
  | .setSchemaZeroFee .. | .setFeeCeilings .. | .setSchemaFee .. | .clearSchemaFee ..
  | .withdrawCreatorFees .. | .withdrawTreasuryFees .. | .attestByScopedDelegation ..
  | .attestWithZk .. | .revokeBySchema .. | .replaceByDelegationConsent .. | .pruneExpired .. =>
    false
  | _ => true

theorem not_rejectReentrant {done : Unit} (up : state.guard = true) : rejectReentrant state ≠ .ok done := by
  intro passed
  have down := (require_eq_ok.mp passed).1
  cases up.symm.trans down

theorem not_enterReentrancyGuard {entered : State} (up : state.guard = true) :
    enterReentrancyGuard state ≠ .ok entered := by
  intro passed
  rcases bind_eq_ok.mp passed with ⟨_, free, -⟩
  cases up.symm.trans (require_eq_ok.mp free)

/-- A computation that begins with the check. -/
theorem rejects_first (up : state.guard = true) : Yields (rejectReentrant state >>= rest) fun _ => False :=
  .bind fun _ passed => absurd passed (not_rejectReentrant up)

theorem administer_rejects {change : Address -> Except Trap State} (up : state.guard = true) :
    Yields (administer env state true change) fun _ => False := .bind fun _ passed => by
    have down := (require_eq_ok.mp passed rfl).1
    cases up.symm.trans down

theorem locally_rejects {result : Except Trap State} (rejects : Yields result (fun _ => False)) :
    Yields (locally ledger result) fun _ => False := .bind fun after success => (rejects after success).elim

theorem openOwn_rejects (up : state.guard = true) : Yields (openOwn state >>= rest) fun _ => False :=
  .bind fun _ passed => (rejects_first up _ passed).elim

theorem broadcastAttestByAttester_rejects {attester : Address} {schemaUid : UID}
    {recipients : List Address} {data : Bytes} {expirationTime : UInt64} {revocable : Bool}
    (up : ledger.sas.guard = true) :
    Yields (broadcastAttestByAttester host crypto env ledger attester schemaUid recipients data
      expirationTime revocable) fun _ => False :=
  .skip4 <| .bind fun _ entered => absurd entered (not_enterReentrancyGuard up)

/-- Under the guard an entry point that looks at it never commits. -/
theorem step_rejects {call : Call} (up : ledger.sas.guard = true) (rejects : call.rejectsReentry = true) :
    Yields (step host crypto ledger (env, call)) fun _ => False := by
  cases call with
  | init | upgrade | acceptAdmin => exact locally_rejects (rejects_first up)
  | proposeAdmin | pause | unpause | setIndexer | setIndexerStrict | setTreasury _
  | setFee | clearFee | setAcceptedFee | removeAcceptedFee | setIssuanceRateLimit _ _
  | clearIssuanceRateLimit | setRateLimitExempt => exact locally_rejects (administer_rejects up)
  | registerAttesterKey | rotateAttesterKey | revokeAttesterKey | invalidateNonces _ _ _
  | setNonceHighwaterMark | invalidateNoncesByDelegation =>
    exact locally_rejects (openOwn_rejects up)
  | withdrawTokens | revoke | revokeByAuthorizer | revokeByDelegate _ _
  | revokeByDelegation | multiRevoke | multiRevokeByDelegation => exact rejects_first up
  | attest | attestByDelegation | attestWithValue | replaceAttestation =>
    exact ledgerOf_yields (rejects_first up)
  | renewAttestation =>
    exact ledgerOf_yields (.bind fun written renewed => (rejects_first up written renewed).elim)
  | multiAttest =>
    exact ledgerOf_yields (.skip2 <| .bind fun _ entered => absurd entered (not_enterReentrancyGuard up))
  | multiAttestByDelegation =>
    exact ledgerOf_yields (.skip3 <| .bind fun _ entered => absurd entered (not_enterReentrancyGuard up))
  | broadcastAttest => exact ledgerOf_yields (.skip2 <| broadcastAttestByAttester_rejects up)
  | broadcastAttestByAttester => exact ledgerOf_yields (broadcastAttestByAttester_rejects up)
  | migrateAttestation => exact locallyWith_yields (rejects_first up)
  | migrateAttestations => exact locallyWith_yields (rejects_first up)
  | reindexAttestation => exact .skip <| rejects_first up
  | bulkReindex => exact ledgerOf_yields (.skip <| rejects_first up)
  | _ => cases rejects

/-! ## No moment is sealed -/

/-- Everyone but the service itself authorises the call. -/
def FullyAuthorized (env : Env) : Prop := ∀ address, address ≠ env.currentContract -> env.authorized address = true

/-- In this storage every call fails, whoever authorises it. -/
def Sealed (host : Host W) (crypto : Crypto) (state : State) : Prop :=
  ∀ world env call, FullyAuthorized env -> (step host crypto ⟨state, world⟩ (env, call)).isOk = false

/-- The environment of a call that everyone authorises. -/
def authorizedByAll (env : Env) : Env where
  timestamp := env.timestamp
  sequence := env.sequence
  networkId := env.networkId
  currentContract := env.currentContract
  authorized := fun address => decide (address ≠ env.currentContract)
  self_silent := by simp

theorem fullyAuthorized_authorizedByAll (env : Env) : FullyAuthorized (authorizedByAll env) :=
  fun _ distinct => decide_eq_true distinct

theorem exists_ne_address (address : Address) : ∃ other : Address, other ≠ address := by
  cases address with
  | account => exact ⟨.contract 0, Address.noConfusion⟩
  | contract => exact ⟨.account 0, Address.noConfusion⟩

theorem exists_ne_policy (stored : Option DelegationPolicy) : ∃ policy, stored ≠ some policy := by
  by_cases same : stored = some ⟨.any, 0, 0⟩
  · refine ⟨⟨.any, 1, 0⟩, ?_⟩
    rw [same]
    decide
  · exact ⟨_, same⟩

theorem setDelegationPolicy_open (host : Host W) (crypto : Crypto) (env : Env) (state : State) (world : W) :
    ∃ call next, step host crypto ⟨state, world⟩ (authorizedByAll env, call) = .ok next ∧
      next.sas.delegationPolicies ≠ state.delegationPolicies := by
  rcases exists_ne_address env.currentContract with ⟨attester, distinct⟩
  rcases exists_ne_policy (state.delegationPolicies attester) with ⟨policy, different⟩
  have authorized : requireAuth (authorizedByAll env) attester = .ok () :=
    requireAuth_eq_ok.mpr (fullyAuthorized_authorizedByAll env attester distinct)
  refine ⟨.setDelegationPolicy attester policy, ⟨{ state with
    delegationPolicies := update state.delegationPolicies attester (some policy) }, world⟩, ?_, ?_⟩
  · simp only [step, locally, setDelegationPolicy, authorized]
    rfl
  · intro same
    have entry : update state.delegationPolicies attester (some policy) attester =
        state.delegationPolicies attester := congrFun same attester
    rw [update_self] at entry
    exact different entry.symm

/-- At no moment is storage sealed.  What the guard achieves is that at the moments inside
the two internal operations the entry points that look at it fail, in any environment and
whatever the world outside does. -/
theorem moments_unsealed (host : Host W) (crypto : Crypto) (env : Env) (site : Site)
    (state : State) (world : W) (moment : Moment host crypto env site state) : ¬ Sealed host crypto state ∧
      (∃ call next, step host crypto ⟨state, world⟩ (authorizedByAll env, call) = .ok next ∧
        next.sas.delegationPolicies ≠ state.delegationPolicies) ∧
      (site.guarded = true -> forall (other : Host W) (caller : Env) (outside : W) (call : Call),
        call.rejectsReentry = true -> (step other crypto ⟨state, outside⟩ (caller, call)).isOk = false) := by
  have goesThrough := setDelegationPolicy_open host crypto env state world
  refine ⟨?_, goesThrough, ?_⟩
  · intro isSealed
    rcases goesThrough with ⟨call, next, success, -⟩
    have failed := isSealed world _ call (fullyAuthorized_authorizedByAll env)
    rw [success] at failed
    cases failed
  · intro guarded other caller outside call rejects
    have up : state.guard = true := moment.guard guarded
    cases outcome : step other crypto ⟨state, outside⟩ (caller, call) with
    | error failure => rfl
    | ok next => exact (step_rejects up rejects next outcome).elim

open Address (accountOfNat)

/-- The service of the small ledger, with an indexer bound after the first answer. -/
def okIndexed : Ledger Unit :=
  run (advance okHost answerCrypto) ⟨deployed, ()⟩
    (okIssued ++ [.call (signedAt [1] 100) (.setIndexer (.contract 6))])

/-- The moment of `on_revoke` in the revocation of that answer. -/
theorem moments_unsealed_revoked : ∃ state, ¬ Sealed (W := Unit) okHost answerCrypto state ∧
      (step okHost answerCrypto ⟨state, ()⟩ (signedAt [2] 200, .revoke (okAnswer true).uid)).isOk = false := by
  have succeeds : (admitRevocation okHost (signedAt [2] 200) okIndexed (okAnswer true).uid).isOk =
      true := by decide +kernel
  rcases exists_of_isOk succeeds with ⟨admitted, reached⟩
  have moment : Moment okHost answerCrypto (signedAt [2] 200) .onRevoke admitted.1 :=
    .onRevoke okIndexed (okAnswer true).uid admitted reached
  rcases moments_unsealed okHost answerCrypto (signedAt [2] 200) .onRevoke admitted.1 () moment with
    ⟨unsealed, -, refused⟩
  exact ⟨admitted.1, unsealed, refused rfl okHost (signedAt [2] 200) () (.revoke _) rfl⟩

/-- When `handle_replace` is called the guard is down, and the new record can be revoked from
within the call. -/
theorem guard_down_at_handle_replace :
    ∃ state, Moment (W := Unit) okHost answerCrypto (signedAt [2] 200) .handleReplace state ∧
      state.guard = false ∧ state.callDepth = 0 ∧
      (step okHost answerCrypto ⟨state, ()⟩ (signedAt [2] 200, .revoke (okAnswer false).uid)).isOk = true := by
  have facts : (replaceRecords okHost answerCrypto (signedAt [2] 200) okIndexed (okAnswer true).uid
      (okAnswer false) { okAnswer true with time := 100 }).toOption.map (fun issued =>
        (issued.2.sas.indexer, issued.2.sas.guard, issued.2.sas.callDepth, (step okHost answerCrypto ⟨issued.2.sas, ()⟩
            (signedAt [2] 200, .revoke (okAnswer false).uid)).isOk)) =
      some (some (.contract 6), false, 0, true) := by decide +kernel
  cases outcome : replaceRecords okHost answerCrypto (signedAt [2] 200) okIndexed
      (okAnswer true).uid (okAnswer false) { okAnswer true with time := 100 } with
  | error failure =>
    rw [outcome] at facts
    cases facts
  | ok issued =>
    simp only [outcome, Except.toOption, Option.map_some, Option.some.injEq, Prod.mk.injEq] at facts
    rcases facts with ⟨bound, guard, depth, revocable⟩
    exact ⟨issued.2.sas, .handleReplace okIndexed (okAnswer true).uid (okAnswer false) _ issued
      (.contract 6) outcome bound, guard, depth, revocable⟩

end SorobanSas.Sas
