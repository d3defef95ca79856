import SorobanSas.Sas.Frames
import SorobanSas.Sas.Queries
import SorobanSas.Sas.AppendOnly

namespace SorobanSas.Sas

open Library List

/-!
# The emergency pause

`pause` is to block every write while reads stay available.  The flag is consulted by each
entry point for itself.  Of the calls that the administrator has no part in, two change
protected state without consulting it: `set_delegation_policy` and `prune_expired`.

The other calls that do not look at the flag are harmless for what the pause protects: the
migrations rewrite a record in another format, the withdrawals and the fees of a schema are
about money, and `accept_admin` about the administrator.
-/

variable {W : Type} {host : Host W} {crypto : Crypto} {env : Env} {ledger : Ledger W} {failure : SASError}
  {uids : List UID} {middle : State} {pruned : Nat × State} {next : Unit -> Except Trap β} {call : Call}
  {state : State}

/-- What the pause protects is the same: the records with their anchors, and the policies,
keys, nonces and nullifiers. -/
structure Frozen (before after : State) : Prop where
  book : after.book = before.book
  credentials : after.credentials = before.credentials

theorem Frozen.refl (state : State) : Frozen state state := ⟨rfl, rfl⟩

theorem Frozen.trans {first last : State} (one : Frozen first middle) (two : Frozen middle last) : Frozen first last :=
  ⟨two.book.trans one.book, two.credentials.trans one.credentials⟩

/-- The later of two steps, if neither the first nor both together change anything. -/
theorem Frozen.rest {first last : State} (one : Frozen first middle) (both : Frozen first last) : Frozen middle last :=
  ⟨both.book.trans one.book.symm, both.credentials.trans one.credentials.symm⟩

/-- The administrator, if there is one, does not authorize the call. -/
def Unprivileged (state : State) (env : Env) : Prop :=
  ∀ admin, state.admin = some admin -> env.authorized admin = false

/-! ## The calls that consult the flag -/

/-- The entry points that are closed while the contract is paused. -/
def Call.pausable : Call -> Bool
  | .revoke .. | .revokeByAuthorizer .. | .revokeByDelegate .. | .multiRevoke .. | .revokeBySchema ..
  | .renewAttestation .. | .reindexAttestation .. | .bulkReindex .. | .registerAttesterKey ..
  | .rotateAttesterKey .. | .revokeAttesterKey .. | .invalidateNonces ..
  | .setNonceHighwaterMark .. | .invalidateNoncesByDelegation .. => true
  | call => call.issues || call.relays

section Closed

variable {β : Type} (paused : state.paused = true)

include paused

theorem requireUnpaused_closed : Yields (requireUnpaused state failure) fun _ => False := by
  intro _ unpaused
  rw [requireUnpaused, require_eq_ok, paused] at unpaused
  cases unpaused

theorem closed_of_requireUnpaused : Yields (requireUnpaused state failure >>= next) fun _ => False :=
  .bind fun done unpaused => (requireUnpaused_closed paused done unpaused).elim

theorem closed_of_rejectReentrant : Yields (rejectReentrant state >>= fun _ => requireUnpaused state failure >>= next)
      fun _ => False := .skip <| closed_of_requireUnpaused paused

theorem closed_of_openOwn : Yields (openOwn state >>= next) fun _ => False := by
  refine .bind fun done opened => ?_
  have closed : Yields (openOwn state) fun _ => False := .skip <| requireUnpaused_closed paused
  exact (closed done opened).elim

end Closed

theorem step_pausable (pausable : call.pausable = true) (paused : ledger.sas.paused = true) :
    Yields (step host crypto ledger (env, call)) fun _ => False := by
  cases call with
  | attest | attestByDelegation | attestWithValue | replaceAttestation _ _ =>
    exact ledgerOf_yields (closed_of_rejectReentrant paused)
  | renewAttestation =>
    exact ledgerOf_yields (.bind fun written renewed => (closed_of_rejectReentrant paused written renewed).elim)
  | attestByScopedDelegation | attestWithZk | multiAttest _
  | multiAttestByDelegation | broadcastAttestByAttester _ _ _ _ _ _
  | replaceByDelegationConsent | bulkReindex =>
    exact ledgerOf_yields (closed_of_requireUnpaused paused)
  | broadcastAttest => exact ledgerOf_yields (.skip2 <| closed_of_requireUnpaused paused)
  | revoke | revokeByAuthorizer | revokeByDelegate | revokeByDelegation _ _ _ _
  | multiRevoke | multiRevokeByDelegation => exact closed_of_rejectReentrant paused
  | revokeBySchema | reindexAttestation => exact closed_of_requireUnpaused paused
  | registerAttesterKey | rotateAttesterKey | revokeAttesterKey _
  | invalidateNonces | setNonceHighwaterMark | invalidateNoncesByDelegation =>
    exact locally_yields (closed_of_openOwn paused)
  | _ => cases pausable

theorem requireAuth_closed {admin : Address} (unprivileged : Unprivileged state env)
    (found : requireAdmin state = .ok admin) : Yields (requireAuth env admin) fun _ => False := by
  intro _ authorized
  rw [requireAuth_eq_ok, unprivileged admin (expect_eq_ok.mp found)] at authorized
  cases authorized

theorem administer_closed {guarded : Bool} {change : Address -> Except Trap State}
    (unprivileged : Unprivileged state env) : Yields (administer env state guarded change) fun _ => False :=
  .skip <| .bind fun _ found => .bind fun done authorized =>
    (requireAuth_closed unprivileged found done authorized).elim

theorem step_administers (administers : call.administers = true) (unprivileged : Unprivileged ledger.sas env) :
    Yields (step host crypto ledger (env, call)) fun _ => False := by
  cases call with
  | upgrade =>
    exact locally_yields (.skip2 <| .bind fun _ found =>
      .bind fun done authorized => (requireAuth_closed unprivileged found done authorized).elim)
  | proposeAdmin | pause | unpause | setIndexer | setIndexerStrict | setTreasury _
  | setAutoPrune | setZkVerifier | setFee | clearFee | setFeePerByte _
  | setSchemaZeroFee | setAcceptedFee | removeAcceptedFee | setFeeCeilings _ _
  | setIssuanceRateLimit | clearIssuanceRateLimit | setRateLimitExempt =>
    exact locally_yields (administer_closed unprivileged)
  | _ => cases administers

/-! ## The calls that remain -/

/-- The call leaves what the pause protects as it is, although it does not consult the flag:
the policy is the one already stored, or no listed record has expired. -/
def Call.Idle (env : Env) (state : State) : Call -> Prop
  | .setDelegationPolicy attester policy => state.delegationPolicies attester = some policy
  | .pruneExpired uids => ∀ uid ∈ uids, ∀ attestation,
      recordOf state uid = some attestation -> ¬ Expired env attestation.expirationTime
  | _ => True

theorem pruneStored_idle {uid : UID} (live : ∀ attestation, recordOf pruned.2 uid = some attestation ->
      ¬ Expired env attestation.expirationTime) : pruneStored env pruned uid = pruned := by
  unfold pruneStored pruneFound
  split
  · rfl
  · next attestation stored => exact if_neg (live attestation stored)

theorem foldl_pruneStored_idle (live : ∀ uid ∈ uids, ∀ attestation, recordOf pruned.2 uid = some attestation ->
        ¬ Expired env attestation.expirationTime) : uids.foldl (pruneStored env) pruned = pruned := by
  induction uids with
  | nil => rfl
  | cons uid rest ih =>
    rw [foldl_cons, pruneStored_idle (live uid mem_cons_self)]
    exact ih fun other member => live other (mem_cons_of_mem uid member)

/-- The contract stays paused, and what the pause protects is the same exactly if the call is
idle. -/
def Holds (env : Env) (call : Call) (before after : State) : Prop :=
  after.paused = before.paused ∧ (Frozen before after ↔ call.Idle env before)

theorem pruneExpired_book : Yields (pruneExpired env state uids) fun result =>
      result.2.book = state.book ↔ Call.Idle env state (.pruneExpired uids) := by
  intro result success
  rcases pruneExpired_eq_ok.mp success with ⟨-, -, -, rfl⟩
  constructor
  · intro kept uid member attestation stored
    have same : recordOf (uids.foldl (pruneStored env) (0, state)).2 uid = some attestation :=
      (congrArg Page.attestation (congrFun kept uid)).trans stored
    exact (foldl_pruneStored_stored.mp same).2 member
  · intro live
    have same : uids.foldl (pruneStored env) (0, state) = (0, state) := foldl_pruneStored_idle live
    rw [same]

theorem setDelegationPolicy_holds {attester : Address} {policy : DelegationPolicy} :
    Yields (setDelegationPolicy env state attester policy) fun after =>
      Holds env (.setDelegationPolicy attester policy) state after := by
  refine .skip <| .pure ⟨rfl, ?_, ?_⟩
  · intro frozen
    have same : update state.delegationPolicies attester (some policy) attester = state.delegationPolicies attester :=
      congrFun (congrArg Credentials.delegationPolicies frozen.credentials) attester
    rw [update_self] at same
    exact same.symm
  · intro stored
    have same : update state.delegationPolicies attester (some policy) = state.delegationPolicies := by
      rw [← stored]
      exact update_eq_self attester _
    exact ⟨rfl, by simp only [same]⟩

/-- Whoever calls, unless the administrator does, a paused contract stays paused, and what
the pause protects changes exactly if the call is not idle. -/
theorem step_holds (paused : ledger.sas.paused = true) (unprivileged : Unprivileged ledger.sas env) :
    Yields (step host crypto ledger (env, call)) fun after => Holds env call ledger.sas after.sas := by
  by_cases pausable : call.pausable = true
  · exact (step_pausable pausable paused).mono fun _ => False.elim
  by_cases administers : call.administers = true
  · exact (step_administers administers unprivileged).mono fun _ => False.elim
  have handled (handles : call.handles = true) (idle : call.Idle env ledger.sas)
      (book : Yields (step host crypto ledger (env, call)) (fun after => after.sas.book = ledger.sas.book)) :
      Yields (step host crypto ledger (env, call)) fun after => Holds env call ledger.sas after.sas := by
    intro after success
    have kept := step_kept handles after success
    exact ⟨congrArg Settings.paused kept.settings, fun _ => idle, fun _ => ⟨book after success, kept.credentials⟩⟩
  have configured (configures : call.configures = true) (sets : call.sets = true) (idle : call.Idle env ledger.sas)
      (same : Yields (step host crypto ledger (env, call)) (fun after => after.sas.paused = ledger.sas.paused)) :
      Yields (step host crypto ledger (env, call)) fun after => Holds env call ledger.sas after.sas := by
    intro after success
    have quiet := step_configures configures after success
    exact ⟨same after success, fun _ => idle, fun _ => ⟨book_congr quiet.records,
      step_sets_credentials sets after success⟩⟩
  cases call with
  | setDelegationPolicy =>
    exact .bind fun after success => .pure (setDelegationPolicy_holds after success)
  | pruneExpired uids =>
    intro after success
    have kept := step_kept rfl after success
    have idle : after.sas.book = ledger.sas.book ↔ Call.Idle env ledger.sas (.pruneExpired uids) := by
      simp only [step, locallyWith, eq_ok] at success
      rcases success with ⟨result, pruned, rfl⟩
      exact pruneExpired_book result pruned
    exact ⟨congrArg Settings.paused kept.settings, fun frozen => idle.mp frozen.book,
      fun live => ⟨idle.mpr live, kept.credentials⟩⟩
  | migrateAttestation =>
    exact handled rfl trivial (locallyWith_yields (migrateAttestation_state.mono fun _ => congrArg State.book))
  | migrateAttestations =>
    exact handled rfl trivial (locallyWith_yields (migrateAttestations_state.mono fun _ => congrArg State.book))
  | withdrawTokens =>
    exact handled rfl trivial (.skip3 <| .skip2 <| payOut_records.mono fun _ => book_congr)
  | withdrawCreatorFees | withdrawTreasuryFees =>
    exact handled rfl trivial (.skip3 <| payOut_records.mono fun _ => book_congr)
  | init | acceptAdmin => exact configured rfl rfl trivial (locally_yields (.skip4 <| .pure rfl))
  | setSchemaFee => exact configured rfl rfl trivial (locally_yields (.skip2 <| .pure rfl))
  | clearSchemaFee => exact configured rfl rfl trivial (locally_yields (.skip <| .pure rfl))
  | _ => first | exact absurd rfl pausable | exact absurd rfl administers

/-- The same ledger with the flag cleared. -/
def Ledger.unpaused (ledger : Ledger W) : Ledger W := { ledger with sas := { ledger.sas with paused := false } }

/-- No reader but `is_paused` consults the flag. -/
theorem ask_unpaused (keccak256 : Bytes -> BytesN 32) (ledger : Ledger W) {query : Query} (other : query ≠ .isPaused) :
    ask host crypto keccak256 env ledger.unpaused query = ask host crypto keccak256 env ledger query := by
  cases query with
  | isPaused => exact absurd rfl other
  | _ => rfl

/-! ## Across runs -/

/-- The administrator of the moment has no part in the move. -/
def Move.Unprivileged (ledger : Ledger W) : Move W -> Prop
  | .call env _ => Sas.Unprivileged ledger.sas env
  | .outside _ => True

/-- If the move is a call that commits, it is idle. -/
def Move.Idle (host : Host W) (crypto : Crypto) (ledger : Ledger W) : Move W -> Prop
  | .call env invocation =>
    (step host crypto ledger (env, invocation)).isOk = true -> invocation.Idle env ledger.sas
  | .outside _ => True

theorem commit_holds {move : Move W} (paused : ledger.sas.paused = true) (unprivileged : move.Unprivileged ledger) :
    (commit (advance host crypto) ledger move).sas.paused = true ∧
      (Frozen ledger.sas (commit (advance host crypto) ledger move).sas ↔ move.Idle host crypto ledger) := by
  cases move with
  | outside => exact ⟨paused, fun _ => trivial, fun _ => .refl _⟩
  | call env call =>
    cases outcome : step host crypto ledger (env, call) with
    | ok next =>
      have committed : commit (advance host crypto) ledger (.call env call) = next := commit_of_ok outcome
      rcases step_holds paused unprivileged next outcome with ⟨same, frozen⟩
      rw [committed]
      refine ⟨same.trans paused, frozen.trans ?_⟩
      simp [Move.Idle, outcome, Except.isOk, Except.toBool]
    | error failure =>
      have aborted : commit (advance host crypto) ledger (.call env call) = ledger := commit_of_error outcome
      rw [aborted]
      refine ⟨paused, fun _ => ?_, fun _ => .refl _⟩
      simp [Move.Idle, outcome, Except.isOk, Except.toBool]

theorem frozen_iff_idle {start : Ledger W} {moves : List (Move W)} (paused : start.sas.paused = true)
    (unprivileged : Admissible (advance host crypto) Move.Unprivileged start moves) :
    (∀ earlier later, moves = earlier ++ later -> Frozen start.sas (run (advance host crypto) start earlier).sas) ↔
      Admissible (advance host crypto) (Move.Idle host crypto) start moves := by
  induction moves generalizing start with
  | nil =>
    refine ⟨fun _ => trivial, fun _ earlier later split => ?_⟩
    rcases List.append_eq_nil_iff.mp split.symm with ⟨rfl, rfl⟩
    exact .refl _
  | cons move rest ih =>
    rcases unprivileged with ⟨now, remaining⟩
    rcases commit_holds paused now with ⟨stays, frozen⟩
    have later := ih stays remaining
    constructor
    · intro all
      have first : Frozen start.sas (commit (advance host crypto) start move).sas := all [move] rest rfl
      refine ⟨frozen.mp first, later.mp fun earlier others split => ?_⟩
      exact first.rest (all (move :: earlier) others (congrArg (move :: ·) split))
    · rintro ⟨idle, idleLater⟩ earlier others split
      cases earlier with
      | nil => exact .refl _
      | cons head earlier =>
        rcases List.cons.inj split with ⟨rfl, tail⟩
        exact (frozen.mpr idle).trans (later.mpr idleLater earlier others tail)

/-- From any paused state, along any run in which the administrator has no part, the pause
protects what it is to protect and leaves the reads available, exactly if every committed
`set_delegation_policy` and `prune_expired` happens to change nothing. -/
theorem pause_freezes_iff (host : Host W) (crypto : Crypto) (keccak256 : Bytes -> BytesN 32)
    (start : Ledger W) (moves : List (Move W)) (paused : start.sas.paused = true)
    (unprivileged : Admissible (advance host crypto) Move.Unprivileged start moves) :
    (forall earlier later, moves = earlier ++ later -> Frozen start.sas (run (advance host crypto) start earlier).sas ∧
        forall env query, query ≠ .isPaused ->
          ask host crypto keccak256 env (run (advance host crypto) start earlier) query =
            ask host crypto keccak256 env (run (advance host crypto) start earlier).unpaused query) ↔
      Admissible (advance host crypto) (Move.Idle host crypto) start moves := by
  rw [← frozen_iff_idle paused unprivileged]
  constructor
  · intro all earlier later split
    exact (all earlier later split).1
  · intro frozen earlier later split
    exact ⟨frozen earlier later split, fun _ _ other => (ask_unpaused keccak256 _ other).symm⟩

open Address (accountOfNat)

set_option maxRecDepth 1000

/-- Account 2 may issue for any schema. -/
def okPolicy : DelegationPolicy := ⟨.any, 1, 0⟩

/-- Expired records may be pruned, account 2 has answered until time 150, and the service is
paused. -/
def okPaused : Ledger Unit :=
  run (advance okHost answerCrypto) ⟨deployed, ()⟩
    [.call (signedAt [1] 100) (.init (accountOfNat 1) (.contract 7)), .call (signedAt [1] 100) (.setAutoPrune true),
      .call (signedAt [2] 100) (.attest { okAnswer true with expirationTime := 150 }),
      .call (signedAt [2] 100) (.setDelegationPolicy (accountOfNat 2) okPolicy), .call (signedAt [1] 100) .pause]

theorem unprivileged_okPaused : Unprivileged okPaused.sas (signedAt [2] 200) := by
  intro admin found
  have first : okPaused.sas.admin = some (accountOfNat 1) := rfl
  rcases Option.some.inj (first.symm.trans found) with rfl
  decide

theorem pause_freezes_iff_repeated : Frozen okPaused.sas (run (advance okHost answerCrypto) okPaused
      [.call (signedAt [2] 200) (.setDelegationPolicy (accountOfNat 2) okPolicy)]).sas := by
  have stored : okPaused.sas.delegationPolicies (accountOfNat 2) = some okPolicy := by decide
  have frozen := (pause_freezes_iff okHost answerCrypto answerCrypto.sha256 okPaused
    [.call (signedAt [2] 200) (.setDelegationPolicy (accountOfNat 2) okPolicy)] rfl
    ⟨unprivileged_okPaused, trivial⟩).mpr ⟨fun _ => stored, trivial⟩
  exact (frozen _ [] (append_nil _).symm).1

/-- Without the administrator, a policy is replaced and a record is removed while the
contract is paused. -/
theorem pause_leaks : okPaused.sas.paused = true ∧ Unprivileged okPaused.sas (signedAt [2] 200) ∧
      (run (advance okHost answerCrypto) okPaused [.call (signedAt [2] 200)
        (.setDelegationPolicy (accountOfNat 2) { okPolicy with permissions := 0 })]).sas.credentials
          ≠ okPaused.sas.credentials ∧ recordOf okPaused.sas (okAnswer true).uid ≠ none ∧
      recordOf (run (advance okHost answerCrypto) okPaused
        [.call (signedAt [2] 200) (.pruneExpired [(okAnswer true).uid])]).sas (okAnswer true).uid = none := by
  refine ⟨by decide, unprivileged_okPaused, ?_, by decide, by decide⟩
  intro same
  have replaced : (run (advance okHost answerCrypto) okPaused [.call (signedAt [2] 200)
      (.setDelegationPolicy (accountOfNat 2) { okPolicy with permissions := 0 })]).sas.delegationPolicies
        (accountOfNat 2) ≠ okPaused.sas.delegationPolicies (accountOfNat 2) := by
    decide
  exact replaced (congrFun (congrArg Credentials.delegationPolicies same) (accountOfNat 2))

end SorobanSas.Sas
