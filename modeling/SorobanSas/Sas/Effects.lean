import SorobanSas.Sas.Contract
import SorobanSas.Sas.Book

namespace SorobanSas.Sas

open Library
open Relation (ReflTransGen)

/-!
# The contract implements the register

Storage presents a book of attestations.  This module shows that every successful call
changes that book as the register allows: revisions of existing records, then issuances of
records the call asked for.

Everything rests on what the two internal operations do.  Their specifications also say
what they leave alone, which is all of the configuration, the nonces, the keys and the fee
ledgers, and that the world outside is touched by callbacks only.
-/

variable {W : Type} {host : Host W} {crypto : Crypto} {env : Env} {uid : UID} {attestation : Attestation}
  {state : State}

/-! ## The book in storage -/

def Slot.page {uid : UID} (slot : Slot uid) : Page := ⟨slot.content, slot.issuance, slot.revocation⟩

theorem Slot.page_write (slot : Slot uid) (own : attestation.uid = uid) :
    (slot.write attestation).page = { slot.page with attestation := some attestation } := by
  simp only [Slot.page, Slot.content_write slot own, Slot.issuance_write, Slot.revocation_write]

theorem Slot.page_setAnchor_issuance (slot : Slot uid) (anchor : TimestampAnchor) :
    (slot.setAnchor false anchor).page = { slot.page with issuance := some anchor } := rfl

theorem Slot.page_setAnchor_revocation (slot : Slot uid) (anchor : TimestampAnchor) :
    (slot.setAnchor true anchor).page = { slot.page with revocation := some anchor } := rfl

def State.book (state : State) : Book := fun uid => (state.records uid).page

theorem book_putSlot (state : State) (uid : UID) (slot : Slot uid) :
    (state.putSlot uid slot).book = update state.book uid slot.page := by
  funext other
  by_cases same : other = uid
  · subst same
    simp [State.book, State.putSlot]
  · simp [State.book, State.putSlot, update_of_ne same]

theorem book_congr {first second : State} (same : first.records = second.records) : first.book = second.book := by
  unfold State.book
  rw [same]

theorem book_writeAttestation (state : State) (attestation : Attestation) :
    (writeAttestation state attestation).book = update state.book attestation.uid
      { state.book attestation.uid with attestation := some attestation } := by
  rw [writeAttestation, book_putSlot, Slot.page_write _ rfl]
  rfl

theorem book_issued (state : State) (attestation : Attestation) :
    ((writeAttestation state attestation).putSlot attestation.uid
      (((writeAttestation state attestation).records attestation.uid).setAnchor false
        (anchorOf env))).book = state.book.issue env attestation := by
  rw [book_putSlot, book_writeAttestation, update_idem, Slot.page_setAnchor_issuance]
  apply congrArg (update state.book attestation.uid)
  change { (writeAttestation state attestation).book attestation.uid with
    issuance := some (anchorOf env) } = _
  rw [book_writeAttestation, update_self]

theorem book_revoked (state : State) (attestation : Attestation) :
    ((writeAttestation state { attestation with revocationTime := env.timestamp }).putSlot
      attestation.uid (((writeAttestation state { attestation with
        revocationTime := env.timestamp }).records attestation.uid).setAnchor true
          (anchorOf env))).book = state.book.revoke env attestation.uid attestation := by
  rw [book_putSlot, book_writeAttestation, update_idem, Slot.page_setAnchor_revocation]
  apply congrArg (update state.book attestation.uid)
  change { (writeAttestation state _).book attestation.uid with
    revocation := some (anchorOf env) } = _
  rw [book_writeAttestation, update_self]

/-- Only records in the compact layout can be read. -/
theorem readAttestation_eq_ok {found : Option Attestation} : readAttestation state uid = .ok found ↔
    (state.records uid).isLegacy = false ∧ recordOf state uid = found := by
  rw [readAttestation, Slot.read_eq]
  cases (state.records uid).isLegacy <;> simp [recordOf]

theorem requireStored_eq_ok : requireStored state uid = .ok attestation ↔
    (state.records uid).isLegacy = false ∧ recordOf state uid = some attestation := by
  simp [requireStored, readAttestation_eq_ok]

theorem hasAttestation_eq_false : hasAttestation state uid = false ↔ (state.book uid).attestation = none := by
  simp [hasAttestation, Slot.has_eq_isSome, State.book, Slot.page]

theorem hasAttestation_eq_true : hasAttestation state uid = true ↔ (state.book uid).attestation ≠ none := by
  simp [hasAttestation, Slot.has_eq_isSome, State.book, Slot.page, Option.isSome_iff_ne_none]

/-! ## The layout -/

theorem records_putSlot_of_ne (state : State) {other : UID} (slot : Slot uid) (different : other ≠ uid) :
    (state.putSlot uid slot).records other = state.records other := update_of_ne different _ _

theorem records_putSlot_self (state : State) (uid : UID) (slot : Slot uid) :
    (state.putSlot uid slot).records uid = slot := update_self _ _ _

/-- No record is put into the old layout. -/
def KeepsLayout (before after : State) : Prop :=
  ∀ uid, (after.records uid).isLegacy = true -> (before.records uid).isLegacy = true

theorem keepsLayout_cumulative : Cumulative KeepsLayout where
  refl _ _ := id
  trans one two uid legacy := one uid (two uid legacy)

theorem KeepsLayout.compact {before after : State} (layout : KeepsLayout before after)
    (compact : (before.records uid).isLegacy = false) : (after.records uid).isLegacy = false :=
  Bool.eq_false_of_not_eq_true fun legacy => Bool.false_ne_true (compact.symm.trans (layout uid legacy))

theorem keepsLayout_congr {after : State} (same : after.records = state.records) : KeepsLayout state after := by
  intro uid legacy
  rwa [same] at legacy

theorem keepsLayout_putSlot {slot : Slot uid}
    (kept : slot.isLegacy = true -> (state.records uid).isLegacy = true) :
    KeepsLayout state (state.putSlot uid slot) := by
  intro other legacy
  by_cases same : other = uid
  · subst same
    rw [records_putSlot_self] at legacy
    exact kept legacy
  · rwa [records_putSlot_of_ne state slot same] at legacy

theorem keepsLayout_writeAttestation : KeepsLayout state (writeAttestation state attestation) :=
  keepsLayout_putSlot fun legacy => by simp [Slot.isLegacy_write] at legacy

theorem isLegacy_writeAttestation (compact : (state.records attestation.uid).isLegacy = false) (other : UID) :
    ((writeAttestation state attestation).records other).isLegacy = (state.records other).isLegacy := by
  by_cases same : other = attestation.uid
  · rw [same, compact, writeAttestation, records_putSlot_self, Slot.isLegacy_write]
  · rw [writeAttestation, records_putSlot_of_ne state _ same]

theorem isLegacy_setAnchor {revocation : Bool} {anchor : TimestampAnchor} (other : UID) :
    ((state.putSlot uid ((state.records uid).setAnchor revocation anchor)).records other).isLegacy =
      (state.records other).isLegacy := by
  by_cases same : other = uid
  · subst same
    rw [records_putSlot_self, Slot.isLegacy_setAnchor]
  · rw [records_putSlot_of_ne state _ same]

theorem keepsLayout_setAnchor {revocation : Bool} {anchor : TimestampAnchor} :
    KeepsLayout state (state.putSlot uid ((state.records uid).setAnchor revocation anchor)) :=
  fun other legacy => (isLegacy_setAnchor other).symm.trans legacy

/-- One turn of `prune_expired` on what is stored. -/
def pruneStored (env : Env) (pruned : Nat × State) (uid : UID) : Nat × State :=
  pruneFound env pruned uid (recordOf pruned.2 uid)

theorem isLegacy_pruneStored {pruned : Nat × State} (compact : (pruned.2.records uid).isLegacy = false) (other : UID) :
    ((pruneStored env pruned uid).2.records other).isLegacy = (pruned.2.records other).isLegacy := by
  unfold pruneStored pruneFound
  split
  · rfl
  · split
    · by_cases same : other = uid
      · subst same
        exact (congrArg Slot.isLegacy (records_putSlot_self _ _ _)).trans compact.symm
      · exact congrArg Slot.isLegacy (records_putSlot_of_ne _ _ same)
    · rfl

/-- Pruning goes through exactly if it is enabled, the list is short and no record on it has the
old layout. -/
theorem pruneExpired_eq_ok {uids : List UID} {result : Nat × State} : pruneExpired env state uids = .ok result ↔
    state.autoPrune = true ∧ uids.length <= maxPruneBatch ∧
      (∀ uid ∈ uids, (state.records uid).isLegacy = false) ∧ uids.foldl (pruneStored env) (0, state) = result := by
  have each {pruned next : Nat × State} {uid : UID} : pruneOne env pruned uid = .ok next ↔
      (pruned.2.records uid).isLegacy = false ∧ pruneStored env pruned uid = next := by
    simp only [pruneOne, readAttestation_eq_ok, eq_ok, pruneStored]
    constructor
    · rintro ⟨_, ⟨compact, rfl⟩, taken⟩
      exact ⟨compact, taken⟩
    · rintro ⟨compact, taken⟩
      exact ⟨_, ⟨compact, rfl⟩, taken⟩
  have apart {pruned : Nat × State} {uid other : UID} (compact : (pruned.2.records uid).isLegacy = false) :
      ((pruneStored env pruned uid).2.records other).isLegacy = false ↔ (pruned.2.records other).isLegacy = false := by
    rw [isLegacy_pruneStored compact]
  simp only [pruneExpired, eq_ok]
  rw [foldlM_ready each apart]

/-- A UID that is not in use has no record in the old layout. -/
theorem not_isLegacy_of_absent (absent : (state.book uid).attestation = none) :
    (state.records uid).isLegacy = false := by
  by_contra legacy
  rcases Slot.exists_of_isLegacy (by simpa using legacy) with ⟨record, own, stored⟩
  have found := Slot.content_of_legacy stored
  cases found.symm.trans absent

/-! ## The world outside -/

/-- Whom the service calls: a resolver, an indexer, or another contract, to pay or not. -/
inductive Callee where
  | resolver (address : Address)
  | indexer (address : Address)
  | other (pays : Bool)

variable (host env) in
/-- One call that the service makes. -/
inductive Callback (before : W) : Callee -> W -> Prop where
  | onAttest resolver attestation after (accepted : host.onAttest env before resolver attestation = some after) :
      Callback before (.resolver resolver) after
  | onRevoke resolver attestation after (accepted : host.onRevoke env before resolver attestation = some after) :
      Callback before (.resolver resolver) after
  | indexAttestation indexer attestation after
      (accepted : host.indexAttestation env before indexer attestation = some after) :
      Callback before (.indexer indexer) after
  | setValidFrom indexer uid validFrom after
      (accepted : host.setValidFrom env before indexer uid validFrom = some after) :
      Callback before (.indexer indexer) after
  | handleRevoke indexer uid after (accepted : host.handleRevoke env before indexer uid = some after) :
      Callback before (.indexer indexer) after
  | handleReplace indexer oldUid newUid after
      (accepted : host.handleReplace env before indexer oldUid newUid = some after) :
      Callback before (.indexer indexer) after
  | handleRenew indexer uid expirationTime after
      (accepted : host.handleRenew env before indexer uid expirationTime = some after) :
      Callback before (.indexer indexer) after
  | verifyProof verifier proof inputs verdict after
      (accepted : host.verifyProof env before verifier proof inputs = some (verdict, after)) :
      Callback before (.other false) after
  | transfer token sender destination amount after
      (accepted : host.transfer env before token sender destination amount = .ok after) :
      Callback before (.other true) after

/-- Any number of calls, and no payment. -/
def Callbacks (host : Host W) (env : Env) : W -> W -> Prop :=
  ReflTransGen fun before after => ∃ callee, callee ≠ .other true ∧ Callback host env before callee after

/-- A callback that is ignored when it fails. -/
theorem callbacks_getD {before : W} {attempt : Option W}
    (callback : ∀ after, attempt = some after -> Callback host env before (.indexer indexer) after) :
    Callbacks host env before (attempt.getD before) := by
  cases attempt with
  | none => exact .refl
  | some after => exact .single ⟨_, by rintro ⟨⟩, callback after rfl⟩

theorem callbacks_tellIndexer {before : W} {indexer : Option Address} {attempt : Address -> Option W}
    (callback : ∀ bound after, attempt bound = some after -> Callback host env before (.indexer bound) after) :
    Callbacks host env before (tellIndexer indexer before attempt) := by
  cases indexer with
  | none => exact .refl
  | some bound => exact callbacks_getD (callback bound)

theorem consumeIssuanceQuota_frame (state : State) (attester : Address) :
    Yields (consumeIssuanceQuota env state attester) fun after =>
      ∃ rateHistory, after = { state with rateHistory := rateHistory } := by
  unfold consumeIssuanceQuota
  split
  · exact .pure ⟨_, rfl⟩
  · exact .ite (fun _ => .pure ⟨_, rfl⟩) fun _ => .skip <| .pure ⟨_, rfl⟩

theorem notifyIndexerOfIssuance_frame (ledger : Ledger W) (indexer : Address) (attestation : Attestation) :
    Yields (notifyIndexerOfIssuance host env ledger indexer attestation) fun after =>
      (∃ events, after.sas = { ledger.sas with events := events }) ∧ Callbacks host env ledger.world after.world := by
  unfold notifyIndexerOfIssuance
  split
  · rename_i world indexed
    have first : Callbacks host env ledger.world world :=
      .single ⟨_, by rintro ⟨⟩, .indexAttestation indexer attestation world indexed⟩
    refine .ite (fun _ => .pure ⟨⟨_, rfl⟩, first.trans ?_⟩) fun _ => .pure ⟨⟨_, rfl⟩, first⟩
    exact callbacks_getD fun after accepted => .setValidFrom indexer _ _ after accepted
  · exact .ite (fun _ => .throw _) fun _ => .pure ⟨⟨_, rfl⟩, .refl⟩

theorem notifyIssuance_frame (ledger : Ledger W) (attestation : Attestation) :
    Yields (notifyIssuance host env ledger attestation) fun after =>
      (∃ events, after.sas = { ledger.sas with events := events }) ∧ Callbacks host env ledger.world after.world := by
  unfold notifyIssuance
  split
  · exact notifyIndexerOfIssuance_frame ledger _ attestation
  · exact .pure ⟨⟨_, rfl⟩, .refl⟩

theorem writeAnchor_ok {after : State} {revocation : Bool} :
    writeAnchor env state uid revocation = .ok after ↔ (state.records uid).anchor revocation = none ∧
        state.putSlot uid ((state.records uid).setAnchor revocation (anchorOf env)) = after := by
  simp only [writeAnchor, eq_ok, anchorOf]

/-! ## Issuance -/

/-- The states that differ only in what the two internal operations may write. -/
def Frame (before after : State) : Prop :=
  ∃ records rateHistory events, after = { before with
    records := records
    rateHistory := rateHistory
    events := events }

/-- What `attest_internal` does when it succeeds. -/
structure Attested (host : Host W) (crypto : Crypto) (env : Env) (before : Ledger W)
    (attestation : Attestation) (after : Ledger W) : Prop where
  issuable : Issuable crypto env before.sas.book (stamp env attestation)
  book : after.sas.book = before.sas.book.issue env (stamp env attestation)
  layout : KeepsLayout before.sas after.sas
  frame : Frame before.sas after.sas
  world : Callbacks host env before.world after.world

theorem validateRecipient_eq_ok {address : Address} {done : Unit} :
    validateRecipient address = .ok done ↔ address ≠ .account 0 ∧ address ≠ .contract 0 := by
  simp [validateRecipient]

theorem validateExpiration_eq_ok {expirationTime : UInt64} {done : Unit} :
    validateExpiration env expirationTime = .ok done ↔ ¬ Expired env expirationTime := by
  simp only [validateExpiration, require_eq_ok, Expired]

theorem enterReentrancyGuard_ok {guarded : State} : enterReentrancyGuard state = .ok guarded ↔
      state.guard = false ∧ { state with guard := true } = guarded := by
  simp only [enterReentrancyGuard, eq_ok]

theorem exitCallbackContext_entered (state : State) (records : (uid : UID) -> Slot uid)
    (rateHistory : Address -> List Nat) (events : List Event) : exitCallbackContext { state with
        callDepth := state.callDepth + 1
        guard := true
        records := records
        rateHistory := rateHistory
        events := events } (ownsGuard state) =
      { state with records := records, rateHistory := rateHistory, events := events } := by
  simp [exitCallbackContext, ownsGuard]

theorem enterCallbackContext_guard : Yields (enterCallbackContext state) fun entered => entered.guard = true :=
  .skip <| .pure rfl

theorem admitAttestation_guard :
    Yields (admitAttestation host crypto env ledger attestation) fun admitted => admitted.1.guard = true := by
  refine .bind fun entered enters => .skip4 <| .skip4 <|
    .skip4 <| .skip2 <| .bind fun metered quota => .skip <| .pure ?_
  have up : entered.guard = true := enterCallbackContext_guard entered enters
  rcases consumeIssuanceQuota_frame _ _ metered quota with ⟨rateHistory, rfl⟩
  exact up

theorem writeAnchor_guard {uid : UID} {revocation : Bool} :
    Yields (writeAnchor env (writeAttestation state attestation) uid revocation) fun anchored =>
      anchored.guard = state.guard := by
  intro anchored success
  rcases writeAnchor_ok.mp success with ⟨-, rfl⟩
  rfl

theorem recordAttestation_guard : Yields (recordAttestation host crypto env ledger attestation) fun recorded =>
      recorded.sas.guard = true := by
  refine .bind fun admitted admits => .skip <| .bind fun anchored anchors => .pure ?_
  have up : admitted.1.guard = true := admitAttestation_guard admitted admits
  exact (writeAnchor_guard anchored anchors).trans up

theorem attestInternal_ok {before : Ledger W} {result : UID × Ledger W}
    (success : attestInternal host crypto env before attestation = .ok result) :
    result.1 = attestation.uid ∧ Attested host crypto env before attestation result.2 := by
  simp only [attestInternal, recordAttestation, admitAttestation, stamp, bind_assoc, pure_bind, enterCallbackContext,
    validateAttestationParties, eq_ok, panicOn_eq_ok, validateExpiration_eq_ok, validateRecipient_eq_ok,
    writeAnchor_ok, and_assoc] at success
  rcases success with ⟨-, registry, -, small, absent, derived, live, window,
    recipient, recipient', attester, attester', parties, foreign, reference, -, -, schema, -, -, -,
    -, metered, quota, -, world, accepted, anchored, unanchored, rfl, notified, told, rfl⟩
  rcases consumeIssuanceQuota_frame _ _ metered quota with ⟨rateHistory, rfl⟩
  rcases notifyIssuance_frame _ _ notified told with ⟨⟨events, same⟩, callbacks⟩
  have free : (before.sas.records attestation.uid).issuance = none := by
    simpa [writeAttestation, State.putSlot, Slot.anchor] using unanchored
  have left : exitCallbackContext (notified.sas.publish (.attested attestation.uid
      attestation.schemaUid attestation.attester attestation.recipient)) (ownsGuard before.sas) = { before.sas with
          records := notified.sas.records
          rateHistory := rateHistory
          events := notified.sas.events ++ [.attested attestation.uid
            attestation.schemaUid attestation.attester attestation.recipient] } := by
    rw [← exitCallbackContext_entered, same]
    rfl
  refine ⟨rfl, ?_, ?_, ?_, ⟨_, _, _, left⟩, ?_⟩
  · exact {
      absent := hasAttestation_eq_false.mp absent
      unanchored := free
      stamped := rfl
      derived := derived
      small := small
      live := live
      window := window
      recipient := ⟨recipient, recipient'⟩
      attester := ⟨attester, attester'⟩
      parties := parties
      foreign := foreign
      reference := reference.imp id hasAttestation_eq_true.mp }
  · refine (book_congr ?_).trans (book_issued before.sas (stamp env attestation))
    simp only [same]
    rfl
  · rw [left, same]
    exact keepsLayout_cumulative.trans keepsLayout_writeAttestation keepsLayout_setAnchor
  · exact .head ⟨_, by rintro ⟨⟩, .onAttest schema.resolver attestation world accepted⟩ callbacks

/-- What `revoke_internal` does when it succeeds. -/
structure Revoked (host : Host W) (env : Env) (before : Ledger W) (uid : UID) (after : Ledger W) :
    Prop where
  revocable : ∃ attestation, (before.sas.book uid).attestation = some attestation ∧
    attestation.revocable = true ∧ attestation.revocationTime = 0 ∧ (before.sas.book uid).revocation = none ∧
    after.sas.book = before.sas.book.revoke env uid attestation
  compact : (before.sas.records uid).isLegacy = false
  layout : ∀ other, (after.sas.records other).isLegacy = (before.sas.records other).isLegacy
  frame : Frame before.sas after.sas
  world : Callbacks host env before.world after.world

theorem revokeInternal_ok {before after : Ledger W}
    (success : revokeInternal host env before uid = .ok after) : Revoked host env before uid after := by
  simp only [revokeInternal, admitRevocation, bind_assoc, pure_bind, enterCallbackContext, requireStored_eq_ok, eq_ok,
    writeAnchor_ok, and_assoc] at success
  rcases success with ⟨-, attestation, compact, stored, revocable, unrevoked, anchored,
    unanchored, rfl, registry, -, schemaOpt, -, schema, -, world, accepted, rfl⟩
  have own : attestation.uid = uid := Slot.uid_of_content stored
  subst own
  have callbacks : Callbacks host env before.world world :=
    .single ⟨_, by rintro ⟨⟩, .onRevoke schema.resolver _ world accepted⟩
  have free : (before.sas.records attestation.uid).revocation = none := by
    simpa [writeAttestation, State.putSlot, Slot.anchor] using unanchored
  refine ⟨⟨attestation, stored, revocable, unrevoked, free, ?_⟩, compact, ?_, ?_, callbacks.trans ?_⟩
  · refine (book_congr ?_).trans (book_revoked before.sas attestation)
    rfl
  · exact fun other => (isLegacy_setAnchor other).trans (isLegacy_writeAttestation (by exact compact) other)
  · exact ⟨_, _, _, exitCallbackContext_entered before.sas _ _ _⟩
  · exact callbacks_tellIndexer fun indexer after accepted => .handleRevoke indexer _ after accepted

end SorobanSas.Sas
