import SorobanSas.Sas.Outcomes

namespace SorobanSas.Sas

open Library
open Relation (ReflTransGen)

/-!
# Calls as sequences of operations

The effect of a call on the book says nothing about the order in which records are written
and the world outside is told about them.  For the indexer that order matters: it mirrors
the book only if each write is followed by its own notification.

An operation is the smallest part of a call after which book and notifications are in step
again: an issuance or a revocation with its callbacks, the notice of a replacement, a
renewal, the removal of one record, a record sent to the indexer once more, and writes or
external calls that have nothing to do with records.  Every call of the contract is a
sequence of operations, and none of them changes which indexer is bound.
-/

variable {W : Type} {host : Host W} {crypto : Crypto} {env : Env} {ι : Type}
  {attestation newData : Attestation} {token attester destination registry authorizer : Address}
  {nonce newExpirationTime : UInt64} {value : Int} {after before : Ledger W} {uids : List UID}
  {items : List ι} {attestations : List Attestation} {oldUid : UID} {state : State}

/-- The same records and the same indexer. -/
structure SameBook (before after : State) : Prop where
  book : after.book = before.book
  indexer : after.indexer = before.indexer

theorem SameBook.refl (state : State) : SameBook state state := ⟨rfl, rfl⟩

theorem SameBook.trans {first middle last : State} (one : SameBook first middle)
    (two : SameBook middle last) : SameBook first last := ⟨two.book.trans one.book, two.indexer.trans one.indexer⟩

variable (host crypto env) (upkeep : Upkeep -> Prop) (asked : Attestation -> Prop)

inductive Operation (before : Ledger W) : Ledger W -> Prop where
  | write after (same : SameBook before.sas after) : Operation before { before with sas := after }
  | external pays after (called : Callback host env before.world (.other pays) after) :
      Operation before { before with world := after }
  | issue payload result (success : attestInternal host crypto env before payload = .ok result)
      (intended : asked (stamp env payload)) : Operation before result.2
  | revoke uid after (success : revokeInternal host env before uid = .ok after) : Operation before after
  | replaced oldUid newUid old (stored : (before.sas.book oldUid).attestation = some old)
      (revoked : old.revocationTime = env.timestamp) :
      Operation before { before with
        world := tellIndexer before.sas.indexer before.world fun indexer =>
          host.handleReplace env before.world indexer oldUid newUid }
  | renew uid attestation expirationTime after (stored : (before.sas.book uid).attestation = some attestation)
      (prolongs : Prolongs attestation.expirationTime expirationTime) (allowed : upkeep .renew)
      (book : after.book = before.sas.book.renew uid attestation expirationTime)
      (indexer : after.indexer = before.sas.indexer) :
      Operation before ⟨after, tellIndexer before.sas.indexer before.world fun indexer =>
        host.handleRenew env before.world indexer uid expirationTime⟩
  | prune uid attestation after (stored : (before.sas.book uid).attestation = some attestation)
      (expired : Expired env attestation.expirationTime) (allowed : upkeep .prune)
      (book : after.book = update before.sas.book uid .blank) (indexer : after.indexer = before.sas.indexer) :
      Operation before { before with sas := after }
  | reindex indexer uid attestation after (bound : before.sas.indexer = some indexer)
      (stored : (before.sas.book uid).attestation = some attestation)
      (accepted : host.indexAttestation env before.world indexer attestation = some after.world)
      (same : SameBook before.sas after.sas) : Operation before after

/-- Any number of operations. -/
def Operations : Ledger W -> Ledger W -> Prop := ReflTransGen (Operation host crypto env upkeep asked)

variable {host crypto env upkeep asked} {ledger : Ledger W}

namespace Operations

theorem refl (ledger : Ledger W) : Operations host crypto env upkeep asked ledger ledger := ReflTransGen.refl

theorem trans {first middle last : Ledger W} (one : Operations host crypto env upkeep asked first middle)
    (two : Operations host crypto env upkeep asked middle last) : Operations host crypto env upkeep asked first last :=
  ReflTransGen.trans one two

theorem write {after : State} {world : W} (same : SameBook state after) :
    Operations host crypto env upkeep asked ⟨state, world⟩ ⟨after, world⟩ := ReflTransGen.single (.write after same)

end Operations

/-! ## Callbacks of the internal operations -/

/-- The resolver is the one of the schema, and the notice of an issuance comes after its
call. -/
theorem attestInternal_notified {payload : Attestation} {result : UID × Ledger W}
    (success : attestInternal host crypto env before payload = .ok result) :
    ∃ registry schema world state notified, host.getSchema before.world registry payload.schemaUid = .ok (some schema) ∧
      host.onAttest env before.world schema.resolver payload = some world ∧ state.indexer = before.sas.indexer ∧
      notifyIssuance host env ⟨state, world⟩ (stamp env payload) = .ok notified ∧ result.2.world = notified.world := by
  simp only [attestInternal, recordAttestation, admitAttestation, stamp, bind_assoc, pure_bind, enterCallbackContext,
    eq_ok, writeAnchor_ok, and_assoc] at success
  rcases success with ⟨-, registry, -, -, -, -, -, -, -, -, -, _, found, schema, rfl,
    -, -, -, metered, quota, -, world, accepted, anchored, -, rfl, notified, told, rfl⟩
  rcases consumeIssuanceQuota_frame _ _ metered quota with ⟨rateHistory, rfl⟩
  refine ⟨registry, schema, world, _, notified, found, accepted, ?_, told, rfl⟩
  rfl

theorem revokeInternal_notified {uid : UID} (success : revokeInternal host env before uid = .ok after) :
    ∃ resolver revoked world, host.onRevoke env before.world resolver revoked = some world ∧
      after.world = tellIndexer before.sas.indexer world fun indexer => host.handleRevoke env world indexer uid := by
  simp only [revokeInternal, admitRevocation, bind_assoc, pure_bind, enterCallbackContext, eq_ok, writeAnchor_ok,
    and_assoc] at success
  rcases success with ⟨-, attestation, -, -, -, anchored, -, rfl, registry, -,
    schemaOpt, -, schema, -, world, accepted, rfl⟩
  exact ⟨schema.resolver, _, world, accepted, rfl⟩

theorem Frame.indexer {before after : State} (frame : Frame before after) : after.indexer = before.indexer := by
  rcases frame with ⟨_, _, _, rfl⟩
  rfl

theorem tellIndexer_kept {ν : Type*} (view : W -> ν) {bound : Option Address} {world : W}
    {callback : Address -> Option W}
    (kept : ∀ address after, callback address = some after -> view after = view world) :
    view (tellIndexer bound world callback) = view world := by
  cases bound with
  | none => rfl
  | some address =>
    cases answered : callback address with
    | none => simp [tellIndexer, answered]
    | some after => simpa [tellIndexer, answered] using kept address after answered

theorem consumeDelegationNonce_same : Yields (consumeDelegationNonce state attester nonce) (SameBook state) :=
  .skip <| .pure ⟨rfl, rfl⟩

theorem consumeRecipientConsentNonce_same {recipient : Address} :
    Yields (consumeRecipientConsentNonce state recipient nonce) (SameBook state) := .skip <| .pure ⟨rfl, rfl⟩

theorem renewAttestation_ok {uid : UID} : Yields (renewAttestation host env ledger uid newExpirationTime) fun result =>
      ∃ attestation state, (ledger.sas.book uid).attestation = some attestation ∧
        Prolongs attestation.expirationTime newExpirationTime ∧
        state.book = ledger.sas.book.renew uid attestation newExpirationTime ∧ state.indexer = ledger.sas.indexer ∧
        result.2 = ⟨state, tellIndexer ledger.sas.indexer ledger.world fun indexer =>
          host.handleRenew env ledger.world indexer uid newExpirationTime⟩ := by
  intro result success
  simp only [renewAttestation, renewRecord, bind_assoc, pure_bind, requireStored_eq_ok, and_assoc, eq_ok,
    requireNotShortened_eq_ok] at success
  rcases success with ⟨-, -, attestation, -, stored, -, -, -, kept, perpetual, -, -, -, -, -, rfl⟩
  have own : attestation.uid = uid := Slot.uid_of_content stored
  subst own
  refine ⟨attestation, _, stored, prolongs_of_kept kept perpetual, ?_, ?_, rfl⟩
  · exact book_writeAttestation ledger.sas { attestation with expirationTime := newExpirationTime }
  · rfl

theorem Part.operation {call : Call} {issuing : Bool} (part : Part host crypto env call issuing before after) :
    Operation host crypto env call.upkeep (call.asks crypto env) before after := by
  cases part with
  | issue payload result success intended => exact .issue payload result success intended
  | revoke uid after success => exact .revoke uid after success
  | replaced oldUid newUid old stored revoked => exact .replaced oldUid newUid old stored revoked
  | renew attestation expirationTime event stored _ _ _ prolongs _ _ allowed =>
    exact .renew attestation.uid attestation expirationTime _ stored prolongs allowed
      (book_writeAttestation before.sas { attestation with expirationTime := expirationTime }) rfl
  | prune uid attestation event stored expired allowed =>
    exact .prune uid attestation _ stored expired allowed (book_putSlot before.sas uid .empty) rfl
  | reindex indexer uid attestation event world bound stored accepted =>
    exact .reindex indexer uid attestation _ bound stored accepted ⟨rfl, rfl⟩
  | verify verifier proof inputs verdict world accepted =>
    exact .external false world (.verifyProof verifier proof inputs verdict world accepted)
  | transfer token sender destination amount world accepted =>
    exact .external true world (.transfer token sender destination amount world accepted)
  | relay | account | publish => exact .write _ ⟨rfl, rfl⟩

theorem step_operations {call : Call} (acts : call.configures = false) : Yields (step host crypto ledger (env, call))
      (Operations host crypto env call.upkeep (call.asks crypto env) ledger) :=
  (step_anatomy acts).mono fun _ anatomy =>
    anatomy.related (Operations host crypto env call.upkeep (call.asks crypto env)) ⟨.refl, .trans⟩
      (fun _ _ _ part => ReflTransGen.single part.operation)
      fun _ _ _ => .write ⟨rfl, rfl⟩

end SorobanSas.Sas
