import SorobanSas.Sas.Effects

namespace SorobanSas.Sas

open Library
open Relation (ReflTransGen)

/-!
# The parts of a call

The entry points differ in what they check, and in how they put a few parts together: an
issuance or a revocation with its callbacks, a nonce that is spent, a payment, a record that is
renewed, removed or sent to the indexer once more.  A batch of issuances holds the guard around
its items.  Records are revised first and added afterwards.

This module takes every call apart once.  What holds across each part, and across the guard of a
batch, holds across the call.
-/

variable {W : Type} {host : Host W} {crypto : Crypto} {env : Env} {call : Call} {issuing : Bool}
  {ledger before after : Ledger W} {attestation newData : Attestation} {nonce : UInt64}
  {ι α : Type} {items : List ι} {post : Ledger W -> Prop} {issued : List UID × Ledger W}
  {recipients : List Address} {token : Address} {uid : UID} {oldExpiration newExpiration : UInt64}

/-! ## Kinds of calls -/

/-- The entry points that the administrator has to authorize. -/
def Call.administers : Call -> Bool
  | .upgrade .. | .proposeAdmin .. | .pause | .unpause | .setIndexer .. | .setIndexerStrict ..
  | .setTreasury .. | .setAutoPrune .. | .setZkVerifier .. | .setFee .. | .clearFee
  | .setFeePerByte .. | .setSchemaZeroFee .. | .setAcceptedFee .. | .removeAcceptedFee ..
  | .setFeeCeilings .. | .setIssuanceRateLimit .. | .clearIssuanceRateLimit
  | .setRateLimitExempt .. => true
  | _ => false

/-- The calls that change settings. -/
def Call.sets : Call -> Bool
  | .init .. | .acceptAdmin | .setSchemaFee .. | .clearSchemaFee .. => true
  | call => call.administers

/-- The calls that write only configuration, keys or nonces. -/
def Call.configures : Call -> Bool
  | .setDelegationPolicy .. | .registerAttesterKey .. | .rotateAttesterKey .. | .revokeAttesterKey ..
  | .invalidateNonces .. | .setNonceHighwaterMark .. | .invalidateNoncesByDelegation .. => true
  | call => call.sets

/-- The records a call asks for, as they are stored. -/
def Call.asks (crypto : Crypto) (env : Env) : Call -> Attestation -> Prop
  | .attest payload, issued => issued = stamp env payload
  | .attestWithZk payload _ _, issued => issued = stamp env payload
  | .attestWithValue payload _ _, issued => issued = stamp env payload
  | .attestByDelegation payload _ _ _, issued =>
    payload.revocationTime = 0 ∧ issued = stamp env payload
  | .attestByScopedDelegation payload _ _ _ _, issued =>
    payload.revocationTime = 0 ∧ issued = stamp env payload
  | .multiAttest payloads, issued => ∃ payload ∈ payloads, issued = stamp env payload
  | .multiAttestByDelegation payloads _ _ _, issued =>
    ∃ payload ∈ payloads, payload.revocationTime = 0 ∧ issued = stamp env payload
  | .broadcastAttest schemaUid recipients data expirationTime revocable, issued =>
    ∃ attester, ∃ recipient ∈ recipients, issued = stamp env
      (broadcastAttestation crypto attester schemaUid data expirationTime revocable recipient)
  | .broadcastAttestByAttester attester schemaUid recipients data expirationTime revocable,
      issued => ∃ recipient ∈ recipients, issued = stamp env
        (broadcastAttestation crypto attester schemaUid data expirationTime revocable recipient)
  | .replaceAttestation oldUid newData, issued =>
    issued = stamp env { newData with refUid := oldUid }
  | .replaceByDelegationConsent oldUid newData _ _, issued =>
    issued = stamp env { newData with refUid := oldUid }
  | _, _ => False

def Call.issues : Call -> Bool
  | .attest .. | .attestByDelegation .. | .attestByScopedDelegation .. | .attestWithZk ..
  | .attestWithValue .. | .multiAttest .. | .multiAttestByDelegation .. | .broadcastAttest ..
  | .broadcastAttestByAttester .. | .replaceAttestation .. | .replaceByDelegationConsent .. => true
  | _ => false

theorem Call.asks_of_quiet (quiet : call.issues = false) (issued : Attestation) : ¬ call.asks crypto env issued := by
  cases call <;> first | exact id | cases quiet

/-- The calls that rest on a signature or a proof, and act on records. -/
def Call.relays : Call -> Bool
  | .attestByDelegation .. | .attestByScopedDelegation .. | .attestWithZk ..
  | .multiAttestByDelegation .. | .revokeByDelegation .. | .multiRevokeByDelegation ..
  | .replaceByDelegationConsent .. => true
  | _ => false

/-- The calls that handle records or money and nothing else. -/
def Call.handles (call : Call) : Bool := !(call.configures || call.relays)

/-- The calls that may remove records. -/
def Call.removes : Call -> Bool
  | .pruneExpired _ => true
  | _ => false

/-- The calls that move money. -/
def Call.pays : Call -> Bool
  | .attestWithValue .. | .withdrawTokens .. | .withdrawCreatorFees .. | .withdrawTreasuryFees .. =>
    true
  | _ => false

/-- What a call may do to existing records apart from revoking them. -/
inductive Upkeep where
  | renew | prune

def Call.upkeep : Call -> Upkeep -> Prop
  | .renewAttestation _ _, .renew => True
  | .pruneExpired _, .prune => True
  | _, _ => False

theorem Call.upkeep_of_issues (issues : call.issues = true) (upkeep : Upkeep) : ¬ call.upkeep upkeep := by
  cases call <;> first | exact id | cases issues

theorem Call.removes_of_upkeep (call : Call) (allowed : call.upkeep .prune) : call.removes = true := by
  cases call <;> first | rfl | cases allowed

/-! ## Parts -/

variable (host crypto env call issuing before ledger)

/-- One part of a call.  Records are revised as long as it is not `issuing`, and added from then
on. -/
inductive Part : Ledger W -> Prop where
  | issue payload result (success : attestInternal host crypto env before payload = .ok result)
      (intended : call.asks crypto env (stamp env payload)) (late : issuing = true) : Part result.2
  | revoke uid after (success : revokeInternal host env before uid = .ok after) (early : issuing = false) : Part after
  | replaced oldUid newUid old (stored : (before.sas.book oldUid).attestation = some old)
      (revoked : old.revocationTime = env.timestamp) :
      Part { before with
        world := tellIndexer before.sas.indexer before.world fun indexer =>
          host.handleReplace env before.world indexer oldUid newUid }
  | renew attestation expirationTime event (stored : (before.sas.book attestation.uid).attestation = some attestation)
      (revocable : attestation.revocable = true) (unrevoked : attestation.revocationTime = 0)
      (live : ¬ Expired env attestation.expirationTime)
      (prolongs : Prolongs attestation.expirationTime expirationTime) (lives : ¬ Expired env expirationTime)
      (window : ¬ (0 < expirationTime ∧ expirationTime <= attestation.validFrom)) (allowed : call.upkeep .renew)
      (early : issuing = false) :
      Part ⟨(writeAttestation before.sas { attestation with expirationTime := expirationTime }).publish event,
        tellIndexer before.sas.indexer before.world fun indexer =>
          host.handleRenew env before.world indexer attestation.uid expirationTime⟩
  | prune uid attestation event (stored : (before.sas.book uid).attestation = some attestation)
      (expired : Expired env attestation.expirationTime) (allowed : call.upkeep .prune) (early : issuing = false) :
      Part { before with sas := (before.sas.putSlot uid .empty).publish event }
  | reindex indexer uid attestation event world (bound : before.sas.indexer = some indexer)
      (stored : (before.sas.book uid).attestation = some attestation)
      (accepted : host.indexAttestation env before.world indexer attestation = some world) :
      Part ⟨before.sas.publish event, world⟩
  | relay (nonces consents : Address -> Option UInt64) (nullifiers : BytesN 32 -> Bool) (relays : call.relays = true) :
      Part { before with sas := { before.sas with
        delegationNonces := nonces, consentNonces := consents, nullifiers := nullifiers } }
  | verify verifier proof inputs verdict world
      (accepted : host.verifyProof env before.world verifier proof inputs = some (verdict, world)) :
      Part { before with world := world }
  | transfer token sender destination amount world
      (accepted : host.transfer env before.world token sender destination amount = .ok world)
      (pays : call.pays = true) : Part { before with world := world }
  | account (treasury : Address -> Int) (creators : Address -> Address -> Int) (pays : call.pays = true) :
      Part { before with sas := { before.sas with treasuryFees := treasury, creatorFees := creators } }
  | publish event : Part { before with sas := before.sas.publish event }

/-- Any number of parts. -/
def Parts : Ledger W -> Ledger W -> Prop := ReflTransGen (Part host crypto env call issuing)

/-- The whole of a call: revisions, then additions, or the items of a batch. -/
inductive Anatomy : Ledger W -> Prop where
  | plain middle after (early : Parts host crypto env call false ledger middle)
      (late : Parts host crypto env call true middle after) : Anatomy after
  | batch issued event (down : ledger.sas.guard = false) (issues : call.issues = true)
      (items : Parts host crypto env call true ledger.raised issued) :
      Anatomy { issued with sas := exitReentrancyGuard (issued.sas.publish event) }

variable {host crypto env call issuing before ledger}

theorem Parts.related (parts : Parts host crypto env call issuing before after)
    (related : Ledger W -> Ledger W -> Prop) (cumulative : Cumulative related)
    (each : ∀ before after, Part host crypto env call issuing before after ->
      related before after) : related before after := by
  induction parts with
  | refl => exact cumulative.refl before
  | tail _ part ih => exact cumulative.trans ih (each _ _ part)

theorem Anatomy.related (anatomy : Anatomy host crypto env call ledger after)
    (related : Ledger W -> Ledger W -> Prop) (cumulative : Cumulative related)
    (each : ∀ issuing before after, Part host crypto env call issuing before after -> related before after)
    (guarded : call.issues = true -> ∀ (ledger : Ledger W) guard,
      related ledger { ledger with sas := { ledger.sas with guard := guard } }) : related ledger after := by
  cases anatomy with
  | plain middle after early late =>
    exact cumulative.trans (early.related related cumulative (each false)) (late.related related cumulative (each true))
  | batch issued event down issues items =>
    have inside := items.related related cumulative (each true)
    have published := each true issued _ (.publish event)
    exact cumulative.trans (guarded issues ledger true)
      (cumulative.trans inside (cumulative.trans published (guarded issues _ false)))

theorem Parts.early (parts : Parts host crypto env call false ledger after) :
    Anatomy host crypto env call ledger after := .plain after after parts .refl

theorem Parts.late (parts : Parts host crypto env call true ledger after) : Anatomy host crypto env call ledger after :=
  .plain ledger after .refl parts

open Parts (early late)

/-! ## Loops -/

theorem ledgerOf_yields {result : Except Trap (α × Ledger W)}
    (kept : Yields result (fun value => post value.2)) : Yields (ledgerOf result) post :=
  .bind fun value success => .pure (kept value success)

theorem locally_yields {result : Except Trap State}
    (kept : Yields result (fun after => post { ledger with sas := after })) : Yields (locally ledger result) post :=
  .bind fun after success => .pure (kept after success)

theorem locallyWith_yields {result : Except Trap (α × State)}
    (kept : Yields result (fun value => post { ledger with sas := value.2 })) :
    Yields (locallyWith ledger result) post := .bind fun value success => .pure (kept value success)

section Loops

variable (related : Ledger W -> Ledger W -> Prop) (cumulative : Cumulative related)

theorem collect_related {issue : Ledger W -> Except Trap (UID × Ledger W)}
    (one : Yields (issue issued.2) (fun result => related issued.2 result.2)) :
    Yields (collect issued issue) fun next => related issued.2 next.2 :=
  .bind fun result success => .pure (one result success)

include cumulative

/-- The loop of a batch: what each item does to the ledger, all of them do. -/
theorem collected_related {start : List UID × Ledger W} {issue : Ledger W -> ι -> Except Trap (UID × Ledger W)}
    (each : ∀ item ∈ items, ∀ current, Yields (issue current item) (fun result => related current result.2))
    (success : collectAll issue items start = .ok issued) : related start.2 issued.2 := by
  refine foldlM_related (fun first last : List UID × Ledger W => related first.2 last.2) (cumulative.comap _) ?_ success
  intro item member current
  exact collect_related related (each item member current.2)

/-- The loop of a broadcast, which also carries the recipients it has seen. -/
theorem recipients_related {issue : Ledger W -> Address -> Except Trap (UID × Ledger W)}
    {start issued : List Address × List UID × Ledger W} (each : ∀ recipient ∈ recipients, ∀ current,
      Yields (issue current recipient) (fun result => related current result.2))
    (success : collectApart issue recipients start = .ok issued) : related start.2.2 issued.2.2 := by
  refine foldlM_related (fun first last : List Address × List UID × Ledger W =>
    related first.2.2 last.2.2) (cumulative.comap _) ?_ success
  intro recipient member progress
  exact Yields.bind fun _ _ => .bind fun next collected =>
    .pure (collect_related related (each recipient member progress.2.2) next collected)

theorem settleFee_related (transfer : ∀ (ledger : Ledger W) token sender destination amount world,
      host.transfer env ledger.world token sender destination amount = .ok world ->
      related ledger { ledger with world := world })
    (account : ∀ (ledger : Ledger W) treasury creators, related ledger { ledger with
      sas := { ledger.sas with treasuryFees := treasury, creatorFees := creators } })
    (publish : ∀ (ledger : Ledger W) event, related ledger { ledger with sas := ledger.sas.publish event })
    {value baseAmount creatorAmount : Int} :
    Yields (settleFee host env ledger attestation token value baseAmount creatorAmount) (related ledger) := by
  have paid (current : Ledger W) (sender destination : Address) (amount : Int) :
      Yields (transferPositive host env current.world token sender destination amount)
        fun world => related current { current with world := world } :=
    .ite (fun _ => transfer current token sender destination amount)
      fun _ => .pure (cumulative.refl _)
  have shared (current : Ledger W) (registry : Address) (schemaUid : UID) (amount : Int) :
      Yields (payCreatorShare host env current.world registry schemaUid token amount)
        fun world => related current { current with world := world } :=
    .ite (fun _ => .bind fun creator _ => transfer current token _ creator amount)
      fun _ => .pure (cumulative.refl _)
  have distributed (current : Ledger W) (schemaUid : UID) :
      Yields (distributeAttestationFee host env current schemaUid token value) (related current) := by
    unfold distributeAttestationFee
    split
    · exact .pure (cumulative.refl _)
    · split
      · exact .pure (cumulative.refl _)
      · refine .skip3 <| .ite (fun _ => .pure (cumulative.refl _)) fun _ => .bind fun treasury _ =>
          .bind fun world first => .bind fun last second => .pure ?_
        exact cumulative.trans (cumulative.trans (paid current _ treasury _ world first)
          (shared { current with world := world } _ _ _ last second)) (publish _ _)
  have credited (current : Ledger W) (creator : Address) : related current { current with
      sas := creditCreator (creditTreasury current.sas token baseAmount) creator token
        creatorAmount } := by
    unfold creditCreator creditTreasury
    split <;> split
    · exact account current _ _
    · exact account current current.sas.treasuryFees _
    · exact account current _ current.sas.creatorFees
    · exact cumulative.refl _
  refine .ite (fun _ => .skip <| .bind fun world accepted => .bind fun creator _ => ?_)
    fun _ => .pure (cumulative.refl _)
  refine (distributed _ _).mono fun after last => cumulative.trans ?_ last
  exact cumulative.trans (transfer ledger token _ _ value world accepted)
    (cumulative.trans (credited { ledger with world := world } creator) (publish _ _))

end Loops

theorem attestation_mem_of_mem_delegatedItems {attestations : List Attestation}
    {nonces : List UInt64} {signatures : List (BytesN 64)} {publicKeys : List (BytesN 32)}
    {item : DelegatedItem} (member : item ∈ delegatedItems attestations nonces signatures publicKeys) :
    item.attestation ∈ attestations := by
  induction attestations, nonces, signatures, publicKeys using delegatedItems.induct with
  | case1 attestation attestations nonce nonces signature signatures publicKey publicKeys ih =>
    rcases List.mem_cons.mp member with rfl | later
    · exact List.mem_cons_self
    · exact List.mem_cons_of_mem _ (ih later)
  | case2 => simp_all [delegatedItems]

/-! ## Entry points -/

theorem Part.spend {attester : Address} {consumed : State} (relays : call.relays = true)
    (success : consumeDelegationNonce ledger.sas attester nonce = .ok consumed) :
    Part host crypto env call issuing ledger { ledger with sas := consumed } := by
  simp only [consumeDelegationNonce, eq_ok] at success
  rcases success with ⟨-, rfl⟩
  exact .relay _ _ _ relays

theorem Part.consent {recipient : Address} {consumed : State} (relays : call.relays = true)
    (success : consumeRecipientConsentNonce ledger.sas recipient nonce = .ok consumed) :
    Part host crypto env call issuing ledger { ledger with sas := consumed } := by
  simp only [consumeRecipientConsentNonce, eq_ok] at success
  rcases success with ⟨-, rfl⟩
  exact .relay _ _ _ relays

theorem attestInternal_parts (intended : call.asks crypto env (stamp env attestation)) :
    Yields (attestInternal host crypto env ledger attestation) fun result =>
      Parts host crypto env call true ledger result.2 :=
  fun result success => .single (.issue attestation result success intended rfl)

theorem attestDelegated_parts {signature : BytesN 64} {publicKey : BytesN 32} (relays : call.relays = true)
    (intended : attestation.revocationTime = 0 -> call.asks crypto env (stamp env attestation)) :
    Yields (attestDelegated host crypto env ledger attestation nonce signature publicKey)
      fun result => Parts host crypto env call true ledger result.2 :=
  .bind fun _ unrevoked => .skip3 <| .skip2 <| .bind fun _ consumed =>
    (attestInternal_parts (intended (require_eq_ok.mp unrevoked))).mono fun _ issued =>
      .head (.spend relays consumed) issued

theorem closeBatch_anatomy {guarded : State} (entered : enterReentrancyGuard ledger.sas = .ok guarded)
    (issues : call.issues = true)
    (items : Parts host crypto env call true { ledger with sas := guarded } issued.2) (count : Nat) :
    Anatomy host crypto env call ledger (closeBatch issued count).2 := by
  rcases enterReentrancyGuard_ok.mp entered with ⟨down, rfl⟩
  exact .batch issued.2 _ down issues items

theorem broadcastAttestByAttester_anatomy {attester : Address} {schemaUid : UID} {data : Bytes}
    {expirationTime : UInt64} {revocable : Bool} (issues : call.issues = true)
    (intended : ∀ recipient ∈ recipients, call.asks crypto env (stamp env
      (broadcastAttestation crypto attester schemaUid data expirationTime revocable recipient))) :
    Yields (broadcastAttestByAttester host crypto env ledger attester schemaUid recipients data
      expirationTime revocable) fun result => Anatomy host crypto env call ledger result.2 := by
  refine .skip4 <| .bind fun _ entered => .bind fun _ success => .pure (closeBatch_anatomy entered issues ?_ 1)
  exact recipients_related (Parts host crypto env call true) ⟨fun _ => .refl, .trans⟩
    (fun recipient member _ => attestInternal_parts (intended recipient member)) success

theorem settleFee_parts {value baseAmount creatorAmount : Int} (pays : call.pays = true) :
    Yields (settleFee host env ledger attestation token value baseAmount creatorAmount)
      (Parts host crypto env call issuing ledger) :=
  settleFee_related (Parts host crypto env call issuing) ⟨fun _ => .refl, .trans⟩
    (fun _ token sender destination amount world accepted =>
      .single (.transfer token sender destination amount world accepted pays))
    (fun _ treasury creators => .single (.account treasury creators pays))
    (fun _ event => .single (.publish event))

theorem payOut_parts {destination authorizer : Address} {amount : Int} (pays : call.pays = true) :
    Yields (payOut host env ledger token amount destination authorizer) (Parts host crypto env call issuing ledger) :=
  .bind fun world accepted => .pure (.tail
    (.single (.transfer token _ destination amount world accepted pays)) (.publish _))

theorem revokeInternal_parts : Yields (revokeInternal host env ledger uid) (Parts host crypto env call false ledger) :=
  fun after success => .single (.revoke uid after success rfl)

theorem revokeConsuming_parts {attester : Address} (relays : call.relays = true) :
    Yields (revokeConsuming host env ledger uid attester nonce) (Parts host crypto env call false ledger) :=
  .bind fun _ spent => revokeInternal_parts.mono fun _ revoked => .head (.spend relays spent) revoked

theorem publishBatchRevoked_anatomy {revoked : Ledger W} {body : Ledger W -> ι -> Except Trap (Ledger W)}
    (each : ∀ current item, Yields (body current item) (Parts host crypto env call false current))
    (success : items.foldlM body ledger = .ok revoked) (count attesterCount : Nat) :
    Anatomy host crypto env call ledger (publishBatchRevoked revoked count attesterCount) := by
  have loop : Parts host crypto env call false ledger revoked :=
    foldlM_related (Parts host crypto env call false) ⟨fun _ => .refl, .trans⟩
      (fun item _ current => each current item) success
  exact early (loop.tail (.publish _))

theorem Attested.keeps {issued record : Attestation} (attested : Attested host crypto env before issued after)
    (stored : (before.sas.book uid).attestation = some record) : (after.sas.book uid).attestation = some record := by
  have other : uid ≠ (stamp env issued).uid := by
    rintro rfl
    cases attested.issuable.absent.symm.trans stored
  rw [attested.book, Book.issue, update_of_ne other]
  exact stored

theorem replaceInternal_anatomy {oldUid : UID} {old : Attestation}
    (consumed : Parts host crypto env call false before ledger)
    (intended : call.asks crypto env (stamp env { newData with refUid := oldUid })) :
    Yields (replaceInternal host crypto env ledger oldUid newData old) fun result =>
      Anatomy host crypto env call before result.2 := by
  simp only [replaceInternal, replaceRecords, bind_assoc]
  refine .skip4 <| .bind fun revoked success => .bind fun issued stored => .pure ?_
  rcases (revokeInternal_ok success).revocable with ⟨record, -, -, -, -, book⟩
  have kept : (issued.2.sas.book oldUid).attestation = some { record with revocationTime := env.timestamp } := by
    refine (attestInternal_ok stored).2.keeps ?_
    rw [book, Book.revoke_self]
  refine .plain revoked _ (consumed.trans (revokeInternal_parts revoked success)) ?_
  exact (attestInternal_parts intended issued stored).tail (.replaced oldUid _ _ kept rfl)

theorem requireNotShortened_eq_ok {done : Unit} : requireNotShortened oldExpiration newExpiration = .ok done ↔
      ¬ (oldExpiration ≠ 0 ∧ newExpiration ≠ 0 ∧ newExpiration < oldExpiration) := by
  simp only [requireNotShortened, require_eq_ok]

/-- What the two checks of a renewal amount to. -/
theorem prolongs_of_kept (kept : ¬ (oldExpiration ≠ 0 ∧ newExpiration ≠ 0 ∧ newExpiration < oldExpiration))
    (perpetual : ¬ (oldExpiration = 0 ∧ newExpiration ≠ 0)) : Prolongs oldExpiration newExpiration where
  perpetual := fun zero => Decidable.of_not_not fun other => perpetual ⟨zero, other⟩
  longer := by
    intro bounded
    by_cases zero : newExpiration = 0
    · exact .inl zero
    · exact .inr (UInt64.not_lt.mp fun shorter => kept ⟨bounded, zero, shorter⟩)

theorem renewAttestation_parts {newExpirationTime : UInt64} (allowed : call.upkeep .renew) :
    Yields (renewAttestation host env ledger uid newExpirationTime) fun result =>
      Parts host crypto env call false ledger result.2 := by
  intro result success
  simp only [renewAttestation, renewRecord, bind_assoc, pure_bind, requireStored_eq_ok, requireRevocable, eq_ok,
    panicOn_eq_ok, validateExpiration_eq_ok, requireNotShortened_eq_ok, and_assoc] at success
  rcases success with ⟨-, -, attestation, -, stored, -, revocable, unrevoked, live, kept, perpetual,
    window, registry, -, -, lives, rfl⟩
  have own : attestation.uid = uid := Slot.uid_of_content stored
  subst own
  exact .single (.renew attestation newExpirationTime _ stored revocable unrevoked live
    (prolongs_of_kept kept perpetual) lives window allowed rfl)

theorem pruneOne_parts (allowed : call.upkeep .prune) (pruned : Nat × State) (world : W) :
    Yields (pruneOne env pruned uid) fun next =>
      Parts host crypto env call false ⟨pruned.2, world⟩ ⟨next.2, world⟩ := by
  refine .bind fun found read => .pure ?_
  unfold pruneFound
  split
  · exact .refl
  · split
    · rename_i expired
      exact .single (.prune uid _ _ (readAttestation_eq_ok.mp read).2 expired allowed rfl)
    · exact .refl

/-- A migration that returns has changed nothing. -/
theorem migrateAttestation_state {state : State} :
    Yields (migrateAttestation state uid) fun result => result.2 = state :=
  .skip2 <| .pure rfl

theorem migrateAttestations_state {state : State} {uids : List UID} :
    Yields (migrateAttestations state uids) fun result => result.2 = state := by
  refine .skip <| fun result success => ?_
  refine foldlM_related (fun first last : Nat × State => last.2 = first.2)
    ⟨fun _ => rfl, fun one two => two.trans one⟩ ?_ success
  intro uid _ counted
  exact Yields.bind fun migrated moved => .pure (migrateAttestation_state migrated moved)

theorem reindexOne_parts {indexer : Address} (progress : List UID × Ledger W) :
    Yields (reindexOne host env indexer progress uid) fun next => progress.2.sas.indexer = some indexer ->
      Parts host crypto env call false progress.2 next.2 ∧ next.2.sas.indexer = some indexer := by
  refine .bind fun found read => .pure fun bound => ?_
  unfold reindexFound
  split
  · exact ⟨.refl, bound⟩
  · split
    · exact ⟨.refl, bound⟩
    · rename_i world accepted
      exact ⟨.single (.reindex indexer uid _ _ world bound (readAttestation_eq_ok.mp read).2 accepted), bound⟩

/-! ## Every call -/

/-- Every call but a configuration, taken apart. -/
theorem step_anatomy (acts : call.configures = false) :
    Yields (step host crypto ledger (env, call)) (Anatomy host crypto env call ledger) := by
  cases call with
  | attest payload =>
    have intended : Call.asks crypto env (.attest payload) (stamp env payload) := rfl
    exact ledgerOf_yields (.skip4 <| (attestInternal_parts intended).mono fun _ => late)
  | attestByDelegation payload nonce signature publicKey =>
    have intended : payload.revocationTime = 0 -> Call.asks crypto env
      (.attestByDelegation payload nonce signature publicKey) (stamp env payload) := fun unrevoked => ⟨unrevoked, rfl⟩
    exact ledgerOf_yields (.skip2 <| (attestDelegated_parts rfl intended).mono fun _ => late)
  | attestByScopedDelegation payload nonce signature publicKey authorization =>
    refine ledgerOf_yields (.skip <| .bind fun _ unrevoked => .skip3 <| .skip2 <| .bind fun consumed spent => ?_)
    have intended : Call.asks crypto env (.attestByScopedDelegation payload nonce signature
      publicKey authorization) (stamp env payload) := ⟨require_eq_ok.mp unrevoked, rfl⟩
    exact (attestInternal_parts intended).mono fun _ issued => late (.head (.spend rfl spent) issued)
  | attestWithZk payload proof nullifier =>
    refine ledgerOf_yields (.skip4 <| .bind fun verifier _ => .bind fun verdict verified => .skip2 <|
      .bind fun issued success => .pure ?_)
    have intended : Call.asks crypto env (.attestWithZk payload proof nullifier) (stamp env payload) := rfl
    have asks : Part host crypto env (.attestWithZk payload proof nullifier) true ledger
        { ledger with world := verdict.2 } := .verify verifier proof _ verdict.1 verdict.2 (expect_eq_ok.mp verified)
    exact late (.head asks ((attestInternal_parts intended issued success).tail (.relay _ _ _ rfl)))
  | attestWithValue payload token value =>
    refine ledgerOf_yields (.skip4 <| .skip3 <| .bind fun settled paid => .bind fun issued stored => .pure ?_)
    have intended : Call.asks crypto env (.attestWithValue payload token value) (stamp env payload) := rfl
    exact .plain settled _ (settleFee_parts rfl settled paid)
      ((attestInternal_parts intended issued stored).tail (.publish _))
  | multiAttest payloads =>
    refine ledgerOf_yields (.skip2 <| .bind fun _ entered =>
      .bind fun _ success => .pure (closeBatch_anatomy entered rfl ?_ _))
    refine collected_related (Parts host crypto env (.multiAttest payloads) true)
      ⟨fun _ => .refl, .trans⟩ (fun payload member _ => ?_) success
    have intended : Call.asks crypto env (.multiAttest payloads) (stamp env payload) := ⟨payload, member, rfl⟩
    exact .skip2 <| attestInternal_parts intended
  | multiAttestByDelegation payloads nonces signatures publicKeys =>
    refine ledgerOf_yields (.skip3 <|
      .bind fun _ entered => .bind fun _ success => .pure (closeBatch_anatomy entered rfl ?_ _))
    refine collected_related (Parts host crypto env
      (.multiAttestByDelegation payloads nonces signatures publicKeys) true)
      ⟨fun _ => .refl, .trans⟩ (fun item member _ => ?_) success
    exact attestDelegated_parts rfl fun unrevoked => ⟨_, attestation_mem_of_mem_delegatedItems member, unrevoked, rfl⟩
  | broadcastAttest =>
    exact ledgerOf_yields (.skip <| .bind fun attester _ =>
      broadcastAttestByAttester_anatomy rfl fun recipient member => ⟨attester, recipient, member, rfl⟩)
  | broadcastAttestByAttester =>
    exact ledgerOf_yields (broadcastAttestByAttester_anatomy rfl fun recipient member => ⟨recipient, member, rfl⟩)
  | revoke => exact .skip4 <| revokeInternal_parts.mono fun _ => early
  | revokeByAuthorizer => exact .skip3 <| .skip2 <| revokeInternal_parts.mono fun _ => early
  | revokeByDelegate => exact .skip4 <| .skip3 <| revokeInternal_parts.mono fun _ => early
  | revokeByDelegation => exact .skip4 <| (revokeConsuming_parts rfl).mono fun _ => early
  | multiRevoke | revokeBySchema =>
    exact .skip3 <| .skip2 <| .bind fun _ success => .pure
        (publishBatchRevoked_anatomy (fun _ _ => revokeInternal_parts) success _ _)
  | multiRevokeByDelegation =>
    exact .skip3 <| .skip2 <| .bind fun _ success => .pure (publishBatchRevoked_anatomy
        (fun _ _ => .skip <| revokeConsuming_parts rfl) success _ _)
  | replaceAttestation =>
    exact ledgerOf_yields (.skip3 <| .skip2 <| replaceInternal_anatomy .refl rfl)
  | replaceByDelegationConsent =>
    refine ledgerOf_yields (.skip <| .bind fun old _ => .skip3 <| .skip2 <| .bind fun attesterConsumed first =>
      .bind fun consumed second => replaceInternal_anatomy ?_ rfl)
    exact .head (.spend rfl first) (.single (.consent rfl second))
  | renewAttestation uid newExpirationTime =>
    have allowed : Call.upkeep (.renewAttestation uid newExpirationTime) .renew := trivial
    exact ledgerOf_yields ((renewAttestation_parts allowed).mono fun _ => early)
  | pruneExpired uids =>
    have allowed : Call.upkeep (.pruneExpired uids) .prune := trivial
    refine locallyWith_yields (.skip2 fun _ success => early ?_)
    exact foldlM_related (fun first last : Nat × State =>
      Parts host crypto env (.pruneExpired uids) false ⟨first.2, ledger.world⟩ ⟨last.2, ledger.world⟩)
      ⟨fun _ => .refl, .trans⟩ (fun _ _ pruned => pruneOne_parts allowed pruned ledger.world) success
  | migrateAttestation => exact locallyWith_yields (.skip2 <| .pure (early .refl))
  | migrateAttestations =>
    exact locallyWith_yields (migrateAttestations_state.mono fun _ same => early (by rw [same]; exact .refl))
  | reindexAttestation uid =>
    exact .skip2 <| .bind fun attestation stored => .bind fun indexer named =>
      .bind fun world accepted => .pure (early (.single (.reindex indexer uid attestation _
        world (expect_eq_ok.mp named) (requireStored_eq_ok.mp stored).2 (expect_eq_ok.mp accepted))))
  | bulkReindex uids =>
    refine ledgerOf_yields (.skip3 <| .bind fun indexer named _ success => early ?_)
    exact (foldlM_related (fun first last : List UID × Ledger W => first.2.sas.indexer = some indexer ->
      Parts host crypto env (.bulkReindex uids) false first.2 last.2 ∧ last.2.sas.indexer = some indexer)
      ⟨fun _ bound => ⟨.refl, bound⟩, fun one two bound => ⟨(one bound).1.trans (two (one bound).2).1,
        (two (one bound).2).2⟩⟩ (fun _ _ progress => reindexOne_parts progress) success (expect_eq_ok.mp named)).1
  | withdrawTokens => exact .skip3 <| .skip2 <| (payOut_parts rfl).mono fun _ => early
  | withdrawCreatorFees =>
    exact .skip3 <| (payOut_parts rfl).mono fun _ paid => early (.head (.account ledger.sas.treasuryFees _ rfl) paid)
  | withdrawTreasuryFees =>
    exact .skip3 <| (payOut_parts rfl).mono fun _ paid => early (.head (.account _ ledger.sas.creatorFees rfl) paid)
  | _ => cases acts

end SorobanSas.Sas
