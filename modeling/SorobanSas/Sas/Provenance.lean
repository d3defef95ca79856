import SorobanSas.Sas.Frames
import SorobanSas.Sas.Operations
import SorobanSas.Sas.Revocability
import SorobanSas.Sas.Threshold

namespace SorobanSas.Sas

open Library List

/-!
# Where stored records come from

Whatever path a record has taken, it was put to `attest_internal` once, and its expiration
was written there or by a renewal.  Some of what was checked then stays true of the record as
long as it is stored.  The rest is about the answers of the registry at that moment: the
revocation policy of the schema at the issuance, and its maximum window at the last write of
the expiration time.

Within one call the moment matters.  A resolver may have called the registry between two items
of a batch, so the ledger that counts is the one in which `attest_internal` is entered, not
the one in which the call was made.
-/

variable {W : Type} {host : Host W} {crypto : Crypto} {env : Env} {ledger : Ledger W}
  {expirationTime nonce : UInt64} {submits : Ledger W -> Attestation -> Prop} {attester : Address}
  {moves : List (Move W)} {attestation : Attestation} {attestations : List Attestation}
  {recipients : List Address} {data : Bytes} {move : Move W} {start : Ledger W} {record : Attestation}
  {next : Ledger W} {revocable : Bool} {schemaUid : UID} {registryOf : W -> Registry.State}
  {asked : Attestation -> Prop} {uid : UID} {old : Attestation} {new : Attestation}

/-! ## What stays true -/

/-- The conditions on a stored record that do not depend on when it was written. -/
structure Attestation.WellFormed (crypto : Crypto) (attestation : Attestation) : Prop where
  derived : attestation.uid = attestationUid crypto attestation.schemaUid attestation.recipient
    attestation.attester attestation.data
  parties : attestation.recipient ≠ attestation.attester
  recipient : attestation.recipient ≠ .account 0 ∧ attestation.recipient ≠ .contract 0
  small : attestation.data.length <= maxAttestationDataBytes
  foreign : attestation.refUid ≠ attestation.uid
  window : attestation.expirationTime = 0 ∨ attestation.validFrom < attestation.expirationTime

theorem window_of_not {validFrom : UInt64} (window : ¬ (0 < expirationTime ∧ expirationTime <= validFrom)) :
    expirationTime = 0 ∨ validFrom < expirationTime := by
  by_cases perpetual : expirationTime = 0
  · exact .inl perpetual
  · exact .inr (UInt64.not_le.mp fun early => window ⟨UInt64.pos_iff_ne_zero.mpr perpetual, early⟩)

def Book.WellFormed (crypto : Crypto) (book : Book) : Prop :=
  ∀ uid attestation, (book uid).attestation = some attestation -> Attestation.WellFormed crypto attestation

namespace Book.WellFormed

theorem update {book : Book} {page : Page} (wellFormed : book.WellFormed crypto)
    (written : ∀ attestation, page.attestation = some attestation -> Attestation.WellFormed crypto attestation) :
    Book.WellFormed crypto (Function.update book uid page) := by
  intro other attestation stored
  by_cases same : other = uid
  · subst same
    rw [Function.update_self] at stored
    exact written attestation stored
  · rw [Function.update_of_ne same] at stored
    exact wellFormed other attestation stored

theorem revision {prunes : Prop} {before after : Book} (revised : Revision env prunes before after)
    (wellFormed : before.WellFormed crypto) : after.WellFormed crypto := by
  cases revised with
  | revoke uid attestation stored =>
    refine wellFormed.update ?_
    rintro _ ⟨⟩
    rcases wellFormed uid attestation stored with ⟨derived, parties, recipient, small, foreign, window⟩
    exact ⟨derived, parties, recipient, small, foreign, window⟩
  | renew uid attestation expirationTime stored revocable unrevoked live prolongs lives window =>
    refine wellFormed.update ?_
    rintro _ ⟨⟩
    rcases wellFormed uid attestation stored with ⟨derived, parties, recipient, small, foreign, -⟩
    exact ⟨derived, parties, recipient, small, foreign, window_of_not window⟩
  | prune =>
    refine wellFormed.update ?_
    rintro _ ⟨⟩

theorem issue {before after : Book} (issued : Issue crypto env asked before after)
    (wellFormed : before.WellFormed crypto) : after.WellFormed crypto := by
  cases issued with
  | issue attestation issuable =>
    refine wellFormed.update ?_
    rintro _ ⟨⟩
    exact ⟨issuable.derived, issuable.parties, issuable.recipient, issuable.small,
      issuable.foreign, window_of_not issuable.window⟩

end Book.WellFormed

theorem advance_wellFormed (success : advance host crypto ledger move = .ok next)
    (wellFormed : ledger.sas.book.WellFormed crypto) : next.sas.book.WellFormed crypto := by
  cases move with
  | outside =>
    cases success
    exact wellFormed
  | call =>
    exact (step_effect next success).keeps (Book.WellFormed crypto) (fun _ _ => .revision)
      (fun _ _ => .issue) wellFormed

/-! ## What the registry answers -/

/-- The service's registry answers from the storage of a registry that is part of the world. -/
structure Consults (host : Host W) (registry : Address) (registryOf : W -> Registry.State) :
    Prop where
  policy : ∀ world uid, host.getSchemaPolicy world registry uid =
    some (Registry.getSchemaPolicy (registryOf world) uid)
  maxTtl : ∀ world uid, host.getMaxTtl world registry uid = some (Registry.getMaxTtl (registryOf world) uid)

structure Complies (policy : Registry.RevocationPolicy) (revocable : Bool) : Prop where
  revocableOnly : policy = .revocableOnly -> revocable = true
  irrevocableOnly : policy = .irrevocableOnly -> revocable = false

theorem complies_of_checkPolicy {policy : Registry.RevocationPolicy} {done : Unit}
    (accepted : checkPolicy policy revocable = .ok done) : Complies policy revocable := by
  cases policy with
  | revocableOnly => exact ⟨fun _ => require_eq_ok.mp accepted, nofun⟩
  | irrevocableOnly => exact ⟨nofun, fun _ => require_eq_ok.mp accepted⟩
  | permissive => exact ⟨nofun, nofun⟩

/-- An expiration time written at `time` is within the maximum window, if there is one.  The
sum is not that of machine integers. -/
def WithinWindow (maxTtl time expirationTime : UInt64) : Prop :=
  maxTtl = 0 ∨ time < expirationTime ∧ expirationTime.toNat <= time.toNat + maxTtl.toNat

theorem withinWindow_of_checks {world : W} {registry : Address}
    (consults : Consults host registry registryOf) (live : ¬ Expired env expirationTime)
    (accepted : requireWithinMaxTtl host env world registry schemaUid expirationTime = .ok ()) :
    WithinWindow (Registry.getMaxTtl (registryOf world) schemaUid) env.timestamp expirationTime := by
  simp only [requireWithinMaxTtl, consults.maxTtl, Option.getD_some, require_eq_ok] at accepted
  rcases accepted with unlimited | ⟨bounded, near⟩
  · exact .inl unlimited
  · have later : env.timestamp < expirationTime :=
      UInt64.not_le.mp fun passed => live ⟨bounded, passed⟩
    have close := UInt64.not_lt.mp fun far => near ⟨later, far⟩
    rw [UInt64.le_iff_toNat_le, UInt64.toNat_sub_of_le _ _ (UInt64.le_of_lt later)] at close
    exact .inr ⟨later, by omega⟩

/-- What the registry has been asked about a payload at time of its issuance. -/
structure Vetted (registry : Registry.State) (env : Env) (payload : Attestation) : Prop where
  policy : Complies (Registry.getSchemaPolicy registry payload.schemaUid) payload.revocable
  window : WithinWindow (Registry.getMaxTtl registry payload.schemaUid) env.timestamp payload.expirationTime

section Registries

variable {registry : Address} {payload : Attestation} {current : Ledger W}

/-! ## The moment of an issuance -/

variable (host crypto env ledger)

/-- The loop of `multi_attest`, over some of its items. -/
def multiAttestItems (attestations : List Attestation) : Except Trap (List UID × Ledger W) :=
  collectAll (attestItem host crypto env) attestations ([], ledger.raised)

/-- The loop of `broadcast_attest_by_attester`, over some of its recipients. -/
def broadcastItems (attester : Address) (schemaUid : UID) (recipients : List Address) (data : Bytes)
    (expirationTime : UInt64) (revocable : Bool) : Except Trap (List Address × List UID × Ledger W) :=
  collectApart (fun current recipient => attestInternal host crypto env current
    (broadcastAttestation crypto attester schemaUid data expirationTime revocable recipient))
    recipients ([], [], ledger.raised)

/-- The call puts a payload to `attest_internal`, in the ledger given. -/
inductive Submits : Call -> Ledger W -> Attestation -> Prop where
  | attest payload : Submits (.attest payload) ledger payload
  | delegation payload nonce signature publicKey consumed
      (spent : consumeDelegationNonce ledger.sas payload.attester nonce = .ok consumed) :
      Submits (.attestByDelegation payload nonce signature publicKey) { ledger with sas := consumed } payload
  | scopedDelegation payload nonce signature publicKey authorization consumed
      (spent : consumeDelegationNonce ledger.sas payload.attester nonce = .ok consumed) :
      Submits (.attestByScopedDelegation payload nonce signature publicKey authorization)
        { ledger with sas := consumed } payload
  | zk payload proof nullifier verifier world (named : ledger.sas.zkVerifier = some verifier)
      (verified : host.verifyProof env ledger.world verifier proof
        [payload.uid.hash, payload.schemaUid.hash, nullifier] = some (true, world)) :
      Submits (.attestWithZk payload proof nullifier) { ledger with world := world } payload
  | value payload token value baseAmount settled
      (quoted : feeQuote ledger.sas payload.schemaUid payload.data.length = .ok baseAmount)
      (paid : settleFee host env ledger payload token value baseAmount
        (creatorFee (ledger.sas.schemaFees payload.schemaUid) baseAmount) = .ok settled) :
      Submits (.attestWithValue payload token value) settled payload
  | item earlier payload later issued (reached : multiAttestItems host crypto env ledger earlier = .ok issued) :
      Submits (.multiAttest (earlier ++ payload :: later)) issued.2 payload
  | delegatedItem attestations nonces signatures publicKeys earlier item later
      (position : delegatedItems attestations nonces signatures publicKeys = earlier ++ item :: later) issued
      (reached : attestItems host crypto env ledger earlier = .ok issued) consumed
      (spent : consumeDelegationNonce issued.2.sas item.attestation.attester item.nonce = .ok consumed) :
      Submits (.multiAttestByDelegation attestations nonces signatures publicKeys) { issued.2 with sas := consumed }
        item.attestation
  | recipient attester schemaUid earlier recipient later data expirationTime revocable progress
      (reached : broadcastItems host crypto env ledger attester schemaUid earlier data expirationTime revocable =
        .ok progress) :
      Submits (.broadcastAttestByAttester attester schemaUid (earlier ++ recipient :: later) data expirationTime
        revocable) progress.2.2
        (broadcastAttestation crypto attester schemaUid data expirationTime revocable recipient)
  | creator registry attester schemaUid recipients data expirationTime revocable
      (bound : ledger.sas.registry = some registry)
      (created : (host.getCreator ledger.world registry schemaUid).getD none = some attester) current payload
      (submits : Submits (.broadcastAttestByAttester attester schemaUid recipients data expirationTime revocable)
        current payload) : Submits (.broadcastAttest schemaUid recipients data expirationTime revocable) current payload
  | replacement oldUid newData revoked (withdrawn : revokeInternal host env ledger oldUid = .ok revoked) :
      Submits (.replaceAttestation oldUid newData) revoked { newData with refUid := oldUid }
  | consent oldUid newData old attesterApproval recipientApproval (stored : recordOf ledger.sas oldUid = some old)
      attesterConsumed consumed
      (first : consumeDelegationNonce ledger.sas old.attester attesterApproval.nonce = .ok attesterConsumed)
      (second : consumeRecipientConsentNonce attesterConsumed old.recipient recipientApproval.nonce = .ok consumed)
      revoked (withdrawn : revokeInternal host env { ledger with sas := consumed } oldUid = .ok revoked) :
      Submits (.replaceByDelegationConsent oldUid newData attesterApproval recipientApproval) revoked
        { newData with refUid := oldUid }

variable {host crypto env ledger}

theorem Submits.issues {call : Call} (submits : Submits host crypto env ledger call current payload) :
    call.issues = true := by
  cases submits <;> rfl

theorem broadcastItems_parts {call : Call} (intended : ∀ recipient ∈ recipients, call.asks crypto env (stamp env
      (broadcastAttestation crypto attester schemaUid data expirationTime revocable recipient))) :
    Yields (broadcastItems host crypto env ledger attester schemaUid recipients data expirationTime
      revocable) fun progress => Parts host crypto env call true
        ledger.raised progress.2.2 :=
  fun _ success => recipients_related (Parts host crypto env call true) ⟨fun _ => .refl, .trans⟩
    (fun recipient member _ => attestInternal_parts (intended recipient member))
    success

/-- What holds across each part of the call, and across the guard of a batch, holds up to the
point at which the payload is submitted. -/
theorem Submits.related {call : Call} (submits : Submits host crypto env ledger call current payload)
    (related : Ledger W -> Ledger W -> Prop) (cumulative : Cumulative related)
    (each : ∀ issuing before after, Part host crypto env call issuing before after -> related before after)
    (guarded : ∀ (ledger : Ledger W) guard, related ledger { ledger with sas := { ledger.sas with guard := guard } }) :
    related ledger current := by
  have inside {issuing : Bool} {before after : Ledger W}
      (parts : Parts host crypto env call issuing before after) : related before after :=
    parts.related related cumulative (each issuing)
  have batch {after : Ledger W} (items : Parts host crypto env call true
      ledger.raised after) : related ledger after :=
    cumulative.trans (guarded ledger true) (inside items)
  cases submits with
  | attest => exact cumulative.refl _
  | delegation payload nonce signature publicKey consumed spent
  | scopedDelegation payload nonce signature publicKey authorization consumed spent =>
    exact each true _ _ (.spend rfl spent)
  | zk payload proof nullifier verifier world named verified =>
    exact each true _ _ (.verify verifier proof _ true world verified)
  | value payload token value baseAmount settled quoted paid =>
    have parts : Parts host crypto env (.attestWithValue payload token value) true ledger _ :=
      settleFee_parts rfl _ paid
    exact inside parts
  | item earlier payload later issued reached =>
    refine batch (collected_related (Parts host crypto env _ true) ⟨fun _ => .refl, .trans⟩
      (fun item member _ => ?_) reached)
    have intended : Call.asks crypto env (.multiAttest (earlier ++ payload :: later))
      (stamp env item) := ⟨item, mem_append_left _ member, rfl⟩
    exact .skip2 <| attestInternal_parts intended
  | delegatedItem _ _ _ _ earlier item later position issued reached consumed spent =>
    refine batch (.tail (collected_related (Parts host crypto env _ true) ⟨fun _ => .refl, .trans⟩
      (fun other member _ => ?_) reached) (.spend rfl spent))
    have listed := attestation_mem_of_mem_delegatedItems (position ▸ mem_append_left (item :: later) member)
    exact attestDelegated_parts rfl fun unrevoked => ⟨_, listed, unrevoked, rfl⟩
  | recipient attester schemaUid earlier recipient later data expirationTime revocable progress
      reached =>
      refine batch (broadcastItems_parts (fun recipient member => ?_) _ reached)
      exact ⟨recipient, mem_append_left _ member, rfl⟩
  | creator registry attester schemaUid recipients data expirationTime revocable bound created
      current payload submits =>
      cases submits with
      | recipient _ _ earlier recipient later _ _ _ progress reached =>
        refine batch (broadcastItems_parts (fun recipient member => ?_) _ reached)
        exact ⟨attester, recipient, mem_append_left _ member, rfl⟩
  | replacement oldUid newData revoked withdrawn => exact inside (revokeInternal_parts _ withdrawn)
  | consent oldUid newData old attesterApproval recipientApproval stored attesterConsumed consumed
      first second revoked withdrawn =>
      exact inside (.head (.spend rfl first) (.head (.consent rfl second) (revokeInternal_parts _ withdrawn)))

/-- The only record that is new or different is the payload's, and it was vetted. -/
def Adds (registry : Registry.State) (env : Env) (payload : Attestation) (before after : Book) : Prop :=
  ∀ uid record, (before uid).attestation ≠ some record ->
    (after uid).attestation = some record -> record = stamp env payload ∧ Vetted registry env payload

/-- Each new record was put to `attest_internal` by the call, and vetted there. -/
def Sourced (registryOf : W -> Registry.State) (env : Env)
    (submits : Ledger W -> Attestation -> Prop) (before after : Book) : Prop :=
  ∀ uid record, (before uid).attestation = none -> (after uid).attestation = some record ->
    ∃ current payload, submits current payload ∧ record = stamp env payload ∧
      Vetted (registryOf current.world) env payload

theorem Adds.sourced {before after : Book} (current : Ledger W)
    (adds : Adds (registryOf current.world) env payload before after) (submitted : submits current payload) :
    Sourced registryOf env submits before after := by
  intro uid record absent stored
  have fresh : (before uid).attestation ≠ some record := by simp [absent]
  rcases adds uid record fresh stored with ⟨rfl, vetted⟩
  exact ⟨current, payload, submitted, rfl, vetted⟩

theorem Sourced.of_items {ι : Type} {items : List ι} {start issued : List UID × Ledger W}
    {issue : Ledger W -> ι -> Except Trap (UID × Ledger W)}
    (success : collectAll issue items start = .ok issued)
    (each : ∀ earlier item later current result, items = earlier ++ item :: later ->
      collectAll issue earlier start = .ok current -> issue current.2 item = .ok result ->
      ∃ entered payload, submits entered payload ∧
        Adds (registryOf entered.world) env payload current.2.sas.book result.2.sas.book) :
    Sourced registryOf env submits start.2.sas.book issued.2.sas.book := by
  intro uid record absent stored
  rcases foldlM_turns (fun progress : List UID × Ledger W =>
      (progress.2.sas.book uid).attestation = some record) success (by simp [absent]) stored with
    ⟨earlier, item, later, current, next, position, reached, taken, fresh, added⟩
  simp only [collect, eq_ok] at taken
  rcases taken with ⟨result, done, rfl⟩
  rcases each earlier item later current result position reached done with ⟨entered, payload, submitted, adds⟩
  rcases adds uid record fresh added with ⟨rfl, vetted⟩
  exact ⟨entered, payload, submitted, rfl, vetted⟩

/-! ## What each entry point does -/

section EntryPoints

variable (consults : Consults host registry registryOf) (bound : ledger.sas.registry = some registry)

include consults bound

theorem attestInternal_vetted : Yields (attestInternal host crypto env ledger payload) fun _ =>
      Vetted (registryOf ledger.world) env payload := by
  intro result success
  have issuable := (attestInternal_ok success).2.issuable
  simp only [attestInternal, recordAttestation, admitAttestation, stamp, bind_assoc, pure_bind, enterCallbackContext,
    requireRegistry, eq_ok, panicOn_eq_ok] at success
  rcases success with ⟨-, named, found, -, -, -, -, -, -, -, -, -, -, schema, -, -, window, -, metered, -, policy, -⟩
  cases bound.symm.trans found
  simp only [consults.policy, Option.getD_some] at policy
  exact ⟨complies_of_checkPolicy policy, withinWindow_of_checks consults issuable.live window⟩

theorem attestInternal_adds : Yields (attestInternal host crypto env ledger payload) fun result =>
      Adds (registryOf ledger.world) env payload ledger.sas.book result.2.sas.book := by
  intro result success uid record fresh stored
  refine ⟨?_, attestInternal_vetted consults bound result success⟩
  rw [(attestInternal_ok success).2.book] at stored
  rcases Book.issue_cases stored with ⟨-, ⟨⟩⟩ | ⟨-, stored⟩
  · rfl
  · exact absurd stored fresh

section Submitted

variable {call : Call} (submitted : Submits host crypto env ledger call current payload)

include submitted

/-- Before the payload is submitted the call has not changed the settings. -/
theorem Submits.adds : Yields (attestInternal host crypto env current payload) fun result =>
    Adds (registryOf current.world) env payload current.sas.book result.2.sas.book := by
  have standing := submitted.related (fun before after => Standing before.sas after.sas)
    ⟨fun _ => .refl _, .trans⟩ (fun _ _ _ part => part.standing)
    fun _ _ => ⟨rfl, rfl, rfl⟩
  exact attestInternal_adds consults ((congrArg Settings.registry standing.settings).trans bound)

theorem Submits.sourced (same : current.sas.book = ledger.sas.book) :
    Yields (attestInternal host crypto env current payload) fun result =>
      Sourced registryOf env (Submits host crypto env ledger call) ledger.sas.book result.2.sas.book := by
  intro result success
  have adds := submitted.adds consults bound result success
  rw [same] at adds
  exact adds.sourced current submitted

end Submitted

theorem attestWithZk_sourced {proof : Bytes} {nullifier : BytesN 32} :
    Yields (attestWithZk host crypto env ledger payload proof nullifier) fun result => Sourced registryOf env
        (Submits host crypto env ledger (.attestWithZk payload proof nullifier))
        ledger.sas.book result.2.sas.book := by
  refine .skip4 <| .bind fun verifier named => .bind fun verdict verified => .bind fun _ accepted =>
    .skip <| .bind fun issued success => .pure ?_
  rcases verdict with ⟨verdict, world⟩
  have genuine : verdict = true := require_eq_ok.mp accepted
  subst genuine
  exact (Submits.zk payload proof nullifier verifier world (expect_eq_ok.mp named)
    (expect_eq_ok.mp verified)).sourced consults bound rfl issued success

theorem attestWithValue_sourced {token : Address} {value : Int} :
    Yields (attestWithValue host crypto env ledger payload token value) fun result => Sourced registryOf env
        (Submits host crypto env ledger (.attestWithValue payload token value)) ledger.sas.book result.2.sas.book := by
  refine .skip3 <| .bind fun baseAmount quoted => .skip3 <| .bind fun settled paid =>
    .bind fun issued success => .pure ?_
  exact (Submits.value payload token value baseAmount settled quoted paid).sourced consults bound
    (book_congr (settleFee_records settled paid)) issued success

theorem multiAttest_sourced : Yields (multiAttest host crypto env ledger attestations) fun result =>
      Sourced registryOf env (Submits host crypto env ledger (.multiAttest attestations))
        ledger.sas.book result.2.sas.book := by
  refine .skip2 <| .bind fun guarded entered => .bind fun issued success => .pure ?_
  rcases enterReentrancyGuard_ok.mp entered with ⟨-, rfl⟩
  refine Sourced.of_items success ?_
  rintro earlier payload later current result rfl reached done
  have submitted := Submits.item earlier payload later current reached
  exact ⟨current.2, payload, submitted, (Yields.skip2 <| submitted.adds consults bound) result done⟩

theorem multiAttestByDelegation_sourced {nonces : List UInt64} {signatures : List (BytesN 64)}
    {publicKeys : List (BytesN 32)} :
    Yields (multiAttestByDelegation host crypto env ledger attestations nonces signatures
      publicKeys) fun result => Sourced registryOf env (Submits host crypto env ledger
        (.multiAttestByDelegation attestations nonces signatures publicKeys)) ledger.sas.book result.2.sas.book := by
  refine .skip3 <| .bind fun guarded entered => .bind fun issued success => .pure ?_
  rcases enterReentrancyGuard_ok.mp entered with ⟨-, rfl⟩
  refine Sourced.of_items success ?_
  intro earlier item later current result position reached done
  simp only [attestDelegatedItem, attestDelegated, eq_ok] at done
  rcases done with ⟨-, -, -, -, group, -, -, consumed, spent, done⟩
  have submitted := Submits.delegatedItem attestations nonces signatures publicKeys earlier item
    later position current reached consumed spent
  have adds := submitted.adds consults bound result done
  have same : consumed.book = current.2.sas.book := (consumeDelegationNonce_same consumed spent).book
  exact ⟨_, item.attestation, submitted, same ▸ adds⟩

theorem broadcastAttestByAttester_sourced :
    Yields (broadcastAttestByAttester host crypto env ledger attester schemaUid recipients data
      expirationTime revocable) fun result => Sourced registryOf env
        (Submits host crypto env ledger (.broadcastAttestByAttester attester schemaUid recipients
          data expirationTime revocable)) ledger.sas.book result.2.sas.book := by
  refine .skip4 <| .bind fun guarded entered => .bind fun issued success => .pure ?_
  rcases enterReentrancyGuard_ok.mp entered with ⟨-, rfl⟩
  intro uid record absent stored
  rcases foldlM_turns (fun progress : List Address × List UID × Ledger W =>
      (progress.2.2.sas.book uid).attestation = some record) success
      (fun present => by cases absent.symm.trans present) stored with
    ⟨earlier, recipient, later, current, next, rfl, reached, taken, fresh, added⟩
  simp only [collect, eq_ok] at taken
  rcases taken with ⟨-, _, ⟨result, done, rfl⟩, rfl⟩
  have submitted := Submits.recipient attester schemaUid earlier recipient later data
    expirationTime revocable current reached
  rcases submitted.adds consults bound result done uid record fresh added with ⟨rfl, vetted⟩
  exact ⟨current.2.2, _, submitted, rfl, vetted⟩

theorem replaceInternal_sourced {call : Call} {oldUid : UID} {newData : Attestation}
    (same : current.sas.book = ledger.sas.book)
    (submitted : ∀ revoked, revokeInternal host env current oldUid = .ok revoked ->
      Submits host crypto env ledger call revoked { newData with refUid := oldUid }) :
    Yields (replaceInternal host crypto env current oldUid newData old) fun result =>
      Sourced registryOf env (Submits host crypto env ledger call) ledger.sas.book result.2.sas.book := by
  simp only [replaceInternal, replaceRecords, bind_assoc]
  refine .skip4 <| .bind fun revoked withdrawn => .bind fun issued success => .pure ?_
  have revises : Revises host env False current revoked := revokeInternal_revises revoked withdrawn
  have adds := (submitted revoked withdrawn).adds consults bound issued success
  intro uid record absent stored
  exact adds.sourced revoked (submitted revoked withdrawn) uid record
    (absent_of_revisions revises.book (same ▸ absent)) stored

/-- Each of the eleven issuing entry points. -/
theorem step_sourced {call : Call} : Yields (step host crypto ledger (env, call)) fun next =>
      Sourced registryOf env (Submits host crypto env ledger call) ledger.sas.book next.sas.book := by
  cases call with
  | attest payload =>
    exact ledgerOf_yields (.skip4 <| (Submits.attest payload).sourced consults bound rfl)
  | attestByDelegation payload nonce signature publicKey =>
    exact ledgerOf_yields (.skip4 <| .skip4 <| .bind fun consumed spent =>
        (Submits.delegation payload nonce signature publicKey consumed spent).sourced consults bound
          (consumeDelegationNonce_same consumed spent).book)
  | attestByScopedDelegation payload nonce signature publicKey authorization =>
    exact ledgerOf_yields (.skip4 <| .skip3 <| .bind fun consumed spent =>
      (Submits.scopedDelegation payload nonce signature publicKey authorization consumed
        spent).sourced consults bound (consumeDelegationNonce_same consumed spent).book)
  | attestWithZk => exact ledgerOf_yields (attestWithZk_sourced consults bound)
  | attestWithValue => exact ledgerOf_yields (attestWithValue_sourced consults bound)
  | multiAttest => exact ledgerOf_yields (multiAttest_sourced consults bound)
  | multiAttestByDelegation =>
    exact ledgerOf_yields (multiAttestByDelegation_sourced consults bound)
  | broadcastAttest schemaUid recipients data expirationTime revocable =>
    refine ledgerOf_yields (.bind fun named found => .bind fun attester created =>
      (broadcastAttestByAttester_sourced consults bound).mono fun _ sourced => ?_)
    intro uid record absent stored
    rcases sourced uid record absent stored with ⟨current, payload, submitted, vetted⟩
    exact ⟨current, payload, .creator named attester schemaUid recipients data expirationTime
      revocable (expect_eq_ok.mp found) (expect_eq_ok.mp created) current payload submitted, vetted⟩
  | broadcastAttestByAttester =>
    exact ledgerOf_yields (broadcastAttestByAttester_sourced consults bound)
  | replaceAttestation oldUid newData =>
    exact ledgerOf_yields (.skip3 <| .skip2 <| replaceInternal_sourced consults bound rfl fun revoked withdrawn =>
        .replacement oldUid newData revoked withdrawn)
  | replaceByDelegationConsent oldUid newData attesterApproval recipientApproval =>
    refine ledgerOf_yields (.skip <| .bind fun old found => .skip3 <|
      .skip2 <| .bind fun attesterConsumed first => .bind fun consumed second => ?_)
    have same := (consumeDelegationNonce_same attesterConsumed first).trans
      (consumeRecipientConsentNonce_same consumed second)
    exact replaceInternal_sourced consults bound same.book fun revoked withdrawn =>
      .consent oldUid newData old attesterApproval recipientApproval (requireStored_eq_ok.mp found).2
        attesterConsumed consumed first second revoked withdrawn
  | _ =>
    intro next success uid record absent stored
    exact ((step_effect next success).added absent stored).elim

/-- A renewal writes the time that was asked for, within the window in force. -/
theorem renewAttestation_dated (stored : (ledger.sas.book uid).attestation = some old) :
    Yields (renewAttestation host env ledger uid expirationTime) fun result =>
      (result.2.sas.book uid).attestation = some new -> Extends old new ∧ new.expirationTime = expirationTime ∧
          WithinWindow (Registry.getMaxTtl (registryOf ledger.world) old.schemaUid) env.timestamp expirationTime := by
  intro result success current
  rcases renewAttestation_ok result success with ⟨record, state, found, prolongs, book, -, written⟩
  cases stored.symm.trans found
  rw [written] at current
  rw [book, Book.renew, update_self] at current
  cases current
  simp only [renewAttestation, renewRecord, bind_assoc, pure_bind, requireStored_eq_ok, and_assoc, requireRegistry,
    eq_ok, panicOn_eq_ok, validateExpiration_eq_ok] at success
  rcases success with ⟨-, -, record, -, read, -, -, -, -, -, -, named, configured, window, live, -⟩
  cases stored.symm.trans read
  cases bound.symm.trans configured
  exact ⟨.renew prolongs, rfl, withinWindow_of_checks consults live window⟩

end EntryPoints

/-! ## Between two writes -/

/-- A later version of the record with the same expiration time. -/
structure Retains (old new : Attestation) : Prop where
  keeps : Extends old new
  expirationTime : new.expirationTime = old.expirationTime

theorem Retains.refl (attestation : Attestation) : Retains attestation attestation := ⟨.refl attestation, rfl⟩

theorem Retains.trans {first middle last : Attestation} (one : Retains first middle)
    (two : Retains middle last) : Retains first last :=
  ⟨one.keeps.trans two.keeps, two.expirationTime.trans one.expirationTime⟩

section Operations

variable {upkeep : Upkeep -> Prop} {before after : Ledger W}

/-- Apart from renewals and removals, no operation changes an expiration time. -/
theorem Operation.retains (operation : Operation host crypto env upkeep asked before after)
    (idle : ∀ kind, ¬ upkeep kind) (stored : (before.sas.book uid).attestation = some old) :
    ∃ new, (after.sas.book uid).attestation = some new ∧ Retains old new := by
  have unchanged (same : after.sas.book = before.sas.book) :
      ∃ new, (after.sas.book uid).attestation = some new ∧ Retains old new := ⟨old, same ▸ stored, .refl old⟩
  cases operation with
  | write state same | reindex indexer target record state bound found accepted same => exact unchanged same.book
  | external | replaced => exact unchanged rfl
  | renew target record expirationTime state found prolongs allowed
  | prune target record state found expired allowed => exact absurd allowed (idle _)
  | issue payload result success =>
    exact ⟨old, (attestInternal_ok success).2.keeps stored, .refl old⟩
  | revoke target state success =>
    rcases (revokeInternal_ok success).revocable with ⟨record, found, revocable, unrevoked, -, book⟩
    rw [book]
    by_cases same : uid = target
    · subst same
      cases stored.symm.trans found
      exact ⟨_, Book.revoke_self _ env uid old, .revoke revocable unrevoked env.timestamp, rfl⟩
    · refine ⟨old, ?_, .refl old⟩
      rw [Book.revoke, update_of_ne same]
      exact stored

theorem Operations.retains (operations : Operations host crypto env upkeep asked before after)
    (idle : ∀ kind, ¬ upkeep kind) (stored : (before.sas.book uid).attestation = some old) :
    ∃ new, (after.sas.book uid).attestation = some new ∧ Retains old new := by
  induction operations with
  | refl => exact ⟨old, stored, .refl old⟩
  | tail _ operation ih =>
    rcases ih with ⟨halfway, current, near⟩
    rcases operation.retains idle current with ⟨new, found, further⟩
    exact ⟨new, found, near.trans further⟩

end Operations

/-- What remains of a record that is stored before and after a call, unless it was renewed. -/
theorem step_retains {call : Call} (unrenewed : ∀ expirationTime, call ≠ .renewAttestation uid expirationTime)
    (stored : (ledger.sas.book uid).attestation = some old) : Yields (step host crypto ledger (env, call)) fun next =>
      (next.sas.book uid).attestation = some new -> Retains old new := by
  intro next success current
  have retained (known : ∃ kept, (next.sas.book uid).attestation = some kept ∧ Retains old kept) :
      Retains old new := by
    rcases known with ⟨kept, found, retains⟩
    cases current.symm.trans found
    exact retains
  by_cases configures : call.configures = true
  · have quiet := step_configures configures next success
    rw [book_congr quiet.records] at current
    cases stored.symm.trans current
    exact .refl old
  have operations := step_operations (Bool.not_eq_true _ |>.mp configures) next success
  cases call with
  | pruneExpired =>
    simp only [step, locallyWith, eq_ok] at success
    rcases success with ⟨result, pruned, rfl⟩
    rw [← (pruneExpired_eq_ok.mp pruned).2.2.2] at current
    cases stored.symm.trans (foldl_pruneStored_stored.mp current).1
    exact .refl old
  | renewAttestation target expirationTime =>
    simp only [step, ledgerOf, eq_ok] at success
    rcases success with ⟨result, renewed, rfl⟩
    rcases renewAttestation_ok result renewed with ⟨record, state, -, -, book, -, written⟩
    have other : uid ≠ target := by
      rintro rfl
      exact unrenewed expirationTime rfl
    rw [written] at current
    rw [book, Book.renew, update_of_ne other] at current
    cases stored.symm.trans current
    exact .refl old
  | _ =>
    refine retained (operations.retains ?_ stored)
    intro kind allowed
    cases kind <;> exact allowed

/-! ## Runs -/

variable (host crypto)

/-- The call stores a record under a UID that had none. -/
def Creates (uid : UID) (ledger : Ledger W) (move : Move W) : Prop :=
  ∃ env call next, move = .call env call ∧ step host crypto ledger (env, call) = .ok next ∧
    recordOf ledger.sas uid = none ∧ recordOf next.sas uid ≠ none

def Renews (uid : UID) (ledger : Ledger W) (move : Move W) : Prop :=
  ∃ env expirationTime next, move = .call env (.renewAttestation uid expirationTime) ∧
    step host crypto ledger (env, .renewAttestation uid expirationTime) = .ok next

/-- The call stores a payload under its UID, having put it to `attest_internal` in `current`. -/
def Originates (ledger : Ledger W) (move : Move W) (env : Env) (current : Ledger W) (payload : Attestation) : Prop :=
  ∃ call next, move = .call env call ∧ step host crypto ledger (env, call) = .ok next ∧
    Submits host crypto env ledger call current payload ∧ recordOf ledger.sas payload.uid = none ∧
    recordOf next.sas payload.uid = some (stamp env payload)

/-- The call issues the record, in compliance with the policy of its schema at that moment. -/
def IssuesInCompliance (registryOf : W -> Registry.State)
    (uid schemaUid : UID) (revocable : Bool) (ledger : Ledger W) (move : Move W) : Prop :=
  ∃ env current payload, Originates host crypto ledger move env current payload ∧
    payload.uid = uid ∧ payload.schemaUid = schemaUid ∧ payload.revocable = revocable ∧
    Complies (Registry.getSchemaPolicy (registryOf current.world) schemaUid) revocable

/-- The call issues or renews the record with this expiration time, within the maximum window of
its schema at that moment. -/
def DatesWithinWindow (registryOf : W -> Registry.State)
    (uid schemaUid : UID) (expirationTime : UInt64) (ledger : Ledger W) (move : Move W) : Prop :=
  (∃ env current payload, Originates host crypto ledger move env current payload ∧
    payload.uid = uid ∧ payload.schemaUid = schemaUid ∧ payload.expirationTime = expirationTime ∧
    WithinWindow (Registry.getMaxTtl (registryOf current.world) schemaUid) env.timestamp expirationTime) ∨
  ∃ env next, move = .call env (.renewAttestation uid expirationTime) ∧
    step host crypto ledger (env, .renewAttestation uid expirationTime) = .ok next ∧
    WithinWindow (Registry.getMaxTtl (registryOf ledger.world) schemaUid) env.timestamp
      expirationTime

/-- How a stored record has come about. -/
structure Traced (registryOf : W -> Registry.State)
    (start : Ledger W) (moves : List (Move W)) (uid : UID) (record : Attestation) : Prop where
  issued : OccursSince (advance host crypto) start
    (IssuesInCompliance host crypto registryOf uid record.schemaUid record.revocable) (Creates host crypto uid) moves
  dated : OccursSince (advance host crypto) start
    (DatesWithinWindow host crypto registryOf uid record.schemaUid record.expirationTime)
    (fun ledger move => Creates host crypto uid ledger move ∨ Renews host crypto uid ledger move) moves

variable {host crypto}

theorem not_creates_of_stored (stored : recordOf ledger.sas uid = some record) :
    ¬ Creates host crypto uid ledger move := by
  rintro ⟨env, call, next, -, -, absent, -⟩
  cases stored.symm.trans absent

theorem Traced.extend (traced : Traced host crypto registryOf start moves uid old) (retains : Retains old new)
    (uncreated : ¬ Creates host crypto uid (run (advance host crypto) start moves) move)
    (unrenewed : ¬ Renews host crypto uid (run (advance host crypto) start moves) move) :
    Traced host crypto registryOf start (moves ++ [move]) uid new where
  issued := by
    rw [retains.keeps.schemaUid, retains.keeps.revocable]
    exact traced.issued.extend uncreated
  dated := by
    rw [retains.keeps.schemaUid, retains.expirationTime]
    exact traced.dated.extend (not_or.mpr ⟨uncreated, unrenewed⟩)

theorem traced_of_created {call : Call} (consults : Consults host registry registryOf)
    (opened : Opened registry (run (advance host crypto) start moves).sas)
    (success : step host crypto (run (advance host crypto) start moves) (env, call) = .ok next)
    (absent : recordOf (run (advance host crypto) start moves).sas uid = none)
    (stored : recordOf next.sas uid = some record) :
    Traced host crypto registryOf start (moves ++ [.call env call]) uid record := by
  rcases step_sourced consults opened.bound next success uid record absent stored with
    ⟨current, payload, submits, rfl, vetted⟩
  have own : (stamp env payload).uid = uid := Slot.uid_of_content stored
  subst own
  have origin : Originates host crypto (run (advance host crypto) start moves) (.call env call) env
      current payload := ⟨call, next, rfl, success, submits, absent, stored⟩
  exact ⟨occursSince_last ⟨env, current, payload, origin, rfl, rfl, rfl, vetted.policy⟩,
    occursSince_last (.inl ⟨env, current, payload, origin, rfl, rfl, rfl, vetted.window⟩)⟩

theorem Traced.call {start : Ledger W} {call : Call}
    (traced : Traced host crypto registryOf start moves uid old) (consults : Consults host registry registryOf)
    (opened : Opened registry (run (advance host crypto) start moves).sas)
    (success : step host crypto (run (advance host crypto) start moves) (env, call) = .ok next)
    (stored : recordOf (run (advance host crypto) start moves).sas uid = some old)
    (current : recordOf next.sas uid = some new) :
    Traced host crypto registryOf start (moves ++ [.call env call]) uid new := by
  have uncreated : ¬ Creates host crypto uid (run (advance host crypto) start moves)
      (.call env call) := not_creates_of_stored stored
  by_cases renewal : ∃ expirationTime, call = .renewAttestation uid expirationTime
  · rcases renewal with ⟨expirationTime, rfl⟩
    have renewed := success
    simp only [step, ledgerOf, eq_ok] at renewed
    rcases renewed with ⟨result, renewed, rfl⟩
    rcases renewAttestation_dated consults opened.bound stored result renewed current with ⟨keeps, rfl, window⟩
    refine ⟨?_, ?_⟩
    · rw [keeps.schemaUid, keeps.revocable]
      exact traced.issued.extend uncreated
    · rw [← keeps.schemaUid] at window
      exact occursSince_last (.inr ⟨env, _, rfl, success, window⟩)
  · have other : ∀ expirationTime, call ≠ .renewAttestation uid expirationTime :=
      fun expirationTime same => renewal ⟨expirationTime, same⟩
    refine traced.extend (step_retains other stored next success current) uncreated ?_
    rintro ⟨env, expirationTime, after, same, -⟩
    cases same
    exact other expirationTime rfl

theorem Traced.aborted {failure : Trap} (traced : Traced host crypto registryOf start moves uid record)
    (failed : advance host crypto (run (advance host crypto) start moves) move = .error failure) :
    Traced host crypto registryOf start (moves ++ [move]) uid record := by
  refine traced.extend (.refl record) ?_ ?_
  · rintro ⟨env, call, next, rfl, success, -⟩
    cases failed.symm.trans success
  · rintro ⟨env, expirationTime, next, rfl, success⟩
    cases failed.symm.trans success

/-- After these moves the registry is bound, and every record is traced. -/
def TracedAfter (host : Host W) (crypto : Crypto) (registry : Address)
    (registryOf : W -> Registry.State) (start : Ledger W) (moves : List (Move W)) (ledger : Ledger W) : Prop :=
  Opened registry ledger.sas ∧ ∀ uid record, recordOf ledger.sas uid = some record ->
    Traced host crypto registryOf start moves uid record

theorem traced_run (consults : Consults host registry registryOf)
    (opened : Opened registry start.sas) (empty : ∀ uid, recordOf start.sas uid = none) (moves : List (Move W)) :
    TracedAfter host crypto registry registryOf start moves (run (advance host crypto) start moves) := by
  refine trail_invariant ?_ ?_ ?_ (admissible_true start moves)
  · refine ⟨opened, fun uid record stored => ?_⟩
    cases (empty uid).symm.trans stored
  · rintro moves move next ⟨bound, traced⟩ - success
    cases move with
    | outside =>
      cases success
      refine ⟨bound, fun uid record stored => ?_⟩
      refine (traced uid record stored).extend (.refl record) ?_ ?_
      · rintro ⟨env, call, next, same, -⟩
        cases same
      · rintro ⟨env, expirationTime, next, same, -⟩
        cases same
    | call =>
      refine ⟨step_opened bound next success, fun uid record current => ?_⟩
      cases stored : recordOf (run (advance host crypto) start moves).sas uid with
      | none => exact traced_of_created consults bound success stored current
      | some old => exact (traced uid old stored).call consults bound success stored current
  · rintro moves move failure ⟨bound, traced⟩ failed
    exact ⟨bound, fun uid record stored => (traced uid record stored).aborted failed⟩

theorem init_ok {admin : Address} : Yields (init host env ledger admin registry) fun state =>
      Opened registry state ∧ state.records = ledger.sas.records :=
  .skip4 <| .pure ⟨⟨rfl, Option.some_ne_none admin⟩, rfl⟩

/-- Every record stored at any point of a run from `init` is well formed, was issued in compliance
with the revocation policy of its schema, and got its expiration time within the maximum window of
its schema. -/
theorem stored_records_well_formed (host : Host W) (crypto : Crypto) (registry : Address)
    (registryOf : W -> Registry.State) (consults : Consults host registry registryOf)
    (opening : Env) (world : W) (admin : Address) (initial : State)
    (initialised : init host opening ⟨deployed, world⟩ admin registry = .ok initial)
    (moves : List (Move W)) (uid : UID) (record : Attestation)
    (stored : recordOf (run (advance host crypto) ⟨initial, world⟩ moves).sas uid = some record) :
    Attestation.WellFormed crypto record ∧ Traced host crypto registryOf ⟨initial, world⟩ moves uid record := by
  rcases init_ok initial initialised with ⟨opened, blank⟩
  have empty (target : UID) : recordOf initial target = none := by
    rw [recordOf, blank]
    rfl
  constructor
  · have preserved (ledger : Ledger W) (move : Move W) (next : Ledger W)
        (wellFormed : ledger.sas.book.WellFormed crypto) (_ : True)
        (success : advance host crypto ledger move = .ok next) :
        next.sas.book.WellFormed crypto := advance_wellFormed success wellFormed
    have sound : initial.book.WellFormed crypto := by
      intro target attestation found
      cases (empty target).symm.trans found
    exact run_invariant preserved sound (admissible_true _ moves) uid record stored
  · exact (traced_run consults opened empty moves).2 uid record stored

end Registries

open Address (accountOfNat)
open Registry (okSchemaUid calledBy)

/-- The schema of account 2 allows a window of 1000 seconds. -/
def okBounded : Registry.State :=
  run (Registry.step lifecycleCrypto) Registry.State.deployed
    [calledBy 1 (.init (accountOfNat 1)),
      calledBy 2 (.registerWithTtl (accountOfNat 2) (ascii "bool ok") (.contract 9) true 1000)]

/-- The service after `init`. -/
def okInitial : State :=
  { deployed with
    admin := some (accountOfNat 1)
    registry := some (.contract 7)
    version := some 1 }

set_option maxRecDepth 1000

/-- Account 2 answers until time 150 and renews the answer until time 500. -/
def okRenewed : List (Move Registry.State) :=
  [.call (signedAt [2] 100) (.attest { okAnswer true with expirationTime := 150 }),
    .call (signedAt [2] 120) (.renewAttestation (okAnswer true).uid 500)]

theorem stored_records_well_formed_renewed :
    let record := { stamp (signedAt [2] 100) (okAnswer true) with expirationTime := 500 }
    recordOf (run (advance registryHost lifecycleCrypto) ⟨okInitial, okBounded⟩
        okRenewed).sas (okAnswer true).uid = some record ∧ Attestation.WellFormed lifecycleCrypto record ∧
      Traced registryHost lifecycleCrypto id ⟨okInitial, okBounded⟩ okRenewed (okAnswer true).uid
        record := by
  intro record
  have stored : recordOf (run (advance registryHost lifecycleCrypto) ⟨okInitial, okBounded⟩
      okRenewed).sas (okAnswer true).uid = some record := rfl
  exact ⟨stored, stored_records_well_formed registryHost lifecycleCrypto (.contract 7) id
    ⟨fun _ _ => rfl, fun _ _ => rfl⟩ (signedAt [1] 100) okBounded (accountOfNat 1) okInitial rfl
    okRenewed (okAnswer true).uid record stored⟩

end SorobanSas.Sas
