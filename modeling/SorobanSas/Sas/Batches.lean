import SorobanSas.Library.Batch
import SorobanSas.Sas.Anchors
import SorobanSas.Sas.Pause
import SorobanSas.Sas.Threshold

namespace SorobanSas.Sas

open Library List

/-!
# Batches and single calls

`multi_attest`, `multi_attest_by_delegation`, `multi_revoke` and `multi_revoke_by_delegation`
do what `attest`, `attest_by_delegation`, `revoke` and `revoke_by_delegation` do for each item
in turn, and publish one more event at the end.

The issuing batches hold the guard throughout, where the single calls take and release it each
time.  The revoking batches check all items before they revoke the first one, where the single
calls check each item after its predecessors have been revoked.  Neither makes a difference:
a revocation uses up nothing that a later check asks for except the item itself and the nonces of
its attester, and both are checked again when it is carried out.
-/

variable {W : Type} {host : Host W} {crypto : Crypto} {env : Env} {ledger current next : Ledger W}
  {attestation : Attestation} {attester : Address} {nonce : UInt64} {signature : BytesN 64}
  {publicKey : BytesN 32} {uid schemaUid : UID} {state : State} {uids : List UID} {result : List UID × Ledger W}
  {item : RevocationItem} {last : Ledger W}

/-! ## The guard -/

def raiseResult (result : UID × Ledger W) : UID × Ledger W := (result.1, result.2.raised)

/-- Nested in a batch, `attest_internal` does what it does alone, except that it leaves the
guard up. -/
theorem attestInternal_raised (ledger : Ledger W) (unguarded : ledger.sas.guard = false) :
    attestInternal host crypto env ledger.raised attestation =
      (attestInternal host crypto env ledger attestation).map raiseResult := by
  have entered : recordAttestation host crypto env ledger.raised attestation =
      recordAttestation host crypto env ledger attestation := rfl
  rw [attestInternal, entered]
  refine bind_map_congr fun recorded written => bind_map_congr fun notified told => ?_
  rcases notifyIssuance_frame _ _ notified told with ⟨⟨events, same⟩, -⟩
  have raised : notified.sas.guard = true := by rw [same]; exact recordAttestation_guard recorded written
  simp [exitCallbackContext, ownsGuard, Ledger.raised, raiseResult, State.publish, unguarded, raised,
    pure, Except.pure, Except.map]

theorem attestItem_raised (unguarded : ledger.sas.guard = false) :
    attestItem host crypto env ledger.raised attestation =
      (attestItem host crypto env ledger attestation).map raiseResult :=
  bind_map_congr fun _ _ => bind_map_congr fun _ _ => attestInternal_raised ledger unguarded

theorem consuming_raised (unguarded : ledger.sas.guard = false) :
    (consumeDelegationNonce ledger.raised.sas attester nonce >>= fun consumed =>
        attestInternal host crypto env { ledger.raised with sas := consumed } attestation) =
      (consumeDelegationNonce ledger.sas attester nonce >>= fun consumed =>
        attestInternal host crypto env { ledger with sas := consumed } attestation).map raiseResult := by
  simp only [consumeDelegationNonce, bind_assoc, pure_bind]
  refine bind_map_congr fun _ _ => ?_
  exact attestInternal_raised { ledger with sas := { ledger.sas with
    delegationNonces := update ledger.sas.delegationNonces attester (some nonce) } }
    unguarded

theorem attestDelegated_raised (unguarded : ledger.sas.guard = false) :
    attestDelegated host crypto env ledger.raised attestation nonce signature publicKey =
      (attestDelegated host crypto env ledger attestation nonce signature publicKey).map raiseResult :=
  bind_map_congr fun _ _ => bind_map_congr fun _ _ => bind_map_congr fun _ _ =>
    bind_map_congr fun _ _ => bind_map_congr fun _ _ => bind_map_congr fun _ _ =>
    consuming_raised unguarded

/-! ## Issuing batches -/

/-- Open for calls, with no call in progress. -/
structure Idle (state : State) : Prop where
  unguarded : state.guard = false
  idle : state.callDepth = 0
  unpaused : state.paused = false

theorem Idle.of_frame {before after : State} (idle : Idle before) (frame : Frame before after) : Idle after := by
  rcases frame with ⟨_, _, _, rfl⟩
  exact ⟨idle.unguarded, idle.idle, idle.unpaused⟩

theorem Idle.rejectReentrant (idle : Idle state) : rejectReentrant state = .ok () :=
  require_eq_ok.mpr ⟨idle.unguarded, idle.idle⟩

theorem Idle.requireUnpaused (idle : Idle state) (failure : SASError) : requireUnpaused state failure = .ok () :=
  require_eq_ok.mpr idle.unpaused

theorem attest_of_idle (idle : Idle ledger.sas) :
    attest host crypto env ledger attestation = attestItem host crypto env ledger attestation := by
  rw [attest, idle.rejectReentrant, idle.requireUnpaused]
  rfl

theorem attestByDelegation_of_idle (idle : Idle ledger.sas) :
    attestByDelegation host crypto env ledger attestation nonce signature publicKey =
      attestDelegated host crypto env ledger attestation nonce signature publicKey := by
  rw [attestByDelegation, idle.rejectReentrant, idle.requireUnpaused]
  rfl

/-- Progress through a batch, with the guard raised. -/
def raiseProgress (issued : List UID × Ledger W) : List UID × Ledger W := (issued.1, issued.2.raised)

/-- The single calls, one after another, with the UIDs they return. -/
def oneByOne {ι : Type} (single : Ledger W -> ι -> Except Trap (UID × Ledger W))
    (ledger : Ledger W) (items : List ι) : Except Trap (List UID × Ledger W) :=
  collectAll single items ([], ledger)

def Ledger.publish (ledger : Ledger W) (event : Event) : Ledger W := { ledger with sas := ledger.sas.publish event }

section Items

variable {ι : Type} {issue single : Ledger W -> ι -> Except Trap (UID × Ledger W)} {items : List ι}
  {issued : List UID × Ledger W}

theorem length_oneByOne (issued : oneByOne single ledger items = .ok (uids, last)) : uids.length = items.length := by
  suffices general : ∀ start : List UID × Ledger W, Yields
      (collectAll single items start)
      (fun result => result.1.length = start.1.length + items.length) by
    simpa using general ([], ledger) (uids, last) issued
  clear issued
  induction items with
  | nil => exact fun _ => .pure (by simp)
  | cons item rest hyp =>
    intro start
    rw [collectAll, foldlM_cons]
    have turn : Yields (collect start fun current => single current item)
        fun next => next.1.length = start.1.length + 1 := .skip <| .pure (by simp)
    refine .bind fun next issued => (hyp next).mono fun result total => ?_
    rw [total, turn next issued, length_cons]
    omega

theorem oneByOne_first (nonempty : items.length ≠ 0) (success : oneByOne single ledger items = .ok result) :
    ∃ item issued, single ledger item = .ok issued := by
  rcases foldlM_first (List.length_pos_iff.mp (Nat.pos_of_ne_zero nonempty)) success with ⟨item, next, first⟩
  simp only [collect, bind_eq_ok] at first
  rcases first with ⟨issued, done, -⟩
  exact ⟨item, issued, done⟩

theorem closeBatch_raised (idle : Idle issued.2.sas) (count : Nat) : closeBatch (raiseProgress issued) count =
      (issued.1, issued.2.publish (.batchAttested issued.1.length count)) := by
  simp [closeBatch, raiseProgress, Ledger.raised, Ledger.publish, State.publish, exitReentrancyGuard, idle.unguarded]

variable (raised : ∀ ledger item, ledger.sas.guard = false ->
    issue ledger.raised item = (issue ledger item).map raiseResult)
  (opened : ∀ ledger item, Idle ledger.sas -> single ledger item = issue ledger item)
  (kept : ∀ ledger item, Idle ledger.sas -> Yields (issue ledger item) (fun result => Idle result.2.sas))

include opened kept

theorem collect_idle {next : List UID × Ledger W} {item : ι} (idle : Idle issued.2.sas)
    (success : (collect issued fun current => single current item) = .ok next) : Idle next.2.sas := by
  simp only [collect, eq_ok, opened _ _ idle] at success
  rcases success with ⟨result, done, rfl⟩
  exact kept issued.2 item idle result done

include raised

/-- The loop of a batch is that of the single calls, with the guard raised. -/
theorem collectAll_raised (idle : Idle issued.2.sas) :
    collectAll issue items (raiseProgress issued) = (collectAll single items issued).map raiseProgress := by
  refine foldlM_lift (fun _ _ _ => collect_idle opened kept) (fun state item idle => ?_) items idle
  simp only [collect, opened _ _ idle]
  change (issue state.2.raised item >>= _) = _
  rw [raised _ _ idle.unguarded]
  cases issue state.2 item <;> rfl

theorem batch_iff (idle : Idle ledger.sas) (count : Nat) (uids : List UID) (after : Ledger W) :
    (collectAll issue items ([], ledger.raised) >>= fun issued => pure (closeBatch issued count)) =
        .ok (uids, after) ↔
      ∃ last, oneByOne single ledger items = .ok (uids, last) ∧
        after = last.publish (.batchAttested items.length count) := by
  have start : Idle (([], ledger) : List UID × Ledger W).2.sas := idle
  have loop : collectAll issue items ([], ledger.raised) = (oneByOne single ledger items).map raiseProgress :=
    collectAll_raised raised opened kept start
  rw [loop]
  cases outcome : oneByOne single ledger items with
  | error failure => simp [Except.map, bind, Except.bind]
  | ok issued =>
    have still : Idle issued.2.sas :=
      foldlM_related (fun first last : List UID × Ledger W => Idle first.2.sas ->
        Idle last.2.sas) ⟨fun _ => id, fun one two start => two (one start)⟩
        (fun _ _ _ _ success start => collect_idle opened kept start success) outcome idle
    rcases issued with ⟨issued, last⟩
    change (pure (closeBatch (raiseProgress (issued, last)) count) : Except Trap _) = _ ↔ _
    rw [closeBatch_raised still, length_oneByOne outcome]
    simp only [pure_eq_ok, Prod.mk.injEq, Except.ok.injEq]
    constructor
    · rintro ⟨rfl, rfl⟩
      exact ⟨last, ⟨rfl, rfl⟩, rfl⟩
    · rintro ⟨_, ⟨rfl, rfl⟩, rfl⟩
      exact ⟨rfl, rfl⟩

end Items

theorem attestItem_idle (idle : Idle ledger.sas) :
    Yields (attestItem host crypto env ledger attestation) fun result => Idle result.2.sas :=
  .skip2 <| fun _ success => idle.of_frame (attestInternal_ok success).2.frame

theorem consumeDelegationNonce_idle (idle : Idle state) : Yields (consumeDelegationNonce state attester nonce) Idle :=
  .skip <| .pure ⟨idle.unguarded, idle.idle, idle.unpaused⟩

theorem attestDelegated_idle (idle : Idle ledger.sas) :
    Yields (attestDelegated host crypto env ledger attestation nonce signature publicKey)
      fun result => Idle result.2.sas := .skip4 <| .skip2 <| .bind fun consumed spent => fun _ success =>
      (consumeDelegationNonce_idle idle consumed spent).of_frame (attestInternal_ok success).2.frame

theorem multiAttest_iff {attestations : List Attestation} (idle : Idle ledger.sas)
    (small : attestations.length <= maxMultiAttest) (uids : List UID) (after : Ledger W) :
    multiAttest host crypto env ledger attestations = .ok (uids, after) ↔
      ∃ last, oneByOne (attest host crypto env) ledger attestations = .ok (uids, last) ∧
        after = last.publish (.batchAttested attestations.length (distinctCount (attestations.map (·.attester)))) := by
  rw [multiAttest, idle.requireUnpaused, enterReentrancyGuard]
  simp only [require, if_pos small, if_pos idle.unguarded]
  exact batch_iff (fun _ _ => attestItem_raised) (fun _ _ => attest_of_idle)
    (fun _ _ => attestItem_idle) idle _ uids after

theorem delegatedItems_map (items : List DelegatedItem) :
    delegatedItems (items.map (·.attestation)) (items.map (·.nonce)) (items.map (·.signature))
      (items.map (·.publicKey)) = items := by
  induction items with
  | nil => rfl
  | cons item rest ih => simp only [map_cons, delegatedItems, ih]

theorem multiAttestByDelegation_iff {items : List DelegatedItem} (idle : Idle ledger.sas)
    (small : items.length <= maxMultiAttest) (uids : List UID) (after : Ledger W) :
    multiAttestByDelegation host crypto env ledger (items.map (·.attestation))
        (items.map (·.nonce)) (items.map (·.signature)) (items.map (·.publicKey)) = .ok (uids, after) ↔
      ∃ last, oneByOne (fun current (item : DelegatedItem) => attestByDelegation host crypto env
          current item.attestation item.nonce item.signature item.publicKey) ledger items = .ok (uids, last) ∧
        after = last.publish (.batchAttested items.length (distinctCount (items.map (·.attestation.attester)))) := by
  rw [multiAttestByDelegation, idle.requireUnpaused, enterReentrancyGuard, delegatedItems_map]
  simp only [require, length_map, if_pos small, if_pos idle.unguarded, and_self, if_true, map_map]
  exact batch_iff (fun _ _ => attestDelegated_raised) (fun _ _ => attestByDelegation_of_idle)
    (fun _ _ => attestDelegated_idle) idle _ uids after

/-! ## Revoking batches -/

/-- What revocations leave as it was, from the first check of a batch to its last item. -/
structure Withdrawing (host : Host W) (env : Env) (ledger current : Ledger W) : Prop where
  idle : Idle current.sas
  standing : Standing ledger.sas current.sas
  world : Callbacks host env ledger.world current.world
  records : Accretes ledger.sas.book current.sas.book
  absent : ∀ uid, (ledger.sas.book uid).attestation = none -> (current.sas.book uid).attestation = none
  layout : ∀ uid, (current.sas.records uid).isLegacy = (ledger.sas.records uid).isLegacy
  nonces : ∀ attester nonce, freshNonce (current.sas.delegationNonces attester) nonce = true ->
      freshNonce (ledger.sas.delegationNonces attester) nonce = true

/-- Callbacks leave alone which groups the registry declares. -/
def KeepsGroups (host : Host W) (env : Env) : Prop :=
  ∀ before after, Callbacks host env before after -> ∀ registry schemaUid,
    host.getSchemaFrostGroup after registry schemaUid = host.getSchemaFrostGroup before registry schemaUid

namespace Withdrawing

theorem refl (idle : Idle ledger.sas) : Withdrawing host env ledger ledger :=
  ⟨idle, .refl _, .refl, .refl _, fun _ => id, fun _ => rfl, fun _ _ => id⟩

theorem freshNonce_of_consumed {last : Option UInt64} {nonce later : UInt64}
    (fresh : freshNonce last nonce = true) (above : freshNonce (some nonce) later = true) :
    freshNonce last later = true := by
  cases last with
  | none => rfl
  | some watermark =>
    simp only [freshNonce, decide_eq_true_eq] at fresh above ⊢
    exact UInt64.lt_trans fresh above

variable (withdrawing : Withdrawing host env ledger current)

include withdrawing

/-- A record is there before and after, by the same attester and under the same schema. -/
theorem stored {record : Attestation} (found : recordOf current.sas uid = some record) :
    ∃ old, recordOf ledger.sas uid = some old ∧ Extends old record := by
  cases present : recordOf ledger.sas uid with
  | none => cases (withdrawing.absent uid present).symm.trans found
  | some old =>
    rcases withdrawing.records uid old present with ⟨new, kept, extends'⟩
    cases kept.symm.trans found
    exact ⟨old, rfl, extends'⟩

theorem revoked (success : revokeInternal host env current uid = .ok next) : Withdrawing host env ledger next := by
  have revoked := revokeInternal_ok success
  have revises : Revises host env False current next := revoked.revises
  have frame := revoked.frame
  rcases revoked.revocable with ⟨record, found, revocable, unrevoked, -, book⟩
  exact {
    idle := withdrawing.idle.of_frame frame
    standing := withdrawing.standing.trans frame.kept.standing
    world := withdrawing.world.trans revoked.world
    records := withdrawing.records.trans (book ▸ .revoke found revocable unrevoked)
    absent := fun uid absent => absent_of_revisions revises.book (withdrawing.absent uid absent)
    layout := fun uid => (revoked.layout uid).trans (withdrawing.layout uid)
    nonces := by
      rcases frame with ⟨_, _, _, same⟩
      rw [same]
      exact withdrawing.nonces }

theorem consumed {consumed : State} (success : consumeDelegationNonce current.sas attester nonce = .ok consumed) :
    Withdrawing host env ledger { current with sas := consumed } := by
  have unchanged := (consumeDelegationNonce_quiet success current.world).records
  have same := book_congr unchanged
  have idle := consumeDelegationNonce_idle withdrawing.idle consumed success
  have standing := consumeDelegationNonce_standing consumed success
  refine ⟨idle, withdrawing.standing.trans standing, withdrawing.world, ?_, ?_, ?_, ?_⟩
  · exact same ▸ withdrawing.records
  · exact same ▸ withdrawing.absent
  · exact fun uid => (congrArg (fun records => (records uid).isLegacy) unchanged).trans (withdrawing.layout uid)
  · simp only [consumeDelegationNonce, eq_ok] at success
    rcases success with ⟨fresh, rfl⟩
    intro other later above
    by_cases own : other = attester
    · subst own
      simp only [update_self] at above
      exact withdrawing.nonces other later (freshNonce_of_consumed fresh above)
    · simp only [update_of_ne own] at above
      exact withdrawing.nonces other later above

/-- The checks of `revoke_internal` would have passed in the first state too. -/
theorem revocable (success : revokeInternal host env current uid = .ok next) :
    ∃ old, requireStored ledger.sas uid = .ok old ∧ requireRevocable old = .ok () := by
  have revoked := revokeInternal_ok success
  rcases revoked.revocable with ⟨record, found, revocable, unrevoked, -⟩
  rcases withdrawing.stored found with ⟨old, present, keeps⟩
  have compact := (withdrawing.layout uid).symm.trans revoked.compact
  refine ⟨old, requireStored_eq_ok.mpr ⟨compact, present⟩, ?_⟩
  simp only [requireRevocable, eq_ok]
  refine ⟨keeps.revocable.symm.trans revocable, Decidable.of_not_not fun early => ?_⟩
  exact early ((keeps.revoked early).symm.trans unrevoked)

theorem schemaFrostGroup_eq (steady : KeepsGroups host env) :
    schemaFrostGroup host current schemaUid = schemaFrostGroup host ledger schemaUid := by
  have same : current.sas.registry = ledger.sas.registry := congrArg Settings.registry withdrawing.standing.settings
  simp only [schemaFrostGroup, requireRegistry, same, steady ledger.world current.world withdrawing.world]

theorem requireDelegationKey_eq (steady : KeepsGroups host env) :
    requireDelegationKey host current schemaUid attester publicKey =
      requireDelegationKey host ledger schemaUid attester publicKey := by
  have registered : registeredKeyMatches current.sas attester publicKey =
      registeredKeyMatches ledger.sas attester publicKey := by
    rw [registeredKeyMatches, registeredKeyMatches, withdrawing.standing.keys]
  have bound (group : Option FrostGroup) : bindDelegationKey current.sas group attester publicKey =
      bindDelegationKey ledger.sas group attester publicKey := by
    cases group with
    | some group => rfl
    | none => simp only [bindDelegationKey, requireAttesterKey, registered]
  simp only [requireDelegationKey, withdrawing.schemaFrostGroup_eq steady, bound]

/-- With a nonce that is still fresh, a signature is checked against the same things in either
state. -/
theorem verifyRevocation_eq {old record : Attestation} (steady : KeepsGroups host env) (keeps : Extends old record)
    (fresh : freshNonce (current.sas.delegationNonces record.attester) item.nonce = true) :
    verifyRevocation host crypto env current record item.uid item.nonce item.signature item.publicKey =
      verifyRevocation host crypto env ledger old item.uid item.nonce item.signature item.publicKey := by
  have now : requireNonceNotReplayed current.sas old.attester item.nonce = .ok () :=
    require_eq_ok.mpr (keeps.attester ▸ fresh)
  have before : requireNonceNotReplayed ledger.sas old.attester item.nonce = .ok () :=
    require_eq_ok.mpr (withdrawing.nonces old.attester item.nonce (keeps.attester ▸ fresh))
  rw [verifyRevocation, verifyRevocation, keeps.attester, keeps.schemaUid, now, before,
    withdrawing.requireDelegationKey_eq steady]

end Withdrawing

def Spent (ledger : Ledger W) (uid : UID) : Prop :=
  ∃ record, recordOf ledger.sas uid = some record ∧ record.revocationTime ≠ 0

section Loops

variable {ι : Type} {uidOf : ι -> UID} {body : Ledger W -> ι -> Except Trap (Ledger W)}
  {items : List ι} {last : Ledger W}

/-- A body that revokes the record of its item, after other writes perhaps. -/
def Withdraws (host : Host W) (env : Env) (uidOf : ι -> UID) (body : Ledger W -> ι -> Except Trap (Ledger W)) : Prop :=
  ∀ current item next, body current item = .ok next -> ∃ ready : Ledger W, ready.sas.book = current.sas.book ∧
      (∀ ledger, Withdrawing host env ledger current -> Withdrawing host env ledger ready) ∧
      revokeInternal host env ready (uidOf item) = .ok next

variable (withdraws : Withdraws host env uidOf body)

include withdraws

theorem Withdraws.preserves {item : ι} (withdrawing : Withdrawing host env ledger current)
    (success : body current item = .ok next) : Withdrawing host env ledger next := by
  rcases withdraws current item next success with ⟨ready, -, continues, revoked⟩
  exact (continues ledger withdrawing).revoked revoked

theorem Withdraws.loop (idle : Idle ledger.sas) (success : items.foldlM body ledger = .ok last) :
    Withdrawing host env ledger last := by
  refine foldlM_related (fun first last : Ledger W => Withdrawing host env ledger first ->
    Withdrawing host env ledger last) ⟨fun _ => id, fun one two start => two (one start)⟩ ?_
    success (.refl idle)
  intro item _ current next taken withdrawing
  exact withdraws.preserves withdrawing taken

/-- A revocation uses its record up. -/
theorem Withdraws.distinct (positive : env.timestamp ≠ 0)
    (success : items.foldlM body ledger = .ok last) : (items.map uidOf).Nodup := by
  have fresh (current : Ledger W) (item : ι) (next : Ledger W)
      (taken : body current item = .ok next) : ¬ Spent current (uidOf item) := by
    rintro ⟨record, found, revoked⟩
    rcases withdraws current item next taken with ⟨ready, same, -, done⟩
    rcases (revokeInternal_ok done).revocable with ⟨record', found', -, unrevoked, -⟩
    rw [same] at found'
    cases found.symm.trans found'
    exact revoked unrevoked
  refine (foldlM_nodup fresh ?_ ?_ items success).1
  · intro current item next taken
    rcases withdraws current item next taken with ⟨ready, -, -, done⟩
    rcases (revokeInternal_ok done).revocable with ⟨record, -, -, -, -, book⟩
    refine ⟨{ record with revocationTime := env.timestamp }, ?_, positive⟩
    change (next.sas.book (uidOf item)).attestation = _
    rw [book, Book.revoke_self]
  · rintro current item next other taken ⟨record, found, revoked⟩
    have distinct : other ≠ uidOf item := by
      rintro rfl
      exact fresh current item next taken ⟨record, found, revoked⟩
    rcases withdraws current item next taken with ⟨ready, same, -, done⟩
    rcases (revokeInternal_ok done).revocable with ⟨record', -, -, -, -, book⟩
    refine ⟨record, ?_, revoked⟩
    change (next.sas.book other).attestation = some record
    rw [book, Book.revoke, update_of_ne distinct, same]
    exact found

/-- Every record that the loop revokes could have been revoked in the first state. -/
theorem Withdraws.revocable (idle : Idle ledger.sas) (success : items.foldlM body ledger = .ok last)
    {item : ι} (member : item ∈ items) :
    ∃ old, requireStored ledger.sas (uidOf item) = .ok old ∧ requireRevocable old = .ok () := by
  rcases append_of_mem member with ⟨earlier, later, rfl⟩
  rcases foldlM_visits success with ⟨current, next, reached, taken⟩
  rcases withdraws current item next taken with ⟨ready, -, continues, done⟩
  exact (continues ledger (withdraws.loop idle reached)).revocable done

end Loops

theorem checkDistinct_from {ι : Type} {uidOf : ι -> UID} {check : ι -> Except Trap Unit}
    {items : List ι} (seen : List UID) : (∃ final, items.foldlM (fun seen item => do
        require (uidOf item ∉ seen) (Trap.contract .duplicateAttestation)
        check item
        return seen ++ [uidOf item]) seen = .ok final) ↔
      (items.map uidOf).Nodup ∧ ∀ item, item ∈ items -> uidOf item ∉ seen ∧ check item = .ok () := by
  induction items generalizing seen with
  | nil => simp
  | cons item rest ih =>
    simp only [foldlM_cons, eq_ok, map_cons, nodup_cons, forall_mem_cons]
    constructor
    · rintro ⟨final, _, ⟨fresh, checked, rfl⟩, loop⟩
      rcases (ih _).mp ⟨final, loop⟩ with ⟨distinct, others⟩
      refine ⟨⟨?_, distinct⟩, ⟨fresh, checked⟩, fun other member => ?_⟩
      · intro again
        rcases List.mem_map.mp again with ⟨other, member, same⟩
        exact (others other member).1 (mem_append_right _ (List.mem_singleton.mpr same))
      · exact ⟨fun early => (others other member).1 (mem_append_left _ early), (others other member).2⟩
    · rintro ⟨⟨single, distinct⟩, ⟨fresh, checked⟩, others⟩
      have remaining := (ih (seen ++ [uidOf item])).mpr ⟨distinct, fun other member => ?_⟩
      · rcases remaining with ⟨final, loop⟩
        exact ⟨final, _, ⟨fresh, checked, rfl⟩, loop⟩
      · refine ⟨fun early => ?_, (others other member).2⟩
        rcases List.mem_append.mp early with early | now
        · exact (others other member).1 early
        · exact single (List.mem_singleton.mp now ▸ mem_map_of_mem member)

/-- The first pass of a batch succeeds exactly if no UID occurs twice and every item passes. -/
theorem checkDistinct_ok {ι : Type} {uidOf : ι -> UID} {check : ι -> Except Trap Unit} {items : List ι} :
    (∃ seen, checkDistinct uidOf check items = .ok seen) ↔
      (items.map uidOf).Nodup ∧ ∀ item ∈ items, check item = .ok () := by
  rw [checkDistinct, checkDistinct_from]
  simp

theorem revokeInternal_withdraws : Withdraws host env id (revokeInternal host env) :=
  fun current _ _ success => ⟨current, rfl, fun _ => id, success⟩

/-- The recorded attester has authorised the call. -/
def AuthorizedBy (env : Env) (state : State) (uid : UID) : Prop :=
  ∃ record, recordOf state uid = some record ∧ env.authorized record.attester = true

theorem revoke_ok_iff : revoke host env ledger uid = .ok next ↔ (Idle ledger.sas ∧ AuthorizedBy env ledger.sas uid) ∧
        revokeInternal host env ledger uid = .ok next := by
  simp only [revoke, rejectReentrant, requireUnpaused, requireStored_eq_ok, AuthorizedBy, eq_ok, requireAuth_eq_ok]
  constructor
  · rintro ⟨unguarded, unpaused, record, ⟨-, found⟩, authorized, success⟩
    exact ⟨⟨⟨unguarded.1, unguarded.2, unpaused⟩, record, found, authorized⟩, success⟩
  · rintro ⟨⟨idle, record, found, authorized⟩, success⟩
    have compact := (revokeInternal_ok success).compact
    exact ⟨⟨idle.unguarded, idle.idle⟩, idle.unpaused, record, ⟨compact, found⟩, authorized, success⟩

/-- The single revocations succeed exactly if the loop does and all attesters have authorised
it. -/
theorem foldlM_revoke (idle : Idle ledger.sas) :
    uids.foldlM (revoke host env) ledger = .ok last ↔ (∀ uid ∈ uids, AuthorizedBy env ledger.sas uid) ∧
        uids.foldlM (revokeInternal host env) ledger = .ok last := by
  have preserved (current : Ledger W) (uid : UID) (next : Ledger W) (withdrawing : Withdrawing host env ledger current)
      (success : revokeInternal host env current uid = .ok next) :
      Withdrawing host env ledger next := withdrawing.revoked success
  refine foldlM_checked (fun _ _ _ => revoke_ok_iff) preserved ?_ uids (.refl idle)
  intro current uid next withdrawing success
  rcases (revokeInternal_ok success).revocable with ⟨record, found, -⟩
  rcases withdrawing.stored found with ⟨old, present, keeps⟩
  constructor
  · rintro ⟨-, record', found', authorized⟩
    cases found.symm.trans found'
    exact ⟨old, present, keeps.attester ▸ authorized⟩
  · rintro ⟨old', present', authorized⟩
    cases present.symm.trans present'
    exact ⟨withdrawing.idle, record, found, keeps.attester.symm ▸ authorized⟩

theorem mem_attestersOf {address : Address} : address ∈ attestersOf state uids ↔ ∃ uid, uid ∈ uids ∧ ∃ record,
      recordOf state uid = some record ∧ record.attester = address := by
  simp only [attestersOf, mem_filterMap, Option.map_eq_some_iff]

/-- If all records are there, their attesters have authorised the call exactly if the attester of
each one has. -/
theorem attesters_authorized_iff (stored : ∀ uid ∈ uids, ∃ record, recordOf state uid = some record) :
    (attestersOf state uids).dedup.forM (requireAuth env) = .ok () ↔ ∀ uid ∈ uids, AuthorizedBy env state uid := by
  simp only [forM_eq_ok, requireAuth_eq_ok, mem_dedup, mem_attestersOf]
  constructor
  · intro authorized uid member
    rcases stored uid member with ⟨record, found⟩
    exact ⟨record, found, authorized _ ⟨uid, member, record, found, rfl⟩⟩
  · rintro authorized address ⟨uid, member, record, found, rfl⟩
    rcases authorized uid member with ⟨record', found', permitted⟩
    cases found.symm.trans found'
    exact permitted

theorem multiRevoke_iff (idle : Idle ledger.sas) (small : uids.length <= maxMultiRevoke)
    (positive : env.timestamp ≠ 0) (after : Ledger W) :
    multiRevoke host env ledger uids = .ok after ↔ ∃ last, uids.foldlM (revoke host env) ledger = .ok last ∧
        after = last.publish (.batchRevoked uids.length (attestersOf ledger.sas uids).dedup.length) := by
  have withdraws : Withdraws host env id (revokeInternal host env) := revokeInternal_withdraws
  have stored {last : Ledger W} (loop : uids.foldlM (revokeInternal host env) ledger = .ok last)
      (uid : UID) (member : uid ∈ uids) :
      ∃ record, recordOf ledger.sas uid = some record := by
    rcases withdraws.revocable idle loop member with ⟨old, found, -⟩
    exact ⟨old, (requireStored_eq_ok.mp found).2⟩
  rw [multiRevoke, idle.rejectReentrant, idle.requireUnpaused]
  simp only [foldlM_revoke idle, eq_ok, true_and]
  constructor
  · rintro ⟨-, seen, -, authorized, revoked, loop, rfl⟩
    exact ⟨revoked, ⟨(attesters_authorized_iff (stored loop)).mp authorized, loop⟩, rfl⟩
  · rintro ⟨last, ⟨authorized, loop⟩, rfl⟩
    have first : (uids.map id).Nodup ∧ ∀ uid ∈ uids, (do
        let attestation <- requireStored ledger.sas uid
        requireRevocable attestation) = .ok () := by
      refine ⟨withdraws.distinct positive loop, fun uid member => ?_⟩
      rcases withdraws.revocable idle loop member with ⟨old, found, revocable⟩
      exact bind_eq_ok.mpr ⟨old, found, revocable⟩
    rcases checkDistinct_ok.mpr first with ⟨seen, checked⟩
    exact ⟨small, seen, checked, (attesters_authorized_iff (stored loop)).mpr authorized, last, loop, rfl⟩

/-! ### By delegation -/

/-- The second pass of `multi_revoke_by_delegation`, for one item. -/
theorem revokeItem_withdraws : Withdraws host env RevocationItem.uid (revokeItem host env) := by
  intro current item next success
  simp only [revokeItem, revokeConsuming, bind_eq_ok] at success
  rcases success with ⟨record, -, consumed, spent, revoked⟩
  exact ⟨{ current with sas := consumed }, book_congr (consumeDelegationNonce_quiet spent current.world).records,
    fun _ withdrawing => withdrawing.consumed spent, revoked⟩

/-- The signature of an item is good for the record that is stored. -/
def SignedFor (host : Host W) (crypto : Crypto) (env : Env) (ledger : Ledger W) (item : RevocationItem) : Prop :=
  ∃ record, recordOf ledger.sas item.uid = some record ∧
    verifyRevocation host crypto env ledger record item.uid item.nonce item.signature
      item.publicKey = .ok ()

theorem revokeByDelegation_ok_iff :
    revokeByDelegation host crypto env ledger item.uid item.nonce item.signature item.publicKey = .ok next ↔
      (Idle ledger.sas ∧ SignedFor host crypto env ledger item) ∧ revokeItem host env ledger item = .ok next := by
  simp only [revokeByDelegation, revokeItem, rejectReentrant, requireUnpaused, requireStored_eq_ok, SignedFor, eq_ok]
  constructor
  · rintro ⟨unguarded, unpaused, record, ⟨compact, found⟩, verified, success⟩
    exact ⟨⟨⟨unguarded.1, unguarded.2, unpaused⟩, record, found, verified⟩, record, ⟨compact, found⟩, success⟩
  · rintro ⟨⟨idle, record, found, verified⟩, record', ⟨compact, found'⟩, success⟩
    cases found.symm.trans found'
    exact ⟨⟨idle.unguarded, idle.idle⟩, idle.unpaused, record, ⟨compact, found⟩, verified, success⟩

theorem foldlM_revokeByDelegation {items : List RevocationItem}
    (idle : Idle ledger.sas) (steady : KeepsGroups host env) :
    items.foldlM (fun current item => revokeByDelegation host crypto env current item.uid item.nonce
        item.signature item.publicKey) ledger = .ok last ↔ (∀ item ∈ items, SignedFor host crypto env ledger item) ∧
        items.foldlM (revokeItem host env) ledger = .ok last := by
  have preserved (current : Ledger W) (item : RevocationItem) (next : Ledger W)
      (withdrawing : Withdrawing host env ledger current)
      (success : revokeItem host env current item = .ok next) :
      Withdrawing host env ledger next := revokeItem_withdraws.preserves withdrawing success
  refine foldlM_checked (fun _ _ _ => revokeByDelegation_ok_iff) preserved ?_ items (.refl idle)
  intro current item next withdrawing success
  simp only [revokeItem, revokeConsuming, consumeDelegationNonce, requireStored_eq_ok, eq_ok] at success
  rcases success with ⟨record, ⟨-, found⟩, consumed, ⟨fresh, -⟩, -⟩
  rcases withdrawing.stored found with ⟨old, present, keeps⟩
  have same : verifyRevocation host crypto env current record item.uid item.nonce item.signature
      item.publicKey = verifyRevocation host crypto env ledger old item.uid item.nonce
        item.signature item.publicKey := withdrawing.verifyRevocation_eq steady keeps fresh
  constructor
  · rintro ⟨-, record', found', verified⟩
    cases found.symm.trans found'
    exact ⟨old, present, same ▸ verified⟩
  · rintro ⟨old', present', verified⟩
    cases present.symm.trans present'
    exact ⟨withdrawing.idle, record, found, same.symm ▸ verified⟩

theorem revocationItems_map (items : List RevocationItem) :
    revocationItems (items.map (·.uid)) (items.map (·.nonce)) (items.map (·.signature))
      (items.map (·.publicKey)) = items := by
  induction items with
  | nil => rfl
  | cons item rest ih => simp only [map_cons, revocationItems, ih]

theorem multiRevokeByDelegation_iff {items : List RevocationItem} (idle : Idle ledger.sas)
    (small : items.length <= maxMultiRevoke) (positive : env.timestamp ≠ 0)
    (steady : KeepsGroups host env) (after : Ledger W) :
    multiRevokeByDelegation host crypto env ledger (items.map (·.uid)) (items.map (·.nonce))
        (items.map (·.signature)) (items.map (·.publicKey)) = .ok after ↔
      ∃ last, items.foldlM (fun current item => revokeByDelegation host crypto env current item.uid
          item.nonce item.signature item.publicKey) ledger = .ok last ∧
        after = last.publish (.batchRevoked items.length
          (distinctCount (attestersOf ledger.sas (items.map (·.uid))))) := by
  have withdraws : Withdraws host env RevocationItem.uid (revokeItem host env) := revokeItem_withdraws
  rw [multiRevokeByDelegation, idle.rejectReentrant, idle.requireUnpaused, revocationItems_map]
  simp only [foldlM_revokeByDelegation idle steady, eq_ok, true_and, length_map, and_self]
  constructor
  · rintro ⟨-, seen, checked, revoked, loop, rfl⟩
    refine ⟨revoked, ⟨fun item member => ?_, loop⟩, rfl⟩
    have passed := checkDistinct_each checked member
    simp only [requireStored_eq_ok, eq_ok] at passed
    rcases passed with ⟨record, ⟨-, found⟩, -, verified⟩
    exact ⟨record, found, verified⟩
  · rintro ⟨last, ⟨signed, loop⟩, rfl⟩
    have first : (items.map RevocationItem.uid).Nodup ∧ ∀ item ∈ items, (do
        let attestation <- requireStored ledger.sas item.uid
        requireRevocable attestation
        verifyRevocation host crypto env ledger attestation item.uid item.nonce item.signature
          item.publicKey) = .ok () := by
      refine ⟨withdraws.distinct positive loop, fun item member => ?_⟩
      rcases withdraws.revocable idle loop member with ⟨old, found, revocable⟩
      rcases signed item member with ⟨record, present, verified⟩
      cases (requireStored_eq_ok.mp found).2.symm.trans present
      simp only [eq_ok]
      exact ⟨old, found, revocable, verified⟩
    rcases checkDistinct_ok.mpr first with ⟨seen, checked⟩
    exact ⟨small, seen, checked, last, loop, rfl⟩

/-! ## All four -/

inductive Batch where
  | attest (items : List Attestation)
  | attestByDelegation (items : List DelegatedItem)
  | revoke (items : List UID)
  | revokeByDelegation (items : List RevocationItem)

namespace Batch

def size : Batch -> Nat
  | .attest items => items.length
  | .attestByDelegation items => items.length
  | .revoke items => items.length
  | .revokeByDelegation items => items.length

def call : Batch -> Call
  | .attest items => .multiAttest items
  | .attestByDelegation items => .multiAttestByDelegation (items.map (·.attestation))
      (items.map (·.nonce)) (items.map (·.signature)) (items.map (·.publicKey))
  | .revoke items => .multiRevoke items
  | .revokeByDelegation items => .multiRevokeByDelegation (items.map (·.uid))
      (items.map (·.nonce)) (items.map (·.signature)) (items.map (·.publicKey))

variable (host crypto env ledger) {batch : Batch}

/-- The batch as one call, with the UIDs it returns. -/
def together : Batch -> Except Trap (List UID × Ledger W)
  | .attest items => multiAttest host crypto env ledger items
  | .attestByDelegation items => multiAttestByDelegation host crypto env ledger
      (items.map (·.attestation)) (items.map (·.nonce)) (items.map (·.signature))
      (items.map (·.publicKey))
  | .revoke items => do
      let after <- multiRevoke host env ledger items
      return ([], after)
  | .revokeByDelegation items => do
      let after <- multiRevokeByDelegation host crypto env ledger (items.map (·.uid))
        (items.map (·.nonce)) (items.map (·.signature)) (items.map (·.publicKey))
      return ([], after)

/-- The single calls for its items, one after another, with the UIDs they return. -/
def separately : Batch -> Except Trap (List UID × Ledger W)
  | .attest items => oneByOne (Sas.attest host crypto env) ledger items
  | .attestByDelegation items => oneByOne (fun current (item : DelegatedItem) =>
    Sas.attestByDelegation host crypto env current item.attestation item.nonce item.signature
      item.publicKey) ledger items
  | .revoke items => do
      let last <- items.foldlM (Sas.revoke host env) ledger
      return ([], last)
  | .revokeByDelegation items => do
      let last <- items.foldlM (fun current item => Sas.revokeByDelegation host crypto env current
        item.uid item.nonce item.signature item.publicKey) ledger
      return ([], last)

variable {host crypto env ledger}

/-- The event that only the batch publishes. -/
def summary (state : State) : Batch -> Event
  | .attest items => .batchAttested items.length (distinctCount (items.map (·.attester)))
  | .attestByDelegation items =>
    .batchAttested items.length (distinctCount (items.map (·.attestation.attester)))
  | .revoke items => .batchRevoked items.length (distinctCount (attestersOf state items))
  | .revokeByDelegation items =>
    .batchRevoked items.length (distinctCount (attestersOf state (items.map (·.uid))))

theorem snd_paired (revoked : Except Trap (Ledger W)) :
    Except.map Prod.snd (revoked >>= fun after => pure (([] : List UID), after)) = revoked := by
  cases revoked <;> rfl

theorem paired_iff {together separate : Except Trap (Ledger W)} {event : Event} (same : ∀ after, together = .ok after ↔
      ∃ last, separate = .ok last ∧ after = last.publish event) (uids : List UID) (after : Ledger W) :
    (together >>= fun after => pure ([], after)) = .ok (uids, after) ↔
      ∃ last, (separate >>= fun last => pure ([], last)) = .ok (uids, last) ∧ after = last.publish event := by
  simp only [eq_ok, Prod.mk.injEq, same]
  constructor
  · rintro ⟨_, ⟨last, revoked, rfl⟩, rfl, rfl⟩
    exact ⟨last, ⟨last, revoked, rfl, rfl⟩, rfl⟩
  · rintro ⟨_, ⟨last, revoked, rfl, rfl⟩, rfl⟩
    exact ⟨_, ⟨last, revoked, rfl⟩, rfl, rfl⟩

theorem step_call (ledger : Ledger W) (batch : Batch) :
    step host crypto ledger (env, batch.call) = (batch.together host crypto env ledger).map Prod.snd := by
  cases batch with
  | attest => rfl
  | attestByDelegation => rfl
  | revoke items | revokeByDelegation items => exact (snd_paired _).symm

theorem unpaused_of_together (success : batch.together host crypto env ledger = .ok result) :
    ledger.sas.paused = false := by
  have stepped : step host crypto ledger (env, batch.call) = .ok result.2 := by
    rw [step_call, success]
    rfl
  by_contra paused
  exact step_pausable (by cases batch <;> rfl) (Bool.eq_true_of_not_eq_false paused) _ stepped

/-- The first of the single calls is let in. -/
theorem unpaused_of_separately (nonempty : batch.size ≠ 0)
    (success : batch.separately host crypto env ledger = .ok result) : ledger.sas.paused = false := by
  cases batch with
  | attest =>
    rcases oneByOne_first nonempty success with ⟨item, issued, first⟩
    simp only [Sas.attest, requireUnpaused, eq_ok] at first
    exact first.2.1
  | attestByDelegation =>
    rcases oneByOne_first nonempty success with ⟨item, issued, first⟩
    simp only [Sas.attestByDelegation, requireUnpaused, eq_ok]
      at first
    exact first.2.1
  | revoke =>
    simp only [separately, bind_eq_ok] at success
    rcases success with ⟨last, loop, -⟩
    rcases foldlM_first (List.length_pos_iff.mp (Nat.pos_of_ne_zero nonempty)) loop with ⟨uid, next, first⟩
    exact (revoke_ok_iff.mp first).1.1.unpaused
  | revokeByDelegation =>
    simp only [separately, bind_eq_ok] at success
    rcases success with ⟨last, loop, -⟩
    rcases foldlM_first (List.length_pos_iff.mp (Nat.pos_of_ne_zero nonempty)) loop with ⟨item, next, first⟩
    exact (revokeByDelegation_ok_iff.mp first).1.1.unpaused

theorem together_iff_of_idle (idle : Idle ledger.sas) (small : batch.size <= 100)
    (positive : env.timestamp ≠ 0) (steady : KeepsGroups host env) (uids : List UID) (after : Ledger W) :
    batch.together host crypto env ledger = .ok (uids, after) ↔
      ∃ last, batch.separately host crypto env ledger = .ok (uids, last) ∧
        after = last.publish (batch.summary ledger.sas) := by
  cases batch with
  | attest =>
    rw [together, multiAttest_iff idle small]
    rfl
  | attestByDelegation =>
    rw [together, multiAttestByDelegation_iff idle small]
    rfl
  | revoke => exact paired_iff (multiRevoke_iff idle small positive) uids after
  | revokeByDelegation =>
    exact paired_iff (multiRevokeByDelegation_iff idle small positive steady) uids after

end Batch

/-- A batch of at most a hundred items, called while no call is in progress, succeeds exactly when
the single calls for its items succeed one after another. It then returns their UIDs and leaves
the ledger they leave, with one event more; if an item fails, the batch changes nothing. The
empty batch is called while the service is open. -/
theorem batch_eq_separate_calls {ledger : Ledger W} {batch : Batch}
    (unguarded : ledger.sas.guard = false ∧ ledger.sas.callDepth = 0)
    (positive : env.timestamp ≠ 0) (small : batch.size ≤ 100) (steady : KeepsGroups host env)
    (opened : batch.size = 0 -> ledger.sas.paused = false) :
    (forall uids after, batch.together host crypto env ledger = .ok (uids, after) ↔
      ∃ last, batch.separately host crypto env ledger = .ok (uids, last) ∧
        after = last.publish (batch.summary ledger.sas)) ∧ ((batch.separately host crypto env ledger).isOk = false ->
      commit (step host crypto) ledger (env, batch.call) = ledger) := by
  have same (uids : List UID) (after : Ledger W) : batch.together host crypto env ledger = .ok (uids, after) ↔
        ∃ last, batch.separately host crypto env ledger = .ok (uids, last) ∧
          after = last.publish (batch.summary ledger.sas) := by
    cases paused : ledger.sas.paused with
    | false =>
      exact Batch.together_iff_of_idle ⟨unguarded.1, unguarded.2, paused⟩ small positive steady
        uids after
    | true =>
      constructor
      · intro success
        rw [Batch.unpaused_of_together success] at paused
        contradiction
      · rintro ⟨last, success, -⟩
        by_cases nonempty : batch.size = 0
        · rw [opened nonempty] at paused
          contradiction
        · rw [Batch.unpaused_of_separately nonempty success] at paused
          contradiction
  refine ⟨same, fun failed => ?_⟩
  cases together : batch.together host crypto env ledger with
  | error failure =>
    refine commit_of_error (?_ : step host crypto ledger (env, batch.call) = .error failure)
    rw [Batch.step_call, together]
    rfl
  | ok result =>
    rcases (same result.1 result.2).mp together with ⟨last, success, -⟩
    rw [success] at failed
    contradiction

open Address (accountOfNat)

/-- The service is initialised. -/
def okInitialized : Ledger Unit :=
  run (advance okHost answerCrypto) ⟨deployed, ()⟩
    [.call (signedAt [1] 100) (.init (accountOfNat 1) (.contract 7))]

/-- Two answers of one attester are issued together. -/
theorem batch_eq_separate_calls_answered :
    ∃ last uids, (Batch.attest [okAnswer true, okAnswer false]).separately okHost answerCrypto
        (signedAt [2] 100) okInitialized = .ok (uids, last) ∧
      (Batch.attest [okAnswer true, okAnswer false]).together okHost answerCrypto
        (signedAt [2] 100) okInitialized = .ok (uids, last.publish (.batchAttested 2 1)) := by
  have succeeds : ((Batch.attest [okAnswer true, okAnswer false]).separately okHost answerCrypto
      (signedAt [2] 100) okInitialized).isOk = true := by decide
  rcases exists_of_isOk succeeds with ⟨⟨uids, last⟩, issued⟩
  refine ⟨last, uids, issued, ?_⟩
  exact ((batch_eq_separate_calls (by decide) (by decide) (by decide)
    (fun _ _ _ _ _ => rfl) (by decide)).1 _ _).mpr ⟨last, issued, rfl⟩

/-- While the service is paused, no calls for no items succeed, and the empty batch does not. -/
theorem empty_batch_refused :
    let paused := run (advance okHost answerCrypto) okInitialized
      [.call (signedAt [1] 100) .pause]
    (paused.sas.guard = false ∧ paused.sas.callDepth = 0) ∧
      ((Batch.attest []).separately okHost answerCrypto (signedAt [2] 100) paused).isOk = true ∧
      ((Batch.attest []).together okHost answerCrypto (signedAt [2] 100) paused).isOk = false := by
  decide

end SorobanSas.Sas
