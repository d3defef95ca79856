import SorobanSas.Sas.Mirror
import SorobanSas.Sas.Hiding
import SorobanSas.Sas.Guard

namespace SorobanSas.Sas

open Library List
open Relation (ReflTransGen)

/-!
# Reconciliation with an indexer that missed something

The service does not insist that its indexer hears of an issuance.  `reindex_attestation` and
`bulk_reindex` are meant to repair the mirror later: they send the stored record to
`index_attestation` once more.

That is all they send.  A UID that was never indexed is repaired if nothing else was to be
said about it: a `handle_revoke` or a `set_valid_from` that went astray is not repeated.  And
for a UID that is indexed the indexer insists on the record it knows, so that after a renewal
the replay is refused for good.

`Mirrors MayKnow` says what the entries have to be for the replays to mend them.  It is kept
by every call, unless the call tells the indexer something that gets lost and cannot be replayed, or
renews a record that the indexer has.
-/

variable {X : Type} {host : Host (Indexer.State × X)} {crypto : Crypto} {env : Env}
  {service indexer admin : Address} {available : Env -> Prop} {upkeep : Upkeep -> Prop}
  {asked : Attestation -> Prop} {expirationTime : UInt64} {next : Ledger (Indexer.State × X)}
  {ledger : Ledger (Indexer.State × X)} {entry : IndexEntry} {uid : UID}

/-! ## Entries that a replay mends -/

/-- The indexer has no record, or exactly the one that a replay sends. -/
def MayKnow (attestation : Attestation) (record : Option Indexer.IndexRecord) : Prop :=
  record = none ∨ record = some (indexRecord attestation)

theorem mayKnow_sendable : Sendable MayKnow := ⟨fun _ => .inr rfl, fun _ _ _ => id⟩

section Changes

variable {first last : Book × Indexer.State} {book : Book} {index after : Indexer.State}
  {attestation : Attestation} {record : Option Indexer.IndexRecord}

theorem Reflects.unheard (immediate : attestation.validFrom = 0) (unrevoked : attestation.revocationTime = 0)
    (known : MayKnow attestation record) : Reflects MayKnow attestation ⟨record, none, none⟩ where
  record := known
  validFrom := immediate.symm
  active := ⟨fun _ => unrevoked, fun _ => .inl rfl⟩

theorem Mirrors.accepts (mirrors : Mirrors MayKnow admin service (book, index))
    (stored : (book uid).attestation = some attestation) {indexing : Env} (countable : Countable book)
    (authorized : indexing.authorized service = true) :
    ∃ after, Indexer.indexAttestation indexing index uid (indexRecord attestation) = .ok after := by
  simp only [Indexer.indexAttestation, Indexer.requireSas, eq_ok, requireAuth_eq_ok]
  rcases (mirrors.reflects uid attestation stored).record with fresh | known
  · have unfiled : index.indexed uid = none := fresh
    rcases mirrors.initialised.catalogued with ⟨entries, catalogued⟩
    have room : entries.length + 1 < 2 ^ 32 := by
      refine room_of_known catalogued countable (fun other record indexed => ?_) ?_ unfiled
      · rcases mirrors.stored_of_indexed indexed with ⟨found, held, -⟩
        rw [held]
        exact Option.some_ne_none found
      · rw [stored]
        exact Option.some_ne_none attestation
    rcases catalogued.accepts room uid (indexRecord attestation) with ⟨after, success⟩
    refine ⟨after, ⟨service, mirrors.initialised.sas, authorized⟩, ?_⟩
    rw [unfiled]
    exact success
  · have filed : index.indexed uid = some (indexRecord attestation) := known
    refine ⟨index, ⟨service, mirrors.initialised.sas, authorized⟩, ?_⟩
    simp only [filed, eq_ok, and_self]

/-! ## What may get lost -/

/-- No record is revoked, and no record is added that is revoked or valid only from a later
time. -/
def Replayable (before after : Book) : Prop :=
  ∀ uid new, (after uid).attestation = some new ->
    (∃ old, (before uid).attestation = some old ∧ (new.revocationTime ≠ 0 -> old.revocationTime ≠ 0)) ∨
    ((before uid).attestation = none ∧ new.validFrom = 0 ∧ new.revocationTime = 0)

namespace Replayable

variable {start middle final : Book}

theorem of_prolonged (replayable : Replayable start final) (later : Accretes middle final) :
    Replayable start middle := by
  intro uid halfway stored
  rcases later uid halfway stored with ⟨new, current, extended⟩
  have kept (revoked : halfway.revocationTime ≠ 0) : new.revocationTime ≠ 0 := by
    rw [extended.revoked revoked]
    exact revoked
  rcases replayable uid new current with ⟨old, found, earlier⟩ | ⟨absent, immediate, unrevoked⟩
  · exact .inl ⟨old, found, fun revoked => earlier (kept revoked)⟩
  · refine .inr ⟨absent, extended.validFrom.symm.trans immediate, ?_⟩
    by_contra revoked
    exact kept revoked unrevoked

theorem of_preceded (replayable : Replayable start final) (earlier : Accretes start middle) :
    Replayable middle final := by
  intro uid new stored
  rcases replayable uid new stored with ⟨old, found, revoked⟩ | ⟨absent, immediate, unrevoked⟩
  · rcases earlier uid old found with ⟨halfway, current, extended⟩
    refine .inl ⟨halfway, current, fun nonzero => ?_⟩
    rw [extended.revoked (revoked nonzero)]
    exact revoked nonzero
  · cases present : (middle uid).attestation with
    | none => exact .inr ⟨rfl, immediate, unrevoked⟩
    | some halfway => exact .inl ⟨halfway, rfl, fun nonzero => absurd unrevoked nonzero⟩

/-- A record that is added says nothing that has to be told separately. -/
theorem added (replayable : Replayable start final) (absent : (start uid).attestation = none)
    (stored : (final uid).attestation = some attestation) :
    attestation.validFrom = 0 ∧ attestation.revocationTime = 0 := by
  rcases replayable uid attestation stored with ⟨old, found, -⟩ | ⟨-, plain⟩
  · cases absent.symm.trans found
  · exact plain

end Replayable

theorem Delivery.accretes {bound : Bool} {reached : Prop} (unpruned : ¬ upkeep .prune)
    (delivery : Delivery crypto env service bound reached upkeep asked first last) : Accretes first.1 last.1 := by
  cases delivery with
  | delivered _ _ change | lost _ _ _ change => exact change.accretes unpruned
  | undated book index filed attestation indexing _ issuable intended =>
    exact .issue (.issue attestation issuable intended)

section Told

variable {bound : Bool} {reached : Prop} (positive : env.timestamp ≠ 0) (idle : ∀ kind, ¬ upkeep kind)
  (unrevoked : ∀ issued, asked issued -> issued.revocationTime = 0)

include positive idle

/-- A change of which the indexer hears nothing, but a replay would tell it everything. -/
theorem Mirrors.unheard (mirrors : Mirrors MayKnow admin service first) (replayable : Replayable first.1 last.1)
    (change : Change crypto env service false upkeep asked first last) : Mirrors MayKnow admin service last := by
  cases change with
  | nothing | replaced => exact mirrors
  | issue book index attestation indexing dating issuable =>
    rcases replayable.added issuable.absent (Book.issue_self book env attestation) with ⟨immediate, plain⟩
    have heard : Reflects MayKnow attestation (indexEntry index attestation.uid) := by
      rw [mirrors.blank _ issuable.absent]
      exact .unheard immediate plain (.inl rfl)
    exact mirrors.update mirrors.initialised (update_eq_self attestation.uid _).symm rfl heard
  | revoke book index uid attestation stored revocable untouched =>
    rcases replayable uid _ (Book.revoke_self book env uid attestation) with ⟨old, found, earlier⟩ | ⟨absent, -⟩
    · cases stored.symm.trans found
      exact absurd untouched (earlier positive)
    · cases stored.symm.trans absent
  | renew _ _ _ _ _ _ _ allowed => exact absurd allowed (idle .renew)
  | prune _ _ _ _ _ _ allowed => exact absurd allowed (idle .prune)
  | reindex book index after uid attestation indexing stored own _ accepted =>
    rw [own] at accepted
    exact (mirrors.filed mayKnow_sendable stored accepted).1

include unrevoked

theorem Mirrors.delivery (mirrors : Mirrors MayKnow admin service first) (countable : Countable last.1)
    (spared : (bound = true ∧ reached) ∨ Replayable first.1 last.1)
    (delivery : Delivery crypto env service bound reached upkeep asked first last) :
    Mirrors MayKnow admin service last := by
  cases delivery with
  | delivered _ _ change =>
    cases bound with
    | true => exact mirrors.change mayKnow_sendable positive idle unrevoked countable change
    | false =>
      have replayable := spared.resolve_left fun told => Bool.false_ne_true told.1
      exact mirrors.unheard positive idle replayable change
  | lost _ _ missed change =>
    have replayable := spared.resolve_left fun told => missed told.2
    exact mirrors.unheard positive idle replayable change
  | undated book index filed attestation indexing missed issuable intended authorized accepted =>
    have replayable := spared.resolve_left fun told => missed told.2
    rcases replayable.added issuable.absent (Book.issue_self book env attestation) with ⟨immediate, plain⟩
    have blank := mirrors.blank _ issuable.absent
    have initialised : Indexer.Initialised admin service filed := mirrors.initialised.works
      ⟨(indexing, .indexAttestation attestation.uid (indexRecord attestation)), by simp, accepted⟩
    rcases (Indexer.indexAttestation_ok accepted).2 with ⟨-, new⟩ | ⟨known, -⟩
    · refine mirrors.update initialised (indexEntry_filed new) rfl ?_
      rw [blank]
      exact .unheard immediate plain (.inr rfl)
    · cases known.symm.trans (congrArg IndexEntry.record blank)

theorem Mirrored.deliveries (mirrored : Mirrored MayKnow admin service first)
    (spared : (bound = true ∧ reached) ∨ Replayable first.1 last.1)
    (deliveries : ReflTransGen (Delivery crypto env service bound reached upkeep asked) first last) :
    Mirrored MayKnow admin service last := by
  have grown {one two : Book × Indexer.State} (steps : ReflTransGen (Delivery crypto env service
      bound reached upkeep asked) one two) : Accretes one.1 two.1 := by
    induction steps with
    | refl => exact .refl _
    | tail _ delivery ih => exact ih.trans (delivery.accretes (idle .prune))
  induction deliveries with
  | refl => exact mirrored
  | tail earlier delivery ih =>
    intro countable
    have accretes := delivery.accretes (idle .prune)
    have before := ih (spared.imp id (·.of_prolonged accretes)) (countable.of_accretes accretes)
    exact before.delivery positive idle unrevoked countable (spared.imp id (·.of_preceded (grown earlier))) delivery

end Told

theorem Mirrors.indexed_of_known {state : State} (mirrors : Mirrors MayKnow admin service (state.book, index))
    (stored : recordOf state uid = some attestation)
    (known : index.indexed uid = some (indexRecord attestation)) : Indexed state index uid attestation := by
  rcases mirrors.initialised.catalogued with ⟨entries, catalogued⟩
  have reflects := mirrors.reflects uid attestation stored
  have complete : Reflects Knows attestation (indexEntry index uid) :=
    ⟨⟨_, known, rfl, rfl, rfl, Iff.rfl⟩, reflects.validFrom, reflects.active⟩
  refine complete.indexed catalogued fun other record indexed => ?_
  rcases mirrors.stored_of_indexed indexed with ⟨found, held, missing | sent⟩
  · cases missing
  cases sent
  exact ⟨found, held, rfl, rfl⟩

end Changes

/-! ## Replays -/

section Replays

variable {attestation : Attestation}

/-- A ledger in which the service can replay its records. -/
structure ReplayReady (admin service indexer : Address) (ledger : Ledger (Indexer.State × X)) :
    Prop where
  mirrors : Mirrors MayKnow admin service ledger.paired
  countable : Countable ledger.sas.book
  bound : ledger.sas.indexer = some indexer
  unpaused : ledger.sas.paused = false
  outside : ledger.sas.guard = false ∧ ledger.sas.callDepth = 0
  compact : ∀ uid, (ledger.sas.records uid).isLegacy = false

def Arrived (ledger : Ledger (Indexer.State × X)) (uid : UID) : Prop :=
  ∀ attestation, recordOf ledger.sas uid = some attestation ->
    ledger.world.1.indexed uid = some (indexRecord attestation)

/-- What replays do: a record that has arrived stays, nothing is sent to an indexer that has
them all, and the book is not touched. -/
structure Replays (uids : List UID) (before after : Ledger (Indexer.State × X)) : Prop where
  same : SameBook before.sas after.sas
  arrived : ∀ uid ∈ uids, Arrived after uid
  kept : ∀ uid, Arrived before uid -> Arrived after uid
  idle : (∀ uid ∈ uids, Arrived before uid) -> after.world.1 = before.world.1

theorem Replays.cons {uids : List UID} {first middle last : Ledger (Indexer.State × X)}
    (one : Replays [uid] first middle) (others : Replays uids middle last) : Replays (uid :: uids) first last where
  same := one.same.trans others.same
  arrived := by
    intro other member
    rcases List.mem_cons.mp member with rfl | later
    · exact others.kept other (one.arrived other (mem_singleton_self other))
    · exact others.arrived other later
  kept := fun other known => others.kept other (one.kept other known)
  idle := by
    intro known
    have head : ∀ other ∈ [uid], Arrived first other := fun other member =>
      known other (List.mem_cons.mpr (.inl (List.mem_singleton.mp member)))
    have tail : ∀ other ∈ uids, Arrived middle other := fun other member =>
      one.kept other (known other (mem_cons_of_mem uid member))
    exact (others.idle tail).trans (one.idle head)

theorem ReplayReady.publish (ready : ReplayReady admin service indexer ledger) {world : Indexer.State × X}
    (mirrors : Mirrors MayKnow admin service (ledger.sas.book, world.1)) (event : Event) :
    ReplayReady admin service indexer ⟨ledger.sas.publish event, world⟩ :=
  ⟨mirrors, ready.countable, ready.bound, ready.unpaused, ready.outside, ready.compact⟩

variable (ready : ReplayReady admin service indexer ledger)
  (reaches : Reaches host service indexer available) (reached : available env)

include ready reaches reached

/-- One record is sent, and the indexer is there. -/
theorem ReplayReady.sends (stored : recordOf ledger.sas uid = some attestation) (event : Event) :
    ∃ world, host.indexAttestation env ledger.world indexer attestation = some world ∧
      ReplayReady admin service indexer ⟨ledger.sas.publish event, world⟩ ∧
      Replays [uid] ledger ⟨ledger.sas.publish event, world⟩ := by
  rcases reaches.indexAttestation env ledger.world attestation with ⟨missed, -⟩ | ⟨indexing, authorized, answered⟩
  · exact absurd reached missed
  have own : attestation.uid = uid := Slot.uid_of_content stored
  rw [own] at answered
  rcases ready.mirrors.accepts stored ready.countable authorized with ⟨index, accepted⟩
  rw [accepted] at answered
  rcases Option.map_eq_some_iff.mp answered with ⟨world, sent, rfl⟩
  rcases ready.mirrors.filed mayKnow_sendable stored accepted with ⟨mirrors, filed⟩
  refine ⟨world, sent, ready.publish mirrors event, ⟨rfl, rfl⟩, ?_, ?_, ?_⟩
  · intro other member found held
    cases List.mem_singleton.mp member
    cases stored.symm.trans held
    exact filed
  · intro other known found held
    rcases (Indexer.indexAttestation_ok accepted).2 with ⟨-, new⟩ | ⟨-, same⟩
    · have indexed := congrFun (Indexer.indexNew_ok new).1.indexed other
      by_cases again : other = uid
      · subst again
        cases stored.symm.trans held
        exact filed
      · rw [update_of_ne again] at indexed
        exact indexed.trans (known found held)
    · rw [← same]
      exact known found held
  · intro known
    have present := known uid (mem_singleton_self uid) attestation stored
    rcases (Indexer.indexAttestation_ok accepted).2 with ⟨fresh, -⟩ | ⟨-, same⟩
    · cases fresh.symm.trans present
    · exact same.symm

theorem ReplayReady.reindexAttestation (stored : recordOf ledger.sas uid = some attestation) :
    ∃ after, reindexAttestation host env ledger uid = .ok after ∧
      ReplayReady admin service indexer after ∧ Replays [uid] ledger after := by
  rcases ready.sends reaches reached stored (.reindexed uid) with ⟨world, sent, next, replays⟩
  refine ⟨_, ?_, next, replays⟩
  simp only [Sas.reindexAttestation, requireUnpaused, rejectReentrant, requireStored_eq_ok, eq_ok]
  exact ⟨ready.unpaused, ready.outside, attestation, ⟨ready.compact uid, stored⟩, indexer, ready.bound,
    world, sent, rfl⟩

/-- The loop of `bulk_reindex` gets everything across that is stored. -/
theorem ReplayReady.reindexOne (failed uids : List UID) :
    ∃ after, uids.foldlM (reindexOne host env indexer) (failed, ledger) =
        .ok (failed ++ uids.filter fun uid => (recordOf ledger.sas uid).isNone, after) ∧
      ReplayReady admin service indexer after ∧ Replays uids ledger after := by
  induction uids generalizing failed ledger with
  | nil =>
    refine ⟨ledger, by simp [pure, Except.pure], ready, .refl _, ?_, fun _ known => known, fun _ => rfl⟩
    intro uid member
    cases member
  | cons uid rest ih =>
    have read := readAttestation_eq_ok.mpr ⟨ready.compact uid, rfl⟩
    have taken : Sas.reindexOne host env indexer (failed, ledger) uid =
        .ok (reindexFound host env indexer (failed, ledger) uid (recordOf ledger.sas uid)) := by
      rw [Sas.reindexOne, read]
      rfl
    rw [foldlM_cons, taken]
    cases stored : recordOf ledger.sas uid with
    | none =>
      rcases ih ready (failed ++ [uid]) with ⟨after, looped, final, replays⟩
      refine ⟨after, ?_, final, .cons ⟨.refl _, ?_, fun _ known => known, fun _ => rfl⟩ replays⟩
      · rw [filter_cons, stored, Option.isNone_none, if_pos rfl, append_cons]
        exact looped
      · intro other member attestation held
        cases List.mem_singleton.mp member
        cases stored.symm.trans held
    | some attestation =>
      rcases ready.sends reaches reached stored (.reindexedBare uid) with ⟨world, sent, next, first⟩
      rcases ih next failed with ⟨after, looped, final, replays⟩
      refine ⟨after, ?_, final, .cons first replays⟩
      simp only [filter_cons, stored, Option.isNone_some, Bool.false_eq_true, if_false, reindexFound, sent]
      exact looped

theorem ReplayReady.bulkReindex {uids : List UID} (short : uids.length <= 100) :
    ∃ after, bulkReindex host env ledger uids = .ok (uids.filter fun uid => (recordOf ledger.sas uid).isNone, after) ∧
      ReplayReady admin service indexer after ∧ Replays uids ledger after := by
  rcases ready.reindexOne reaches reached [] uids with ⟨after, looped, next, replays⟩
  refine ⟨after, ?_, next, replays⟩
  simp only [Sas.bulkReindex, requireUnpaused, rejectReentrant, eq_ok]
  exact ⟨ready.unpaused, ready.outside, short, indexer, ready.bound, looped⟩

end Replays

/-! ## Runs -/

/-- Only the service is called, and it does not prune. -/
def Action.Serving : Action X -> Prop
  | .service _ call => ∀ uids, call ≠ .pruneExpired uids
  | .indexer _ _ => False
  | .outside _ => True

/-- The call loses nothing that a replay does not make good.  Records are issued without a
revocation time and at positive times.  No record is prolonged that the indexer has filed.  If
the indexer is not bound or out of reach, records are only issued, to be valid at once. -/
def Action.Recoverable (host : Host (Indexer.State × X)) (crypto : Crypto) (indexer : Address)
    (available : Env -> Prop) (ledger : Ledger (Indexer.State × X)) : Action X -> Prop
  | .service env call =>
    let next := commit (act host crypto) ledger (.service env call)
    env.timestamp ≠ 0 ∧ call.Unrevoked ∧
    (∀ uid old new, recordOf ledger.sas uid = some old -> recordOf next.sas uid = some new ->
      old.expirationTime = new.expirationTime ∨ ledger.world.1.indexed uid = none) ∧
    ((ledger.sas.indexer = some indexer ∧ available env) ∨ Replayable ledger.sas.book next.sas.book)
  | _ => True

/-- The first records lose nothing, if they are valid at once. -/
theorem Action.Recoverable.of_empty {call : Call} (empty : ∀ uid, recordOf ledger.sas uid = none)
    (positive : env.timestamp ≠ 0) (unrevoked : call.Unrevoked)
    (immediate : ∀ issued, call.asks crypto env issued -> issued.validFrom = 0) :
    Action.Recoverable host crypto indexer available ledger (.service env call) := by
  refine ⟨positive, unrevoked, fun uid old _ found => ?_, .inr ?_⟩
  · cases (empty uid).symm.trans found
  · intro uid new stored
    have asked : call.asks crypto env new := by
      cases outcome : act host crypto ledger (.service env call) with
      | ok next =>
        rw [commit_of_ok outcome] at stored
        exact (step_effect next outcome).added (empty uid) stored
      | error failure =>
        rw [commit_of_error outcome] at stored
        cases (empty uid).symm.trans stored
    exact .inr ⟨empty uid, immediate new asked, unrevoked.asks asked⟩

theorem act_mayKnow (reaches : Reaches host service indexer available) {action : Action X}
    (mirrored : Mirrored MayKnow admin service ledger.paired) (serving : action.Serving)
    (recoverable : action.Recoverable host crypto indexer available ledger)
    (success : act host crypto ledger action = .ok next) : Mirrored MayKnow admin service next.paired := by
  cases action with
  | outside =>
    cases success
    exact mirrored
  | indexer => exact serving.elim
  | service env call =>
    simp only [Action.Recoverable, commit_of_ok success] at recoverable
    rcases recoverable with ⟨positive, unrevoked, unseen, spared⟩
    have general (idle : ∀ kind, ¬ call.upkeep kind) : Mirrored MayKnow admin service next.paired := by
      have told := spared.imp_left (And.imp_left decide_eq_true)
      exact mirrored.deliveries positive idle (fun _ => unrevoked.asks) told (step_deliveries reaches next success)
    cases call with
    | pruneExpired uids => exact absurd rfl (serving uids)
    | renewAttestation uid expirationTime =>
      rcases act_renews reaches success with ⟨attestation, stored, prolongs, paired⟩
      have renewed : recordOf next.sas uid = some { attestation with expirationTime := expirationTime } := by
        have page := congrFun (congrArg Prod.fst paired) uid
        exact (congrArg Page.attestation page).trans (by simp [Book.renew])
      rw [paired]
      intro countable
      have mirrors := mirrored (countable.of_accretes (.renew stored prolongs))
      refine mirrors.renew stored ?_
      rcases unseen uid attestation _ stored renewed with same | fresh
      · subst same
        exact (mirrors.reflects uid attestation stored).record
      · exact .inl fresh
    | _ =>
      refine general fun kind allowed => ?_
      cases kind <;> cases allowed

/-- Only calls of the service touch its state. -/
theorem act_related {related : State -> State -> Prop} {action : Action X} (refl : ∀ state, related state state)
    (step : ∀ env call, Yields (Sas.step host crypto ledger (env, call)) fun after => related ledger.sas after.sas)
    (success : act host crypto ledger action = .ok next) : related ledger.sas next.sas := by
  cases action with
  | service env call => exact step env call next success
  | indexer =>
    simp only [act, eq_ok] at success
    rcases success with ⟨index, -, rfl⟩
    exact refl _
  | outside =>
    cases success
    exact refl _

/-- After a run that loses nothing else, the replays repair the indexer, and a second replay
changes nothing. -/
theorem reconciliation_repairs (reaches : Reaches host service indexer available) {initial : Env}
    {compatible : Bool} {world : Indexer.State × X}
    (initialised : Indexer.step Indexer.State.deployed (initial, .init compatible admin service) =
      .ok world.1) {actions : List (Action X)} (admissible : Admissible (act host crypto) (fun ledger action =>
      action.Serving ∧ action.Recoverable host crypto indexer available ledger) ⟨deployed, world⟩ actions) :
    let reached := run (act host crypto) ⟨deployed, world⟩ actions
    Countable reached.sas.book -> reached.sas.indexer = some indexer ->
    reached.sas.paused = false -> forall env, available env ->
      (forall uid attestation, recordOf reached.sas uid = some attestation ->
        ∃ after, reindexAttestation host env reached uid = .ok after ∧
          Indexed reached.sas after.world.1 uid attestation ∧
          forall later, available later -> ∃ again, reindexAttestation host later after uid = .ok again ∧
              again.world.1 = after.world.1) ∧ (forall uids, uids.length ≤ 100 ->
        ∃ failed after, bulkReindex host env reached uids = .ok (failed, after) ∧
          (forall uid, uid ∈ failed -> recordOf reached.sas uid = none) ∧
          (forall uid attestation, uid ∈ uids -> recordOf reached.sas uid = some attestation ->
            Indexed reached.sas after.world.1 uid attestation) ∧
          forall later, available later -> ∃ again, bulkReindex host later after uids = .ok (failed, again) ∧
              again.world.1 = after.world.1) := by
  intro reached countable bound unpaused env reachable
  have mirrored : Mirrored MayKnow admin service reached.paired :=
    run_invariant (fun _ _ _ mirrored allowed success =>
      act_mayKnow reaches mirrored allowed.1 allowed.2 success) (.fresh initialised fun _ => rfl) admissible
  have outside : Balanced deployed reached.sas :=
    run_related (fun before after : Ledger (Indexer.State × X) => Balanced before.sas after.sas)
      ⟨fun _ => .refl _, .trans⟩ (fun _ _ _ _ => act_related Balanced.refl fun _ _ => step_balanced) admissible
  have layout : KeepsLayout deployed reached.sas :=
    run_related (fun before after : Ledger (Indexer.State × X) => KeepsLayout before.sas after.sas)
      (keepsLayout_cumulative.comap _)
      (fun _ _ _ _ => act_related (fun _ => keepsLayout_congr rfl) fun _ _ => step_layout) admissible
  have compact (uid : UID) : (reached.sas.records uid).isLegacy = false := layout.compact rfl
  have ready : ReplayReady admin service indexer reached :=
    ⟨mirrored countable, countable, bound, unpaused, ⟨outside.guard, outside.depth⟩, compact⟩
  -- What has arrived is indexed as it should be, in the ledger after the replay.
  have indexed {after : Ledger (Indexer.State × X)} {uids : List UID} {uid : UID}
      {attestation : Attestation} (next : ReplayReady admin service indexer after)
      (replays : Replays uids reached after) (member : uid ∈ uids)
      (stored : recordOf reached.sas uid = some attestation) :
      Indexed reached.sas after.world.1 uid attestation := by
    have mirrors := next.mirrors
    rw [Ledger.paired, replays.same.book] at mirrors
    have held : recordOf after.sas uid = some attestation :=
      (congrArg Page.attestation (congrFun replays.same.book uid)).trans stored
    exact mirrors.indexed_of_known stored (replays.arrived uid member attestation held)
  constructor
  · intro uid attestation stored
    rcases ready.reindexAttestation reaches reachable stored with ⟨after, success, next, replays⟩
    refine ⟨after, success, indexed next replays (mem_singleton_self uid) stored, ?_⟩
    intro later reachable
    have held : recordOf after.sas uid = some attestation :=
      (congrArg Page.attestation (congrFun replays.same.book uid)).trans stored
    rcases next.reindexAttestation reaches reachable held with ⟨again, repeated, -, repeats⟩
    exact ⟨again, repeated, repeats.idle replays.arrived⟩
  · intro uids short
    rcases ready.bulkReindex reaches reachable short with ⟨after, success, next, replays⟩
    refine ⟨_, after, success, ?_, fun uid attestation member stored => indexed next replays member stored, ?_⟩
    · intro uid member
      exact Option.isNone_iff_eq_none.mp (List.mem_filter.mp member).2
    · intro later reachable
      rcases next.bulkReindex reaches reachable short with ⟨again, repeated, -, repeats⟩
      have same (uid : UID) : recordOf after.sas uid = recordOf reached.sas uid :=
        congrArg Page.attestation (congrFun replays.same.book uid)
      simp only [same] at repeated
      exact ⟨again, repeated, repeats.idle replays.arrived⟩

/-! ### An outage -/

open Address (accountOfNat)

/-- The same ledger with an indexer that does not answer at time 200. -/
def outageHost : Host (Indexer.State × X) where
  __ := (indexedHost : Host (Indexer.State × X))
  indexAttestation := fun env world callee attestation =>
    if callee = .contract 6 ∧ env.timestamp = 200 then none
    else indexedHost.indexAttestation env world callee attestation
  setValidFrom := fun env world callee uid validFrom =>
    if callee = .contract 6 ∧ env.timestamp = 200 then none
    else indexedHost.setValidFrom env world callee uid validFrom
  handleRevoke := fun env world callee uid =>
    if callee = .contract 6 ∧ env.timestamp = 200 then none
    else indexedHost.handleRevoke env world callee uid
  handleReplace := fun env world callee oldUid newUid =>
    if callee = .contract 6 ∧ env.timestamp = 200 then none
    else indexedHost.handleReplace env world callee oldUid newUid

theorem outageHost_reaches : Reaches (outageHost : Host (Indexer.State × X)) (.contract 8)
    (.contract 6) (fun env => env.timestamp ≠ 200) where
  indexAttestation := by
    intro env world attestation
    by_cases down : env.timestamp = 200
    · exact .inl ⟨not_not_intro down, if_pos ⟨rfl, down⟩⟩
    · exact .inr (by simpa [outageHost, down] using indexedHost_serves.indexAttestation env world attestation)
  setValidFrom := by
    intro env world uid validFrom
    by_cases down : env.timestamp = 200
    · exact .inl ⟨not_not_intro down, if_pos ⟨rfl, down⟩⟩
    · exact .inr (by simpa [outageHost, down] using indexedHost_serves.setValidFrom env world uid validFrom)
  handleRevoke := by
    intro env world uid
    by_cases down : env.timestamp = 200
    · exact .inl ⟨not_not_intro down, if_pos ⟨rfl, down⟩⟩
    · exact .inr (by simpa [outageHost, down] using indexedHost_serves.handleRevoke env world uid)
  handleReplace := by
    intro env world oldUid newUid
    by_cases down : env.timestamp = 200
    · exact .inl ⟨not_not_intro down, if_pos ⟨rfl, down⟩⟩
    · exact .inr (by simpa [outageHost, down] using indexedHost_serves.handleReplace env world oldUid newUid)
  handleRenew := fun _ _ _ _ => rfl
  elsewhere := by
    intro env before callee after different called
    cases called with
    | onAttest _ _ _ accepted | onRevoke _ _ _ accepted | transfer _ _ _ _ _ accepted
    | verifyProof _ _ _ _ _ accepted =>
      cases accepted
      rfl
    | indexAttestation _ _ _ accepted | setValidFrom _ _ _ _ accepted | handleRevoke _ _ _ accepted
    | handleReplace _ _ _ _ accepted | handleRenew _ _ _ _ accepted =>
      have away := mt (congrArg Callee.indexer) different
      simp only [outageHost, indexedHost, away, false_and, if_false, Option.some.injEq] at accepted
      rw [accepted]

/-- Account 1 initialises the service and binds the indexer. -/
def okOpenedIndex : List (Action Unit) :=
  [.service (signedAt [1] 100) (.init (accountOfNat 1) (.contract 7)),
    .service (signedAt [1] 100) (.setIndexer (.contract 6))]

/-- Account 2 answers while the indexer does not listen. -/
def okUnheard : List (Action Unit) := okOpenedIndex ++ [.service (signedAt [2] 200) (.attest (okAnswer true))]

theorem reconciliation_repairs_unheard :
    let reached := run (act outageHost answerCrypto) okStart okUnheard
    Indexer.isAttestationIndexed reached.world.1 (okAnswer true).uid = false ∧
      ∃ after, reindexAttestation outageHost (signedAt [5] 300) reached (okAnswer true).uid = .ok after ∧
        Indexed reached.sas after.world.1 (okAnswer true).uid { okAnswer true with time := 200 } := by
  intro reached
  refine ⟨rfl, ?_⟩
  have admissible : Admissible (act outageHost answerCrypto) (fun ledger action =>
      action.Serving ∧ action.Recoverable outageHost answerCrypto (.contract 6)
        (fun env => env.timestamp ≠ 200) ledger) okStart okUnheard := by
    refine ⟨⟨by simp [Action.Serving], .of_empty (fun _ => rfl) (by decide) trivial ?_⟩,
      ⟨by simp [Action.Serving], .of_empty (fun _ => rfl) (by decide) trivial ?_⟩,
      ⟨by simp [Action.Serving], .of_empty (fun _ => rfl) (by decide) rfl ?_⟩, trivial⟩
    · exact fun _ asked => asked.elim
    · exact fun _ asked => asked.elim
    · rintro issued rfl
      rfl
  have countable : Countable reached.sas.book := by
    have short : [(okAnswer true).uid].length < 2 ^ 32 := by decide
    refine countable_run short (fun _ => rfl) fun action member => ?_
    simp only [okUnheard, okOpenedIndex, cons_append, nil_append, mem_cons, not_mem_nil, or_false] at member
    rcases member with rfl | rfl | rfl
    · exact fun _ asked => asked.elim
    · exact fun _ asked => asked.elim
    · rintro issued rfl
      exact mem_singleton_self _
  have repaired := (reconciliation_repairs outageHost_reaches okIndex_initialised admissible countable
    rfl rfl (signedAt [5] 300) (by decide)).1 (okAnswer true).uid
    { okAnswer true with time := 200 } rfl
  rcases repaired with ⟨after, success, indexed, -⟩
  exact ⟨after, success, indexed⟩

/-- Account 2 answers, and renews its answer.  The indexer hears everything that there is to
hear. -/
def okHeardRenewal : List (Action Unit) :=
  okOpenedIndex ++ [.service (signedAt [2] 100) (.attest okExpiring),
    .service (signedAt [2] 120) (.renewAttestation okExpiring.uid 400)]

/-- Account 2 answers, and revokes its answer while the indexer does not listen. -/
def okUnheardRevocation : List (Action Unit) :=
  okOpenedIndex ++ [.service (signedAt [2] 100) (.attest (okAnswer true)),
    .service (signedAt [2] 200) (.revoke (okAnswer true).uid)]

set_option maxRecDepth 1000

/-- Account 2 gives an answer that is valid later, while the indexer does not listen. -/
def okUnheardLater : List (Action Unit) :=
  okOpenedIndex ++ [.service (signedAt [2] 200) (.attest { okAnswer true with validFrom := 250 })]

/-- A renewed record cannot be replayed.  A revocation that was not heard is not replayed, and
neither is the time from which a record is valid. -/
theorem reconciliation_incomplete :
    (forall action, action ∈ okHeardRenewal ++ okUnheardRevocation ++ okUnheardLater -> action.Serving) ∧
    (let reached := run (act outageHost answerCrypto) okStart okHeardRenewal
     (reindexAttestation outageHost (signedAt [5] 300) reached okExpiring.uid).isOk = false ∧
      ((bulkReindex outageHost (signedAt [5] 300) reached [okExpiring.uid]).toOption.map Prod.fst =
        some [okExpiring.uid]) ∧
      recordOf reached.sas okExpiring.uid = some { okExpiring with time := 100, expirationTime := 400 }) ∧
    (let reached := run (act outageHost answerCrypto) okStart okUnheardRevocation
     recordOf reached.sas (okAnswer true).uid = some { okAnswer true with time := 100, revocationTime := 200 } ∧
      (reindexAttestation outageHost (signedAt [5] 300) reached (okAnswer true).uid).toOption.map
        (fun after => Indexer.isActive after.world.1 (okAnswer true).uid) = some true) ∧
    (let reached := run (act outageHost answerCrypto) okStart okUnheardLater
     recordOf reached.sas (okAnswer true).uid = some { okAnswer true with time := 200, validFrom := 250 } ∧
      (reindexAttestation outageHost (signedAt [5] 300) reached (okAnswer true).uid).toOption.map
        (fun after => Indexer.getValidFrom after.world.1 (okAnswer true).uid) = some 0) := by
  refine ⟨?_, ⟨by decide, by decide, by decide⟩, ⟨by decide, by decide⟩, by decide, by decide⟩
  · intro action member
    simp only [okHeardRenewal, okUnheardRevocation, okUnheardLater, okOpenedIndex, cons_append,
      nil_append, mem_cons, not_mem_nil, or_false] at member
    rcases member with rfl | rfl | rfl | rfl | rfl | rfl | rfl | rfl | rfl | rfl | rfl <;>
      simp [Action.Serving]

end SorobanSas.Sas
