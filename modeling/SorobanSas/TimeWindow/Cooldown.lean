import SorobanSas.TimeWindow.Contract
import SorobanSas.Sas.Provenance

namespace SorobanSas.TimeWindow

open Library List
open Sas (Host Ledger Book Callee Operation Operations Submits Upkeep Accretes recordOf
  stamp tellIndexer tellIndexer_kept notifyIssuance notifyIndexerOfIssuance)

/-!
# The cooldown and the attestations of the service

The resolver is meant to refuse an issuance exactly while an attestation for the same recipient,
issued under one of its schemas, is younger than the cooldown.  Here it is put next to a service
whose schemas name it, and its window is compared with what the service has stored.

The window is written by the callback, before the record is.  Inside one call the two keep step:
an issuance that goes through leaves a record and a window with the time of the ledger, and one
that fails takes the window back with it.  So the comparison is made at every point at which a
call hands a payload to `attest_internal`, batches and replacements included.

Between calls, nothing ties the window to the service.  `on_attest` requires no authorization,
and anybody can call it for any recipient.  The first part assumes that nobody else does.  The
second part is an account that keeps a recipient from receiving attestations.
-/

variable {X : Type} {crypto : Crypto} {env : Env} {recipient : Address} {attestation : Attestation}
  {ledger : Ledger (State × X)}

/-- The host answers the service's callbacks to this address with the repository's resolver, and
the schemas that name it are the governed ones.  No other contract that the service calls
touches the resolver. -/
structure Resolves (host : Host (State × X)) (resolver : Address) (governed : UID -> Prop) :
    Prop where
  schemas : ∀ world registry uid schema, host.getSchema world registry uid = .ok (some schema) ->
      (schema.resolver = resolver ↔ governed uid)
  onAttest : ∀ env world attestation, ∃ inner : Env, inner.timestamp = env.timestamp ∧
    (host.onAttest env world resolver attestation).map Prod.fst = (onAttest inner world.1 attestation).toOption
  onRevoke : ∀ env world attestation, (host.onRevoke env world resolver attestation).map Prod.fst =
      some (onRevoke world.1 attestation)
  aside : ∀ env before callee after, callee ≠ .resolver resolver -> Sas.Callback host env before callee after ->
    after.1 = before.1

/-! ## Inside a call -/

/-- An attestation for the recipient, under a governed schema, is stored in the second state and
not in the first. -/
def Files (governed : UID -> Prop) (recipient : Address) (before after : Sas.State) : Prop :=
  ∃ uid attestation, recordOf before uid = none ∧
    recordOf after uid = some attestation ∧ attestation.recipient = recipient ∧ governed attestation.schemaUid

theorem files_trans {governed : UID -> Prop} {first middle last : Sas.State}
    (one : Accretes first.book middle.book) (two : Accretes middle.book last.book) :
    Files governed recipient first last ↔
      Files governed recipient first middle ∨ Files governed recipient middle last := by
  constructor
  · rintro ⟨uid, attestation, absent, stored, recipient, schema⟩
    cases halfway : recordOf middle uid with
    | none => exact .inr ⟨uid, attestation, halfway, stored, recipient, schema⟩
    | some earlier =>
      rcases two uid earlier halfway with ⟨later, found, extends_⟩
      cases stored.symm.trans found
      exact .inl ⟨uid, earlier, absent, halfway, extends_.recipient ▸ recipient, extends_.schemaUid ▸ schema⟩
  · rintro (⟨uid, attestation, absent, stored, recipient, schema⟩ |
      ⟨uid, attestation, absent, stored, recipient, schema⟩)
    · rcases two uid attestation stored with ⟨later, found, extends_⟩
      exact ⟨uid, later, absent, found, extends_.recipient.symm ▸ recipient, extends_.schemaUid.symm ▸ schema⟩
    · refine ⟨uid, attestation, ?_, stored, recipient, schema⟩
      cases before : recordOf first uid with
      | none => rfl
      | some old =>
        rcases one uid old before with ⟨kept, found, -⟩
        cases absent.symm.trans found

/-- The window has the time of every recipient for whom an attestation is filed, and is otherwise
unchanged. -/
structure Notes (governed : UID -> Prop) (now : UInt64) (before after : Ledger (State × X)) :
    Prop where
  config : after.world.1.config = before.world.1.config
  filed : ∀ recipient, Files governed recipient before.sas after.sas ->
    after.world.1.config ≠ none ∧ after.world.1.lastAttested recipient = some now
  unfiled : ∀ recipient, ¬ Files governed recipient before.sas after.sas ->
    after.world.1.lastAttested recipient = before.world.1.lastAttested recipient

namespace Notes

variable {governed : UID -> Prop} {now : UInt64}

/-- Nothing is filed, and the resolver is left alone. -/
theorem idle {before after : Ledger (State × X)} (absent : ∀ uid, recordOf before.sas uid = none ->
      recordOf after.sas uid = none) (same : after.world.1 = before.world.1) : Notes governed now before after where
  config := by rw [same]
  filed := by
    rintro recipient ⟨uid, attestation, missing, stored, -⟩
    cases (absent uid missing).symm.trans stored
  unfiled := fun _ _ => by rw [same]

theorem trans {first middle last : Ledger (State × X)}
    (one : Notes governed now first middle) (two : Notes governed now middle last)
    (earlier : Accretes first.sas.book middle.sas.book)
    (later : Accretes middle.sas.book last.sas.book) : Notes governed now first last where
  config := two.config.trans one.config
  filed := by
    intro recipient files
    by_cases recent : Files governed recipient middle.sas last.sas
    · exact two.filed recipient recent
    · have before := ((files_trans earlier later).mp files).resolve_right recent
      rw [two.config, two.unfiled recipient recent]
      exact one.filed recipient before
  unfiled := by
    intro recipient never
    rw [files_trans earlier later, not_or] at never
    rw [two.unfiled recipient never.2, one.unfiled recipient never.1]

end Notes

theorem absent_of_update {before after : Sas.State} {uid : UID} {page : Sas.Page}
    (stored : (before.book uid).attestation = some attestation)
    (book : after.book = update before.book uid page) {other : UID}
    (absent : recordOf before other = none) : recordOf after other = none := by
  have different : other ≠ uid := by
    rintro rfl
    cases absent.symm.trans stored
  have kept : after.book other = before.book other := by rw [book, update_of_ne different]
  exact (congrArg Sas.Page.attestation kept).trans absent

section Operations

variable {host : Host (State × X)} {resolver : Address} {governed : UID -> Prop}
  {upkeep : Upkeep -> Prop} {asked : Attestation -> Prop} {before after : Ledger (State × X)}
  {payload : Attestation} (resolves : Resolves host resolver governed)

include resolves

theorem notifyIssuance_aside :
    Yields (notifyIssuance host env ledger attestation) fun notified => notified.world.1 = ledger.world.1 := by
  unfold notifyIssuance
  split
  · rename_i indexer bound
    unfold notifyIndexerOfIssuance
    split
    · rename_i world accepted
      have kept : world.1 = ledger.world.1 :=
        resolves.aside env _ _ _ (by rintro ⟨⟩) (.indexAttestation indexer attestation world accepted)
      refine .ite (fun _ => .pure ?_) fun _ => .pure kept
      cases dated : host.setValidFrom env world indexer attestation.uid attestation.validFrom with
      | none => exact kept
      | some later =>
        exact (resolves.aside env _ _ _ (by rintro ⟨⟩) (.setValidFrom indexer _ _ later dated)).trans kept
    · exact .ite (fun _ => .throw _) fun _ => .pure rfl
  · exact .pure rfl

theorem attestInternal_window {result : UID × Ledger (State × X)}
    (success : Sas.attestInternal host crypto env before payload = .ok result) :
    (governed payload.schemaUid ∧ before.world.1.config ≠ none ∧ result.2.world.1 = { before.world.1 with
          lastAttested := update before.world.1.lastAttested payload.recipient (some env.timestamp) }) ∨
      (¬ governed payload.schemaUid ∧ result.2.world.1 = before.world.1) := by
  rcases Sas.attestInternal_notified success with
    ⟨registry, schema, world, state, notified, found, accepted, -, told, shown⟩
  have kept : result.2.world.1 = world.1 := by
    rw [shown]
    exact notifyIssuance_aside resolves notified told
  have named := resolves.schemas before.world registry payload.schemaUid schema found
  by_cases here : schema.resolver = resolver
  · rcases resolves.onAttest env before.world payload with ⟨inner, time, answer⟩
    rw [← here, accepted] at answer
    cases outcome : onAttest inner before.world.1 payload with
    | error failure =>
      rw [outcome] at answer
      cases answer
    | ok next =>
      rw [outcome] at answer
      cases answer
      rcases onAttest_ok outcome with ⟨configured, window⟩
      rw [kept, window, time]
      exact .inl ⟨named.mp here, configured, rfl⟩
  · rw [kept]
    exact .inr ⟨fun governs => here (named.mpr governs),
      resolves.aside env _ _ _ (mt Callee.resolver.inj here) (.onAttest schema.resolver payload world accepted)⟩

omit resolves in
theorem files_issue (attested : Sas.Attested host crypto env before payload after) :
    Files governed recipient before.sas after.sas ↔ payload.recipient = recipient ∧ governed payload.schemaUid := by
  constructor
  · rintro ⟨uid, attestation, absent, stored, named, schema⟩
    have found : (after.sas.book uid).attestation = some attestation := stored
    rw [attested.book] at found
    rcases Book.issue_cases found with ⟨-, ⟨⟩⟩ | ⟨-, found⟩
    · exact ⟨named, schema⟩
    · cases absent.symm.trans found
  · rintro ⟨named, schema⟩
    refine ⟨payload.uid, stamp env payload, attested.issuable.absent, ?_, named, schema⟩
    have found := Book.issue_self before.sas.book env (stamp env payload)
    rw [← attested.book] at found
    exact found

theorem operation_notes (operation : Operation host crypto env upkeep asked before after) :
    Notes governed env.timestamp before after := by
  cases operation with
  | write state same =>
    refine .idle (fun uid absent => ?_) rfl
    exact (congrArg (fun book : Book => (book uid).attestation) same.book).trans absent
  | external pays world called => exact .idle (fun _ => id) (resolves.aside env _ _ _ (by rintro ⟨⟩) called)
  | issue payload result success =>
    have attested := (Sas.attestInternal_ok success).2
    rcases attestInternal_window resolves success with ⟨governs, configured, window⟩ | ⟨free, window⟩
    · refine ⟨by rw [window], fun recipient files => ?_, fun recipient none_ => ?_⟩
      · rcases (files_issue attested).mp files with ⟨rfl, -⟩
        rw [window]
        exact ⟨configured, update_self _ _ _⟩
      · rw [files_issue attested, and_iff_left governs] at none_
        rw [window]
        exact update_of_ne (Ne.symm none_) _ _
    · refine ⟨by rw [window], fun recipient files => ?_, fun _ _ => by rw [window]⟩
      exact absurd ((files_issue attested).mp files).2 free
  | revoke uid _ success =>
    rcases (Sas.revokeInternal_ok success).revocable with ⟨attestation, stored, -, -, -, book⟩
    rcases Sas.revokeInternal_notified success with ⟨other, record, world, accepted, shown⟩
    have resolved : world.1 = before.world.1 := by
      by_cases here : other = resolver
      · subst here
        have answer := resolves.onRevoke env before.world record
        rw [accepted] at answer
        exact Option.some.inj answer
      · exact resolves.aside env _ _ _ (mt Callee.resolver.inj here) (.onRevoke other record world accepted)
    refine .idle (fun _ => absent_of_update stored book) ?_
    rw [shown]
    refine (tellIndexer_kept Prod.fst fun indexer later answered => ?_).trans resolved
    exact resolves.aside env _ _ _ (by rintro ⟨⟩) (.handleRevoke indexer uid later answered)
  | replaced oldUid newUid =>
    refine .idle (fun _ => id) (tellIndexer_kept Prod.fst fun indexer later answered => ?_)
    exact resolves.aside env _ _ _ (by rintro ⟨⟩) (.handleReplace indexer oldUid newUid later answered)
  | renew uid attestation expirationTime state stored prolongs allowed book indexer =>
    refine .idle (fun _ => absent_of_update stored book) (tellIndexer_kept Prod.fst fun indexer later answered => ?_)
    exact resolves.aside env _ _ _ (by rintro ⟨⟩) (.handleRenew indexer uid expirationTime later answered)
  | prune uid attestation state stored expired allowed book =>
    exact .idle (fun _ => absent_of_update stored book) rfl
  | reindex indexer uid attestation _ bound stored accepted same =>
    refine .idle (fun uid absent => ?_) ?_
    · exact (congrArg (fun book : Book => (book uid).attestation) same.book).trans absent
    · exact resolves.aside env _ _ _ (by rintro ⟨⟩) (.indexAttestation indexer attestation _ accepted)

omit resolves in
theorem operation_accretes (unpruned : ¬ upkeep .prune)
    (operation : Operation host crypto env upkeep asked before after) : Accretes before.sas.book after.sas.book := by
  cases operation with
  | write state same | reindex indexer uid attestation _ bound stored accepted same => exact same.book ▸ .refl _
  | external | replaced => exact .refl _
  | issue payload result success intended =>
    have attested := (Sas.attestInternal_ok success).2
    rw [attested.book]
    exact .issue (.issue (stamp env payload) attested.issuable intended)
  | revoke uid _ success =>
    rcases (Sas.revokeInternal_ok success).revocable with ⟨attestation, stored, revocable, unrevoked, -, book⟩
    rw [book]
    exact .revoke stored revocable unrevoked
  | renew uid attestation expirationTime state stored prolongs allowed book =>
    rw [book]
    exact .renew stored prolongs
  | prune uid attestation state stored expired allowed => exact absurd allowed unpruned

theorem operations_notes (unpruned : ¬ upkeep .prune)
    (operations : Operations host crypto env upkeep asked before after) :
    Notes governed env.timestamp before after ∧ Accretes before.sas.book after.sas.book := by
  induction operations with
  | refl => exact ⟨.idle (fun _ => id) rfl, .refl _⟩
  | tail _ last ih =>
    have accretes := operation_accretes unpruned last
    exact ⟨ih.1.trans (operation_notes resolves last) ih.2 accretes, ih.2.trans accretes⟩

theorem step_notes {call : Sas.Call} :
    Yields (Sas.step host crypto before (env, call)) (Notes governed env.timestamp before) := by
  intro after success
  cases configures : call.configures with
  | true =>
    have quiet := Sas.step_configures configures after success
    have same : after.sas.book = before.sas.book := Sas.book_congr quiet.records
    refine .idle (fun uid absent => ?_) (by rw [quiet.world])
    exact (congrArg (fun book : Book => (book uid).attestation) same).trans absent
  | false =>
    by_cases prunes : call.upkeep .prune
    · cases call with
      | pruneExpired =>
        simp only [Sas.step, Sas.locallyWith, Sas.pruneExpired_eq_ok, eq_ok] at success
        rcases success with ⟨_, ⟨-, -, -, rfl⟩, rfl⟩
        refine .idle (fun uid absent => ?_) rfl
        rw [Option.eq_none_iff_forall_ne_some]
        intro attestation stored
        cases absent.symm.trans (Sas.foldl_pruneStored_stored.mp stored).1
      | _ => cases prunes
    · exact (operations_notes resolves prunes (Sas.step_operations configures after success)).1

end Operations

/-! ## Runs -/

/-- What can happen on a ledger with both contracts: a call of the service, a call of the
resolver by anybody else, or anything that concerns neither. -/
inductive Action (X : Type) where
  | service (env : Env) (call : Sas.Call)
  | resolver (env : Env) (call : Call)
  | outside (rest : X)

def act (host : Host (State × X)) (crypto : Crypto) (ledger : Ledger (State × X)) :
    Action X -> Except Trap (Ledger (State × X))
  | .service env call => Sas.step host crypto ledger (env, call)
  | .resolver env call => do
      let window <- step ledger.world.1 (env, call)
      return { ledger with world := (window, ledger.world.2) }
  | .outside rest => .ok { ledger with world := (ledger.world.1, rest) }

def Action.time : Action X -> Option UInt64
  | .service env _ | .resolver env _ => some env.timestamp
  | .outside _ => none

/-- The times of the calls of a run, in order. -/
def times (actions : List (Action X)) : List UInt64 := actions.filterMap Action.time

/-- The service stores an attestation for the recipient, under a governed schema, at this
time. -/
def Stores (host : Host (State × X)) (crypto : Crypto) (governed : UID -> Prop)
    (recipient : Address) (time : UInt64) (ledger : Ledger (State × X)) (action : Action X) : Prop :=
  ∃ env call next, action = .service env call ∧ env.timestamp = time ∧
    Sas.step host crypto ledger (env, call) = .ok next ∧ Files governed recipient ledger.sas next.sas

/-- Nobody but the service gets through `on_attest`, and the cooldown is the same ever since the
resolver was initialised. -/
structure Undisturbed (host : Host (State × X)) (crypto : Crypto) (cooldown : UInt64)
    (ledger : Ledger (State × X)) (action : Action X) : Prop where
  callbacks : ∀ env attestation, action = .resolver env (.onAttest attestation) ->
    (act host crypto ledger action).isOk = false
  constant : ∀ next config, act host crypto ledger action = .ok next ->
    next.world.1.config = some config -> config.cooldownPeriodSeconds = cooldown

section Runs

variable (host : Host (State × X)) (crypto : Crypto) (governed : UID -> Prop)
  (cooldown : UInt64) (start : Ledger (State × X)) {actions : List (Action X)} {next : Ledger (State × X)}

/-- The window of a recipient is the last time at which the service stored an attestation for
them. -/
structure Tracked (actions : List (Action X)) (ledger : Ledger (State × X)) : Prop where
  constant : ∀ config, ledger.world.1.config = some config -> config.cooldownPeriodSeconds = cooldown
  silent : ledger.world.1.config = none -> ∀ recipient, ledger.world.1.lastAttested recipient = none
  stored : ∀ recipient time, ledger.world.1.lastAttested recipient = some time ->
    Occurs (act host crypto) start (Stores host crypto governed recipient time) actions
  latest : ∀ recipient time, Occurs (act host crypto) start (Stores host crypto governed recipient time) actions ->
    ∃ last, ledger.world.1.lastAttested recipient = some last ∧ time <= last

/-- What holds after the actions of a run, if their times are in order. -/
def TrackedAfter (actions : List (Action X)) (ledger : Ledger (State × X)) : Prop :=
  (times actions).Pairwise (· <= ·) -> Tracked host crypto governed cooldown start actions ledger

variable {host crypto governed cooldown start}

theorem time_mem_of_stores {time : UInt64}
    (occurs : Occurs (act host crypto) start (Stores host crypto governed recipient time) actions) :
    time ∈ times actions := by
  rcases occurs with ⟨before, _, after, rfl, env, call, _, rfl, rfl, -⟩
  exact List.mem_filterMap.mpr ⟨.service env call, by simp, rfl⟩

/-- The resolver's storage stays as it is, apart from the configuration. -/
theorem Tracked.configured {action : Action X} (tracked : Tracked host crypto governed cooldown start actions ledger)
    (constant : ∀ config, next.world.1.config = some config -> config.cooldownPeriodSeconds = cooldown)
    (kept : next.world.1.config = none -> ledger.world.1.config = none)
    (windows : next.world.1.lastAttested = ledger.world.1.lastAttested) (foreign : ∀ recipient time,
      ¬ Stores host crypto governed recipient time (run (act host crypto) start actions) action) :
    Tracked host crypto governed cooldown start (actions ++ [action]) next where
  constant := constant
  silent := by
    rw [windows]
    exact fun unset => tracked.silent (kept unset)
  stored := by
    intro recipient time last
    rw [windows] at last
    exact occurs_concat.mpr (.inl (tracked.stored recipient time last))
  latest := by
    intro recipient time occurs
    rw [windows]
    rcases occurs_concat.mp occurs with earlier | now
    · exact tracked.latest recipient time earlier
    · exact absurd now (foreign recipient time)

theorem Tracked.service {env : Env} {call : Sas.Call}
    (tracked : Tracked host crypto governed cooldown start actions (run (act host crypto) start actions))
    (clock : ∀ time ∈ times actions, time <= env.timestamp)
    (success : Sas.step host crypto (run (act host crypto) start actions) (env, call) = .ok next)
    (notes : Notes governed env.timestamp (run (act host crypto) start actions) next) :
    Tracked host crypto governed cooldown start (actions ++ [.service env call]) next where
  constant := by
    rw [notes.config]
    exact tracked.constant
  silent := by
    intro unset recipient
    by_cases files : Files governed recipient (run (act host crypto) start actions).sas next.sas
    · exact absurd unset (notes.filed recipient files).1
    · rw [notes.unfiled recipient files]
      rw [notes.config] at unset
      exact tracked.silent unset recipient
  stored := by
    intro recipient time last
    rw [occurs_concat]
    by_cases files : Files governed recipient (run (act host crypto) start actions).sas next.sas
    · cases (notes.filed recipient files).2.symm.trans last
      exact .inr ⟨env, call, next, rfl, rfl, success, files⟩
    · rw [notes.unfiled recipient files] at last
      exact .inl (tracked.stored recipient time last)
  latest := by
    intro recipient time occurs
    by_cases files : Files governed recipient (run (act host crypto) start actions).sas next.sas
    · refine ⟨env.timestamp, (notes.filed recipient files).2, ?_⟩
      rcases occurs_concat.mp occurs with earlier | ⟨_, _, _, same, rfl, -⟩
      · exact clock time (time_mem_of_stores earlier)
      · cases same
        exact UInt64.le_refl _
    · rw [notes.unfiled recipient files]
      rcases occurs_concat.mp occurs with earlier | ⟨_, _, other, same, -, again, filed⟩
      · exact tracked.latest recipient time earlier
      · cases same
        cases success.symm.trans again
        exact absurd filed files

/-- A call of the resolver from elsewhere that is not `on_attest` changes the configuration at
most. -/
theorem step_windows {state next : State} {call : Call}
    (other : ∀ attestation, call ≠ .onAttest attestation) (success : step state (env, call) = .ok next) :
    next.lastAttested = state.lastAttested ∧ (next.config = none -> state.config = none) := by
  cases call with
  | init =>
    simp only [step, init, eq_ok] at success
    rcases success with ⟨_, -, _, -, rfl⟩
    exact ⟨rfl, fun unset => by cases unset⟩
  | setCooldownPeriodSeconds =>
    simp only [step, setCooldownPeriodSeconds, eq_ok] at success
    rcases success with ⟨config, -, _, -, _, -, rfl⟩
    exact ⟨rfl, fun unset => by cases unset⟩
  | onAttest attestation => exact absurd rfl (other attestation)
  | onRevoke =>
    cases success
    exact ⟨rfl, id⟩

theorem tracked_run {resolver : Address} (resolves : Resolves host resolver governed)
    (deployed : start.world.1 = deployed)
    (undisturbed : Admissible (act host crypto) (Undisturbed host crypto cooldown) start actions) :
    TrackedAfter host crypto governed cooldown start actions (run (act host crypto) start actions) := by
  refine trail_invariant ?_ ?_ ?_ undisturbed
  · intro _
    refine ⟨?_, fun _ recipient => ?_, fun recipient time last => ?_, fun _ _ occurs => ?_⟩
    · intro config set
      rw [deployed] at set
      cases set
    · rw [deployed]
      rfl
    · rw [deployed] at last
      cases last
    · exact absurd occurs not_occurs_nil
  · intro actions action next trail condition success clock
    rw [times, filterMap_append] at clock
    rcases List.pairwise_append.mp clock with ⟨earlier, -, later⟩
    have tracked := trail earlier
    have constant : ∀ config, next.world.1.config = some config ->
        config.cooldownPeriodSeconds = cooldown := fun config => condition.constant next config success
    cases action with
    | service env =>
      refine tracked.service (fun time member => ?_) success (step_notes resolves next success)
      exact later time member env.timestamp (mem_singleton_self _)
    | resolver env call =>
      have other : ∀ attestation, call ≠ .onAttest attestation := by
        rintro attestation rfl
        have refused := condition.callbacks env attestation rfl
        rw [success] at refused
        cases refused
      have foreign : ∀ recipient time, ¬ Stores host crypto governed recipient time
          (run (act host crypto) start actions) (.resolver env call) := by
        rintro recipient time ⟨_, _, _, same, -⟩
        cases same
      simp only [act, eq_ok] at success
      rcases success with ⟨window, success, rfl⟩
      have windows := step_windows other success
      exact tracked.configured constant windows.2 windows.1 foreign
    | outside =>
      cases success
      refine tracked.configured constant id rfl ?_
      rintro recipient time ⟨_, _, _, same, -⟩
      cases same
  · intro actions action failure trail aborted clock
    rw [times, filterMap_append] at clock
    have tracked := trail (List.pairwise_append.mp clock).1
    refine tracked.configured tracked.constant id rfl ?_
    rintro recipient time ⟨env, call, next, rfl, -, success, -⟩
    cases success.symm.trans aborted

end Runs

theorem coolingDown_iff {cooldown last now : UInt64} :
    coolingDown cooldown last now = true ↔ now.toNat < min (last.toNat + cooldown.toNat) (2 ^ 64 - 1) := by
  have bound : min (last.toNat + cooldown.toNat) (2 ^ 64 - 1) < 2 ^ 64 := by omega
  rw [coolingDown, decide_eq_true_iff, UInt64.lt_iff_toNat_lt, saturatingAdd, UInt64.toNat_ofNat_of_lt' bound]

/-- As long as only the service gets through `on_attest`: at every point at which a call of the
service hands a payload to `attest_internal`, the resolver's callback fails with `CooldownActive`
exactly if the service stored an attestation for the recipient, under one of the resolver's
schemas, less than the cooldown ago.  The attestation may have been stored by an earlier call, or
before in the same one.  At the last second of the clock the saturating addition makes an
exception. -/
theorem cooldown_exact (host : Host (State × X)) (crypto : Crypto) (resolver : Address)
    (governed : UID -> Prop) (resolves : Resolves host resolver governed) (cooldown : UInt64)
    (positive : 0 < cooldown) (start : Ledger (State × X))
    (deployed : start.world.1 = deployed) (actions : List (Action X)) (env : Env)
    (clock : (times actions ++ [env.timestamp]).Pairwise (· ≤ ·)) (early : env.timestamp.toNat < 2 ^ 64 - 1)
    (undisturbed : Admissible (act host crypto) (Undisturbed host crypto cooldown) start actions)
    (call : Sas.Call) (current : Ledger (State × X)) (payload : Attestation)
    (submits : Submits host crypto env (run (act host crypto) start actions) call current payload)
    (inner : Env) (now : inner.timestamp = env.timestamp) :
    onAttest inner current.world.1 payload = .error (.contract .cooldownActive) ↔ ∃ time : UInt64,
        (Occurs (act host crypto) start (Stores host crypto governed payload.recipient time) actions ∨
          time = env.timestamp ∧ Files governed payload.recipient
            (run (act host crypto) start actions).sas current.sas) ∧
        env.timestamp.toNat - time.toNat < cooldown.toNat := by
  rcases List.pairwise_append.mp clock with ⟨ordered, -, passed⟩
  have tracked := tracked_run resolves deployed undisturbed ordered
  have operations := submits.related (Operations host crypto env call.upkeep (call.asks crypto env))
    ⟨.refl, .trans⟩ (fun _ _ _ part => .single part.operation) fun _ _ => .write ⟨rfl, rfl⟩
  have notes := (operations_notes resolves (Sas.Call.upkeep_of_issues submits.issues _) operations).1
  have long : 0 < cooldown.toNat := UInt64.lt_iff_toNat_lt.mp positive
  rw [onAttest_cooldownActive_iff, now, notes.config]
  constructor
  · rintro ⟨config, set, -, last, window, running⟩
    rw [tracked.constant config set, coolingDown_iff] at running
    by_cases files : Files governed payload.recipient (run (act host crypto) start actions).sas
        current.sas
    · refine ⟨env.timestamp, .inr ⟨rfl, files⟩, ?_⟩
      omega
    · rw [notes.unfiled _ files] at window
      refine ⟨last, .inl (tracked.stored _ last window), ?_⟩
      omega
  · rintro ⟨time, stored, recent⟩
    have window : ∃ last, current.world.1.lastAttested payload.recipient = some last ∧
        time.toNat ≤ last.toNat ∧ (run (act host crypto) start actions).world.1.config ≠ none := by
      by_cases files : Files governed payload.recipient (run (act host crypto) start actions).sas
          current.sas
      · rcases notes.filed _ files with ⟨configured, window⟩
        refine ⟨env.timestamp, window, ?_, notes.config ▸ configured⟩
        rcases stored with earlier | ⟨rfl, -⟩
        · exact UInt64.le_iff_toNat_le.mp (passed time (time_mem_of_stores earlier) env.timestamp
            (mem_singleton_self _))
        · exact Nat.le_refl _
      · have earlier := stored.resolve_right fun current => files current.2
        rcases tracked.latest _ time earlier with ⟨last, window, later⟩
        refine ⟨last, (notes.unfiled _ files).trans window, UInt64.le_iff_toNat_le.mp later, ?_⟩
        intro unset
        cases (tracked.silent unset payload.recipient).symm.trans window
    rcases window with ⟨last, window, later, configured⟩
    rcases Option.ne_none_iff_exists'.mp configured with ⟨config, set⟩
    refine ⟨config, set, ?_, last, window, ?_⟩
    · rw [tracked.constant config set]
      rintro rfl
      exact absurd positive (by decide)
    · rw [tracked.constant config set, coolingDown_iff]
      omega

/-! ### A service with the resolver

The service of the small ledger, whose one schema names contract 9 as its resolver.  Account 1
initialises the resolver with a cooldown of a minute. -/

open Address (accountOfNat)
open Registry (okSchemaUid)
open Sas (okHost okAnswer answerCrypto signedAt)

def windowHost : Host (State × X) where
  __ := (okHost : Host (State × X))
  onAttest := fun env world callee attestation =>
    if callee = .contract 9 then
      (onAttest env world.1 attestation).toOption.map fun window => (window, world.2)
    else some world

theorem windowHost_resolves : Resolves (windowHost : Host (State × X)) (.contract 9) (· = okSchemaUid) where
  schemas := by
    intro world registry uid schema found
    simp only [windowHost, okHost, Except.ok.injEq] at found
    split at found
    · rename_i same
      cases found
      exact iff_of_true rfl same
    · cases found
  onAttest := by
    intro env world attestation
    refine ⟨env, rfl, ?_⟩
    simp only [windowHost, if_true]
    cases onAttest env world.1 attestation <;> rfl
  onRevoke := fun _ _ _ => rfl
  aside := by
    intro env before callee after different called
    cases called with
    | onAttest other attestation _ accepted =>
      simp only [windowHost, if_neg (mt (congrArg Callee.resolver) different), Option.some.injEq] at accepted
      rw [accepted]
    | _ =>
      rename_i accepted
      cases accepted
      rfl

def okWindow : Ledger (State × Unit) := ⟨Sas.State.deployed, deployed, ()⟩

/-- Account 1 initialises the resolver and the service. -/
def okOpening : List (Action Unit) :=
  [.resolver (signedAt [1] 100) (.init (accountOfNat 1) 60),
    .service (signedAt [1] 100) (.init (accountOfNat 1) (.contract 7))]

/-- Account 2 answers. -/
def okFirst : Action Unit := .service (signedAt [2] 100) (.attest (okAnswer true))

theorem okFirst_undisturbed : Admissible (act windowHost answerCrypto) (Undisturbed windowHost answerCrypto 60) okWindow
      (okOpening ++ [okFirst]) := by
  have initial (ledger : Ledger (State × Unit)) (unset : ledger.world.1.config = none) :
      Undisturbed windowHost answerCrypto 60 ledger (.resolver (signedAt [1] 100) (.init (accountOfNat 1) 60)) := by
    refine ⟨fun _ _ same => (by cases same), fun next config success set => ?_⟩
    simp only [act, step, init, eq_ok] at success
    rcases success with ⟨_, ⟨_, -, _, -, rfl⟩, rfl⟩
    cases set
    rfl
  have served (env : Env) (call : Sas.Call) (ledger : Ledger (State × Unit))
      (set : ledger.world.1.config = some ⟨accountOfNat 1, 60⟩) :
      Undisturbed windowHost answerCrypto 60 ledger (.service env call) := by
    refine ⟨fun _ _ same => (by cases same), fun next config success now => ?_⟩
    rw [(step_notes windowHost_resolves next success).config, set] at now
    cases now
    rfl
  exact ⟨initial _ rfl, served _ _ _ rfl, served _ _ _ rfl, trivial⟩

/-- Half a minute after the first answer the second one is refused. -/
theorem cooldown_exact_second :
    let reached := run (act windowHost answerCrypto) okWindow (okOpening ++ [okFirst])
    onAttest (signedAt [2] 130) reached.world.1 (okAnswer false) = .error (.contract .cooldownActive) ∧
      ∃ time : UInt64, (Occurs (act windowHost answerCrypto) okWindow
            (Stores windowHost answerCrypto (· = okSchemaUid) (accountOfNat 3) time) (okOpening ++ [okFirst]) ∨
          time = 130 ∧ Files (· = okSchemaUid) (accountOfNat 3) reached.sas reached.sas) ∧ 130 - time.toNat < 60 := by
  intro reached
  have refused : onAttest (signedAt [2] 130) reached.world.1 (okAnswer false) =
      .error (.contract .cooldownActive) := by
    rw [onAttest_cooldownActive_iff]
    exact ⟨⟨accountOfNat 1, 60⟩, by decide, by decide, 100, by decide, by decide⟩
  exact ⟨refused, (cooldown_exact windowHost answerCrypto (.contract 9) (· = okSchemaUid)
    windowHost_resolves 60 (by decide) okWindow rfl (okOpening ++ [okFirst]) (signedAt [2] 130)
    (by decide) (by decide) okFirst_undisturbed (.attest (okAnswer false)) reached
    (okAnswer false) (.attest (okAnswer false)) (signedAt [2] 130) rfl).mp refused⟩

/-- Anybody calls `on_attest` with an attestation for account 3. -/
def okIntruder : Action Unit := .resolver (signedAt [] 100) (.onAttest (okAnswer true))

/-- The service has stored nothing when it is refused, half a minute later. -/
theorem outsider_blocks_recipient :
    let actions := okOpening ++ [okIntruder]
    let reached := run (act windowHost answerCrypto) okWindow actions
    Submits windowHost answerCrypto (signedAt [2] 130) reached (.attest (okAnswer false)) reached
        (okAnswer false) ∧
      onAttest (signedAt [2] 130) reached.world.1 (okAnswer false) = .error (.contract .cooldownActive) ∧
      Sas.step windowHost answerCrypto reached (signedAt [2] 130, .attest (okAnswer false)) =
        .error (.contract .resolverRejected) ∧ (forall uid, recordOf reached.sas uid = none) ∧
      forall recipient time, ¬ Occurs (act windowHost answerCrypto) okWindow
        (Stores windowHost answerCrypto (· = okSchemaUid) recipient time) actions := by
  intro actions reached
  refine ⟨.attest (okAnswer false), ?_, rfl, fun uid => rfl, ?_⟩
  · rw [onAttest_cooldownActive_iff]
    exact ⟨⟨accountOfNat 1, 60⟩, rfl, by decide, 100, rfl, by decide⟩
  · intro recipient time occurs
    have split : actions = (([] ++ [_]) ++ [_]) ++ [_] := rfl
    rw [split, occurs_concat, occurs_concat, occurs_concat] at occurs
    rcases occurs with ((never | ⟨_, _, _, foreign, -⟩) | ⟨env, call, next, same, -, success, filed⟩) |
      ⟨_, _, _, foreign, -⟩
    · exact not_occurs_nil never
    · cases foreign
    · cases same
      rcases filed with ⟨uid, attestation, absent, stored, -⟩
      have quiet := Sas.step_configures rfl next success
      have kept := congrArg (fun book : Book => (book uid).attestation) (Sas.book_congr quiet.records)
      cases absent.symm.trans (kept.symm.trans stored)
    · cases foreign

end SorobanSas.TimeWindow
