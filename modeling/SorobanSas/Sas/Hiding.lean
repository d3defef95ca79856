import SorobanSas.Sas.Indexing

namespace SorobanSas.Sas

open Library List
open Relation (ReflTransGen)

/-!
# What the indexer hides

Readers of the indexer may ask for active UIDs only.  A UID should be missing from their
answer for one reason: the service has revoked or replaced the attestation.

The indexer does not make sure of that.  `index_attestation` and `set_valid_from` require the
authorization of the service, but `handle_revoke` and `handle_replace`, which are meant to be
its callbacks, require none.  Any account can call them, for any UID, and nothing makes the
UID active again.

The first part shows that nothing else is wrong: as long as the calls that come from
elsewhere name withdrawn attestations only, whatever is hidden has been withdrawn.  The
second part is an account that hides a valid attestation.
-/

variable {X : Type} {host : Host (Indexer.State × X)} {crypto : Crypto} {env : Env}
  {service indexer admin : Address}

/-- The service has revoked or replaced the attestation. -/
def Withdrawn (state : State) (uid : UID) : Prop :=
  ∃ attestation, recordOf state uid = some attestation ∧ attestation.revocationTime ≠ 0

/-- The same of a book. -/
def Book.Withdrawn (book : Book) (uid : UID) : Prop :=
  ∃ attestation, (book uid).attestation = some attestation ∧ attestation.revocationTime ≠ 0

theorem Book.Withdrawn.accretes {before after : Book} {uid : UID}
    (withdrawn : before.Withdrawn uid) (accretes : Accretes before after) : after.Withdrawn uid := by
  rcases withdrawn with ⟨old, stored, nonzero⟩
  rcases accretes uid old stored with ⟨new, current, later⟩
  refine ⟨new, current, ?_⟩
  rw [later.revoked nonzero]
  exact nonzero

/-! ## Calls of the service -/

theorem noticed_status (indexing dating : Env) (index : Indexer.State) (attestation : Attestation) :
    (noticed indexing dating index attestation).status = index.status := by
  unfold noticed
  split
  · rfl
  · rename_i filed indexed
    have same := Indexer.indexAttestation_status indexed
    split
    · cases dated : Indexer.setValidFrom dating filed attestation.uid attestation.validFrom with
      | error failure => exact same
      | ok after =>
        simp only [Indexer.setValidFrom, eq_ok] at dated
        rcases dated with ⟨-, -, rfl⟩
        exact same
    · exact same

section Changes

variable {bound : Bool} {upkeep : Upkeep -> Prop} {asked : Attestation -> Prop}
  {first last : Book × Indexer.State} {uid : UID}

theorem Change.hides (positive : env.timestamp ≠ 0) (change : Change crypto env service bound upkeep asked first last)
    (inactive : Indexer.isActive last.2 uid = false) :
    Indexer.isActive first.2 uid = false ∨ last.1.Withdrawn uid := by
  cases change with
  | nothing | renew | prune => exact .inl inactive
  | issue book index attestation indexing dating =>
    left
    cases bound with
    | false => exact inactive
    | true =>
      rw [← Indexer.isActive_congr (noticed_status indexing dating index attestation)]
      exact inactive
  | revoke book index revoked attestation =>
    cases bound with
    | false => exact .inl inactive
    | true =>
      rcases Indexer.isActive_setIndexStatus inactive with rfl | earlier
      · exact .inr ⟨_, Book.revoke_self book env uid attestation, positive⟩
      · exact .inl earlier
  | replaced book index oldUid newUid old stored revoked =>
    cases bound with
    | false => exact .inl inactive
    | true =>
      rcases Indexer.isActive_setIndexStatus inactive with rfl | earlier
      · exact .inr ⟨old, stored, fun zero => positive (revoked.symm.trans zero)⟩
      · exact .inl earlier
  | reindex book index after indexed attestation indexing _ _ _ accepted =>
    left
    rw [← Indexer.isActive_congr (Indexer.indexAttestation_status accepted)]
    exact inactive

/-- Book and index of an indexer that hides only what is withdrawn. -/
structure Discreet (admin service : Address) (pair : Book × Indexer.State) : Prop where
  initialised : Indexer.Initialised admin service pair.2
  hidden : ∀ uid, Indexer.isActive pair.2 uid = false -> pair.1.Withdrawn uid

theorem Discreet.change (discreet : Discreet admin service first) (positive : env.timestamp ≠ 0)
    (unpruned : ¬ upkeep .prune) (change : Change crypto env service bound upkeep asked first last) :
    Discreet admin service last where
  initialised := discreet.initialised.keeps change.works
  hidden := by
    intro uid inactive
    rcases change.hides positive inactive with earlier | withdrawn
    · -- A revocation time that was there before is never reset.
      exact (discreet.hidden uid earlier).accretes (change.accretes unpruned)
    · exact withdrawn

theorem Discreet.changes (discreet : Discreet admin service first) (positive : env.timestamp ≠ 0)
    (unpruned : ¬ upkeep .prune) (changes : ReflTransGen (Change crypto env service bound upkeep asked) first last) :
    Discreet admin service last := by
  induction changes with
  | refl => exact discreet
  | tail _ change ih => exact ih.change positive unpruned change

end Changes

/-! ## Runs -/

/-- Calls to the indexer from elsewhere come with neither of the authorizations it knows. -/
def Action.Unprivileged (admin service : Address) : Action X -> Prop
  | .indexer env _ => env.authorized admin = false ∧ env.authorized service = false
  | _ => True

/-- Calls to the indexer from elsewhere hide only what the service has withdrawn.  The service
works at positive times, and does not remove records that it has withdrawn. -/
def Action.Discreet (ledger : Ledger (Indexer.State × X)) : Action X -> Prop
  | .service env call => env.timestamp ≠ 0 ∧ ∀ uids, call = .pruneExpired uids ->
      ∀ uid ∈ uids, ∀ attestation, recordOf ledger.sas uid = some attestation ->
        Expired env attestation.expirationTime -> attestation.revocationTime = 0
  | .indexer _ call => ∀ uid, call.hides = some uid -> Withdrawn ledger.sas uid
  | .outside _ => True

theorem act_discreet (serves : Serves host service indexer)
    {ledger next : Ledger (Indexer.State × X)} {action : Action X} (discreet : Discreet admin service ledger.paired)
    (unprivileged : action.Unprivileged admin service) (condition : action.Discreet ledger)
    (success : act host crypto ledger action = .ok next) : Discreet admin service next.paired := by
  cases action with
  | outside =>
    cases success
    exact discreet
  | indexer env call =>
    simp only [act, eq_ok] at success
    rcases success with ⟨index, success, rfl⟩
    rcases discreet.initialised.outsider unprivileged success with ⟨uid, status, named, rfl⟩
    refine ⟨?_, ?_⟩
    · refine discreet.initialised.works ⟨(env, call), ?_, success⟩
      rintro tier rfl
      cases named
    · intro other inactive
      rcases Indexer.isActive_setIndexStatus inactive with rfl | earlier
      · exact condition other named
      · exact discreet.hidden other earlier
  | service env call =>
    rcases condition with ⟨positive, spares⟩
    by_cases prunes : call.upkeep .prune
    · cases call with
      | pruneExpired uids =>
        -- Pruning does not reach the indexer, so what it hides must stay in the book.
        simp only [act, step, locallyWith, eq_ok] at success
        rcases success with ⟨result, pruned, rfl⟩
        refine ⟨discreet.initialised, ?_⟩
        intro uid inactive
        rcases discreet.hidden uid inactive with ⟨attestation, stored, nonzero⟩
        rw [← (pruneExpired_eq_ok.mp pruned).2.2.2]
        refine ⟨attestation, foldl_pruneStored_stored.mpr ⟨stored, ?_⟩, nonzero⟩
        intro listed expired
        exact nonzero (spares uids rfl uid listed attestation stored expired)
      | _ => cases prunes
    · exact discreet.changes positive prunes (step_changes serves next success)

/-- In a run in which calls from elsewhere hide only what is withdrawn, a read of active UIDs
leaves out an indexed UID only if the service has withdrawn it.  An attestation that the
service has not withdrawn is found under its schema, and under its recipient and its attester
if they are not in one row with entries of the other kind. -/
theorem withdrawn_of_hidden (serves : Serves host service indexer) {initial : Env}
    {compatible : Bool} {start : Ledger (Indexer.State × X)}
    (initialised : Indexer.step Indexer.State.deployed (initial, .init compatible admin service) = .ok start.world.1)
    {actions : List (Action X)} (admissible : Admissible (act host crypto) (fun ledger action =>
      action.Unprivileged admin service ∧ action.Discreet ledger) start actions) :
    let reached := run (act host crypto) start actions
    let index := reached.world.1
    (forall read uid, Indexer.Omits index read uid -> Withdrawn reached.sas uid) ∧
      forall uid record, index.indexed uid = some record -> ¬ Withdrawn reached.sas uid ->
        Indexer.Answers index (.schemaFiltered record.schemaUid) false (uid ∈ ·) ∧
        (Indexer.NeverAttests index record.recipient ->
          Indexer.Answers index (.recipientFiltered record.recipient) false (uid ∈ ·)) ∧
        (Indexer.NeverReceives index record.attester ->
          Indexer.Answers index (.attesterFiltered record.attester) false (uid ∈ ·)) := by
  intro reached index
  have fresh : Discreet admin service start.paired := by
    refine ⟨.of_init initialised, fun uid inactive => ?_⟩
    cases (Indexer.isActive_init initialised).symm.trans inactive
  have preserved (ledger : Ledger (Indexer.State × X)) (action : Action X)
      (next : Ledger (Indexer.State × X)) (discreet : Discreet admin service ledger.paired)
      (allowed : action.Unprivileged admin service ∧ action.Discreet ledger)
      (success : act host crypto ledger action = .ok next) :
      Discreet admin service next.paired := act_discreet serves discreet allowed.1 allowed.2 success
  have discreet : Discreet admin service reached.paired := run_invariant preserved fresh admissible
  refine ⟨fun read uid omits => discreet.hidden uid omits.inactive, ?_⟩
  intro uid record indexed kept
  rcases discreet.initialised.catalogued with ⟨entries, catalogued⟩
  have member := catalogued.mem_iff.mp indexed
  have active : Indexer.isActive index uid = true :=
    Bool.of_not_eq_false fun inactive => kept (discreet.hidden uid inactive)
  have shown (uids : List UID) (listing : Indexer.Listing index false uid uids) : uid ∈ uids :=
    listing.mpr (.inr active)
  exact ⟨(catalogued.schema_answers member).mono shown,
    fun alone => (catalogued.recipient_answers member alone).mono shown,
    fun alone => (catalogued.attester_answers member alone).mono shown⟩

/-! ### An account hides a valid attestation -/

open Address (accountOfNat)
open Registry (okSchemaUid)

/-- Account 1 initialises the service and binds the indexer, and account 2 answers. -/
def okBound : List (Action Unit) :=
  [.service (signedAt [1] 100) (.init (accountOfNat 1) (.contract 7)),
    .service (signedAt [1] 100) (.setIndexer (.contract 6)), .service (signedAt [2] 100) (.attest (okAnswer true))]

/-- Account 2 revokes its answer.  Account 5 then reports the revocation a second time. -/
def okReported : List (Action Unit) :=
  okBound ++ [.service (signedAt [2] 200) (.revoke (okAnswer true).uid),
    .indexer (signedAt [5] 200) (.handleRevoke (okAnswer true).uid)]

/-- Account 5 reports a revocation that never happened. -/
def okSlandered : List (Action Unit) := okBound ++ [.indexer (signedAt [5] 200) (.handleRevoke (okAnswer true).uid)]

/-- The service is not initialised yet, the indexer is. -/
def okStart : Ledger (Indexer.State × Unit) := ⟨deployed, (okIndex, ())⟩

theorem withdrawn_of_hidden_reported :
    let reached := run (act indexedHost answerCrypto) okStart okReported
    Indexer.isActive reached.world.1 (okAnswer true).uid = false ∧
      forall read uid, Indexer.Omits reached.world.1 read uid -> Withdrawn reached.sas uid := by
  have acts (env : Env) (call : Call) (ledger : Ledger (Indexer.State × Unit))
      (positive : env.timestamp ≠ 0) (keeps : call.removes = false) :
      Action.Discreet ledger (.service env call) := by
    refine ⟨positive, ?_⟩
    rintro uids rfl
    cases keeps
  refine ⟨rfl, (withdrawn_of_hidden indexedHost_serves okIndex_initialised ?_).1⟩
  refine ⟨⟨trivial, acts _ _ _ (by decide) rfl⟩, ⟨trivial, acts _ _ _ (by decide) rfl⟩,
    ⟨trivial, acts _ _ _ (by decide) rfl⟩, ⟨trivial, acts _ _ _ (by decide) rfl⟩,
    ⟨⟨by decide, by decide⟩, ?_⟩, trivial⟩
  rintro uid ⟨⟩
  refine ⟨{ okAnswer true with time := 100, revocationTime := 200 }, rfl, by decide⟩

/-- The service still has the answer as valid, but no read of active UIDs shows it. -/
theorem valid_attestation_hidden :
    let reached := run (act indexedHost answerCrypto) okStart okSlandered
    (forall action, action ∈ okSlandered -> action.Unprivileged (accountOfNat 1) (.contract 8)) ∧
    Indexer.Omits reached.world.1 (.schemaFiltered okSchemaUid) (okAnswer true).uid ∧
    Indexer.Omits reached.world.1 (.recipientFiltered (accountOfNat 3)) (okAnswer true).uid ∧
    Indexer.Omits reached.world.1 (.attesterFiltered (accountOfNat 2)) (okAnswer true).uid ∧
    ¬ Withdrawn reached.sas (okAnswer true).uid := by
  intro reached
  have stored : recordOf reached.sas (okAnswer true).uid = some { okAnswer true with time := 100 } := rfl
  have omits (read : Indexer.Read) (all : read.answer fromService ⟨none, none⟩ reached.world.1 true =
        .ok ([(okAnswer true).uid], ⟨some 100, some 1⟩))
      (shown : read.answer fromService ⟨none, none⟩ reached.world.1 false = .ok ([], ⟨some 100, some 1⟩)) :
      Indexer.Omits reached.world.1 read (okAnswer true).uid :=
    ⟨fromService, ⟨none, none⟩, _, _, all, shown, mem_singleton_self _, not_mem_nil⟩
  refine ⟨?_, omits _ (by decide) (by decide), omits _ (by decide) (by decide),
    omits _ (by decide) (by decide), ?_⟩
  · intro action member
    simp only [okSlandered, okBound, cons_append, nil_append, mem_cons, not_mem_nil, or_false] at member
    rcases member with rfl | rfl | rfl | rfl
    · trivial
    · trivial
    · trivial
    · exact ⟨by decide, by decide⟩
  · rintro ⟨attestation, found, nonzero⟩
    cases stored.symm.trans found
    exact nonzero rfl

end SorobanSas.Sas
