import SorobanSas.Sas.Operations
import SorobanSas.Sas.AppendOnly
import SorobanSas.Indexer.Catalogue

namespace SorobanSas.Sas

open Library
open Relation (ReflTransGen)

/-!
# The service and its indexer

Here the world outside the service consists of the storage of an indexer and of everything
else.  At one address, the host carries out callbacks with the repository's own indexer;
every other contract leaves its storage alone while the service calls it.

An operation of the service is then a change of two things together, the book and the
indexer's storage.  `step_changes` says so for every call.
-/

variable {X : Type} {crypto : Crypto} {env : Env} {attestation : Attestation}
  {host : Host (Indexer.State × X)} {indexer : Address} {first : Book × Indexer.State}
  {last : Book × Indexer.State}

/-- What the service sends to `index_attestation`. -/
def indexRecord (attestation : Attestation) : Indexer.IndexRecord where
  recipient := attestation.recipient
  schemaUid := attestation.schemaUid
  attester := attestation.attester
  expirationTime := attestation.expirationTime

/-- The host answers the service's callbacks to this address with the repository's indexer,
unless that is out of reach and leaves no trace.  The callee sees the service's authorization.
There is no `handle_renew` in the indexer. -/
structure Reaches (host : Host (Indexer.State × X)) (service indexer : Address)
    (available : Env -> Prop) : Prop where
  indexAttestation : ∀ env world attestation,
    (¬ available env ∧ host.indexAttestation env world indexer attestation = none) ∨
      ∃ inner : Env, inner.authorized service = true ∧
        (host.indexAttestation env world indexer attestation).map Prod.fst =
          (Indexer.indexAttestation inner world.1 attestation.uid (indexRecord attestation)).toOption
  setValidFrom : ∀ env world uid validFrom,
    (¬ available env ∧ host.setValidFrom env world indexer uid validFrom = none) ∨
      ∃ inner : Env, inner.authorized service = true ∧
        (host.setValidFrom env world indexer uid validFrom).map Prod.fst =
          (Indexer.setValidFrom inner world.1 uid validFrom).toOption
  handleRevoke : ∀ env world uid, (¬ available env ∧ host.handleRevoke env world indexer uid = none) ∨
      (host.handleRevoke env world indexer uid).map Prod.fst = some (Indexer.handleRevoke world.1 uid)
  handleReplace : ∀ env world oldUid newUid,
    (¬ available env ∧ host.handleReplace env world indexer oldUid newUid = none) ∨
      (host.handleReplace env world indexer oldUid newUid).map Prod.fst =
        some (Indexer.handleReplace world.1 oldUid newUid)
  handleRenew : ∀ env world uid expirationTime, host.handleRenew env world indexer uid expirationTime = none
  elsewhere : ∀ env before callee after, callee ≠ .indexer indexer -> Callback host env before callee after ->
    after.1 = before.1

/-- An indexer that is never out of reach. -/
abbrev Serves (host : Host (Indexer.State × X)) (service indexer : Address) : Prop :=
  Reaches host service indexer fun _ => True

/-! ## What a call of the service tells the indexer -/

/-- The indexer's storage after the notice of an issuance. -/
def noticed (indexing dating : Env) (index : Indexer.State) (attestation : Attestation) : Indexer.State :=
  match Indexer.indexAttestation indexing index attestation.uid (indexRecord attestation) with
  | .error _ => index
  | .ok filed =>
    if 0 < attestation.validFrom then
      (Indexer.setValidFrom dating filed attestation.uid attestation.validFrom).toOption.getD
        filed
    else filed

section Deliveries

variable (crypto env) (service : Address) (bound : Bool) (available : Prop) (upkeep : Upkeep -> Prop)
  (asked : Attestation -> Prop)

/-- What one operation does to the book and to the indexer's storage.  Only the indexer that
is bound hears of it. -/
inductive Change : Book × Indexer.State -> Book × Indexer.State -> Prop where
  | nothing (pair : Book × Indexer.State) : Change pair pair
  | issue (book : Book) (index : Indexer.State) attestation (indexing dating : Env)
      (issuable : Issuable crypto env book attestation) (intended : asked attestation)
      (authorized : indexing.authorized service = true ∧ dating.authorized service = true) :
      Change (book, index) (book.issue env attestation,
        if bound then noticed indexing dating index attestation else index)
  | revoke (book : Book) (index : Indexer.State) uid attestation (stored : (book uid).attestation = some attestation)
      (revocable : attestation.revocable = true) (unrevoked : attestation.revocationTime = 0) :
      Change (book, index) (book.revoke env uid attestation, if bound then Indexer.handleRevoke index uid else index)
  | replaced (book : Book) (index : Indexer.State) oldUid newUid old (stored : (book oldUid).attestation = some old)
      (revoked : old.revocationTime = env.timestamp) :
      Change (book, index) (book, if bound then Indexer.handleReplace index oldUid newUid else index)
  | renew (book : Book) (index : Indexer.State) uid attestation expirationTime
      (stored : (book uid).attestation = some attestation)
      (prolongs : Prolongs attestation.expirationTime expirationTime) (allowed : upkeep .renew) :
      Change (book, index) (book.renew uid attestation expirationTime, index)
  | prune (book : Book) (index : Indexer.State) uid attestation (stored : (book uid).attestation = some attestation)
      (expired : Expired env attestation.expirationTime) (allowed : upkeep .prune) :
      Change (book, index) (update book uid .blank, index)
  | reindex (book : Book) (index after : Indexer.State) uid attestation (indexing : Env)
      (stored : (book uid).attestation = some attestation) (own : attestation.uid = uid)
      (authorized : indexing.authorized service = true)
      (accepted : Indexer.indexAttestation indexing index attestation.uid (indexRecord attestation) = .ok after) :
      Change (book, index) (book, after)

/-- What the indexer's storage may be after the notice of an issuance: the notice is heard, it
is lost, or it is heard without the time from which the record is valid. -/
inductive Notice (index : Indexer.State) (attestation : Attestation) : Indexer.State -> Prop where
  | heard (indexing dating : Env)
      (authorized : indexing.authorized service = true ∧ dating.authorized service = true) :
      Notice index attestation (noticed indexing dating index attestation)
  | lost (missed : ¬ available) : Notice index attestation index
  | undated (indexing : Env) (filed : Indexer.State) (missed : ¬ available)
      (authorized : indexing.authorized service = true)
      (accepted : Indexer.indexAttestation indexing index attestation.uid
        (indexRecord attestation) = .ok filed) : Notice index attestation filed

/-- One operation while the indexer may be out of reach. -/
inductive Delivery : Book × Indexer.State -> Book × Indexer.State -> Prop where
  | delivered (first last : Book × Indexer.State)
      (change : Change crypto env service bound upkeep asked first last) : Delivery first last
  | lost (first last : Book × Indexer.State) (missed : ¬ available)
      (change : Change crypto env service false upkeep asked first last) : Delivery first last
  | undated (book : Book) (index filed : Indexer.State) attestation (indexing : Env) (missed : ¬ available)
      (issuable : Issuable crypto env book attestation) (intended : asked attestation)
      (authorized : indexing.authorized service = true)
      (accepted : Indexer.indexAttestation indexing index attestation.uid (indexRecord attestation) = .ok filed) :
      Delivery (book, index) (book.issue env attestation, filed)

variable {crypto env service bound available upkeep asked}

theorem Delivery.change (reached : available)
    (delivery : Delivery crypto env service bound available upkeep asked first last) :
    Change crypto env service bound upkeep asked first last := by
  cases delivery with
  | delivered _ _ change => exact change
  | lost _ _ missed | undated _ _ _ _ _ missed => exact absurd reached missed

theorem exists_authorized (address : Address) : ∃ inner : Env, inner.authorized address = true := by
  cases address with
  | account key => exact ⟨.signedBy [.account key] 0 0 (.contract 0) (by simp), by simp [Env.signedBy]⟩
  | contract id => exact ⟨.signedBy [.contract id] 0 0 (.account 0) (by simp), by simp [Env.signedBy]⟩

/-- An issuance is delivered as far as the notice of it is. -/
theorem Delivery.issue {book : Book} {index after : Indexer.State}
    (issuable : Issuable crypto env book attestation) (intended : asked attestation)
    (notice : if bound then Notice service available index attestation after else after = index) :
    Delivery crypto env service bound available upkeep asked (book, index) (book.issue env attestation, after) := by
  rcases exists_authorized service with ⟨inner, authorized⟩
  cases bound with
  | false =>
    cases notice
    exact .delivered _ _ (.issue book index attestation inner inner issuable intended ⟨authorized, authorized⟩)
  | true =>
    cases notice with
    | heard indexing dating authorized =>
      exact .delivered _ _ (.issue book index attestation indexing dating issuable intended authorized)
    | lost missed =>
      exact .lost _ _ missed (.issue book index attestation inner inner issuable intended ⟨authorized, authorized⟩)
    | undated indexing _ missed authorized accepted =>
      exact .undated book index after attestation indexing missed issuable intended authorized
        accepted

end Deliveries

/-! ### Callbacks -/

section Callbacks

variable {service : Address} {world : Indexer.State × X} {bound : Option Address} {state : State}

theorem tellIndexer_told {available : Prop} {callback : Address -> Option (Indexer.State × X)}
    {next : Indexer.State} (here : (¬ available ∧ callback indexer = none) ∨
      (callback indexer).map Prod.fst = some next)
    (there : ∀ other after, other ≠ indexer -> callback other = some after -> after.1 = world.1) :
    (tellIndexer bound world callback).1 = (if decide (bound = some indexer) then next else world.1) ∨
      (¬ available ∧ (tellIndexer bound world callback).1 = world.1) := by
  by_cases told : bound = some indexer
  · subst told
    rcases here with ⟨missed, failed⟩ | answer
    · exact .inr ⟨missed, by simp [tellIndexer, failed]⟩
    · rcases Option.map_eq_some_iff.mp answer with ⟨after, answered, rfl⟩
      exact .inl (by simp [tellIndexer, answered])
  · rw [decide_eq_false told, if_neg Bool.false_ne_true]
    left
    cases bound with
    | none => rfl
    | some address =>
      have different : address ≠ indexer := by
        rintro rfl
        exact told rfl
      cases answered : callback address with
      | none => simp [tellIndexer, answered]
      | some after => simpa [tellIndexer, answered] using there address after different answered

theorem ok_of_toOption {outcome : Except Trap Indexer.State}
    (answered : (some world).map Prod.fst = outcome.toOption) : outcome = .ok world.1 := by
  cases outcome with
  | error failure => cases answered
  | ok state =>
    cases answered
    rfl

variable {available : Env -> Prop} (reaches : Reaches host service indexer available)

include reaches

theorem notifyIndexerOfIssuance_notice :
    Yields (notifyIndexerOfIssuance host env ⟨state, world⟩ indexer attestation) fun after =>
      Notice service (available env) world.1 attestation after.world.1 := by
  unfold notifyIndexerOfIssuance
  rcases reaches.indexAttestation env world attestation with ⟨missed, failed⟩ | ⟨indexing, authorized, indexes⟩
  · rw [failed]
    exact .ite (fun _ => .throw _) fun _ => .pure (.lost missed)
  cases answered : host.indexAttestation env world indexer attestation with
  | none =>
    rw [answered] at indexes
    have refused : noticed indexing indexing world.1 attestation = world.1 := by
      unfold noticed
      cases outcome : Indexer.indexAttestation indexing world.1 attestation.uid (indexRecord attestation) with
      | error failure => rfl
      | ok filed =>
        rw [outcome] at indexes
        cases indexes
    have heard : Notice service (available env) world.1 attestation (noticed indexing indexing world.1 attestation) :=
      .heard indexing indexing ⟨authorized, authorized⟩
    rw [refused] at heard
    exact .ite (fun _ => .throw _) fun _ => .pure heard
  | some filed =>
    rw [answered] at indexes
    have outcome : Indexer.indexAttestation indexing world.1 attestation.uid
        (indexRecord attestation) = .ok filed.1 := ok_of_toOption indexes
    refine .ite (fun later => .pure ?_) fun now => .pure ?_
    · rcases reaches.setValidFrom env filed attestation.uid attestation.validFrom with
        ⟨missed, failed⟩ | ⟨dating, authorized', dates⟩
      · rw [failed]
        exact .undated indexing filed.1 missed authorized outcome
      · have heard : Notice service (available env) world.1 attestation (noticed indexing dating world.1 attestation) :=
          .heard indexing dating ⟨authorized, authorized'⟩
        simp only [noticed, outcome, if_pos later, ← dates] at heard
        cases dated : host.setValidFrom env filed indexer attestation.uid
            attestation.validFrom with
        | none =>
          rw [dated] at heard
          exact heard
        | some after =>
          rw [dated] at heard
          exact heard
    · have heard : Notice service (available env) world.1 attestation (noticed indexing indexing world.1 attestation) :=
        .heard indexing indexing ⟨authorized, authorized⟩
      simpa only [noticed, outcome, if_neg now] using heard

theorem handleRenew_untold {uid : UID} {expirationTime : UInt64} : (tellIndexer bound world fun address =>
      host.handleRenew env world address uid expirationTime).1 = world.1 := by
  refine tellIndexer_kept Prod.fst fun address after answered => ?_
  by_cases same : address = indexer
  · subst same
    rw [reaches.handleRenew] at answered
    cases answered
  · exact reaches.elsewhere env world _ after (mt Callee.indexer.inj same)
      (.handleRenew address uid expirationTime after answered)

theorem notifyIndexerOfIssuance_kept {other : Address} (different : other ≠ indexer) :
    Yields (notifyIndexerOfIssuance host env ⟨state, world⟩ other attestation) fun after =>
      after.world.1 = world.1 := by
  unfold notifyIndexerOfIssuance
  split
  · rename_i filed answered
    have away := mt Callee.indexer.inj different
    have kept : filed.1 = world.1 :=
      reaches.elsewhere env world _ filed away (.indexAttestation other attestation filed answered)
    refine .ite (fun _ => .pure ?_) fun _ => .pure kept
    cases dated : host.setValidFrom env filed other attestation.uid attestation.validFrom with
    | none => exact kept
    | some after =>
      exact (reaches.elsewhere env filed _ after away (.setValidFrom other _ _ after dated)).trans kept
  · exact .ite (fun _ => .throw _) fun _ => .pure rfl

theorem notifyIssuance_told : Yields (notifyIssuance host env ⟨state, world⟩ attestation) fun after =>
      if decide (state.indexer = some indexer) then Notice service (available env) world.1 attestation after.world.1
      else after.world.1 = world.1 := by
  unfold notifyIssuance
  cases bound : state.indexer with
  | none => exact .pure rfl
  | some address =>
    by_cases same : address = indexer
    · subst same
      simpa only [decide_true, if_true] using notifyIndexerOfIssuance_notice reaches
    · have unbound : ¬ some address = some indexer := fun equal => same (Option.some.inj equal)
      refine (notifyIndexerOfIssuance_kept reaches same).mono fun after kept => ?_
      rw [decide_eq_false unbound, if_neg Bool.false_ne_true]
      exact kept

end Callbacks

/-! ### Operations -/

section Changes

variable {service : Address} {upkeep : Upkeep -> Prop} {asked : Attestation -> Prop}
  {before after : Ledger (Indexer.State × X)} {available : Env -> Prop}

section Reach

variable (reaches : Reaches host service indexer available)

include reaches

/-- An operation changes book and indexer together, unless a notice is lost, and keeps the
indexer bound. -/
theorem Operation.delivery (operation : Operation host crypto env upkeep asked before after) :
    after.sas.indexer = before.sas.indexer ∧
      Delivery crypto env service (decide (before.sas.indexer = some indexer)) (available env)
        upkeep asked (before.sas.book, before.world.1) (after.sas.book, after.world.1) := by
  cases operation with
  | write state same =>
    refine ⟨same.indexer, .delivered _ _ ?_⟩
    rw [same.book]
    exact .nothing _
  | external pays world called =>
    refine ⟨rfl, .delivered _ _ ?_⟩
    rw [reaches.elsewhere env before.world _ world (by rintro ⟨⟩) called]
    exact .nothing _
  | issue payload result success intended =>
    have attested := (attestInternal_ok success).2
    rcases attestInternal_notified success with
      ⟨registry, schema, world, state, notified, -, accepted, kept, told, shown⟩
    have resolved : world.1 = before.world.1 :=
      reaches.elsewhere env before.world _ world (by rintro ⟨⟩) (.onAttest schema.resolver payload world accepted)
    have notice := notifyIssuance_told reaches notified told
    refine ⟨attested.frame.indexer, ?_⟩
    rw [kept, resolved] at notice
    rw [shown, attested.book]
    exact Delivery.issue attested.issuable intended notice
  | revoke uid _ success =>
    have revoked := revokeInternal_ok success
    rcases revoked.revocable with ⟨attestation, stored, revocable, unrevoked, -, book⟩
    rcases revokeInternal_notified success with ⟨resolver, record, world, accepted, shown⟩
    have resolved : world.1 = before.world.1 :=
      reaches.elsewhere env before.world _ world (by rintro ⟨⟩) (.onRevoke resolver record world accepted)
    refine ⟨revoked.frame.indexer, ?_⟩
    rw [shown, book]
    rcases tellIndexer_told (reaches.handleRevoke env world uid) fun other after different
        answered => reaches.elsewhere env world _ after (mt Callee.indexer.inj different)
          (.handleRevoke other uid after answered) with told | ⟨missed, told⟩
    · rw [told, resolved]
      exact .delivered _ _ (.revoke _ _ uid attestation stored revocable unrevoked)
    · rw [told, resolved]
      exact .lost _ _ missed (.revoke _ _ uid attestation stored revocable unrevoked)
  | replaced oldUid newUid old stored revoked =>
    refine ⟨rfl, ?_⟩
    rcases tellIndexer_told (reaches.handleReplace env before.world oldUid newUid)
      fun other after different answered => reaches.elsewhere env before.world _ after (mt Callee.indexer.inj different)
        (.handleReplace other oldUid newUid after answered) with told | ⟨missed, told⟩
    · rw [told]
      exact .delivered _ _ (.replaced _ _ oldUid newUid old stored revoked)
    · rw [told]
      exact .lost _ _ missed (.replaced _ _ oldUid newUid old stored revoked)
  | renew uid attestation expirationTime state stored prolongs allowed book kept =>
    refine ⟨kept, .delivered _ _ ?_⟩
    rw [handleRenew_untold reaches, book]
    exact .renew _ _ uid attestation expirationTime stored prolongs allowed
  | prune uid attestation state stored expired allowed book kept =>
    refine ⟨kept, .delivered _ _ ?_⟩
    rw [book]
    exact .prune _ _ uid attestation stored expired allowed
  | reindex address uid attestation _ bound stored accepted same =>
    refine ⟨same.indexer, .delivered _ _ ?_⟩
    rw [same.book]
    by_cases here : address = indexer
    · subst here
      rcases reaches.indexAttestation env before.world attestation with ⟨-, failed⟩ | ⟨indexing, authorized, indexes⟩
      · cases failed.symm.trans accepted
      rw [accepted] at indexes
      refine .reindex _ _ _ uid attestation indexing stored (Slot.uid_of_content stored) authorized ?_
      exact ok_of_toOption indexes
    · rw [reaches.elsewhere env before.world _ after.world (mt Callee.indexer.inj here)
        (.indexAttestation address attestation _ accepted)]
      exact .nothing _

theorem Operations.deliveries (operations : Operations host crypto env upkeep asked before after) :
    after.sas.indexer = before.sas.indexer ∧
      ReflTransGen (Delivery crypto env service (decide (before.sas.indexer = some indexer))
        (available env) upkeep asked) (before.sas.book, before.world.1) (after.sas.book, after.world.1) := by
  induction operations with
  | refl => exact ⟨rfl, .refl⟩
  | tail _ last ih =>
    have delivery := last.delivery reaches
    rw [ih.1] at delivery
    exact ⟨delivery.1, ih.2.tail delivery.2⟩

theorem step_deliveries {call : Call} : Yields (step host crypto before (env, call)) fun after =>
      ReflTransGen (Delivery crypto env service (decide (before.sas.indexer = some indexer))
        (available env) call.upkeep (call.asks crypto env)) (before.sas.book, before.world.1)
        (after.sas.book, after.world.1) := by
  intro after success
  cases configures : call.configures with
  | true =>
    have quiet := step_configures configures after success
    rw [book_congr quiet.records, quiet.world]
  | false => exact ((step_operations configures after success).deliveries reaches).2

end Reach

theorem step_changes (serves : Serves host service indexer) {call : Call} :
    Yields (step host crypto before (env, call)) fun after =>
      ReflTransGen (Change crypto env service (decide (before.sas.indexer = some indexer))
        call.upkeep (call.asks crypto env)) (before.sas.book, before.world.1) (after.sas.book, after.world.1) :=
  (step_deliveries serves).mono fun _ deliveries =>
    ReflTransGen.mono (fun _ _ => Delivery.change trivial) _ _ deliveries

/-! ## What a change keeps -/

variable {bound : Bool}

theorem Change.accretes (unpruned : ¬ upkeep .prune)
    (change : Change crypto env service bound upkeep asked first last) : Accretes first.1 last.1 := by
  cases change with
  | nothing | replaced | reindex => exact .refl _
  | issue book _ attestation _ _ issuable intended =>
    exact .issue (.issue attestation issuable intended)
  | revoke book _ uid attestation stored revocable unrevoked =>
    exact .revoke stored revocable unrevoked
  | renew book _ uid attestation expirationTime stored prolongs => exact .renew stored prolongs
  | prune _ _ _ _ _ _ allowed => exact absurd allowed unpruned

/-- The indexer gets there by calls of its own. -/
theorem noticed_works (indexing dating : Env) (index : Indexer.State) (attestation : Attestation) :
    ReflTransGen Indexer.Works index (noticed indexing dating index attestation) := by
  unfold noticed
  split
  · exact .refl
  · rename_i filed indexed
    have first : Indexer.Works index filed :=
      ⟨(indexing, .indexAttestation attestation.uid (indexRecord attestation)), by simp, indexed⟩
    split
    · cases dated : Indexer.setValidFrom dating filed attestation.uid attestation.validFrom with
      | error failure => exact .single first
      | ok after =>
        have second : Indexer.Works filed after :=
          ⟨(dating, .setValidFrom attestation.uid attestation.validFrom), by simp, dated⟩
        exact (ReflTransGen.single first).tail second
    · exact .single first

theorem Change.works (change : Change crypto env service bound upkeep asked first last) :
    ReflTransGen Indexer.Works first.2 last.2 := by
  cases change with
  | nothing | renew | prune => exact .refl
  | issue book index attestation indexing dating =>
    cases bound with
    | false => exact .refl
    | true => exact noticed_works indexing dating index attestation
  | revoke book index uid =>
    cases bound with
    | false => exact .refl
    | true => exact .single ⟨(env, .handleRevoke uid), by simp, rfl⟩
  | replaced book index oldUid newUid =>
    cases bound with
    | false => exact .refl
    | true => exact .single ⟨(env, .handleReplace oldUid newUid), by simp, rfl⟩
  | reindex book index after uid attestation indexing _ _ _ accepted =>
    exact .single ⟨(indexing, .indexAttestation attestation.uid (indexRecord attestation)), by simp, accepted⟩

end Changes

/-! ## The two contracts together -/

/-- What can happen on a ledger with both contracts: a call of the service, a call of the
indexer from elsewhere, or anything that concerns neither. -/
inductive Action (X : Type) where
  | service (env : Env) (call : Call)
  | indexer (env : Env) (call : Indexer.Call)
  | outside (rest : X)

def act (host : Host (Indexer.State × X)) (crypto : Crypto)
    (ledger : Ledger (Indexer.State × X)) : Action X -> Except Trap (Ledger (Indexer.State × X))
  | .service env call => step host crypto ledger (env, call)
  | .indexer env call => do
      let index <- Indexer.step ledger.world.1 (env, call)
      return { ledger with world := (index, ledger.world.2) }
  | .outside rest => .ok { ledger with world := (ledger.world.1, rest) }

/-- The book of the service and the storage of the indexer. -/
def Ledger.paired (ledger : Ledger (Indexer.State × X)) : Book × Indexer.State := (ledger.sas.book, ledger.world.1)

/-! ### A ledger with both contracts

The service of the small ledger at contract 8, with the indexer at contract 6.  Everything
else is as it was there. -/

open Address (accountOfNat)

/-- A call that the service makes to its indexer. -/
def fromService : Env := .signedBy [.contract 8] 100 100 (.contract 6) (by decide)

/-- The new storage of the indexer, next to everything else. -/
def beside (rest : X) (outcome : Except Trap Indexer.State) : Option (Indexer.State × X) :=
  outcome.toOption.map fun index => (index, rest)

def indexedHost : Host (Indexer.State × X) where
  __ := (okHost : Host (Indexer.State × X))
  indexAttestation := fun _ world callee attestation =>
    if callee = .contract 6 then
      beside world.2 (Indexer.indexAttestation fromService world.1 attestation.uid (indexRecord attestation))
    else some world
  setValidFrom := fun _ world callee uid validFrom =>
    if callee = .contract 6 then
      beside world.2 (Indexer.setValidFrom fromService world.1 uid validFrom)
    else some world
  handleRevoke := fun _ world callee uid =>
    if callee = .contract 6 then some (Indexer.handleRevoke world.1 uid, world.2) else some world
  handleReplace := fun _ world callee oldUid newUid =>
    if callee = .contract 6 then some (Indexer.handleReplace world.1 oldUid newUid, world.2)
    else some world
  handleRenew := fun _ world callee _ _ => if callee = .contract 6 then none else some world

theorem map_beside (rest : X) (outcome : Except Trap Indexer.State) :
    (beside rest outcome).map Prod.fst = outcome.toOption := by
  cases outcome <;> rfl

theorem indexedHost_serves : Serves (indexedHost : Host (Indexer.State × X)) (.contract 8) (.contract 6) where
  indexAttestation := by
    intro env world attestation
    refine .inr ⟨fromService, by decide, ?_⟩
    simp only [indexedHost, if_true]
    exact map_beside _ _
  setValidFrom := by
    intro env world uid validFrom
    refine .inr ⟨fromService, by decide, ?_⟩
    simp only [indexedHost, if_true]
    exact map_beside _ _
  handleRevoke := fun _ _ _ => .inr rfl
  handleReplace := fun _ _ _ _ => .inr rfl
  handleRenew := fun _ _ _ _ => rfl
  elsewhere := by
    intro env before callee after different called
    cases called with
    | onAttest _ _ _ accepted | onRevoke _ _ _ accepted | transfer _ _ _ _ _ accepted
    | verifyProof _ _ _ _ _ accepted =>
      cases accepted
      rfl
    | indexAttestation _ _ _ accepted | setValidFrom _ _ _ _ accepted | handleRevoke _ _ _ accepted
    | handleReplace _ _ _ _ accepted | handleRenew _ _ _ _ accepted =>
      have away := mt (congrArg Callee.indexer) different
      simp only [indexedHost, if_neg away, Option.some.injEq] at accepted
      rw [accepted]

/-- Account 1 initialises the indexer for the service. -/
def okIndex : Indexer.State :=
  { Indexer.State.deployed with
    admin := some (accountOfNat 1)
    sas := some (.contract 8)
    version := some 1 }

theorem okIndex_initialised : Indexer.step Indexer.State.deployed
      (signedAt [1] 100, .init true (accountOfNat 1) (.contract 8)) = .ok okIndex := by
  rfl

end SorobanSas.Sas
