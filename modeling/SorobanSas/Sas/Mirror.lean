import Mathlib.Data.List.Perm.Subperm
import SorobanSas.Sas.Indexing
import SorobanSas.Sas.Anchors

namespace SorobanSas.Sas

open Library List
open Relation (ReflTransGen)

/-!
# The indexer as a mirror of the book

Every operation of the service that changes a record tells the indexer.  What the indexer
knows about a UID should then follow from the record: the lists it is in, its expiration
class, the time from which it is valid, and whether reads of active UIDs show it.

The abstraction is pointwise.  `indexEntry` is what the indexer keeps about one UID, and
`Reflects` says when that fits the record.  An issuance, a revocation or a replacement
changes page and entry of one UID together.

A renewal does not.  The service announces it through `handle_renew`, which the indexer does
not have, so the class of an attestation that is renewed without an end stays what it was.
A record that is revoked when it is issued is listed as active.  These calls are excluded
from the runs below, and so is everything that the shared rows of an address and the width
of the counters spoil.
-/

open Indexer (expirationStatusOf Shows Catalogued isActive setIndexStatus)

variable {expirationTime : UInt64} {asked : Attestation -> Prop} {index : Indexer.State} {uid : UID}
  {attestation : Attestation} {entries : Indexer.History}

variable {X : Type} {host : Host (Indexer.State × X)} {crypto : Crypto} {env : Env}
  {service indexer admin : Address} {ledger next : Ledger (Indexer.State × X)}

/-! ## Entries -/

/-- What the indexer keeps about one UID outside its lists. -/
structure IndexEntry where
  record : Option Indexer.IndexRecord
  validFrom : Option UInt64
  status : Option Indexer.IndexStatus

/-- The entry of a UID that was never announced. -/
def IndexEntry.blank : IndexEntry := ⟨none, none, none⟩

def indexEntry (index : Indexer.State) (uid : UID) : IndexEntry :=
  ⟨index.indexed uid, index.validFrom uid, index.status uid⟩

/-- A new indexer knows nothing. -/
theorem indexEntry_init {initial : Env} {compatible : Bool}
    (initialised : Indexer.step Indexer.State.deployed (initial, .init compatible admin service) =
      .ok index) : indexEntry index uid = .blank := by
  simp only [Indexer.step, Indexer.init, eq_ok] at initialised
  rcases initialised with ⟨-, -, -, -, -, -, rfl⟩
  rfl

/-- The entry has not been marked as revoked or replaced. -/
def IndexEntry.Active (entry : IndexEntry) : Prop := entry.status = none ∨ entry.status = some .active

theorem indexEntry_active : isActive index uid = true ↔ (indexEntry index uid).Active := by
  unfold isActive IndexEntry.Active indexEntry
  cases index.status uid with
  | none => simp
  | some status => cases status <;> simp

/-- The indexer has the record of the attestation.  Of the expiration only the class matters. -/
def Knows (attestation : Attestation) (record : Option Indexer.IndexRecord) : Prop :=
  ∃ filed, record = some filed ∧ filed.recipient = attestation.recipient ∧
    filed.schemaUid = attestation.schemaUid ∧ filed.attester = attestation.attester ∧
    (filed.expirationTime = 0 ↔ attestation.expirationTime = 0)

variable {knows : Attestation -> Option Indexer.IndexRecord -> Prop}

/-- What the indexer has to know is in what the service sends, and does not depend on a revocation. -/
structure Sendable (knows : Attestation -> Option Indexer.IndexRecord -> Prop) : Prop where
  sent : ∀ attestation, knows attestation (some (indexRecord attestation))
  revoked : ∀ attestation time record, knows attestation record ->
    knows { attestation with revocationTime := time } record

theorem knows_sendable : Sendable Knows := ⟨fun _ => ⟨_, rfl, rfl, rfl, rfl, Iff.rfl⟩, fun _ _ _ => id⟩

/-- The entry that fits an attestation. -/
structure Reflects (knows : Attestation -> Option Indexer.IndexRecord -> Prop) (attestation : Attestation)
    (entry : IndexEntry) : Prop where
  record : knows attestation entry.record
  validFrom : entry.validFrom.getD 0 = attestation.validFrom
  active : entry.Active ↔ attestation.revocationTime = 0

/-- An indexer at work whose entries fit the book. -/
structure Mirrors (knows : Attestation -> Option Indexer.IndexRecord -> Prop) (admin service : Address)
    (pair : Book × Indexer.State) : Prop where
  initialised : Indexer.Initialised admin service pair.2
  blank : ∀ uid, (pair.1 uid).attestation = none -> indexEntry pair.2 uid = .blank
  reflects : ∀ uid attestation, (pair.1 uid).attestation = some attestation ->
    Reflects knows attestation (indexEntry pair.2 uid)

/-- A book whose records a 32 bit counter can count. -/
def Countable (book : Book) : Prop :=
  ∃ uids : List UID, uids.length < 2 ^ 32 ∧ ∀ uid, (book uid).attestation ≠ none -> uid ∈ uids

theorem Countable.of_accretes {before after : Book} (countable : Countable after)
    (accretes : Accretes before after) : Countable before := by
  rcases countable with ⟨uids, short, complete⟩
  refine ⟨uids, short, fun uid stored => complete uid ?_⟩
  rcases Option.ne_none_iff_exists'.mp stored with ⟨old, found⟩
  rcases accretes uid old found with ⟨new, current, -⟩
  rw [current]
  exact Option.some_ne_none new

/-! ## Changes -/

section Changes

variable {first last : Book × Indexer.State} {book : Book} {entry : IndexEntry} {upkeep : Upkeep -> Prop}

/-- While the book can be counted and everything that is indexed is stored, there is room for
a stored record that is not indexed. -/
theorem room_of_known (catalogued : Catalogued entries index) (countable : Countable book)
    (known : ∀ other record, index.indexed other = some record -> (book other).attestation ≠ none)
    (stored : (book uid).attestation ≠ none) (fresh : index.indexed uid = none) : entries.length + 1 < 2 ^ 32 := by
  rcases countable with ⟨uids, short, complete⟩
  have unfiled : uid ∉ entries.map Prod.fst := by
    rw [← catalogued.rows.counted.known]
    exact fresh
  have distinct : (uid :: entries.map Prod.fst).Nodup :=
    List.nodup_cons.mpr ⟨unfiled, catalogued.rows.counted.distinct⟩
  have contained : uid :: entries.map Prod.fst ⊆ uids := by
    intro other member
    apply complete
    rcases List.mem_cons.mp member with rfl | filed
    · exact stored
    · rcases List.mem_map.mp filed with ⟨⟨other, record⟩, present, rfl⟩
      exact known other record (catalogued.filed other record present)
  -- No UID occurs twice, so the list that contains them all is at least as long.
  have shorter := (distinct.subperm contained).length_le
  rw [length_cons, length_map] at shorter
  omega

theorem room_of_absent (catalogued : Catalogued entries index)
    (absent : (book attestation.uid).attestation = none) (countable : Countable (book.issue env attestation))
    (unheard : ∀ other, (book other).attestation = none -> index.indexed other = none) :
    entries.length + 1 < 2 ^ 32 := by
  refine room_of_known catalogued countable (fun other record indexed => ?_) ?_ (unheard attestation.uid absent)
  · have different : other ≠ attestation.uid := by
      rintro rfl
      cases indexed.symm.trans (unheard _ absent)
    rw [Book.issue_of_ne book env different]
    intro missing
    cases indexed.symm.trans (unheard other missing)
  · rw [Book.issue_self]
    exact Option.some_ne_none attestation

theorem Mirrors.stored_of_indexed {record : Indexer.IndexRecord} (mirrors : Mirrors knows admin service (book, index))
    (indexed : index.indexed uid = some record) :
    ∃ attestation, (book uid).attestation = some attestation ∧ knows attestation (some record) := by
  cases stored : (book uid).attestation with
  | none =>
    have blank := congrArg IndexEntry.record (mirrors.blank uid stored)
    cases indexed.symm.trans blank
  | some attestation => exact ⟨attestation, rfl, indexed ▸ (mirrors.reflects uid attestation stored).record⟩

theorem indexEntry_noticed {indexing dating : Env} (catalogued : Catalogued entries index)
    (room : entries.length + 1 < 2 ^ 32) (sas : index.sas = some service)
    (authorized : indexing.authorized service = true ∧ dating.authorized service = true)
    (fresh : indexEntry index attestation.uid = .blank) :
    indexEntry (noticed indexing dating index attestation) = update (indexEntry index) attestation.uid
        ⟨some (indexRecord attestation),
          if 0 < attestation.validFrom then some attestation.validFrom else none, none⟩ := by
  have unfiled : index.indexed attestation.uid = none := congrArg IndexEntry.record fresh
  have undated : index.validFrom attestation.uid = none := congrArg IndexEntry.validFrom fresh
  have unmarked : index.status attestation.uid = none := congrArg IndexEntry.status fresh
  rcases catalogued.accepts room attestation.uid (indexRecord attestation) with ⟨filed, success⟩
  rcases Indexer.indexNew_ok success with ⟨indexed, classed, -⟩
  have accepted : Indexer.indexAttestation indexing index attestation.uid (indexRecord attestation) = .ok filed := by
    simp only [Indexer.indexAttestation, Indexer.requireSas, eq_ok, requireAuth_eq_ok, unfiled]
    exact ⟨⟨service, sas, authorized.1⟩, success⟩
  funext uid
  by_cases now : 0 < attestation.validFrom
  · have dated : Indexer.setValidFrom dating filed attestation.uid attestation.validFrom = .ok { filed with
          validFrom := update filed.validFrom attestation.uid (some attestation.validFrom) } := by
      simp only [Indexer.setValidFrom, Indexer.requireSas, eq_ok, requireAuth_eq_ok, and_true]
      exact ⟨service, classed.sas.trans sas, authorized.2⟩
    simp only [noticed, accepted, if_pos now, dated, Except.toOption, Option.getD_some]
    by_cases same : uid = attestation.uid
    · subst same
      simp [indexEntry, indexed.indexed, classed.status, unmarked]
    · simp [indexEntry, indexed.indexed, classed.status, classed.validFrom, update_of_ne same]
  · simp only [noticed, accepted, if_neg now]
    by_cases same : uid = attestation.uid
    · subst same
      simp [indexEntry, indexed.indexed, classed.status, classed.validFrom, unmarked, undated]
    · simp [indexEntry, indexed.indexed, classed.status, classed.validFrom, update_of_ne same]

theorem indexEntry_setIndexStatus (status : Indexer.IndexStatus) : indexEntry (setIndexStatus index uid status) =
      update (indexEntry index) uid { indexEntry index uid with status := some status } := by
  funext other
  by_cases same : other = uid
  · subst same
    simp [indexEntry, setIndexStatus]
  · simp [indexEntry, setIndexStatus, update_of_ne same]

theorem indexEntry_filed {record : Indexer.IndexRecord} {after : Indexer.State}
    (success : Indexer.indexNew index uid record = .ok after) :
    indexEntry after = update (indexEntry index) uid { indexEntry index uid with record := some record } := by
  rcases Indexer.indexNew_ok success with ⟨indexed, classed, -⟩
  funext other
  by_cases same : other = uid
  · subst same
    simp [indexEntry, indexed.indexed, classed.status, classed.validFrom]
  · simp [indexEntry, indexed.indexed, classed.status, classed.validFrom, update_of_ne same]

variable (sendable : Sendable knows)

namespace Reflects

include sendable

theorem issued (unrevoked : attestation.revocationTime = 0) :
    Reflects knows attestation ⟨some (indexRecord attestation),
      if 0 < attestation.validFrom then some attestation.validFrom else none, none⟩ where
  record := sendable.sent attestation
  validFrom := by
    split
    · rfl
    · rename_i now
      exact UInt64.le_antisymm UInt64.zero_le (UInt64.not_lt.mp now)
  active := ⟨fun _ => unrevoked, fun _ => .inl rfl⟩

theorem marked {time : UInt64} {status : Indexer.IndexStatus} (reflects : Reflects knows attestation entry)
    (inactive : status ≠ .active) (revoked : time ≠ 0) :
    Reflects knows { attestation with revocationTime := time } { entry with status := some status } where
  record := sendable.revoked attestation time entry.record reflects.record
  validFrom := reflects.validFrom
  active := by simp [IndexEntry.Active, inactive, revoked]

end Reflects

namespace Mirrors

variable {after : Indexer.State} (mirrors : Mirrors knows admin service (book, index))

include mirrors

theorem update {page : Page} (initialised : Indexer.Initialised admin service after)
    (written : indexEntry after = Function.update (indexEntry index) uid entry)
    (stored : page.attestation = some attestation) (reflects : Reflects knows attestation entry) :
    Mirrors knows admin service (Function.update book uid page, after) := by
  refine ⟨initialised, fun other absent => ?_, fun other record found => ?_⟩
  · by_cases same : other = uid
    · subst same
      simp [stored] at absent
    · simp only [update_of_ne same] at absent
      rw [written, update_of_ne same]
      exact mirrors.blank other absent
  · by_cases same : other = uid
    · subst same
      simp only [update_self, stored, Option.some.injEq] at found
      rw [written, update_self, ← found]
      exact reflects
    · simp only [update_of_ne same] at found
      rw [written, update_of_ne same]
      exact mirrors.reflects other record found

/-- The same when the page stays. -/
theorem updateEntry (initialised : Indexer.Initialised admin service after)
    (written : indexEntry after = Function.update (indexEntry index) uid entry)
    (stored : (book uid).attestation = some attestation) (reflects : Reflects knows attestation entry) :
    Mirrors knows admin service (book, after) := by
  have updated := mirrors.update initialised written stored reflects
  rwa [Function.update_eq_self] at updated

/-- A renewal does not reach the indexer, which does not matter if the indexer knows what it has to. -/
theorem renew (stored : (book uid).attestation = some attestation)
    (record : knows { attestation with expirationTime := expirationTime } (index.indexed uid)) :
    Mirrors knows admin service (book.renew uid attestation expirationTime, index) := by
  have reflects := mirrors.reflects uid attestation stored
  exact mirrors.update mirrors.initialised (Function.update_eq_self uid _).symm rfl
    ⟨record, reflects.validFrom, reflects.active⟩

include sendable

theorem filed {indexing : Env} (stored : (book uid).attestation = some attestation)
    (accepted : Indexer.indexAttestation indexing index uid (indexRecord attestation) = .ok after) :
    Mirrors knows admin service (book, after) ∧ after.indexed uid = some (indexRecord attestation) := by
  have initialised : Indexer.Initialised admin service after := mirrors.initialised.works
    ⟨(indexing, .indexAttestation uid (indexRecord attestation)), by simp, accepted⟩
  rcases (Indexer.indexAttestation_ok accepted).2 with ⟨fresh, filed⟩ | ⟨known, rfl⟩
  · have reflects := mirrors.reflects uid attestation stored
    refine ⟨mirrors.updateEntry initialised (indexEntry_filed filed) stored ?_, ?_⟩
    · exact ⟨sendable.sent attestation, reflects.validFrom, reflects.active⟩
    · rw [(Indexer.indexNew_ok filed).1.indexed, update_self]
  · exact ⟨mirrors, known⟩

end Mirrors

include sendable

/-- A change that is neither a renewal nor a removal, made for a bound indexer. -/
theorem Mirrors.change (mirrors : Mirrors knows admin service first) (positive : env.timestamp ≠ 0)
    (idle : ∀ kind, ¬ upkeep kind) (unrevoked : ∀ issued, asked issued -> issued.revocationTime = 0)
    (countable : Countable last.1) (change : Change crypto env service true upkeep asked first last) :
    Mirrors knows admin service last := by
  have initialised := mirrors.initialised.keeps change.works
  cases change with
  | nothing => exact mirrors
  | issue book index attestation indexing dating issuable intended authorized =>
    rcases mirrors.initialised.catalogued with ⟨entries, catalogued⟩
    have room := room_of_absent catalogued issuable.absent countable fun other missing =>
      congrArg IndexEntry.record (mirrors.blank other missing)
    exact mirrors.update initialised (indexEntry_noticed catalogued room mirrors.initialised.sas authorized
      (mirrors.blank _ issuable.absent)) rfl (.issued sendable (unrevoked attestation intended))
  | revoke book index uid attestation stored =>
    refine mirrors.update initialised (indexEntry_setIndexStatus .revoked) rfl ?_
    exact (mirrors.reflects uid attestation stored).marked sendable (by decide) positive
  | replaced book index oldUid newUid old stored revoked =>
    -- The page stays, since the revocation that came first has written it.
    refine mirrors.updateEntry initialised (indexEntry_setIndexStatus .replaced) stored ?_
    exact (mirrors.reflects oldUid old stored).marked sendable (by decide) (revoked ▸ positive)
  | renew _ _ _ _ _ _ _ allowed => exact absurd allowed (idle .renew)
  | prune _ _ _ _ _ _ allowed => exact absurd allowed (idle .prune)
  | reindex book index after uid attestation indexing stored own _ accepted =>
    rw [own] at accepted
    exact (mirrors.filed sendable stored accepted).1

omit sendable

/-- Unless the records have become too many, the book is mirrored. -/
def Mirrored (knows : Attestation -> Option Indexer.IndexRecord -> Prop) (admin service : Address)
    (pair : Book × Indexer.State) : Prop :=
  Countable pair.1 -> Mirrors knows admin service pair

theorem Mirrored.changes (mirrored : Mirrored Knows admin service first) (positive : env.timestamp ≠ 0)
    (idle : ∀ kind, ¬ upkeep kind) (unrevoked : ∀ issued, asked issued -> issued.revocationTime = 0)
    (changes : ReflTransGen (Change crypto env service true upkeep asked) first last) :
    Mirrored Knows admin service last := by
  induction changes with
  | refl => exact mirrored
  | tail _ change ih =>
    -- Nothing is removed, so the book was countable before the change as well.
    intro countable
    have earlier := countable.of_accretes (change.accretes (idle .prune))
    exact (ih earlier).change knows_sendable positive idle unrevoked countable change

/-- Before the service has issued anything. -/
theorem Mirrored.fresh {initial : Env} {compatible : Bool} (initialised :
      Indexer.step Indexer.State.deployed (initial, .init compatible admin service) = .ok index)
    (unissued : ∀ uid, (book uid).attestation = none) : Mirrored knows admin service (book, index) := by
  refine fun _ => ⟨.of_init initialised, fun uid _ => indexEntry_init initialised, fun uid attestation stored => ?_⟩
  cases (unissued uid).symm.trans stored

end Changes

/-! ## Runs -/

/-- Nobody but the service calls the indexer.  The service is bound to it, works at positive
times, and does not prune. -/
def Action.Attached (indexer : Address) (ledger : Ledger (Indexer.State × X)) : Action X -> Prop
  | .service env call => ledger.sas.indexer = some indexer ∧ env.timestamp ≠ 0 ∧ ∀ uids, call ≠ .pruneExpired uids
  | .indexer _ _ => False
  | .outside _ => True

/-- Records are issued without a revocation time, and `renew_attestation` does not make an
expiring record perpetual. -/
def Action.Announced (ledger : Ledger (Indexer.State × X)) : Action X -> Prop
  | .service _ call => call.Unrevoked ∧ ∀ uid, call = .renewAttestation uid 0 ->
      ∀ attestation, recordOf ledger.sas uid = some attestation -> attestation.expirationTime = 0
  | _ => True

theorem act_renews {available : Env -> Prop} (reaches : Reaches host service indexer available)
    (success : act host crypto ledger (.service env (.renewAttestation uid expirationTime)) = .ok next) :
    ∃ attestation, recordOf ledger.sas uid = some attestation ∧ Prolongs attestation.expirationTime expirationTime ∧
      next.paired = (ledger.sas.book.renew uid attestation expirationTime, ledger.world.1) := by
  simp only [act, step, ledgerOf, eq_ok] at success
  rcases success with ⟨result, success, rfl⟩
  rcases renewAttestation_ok result success with ⟨attestation, state, stored, prolongs, book, -, after⟩
  refine ⟨attestation, stored, prolongs, ?_⟩
  rw [after, Ledger.paired, book, handleRenew_untold reaches]

theorem act_mirrored (serves : Serves host service indexer) {action : Action X}
    (mirrored : Mirrored Knows admin service ledger.paired) (attached : action.Attached indexer ledger)
    (announced : action.Announced ledger) (success : act host crypto ledger action = .ok next) :
    Mirrored Knows admin service next.paired := by
  cases action with
  | outside =>
    cases success
    exact mirrored
  | indexer => exact attached.elim
  | service env call =>
    rcases attached with ⟨bound, positive, unpruned⟩
    rcases announced with ⟨unrevoked, classed⟩
    have general (idle : ∀ kind, ¬ call.upkeep kind) : Mirrored Knows admin service next.paired := by
      have changes := step_changes serves next success
      rw [decide_eq_true bound] at changes
      exact mirrored.changes positive idle (fun _ => unrevoked.asks) changes
    cases call with
    | pruneExpired uids => exact absurd rfl (unpruned uids)
    | renewAttestation uid =>
      -- The condition is about the record that the call finds, which a sequence of changes
      -- does not remember.
      rcases act_renews serves success with ⟨attestation, stored, prolongs, paired⟩
      rw [paired]
      intro countable
      have mirrors := mirrored (countable.of_accretes (.renew stored prolongs))
      rcases (mirrors.reflects uid attestation stored).record
        with ⟨record, found, recipient, schema, attester, perpetual⟩
      refine mirrors.renew stored ⟨record, found, recipient, schema, attester, perpetual.trans ⟨prolongs.perpetual, ?_⟩⟩
      rintro rfl
      exact classed uid rfl attestation stored
    | _ =>
      refine general fun kind allowed => ?_
      cases kind <;> cases allowed

/-- The UIDs of the records that an action asks for are among these. -/
def Action.AsksAmong (crypto : Crypto) (uids : List UID) : Action X -> Prop
  | .service env call => ∀ issued, call.asks crypto env issued -> issued.uid ∈ uids
  | _ => True

theorem countable_run {uids : List UID} (short : uids.length < 2 ^ 32)
    {start : Ledger (Indexer.State × X)} {actions : List (Action X)} (unissued : ∀ uid, recordOf start.sas uid = none)
    (asks : ∀ action ∈ actions, action.AsksAmong crypto uids) :
    Countable (run (act host crypto) start actions).sas.book := by
  have preserved (ledger : Ledger (Indexer.State × X)) (action : Action X) (next : Ledger (Indexer.State × X))
      (complete : ∀ uid, (ledger.sas.book uid).attestation ≠ none -> uid ∈ uids)
      (among : action.AsksAmong crypto uids) (success : act host crypto ledger action = .ok next)
      (uid : UID) (present : (next.sas.book uid).attestation ≠ none) : uid ∈ uids := by
    cases action with
    | outside =>
      cases success
      exact complete uid present
    | indexer =>
      simp only [act, eq_ok] at success
      rcases success with ⟨index, -, rfl⟩
      exact complete uid present
    | service =>
      by_cases absent : (ledger.sas.book uid).attestation = none
      · rcases Option.ne_none_iff_exists'.mp present with ⟨attestation, stored⟩
        have own : attestation.uid = uid := Slot.uid_of_content stored
        rw [← own]
        exact among attestation ((step_effect next success).added absent stored)
      · exact complete uid absent
  refine ⟨uids, short, run_invariant preserved ?_ (admissible_of_forall
    (fun action member _ => asks action member) start)⟩
  intro uid present
  exact absurd (unissued uid) present

/-! ## What a reader of the indexer sees -/

/-- No stored attestation was made by the address. -/
def OnlyReceives (state : State) (address : Address) : Prop :=
  ∀ uid attestation, recordOf state uid = some attestation -> attestation.attester ≠ address

/-- No stored attestation is about the address. -/
def OnlyAttests (state : State) (address : Address) : Prop :=
  ∀ uid attestation, recordOf state uid = some attestation -> attestation.recipient ≠ address

/-- The UID of an attestation is indexed under all of its keys, in the class of its expiration
and with its activation time, and reads of active UIDs show it exactly while it is not
revoked. -/
structure Indexed (state : State) (index : Indexer.State) (uid : UID) (attestation : Attestation) :
    Prop where
  known : Indexer.isAttestationIndexed index uid = true
  recipientMapped : Indexer.hasRecipientAttestation index attestation.recipient uid = true
  schemaMapped : Indexer.hasSchemaAttestation index attestation.schemaUid uid = true
  recipient : OnlyReceives state attestation.recipient ->
    Indexer.Shows index (.recipientFiltered attestation.recipient) uid (attestation.revocationTime = 0)
  schema : Indexer.Shows index (.schemaFiltered attestation.schemaUid) uid (attestation.revocationTime = 0)
  attester : OnlyAttests state attestation.attester -> Indexer.Shows index (.attesterFiltered attestation.attester) uid
      (attestation.revocationTime = 0)
  perpetual : Indexer.Answers index (.expirationFiltered .perpetual) true (fun uids =>
    uid ∈ uids ↔ attestation.expirationTime = 0)
  expiring : Indexer.Answers index (.expirationFiltered .expiring) true (fun uids =>
    uid ∈ uids ↔ attestation.expirationTime ≠ 0)
  classed : Indexer.Shows index (.expirationFiltered (Indexer.expirationStatusOf attestation.expirationTime)) uid
    (attestation.revocationTime = 0)
  validFrom : Indexer.getValidFrom index uid = attestation.validFrom
  reads : ∀ read env counter all shown, Indexer.Read.answer env counter index true read = .ok all ->
    Indexer.Read.answer env counter index false read = .ok shown -> uid ∈ all.1 ->
      (uid ∈ shown.1 ↔ attestation.revocationTime = 0)

theorem expirationStatusOf_congr {first second : UInt64} (same : first = 0 ↔ second = 0) :
    expirationStatusOf first = expirationStatusOf second := by
  simp only [expirationStatusOf, same]

theorem expirationStatusOf_perpetual : expirationStatusOf expirationTime = .perpetual ↔ expirationTime = 0 := by
  unfold expirationStatusOf
  split
  · simp [*]
  · simp [*]

theorem expirationStatusOf_expiring : expirationStatusOf expirationTime = .expiring ↔ expirationTime ≠ 0 := by
  unfold expirationStatusOf
  split
  · simp [*]
  · simp [*]

/-- An entry that fits is found under all keys, if the indexer knows the parties of what it has
filed. -/
theorem Reflects.indexed {state : State} (reflects : Reflects Knows attestation (indexEntry index uid))
    (catalogued : Catalogued entries index) (known : ∀ other record, index.indexed other = some record ->
      ∃ found, recordOf state other = some found ∧ record.recipient = found.recipient ∧
        record.attester = found.attester) : Indexed state index uid attestation := by
  rcases reflects.record with ⟨record, filed, recipient, schema, attester, perpetual⟩
  have member := catalogued.mem_iff.mp filed
  have active : isActive index uid = true ↔ attestation.revocationTime = 0 := indexEntry_active.trans reflects.active
  refine ⟨?_, ?_, ?_, fun only => ?_, ?_, fun only => ?_, ?_, ?_, ?_, reflects.validFrom, ?_⟩
  · exact Option.isSome_iff_exists.mpr ⟨record, filed⟩
  · rw [← recipient]
    exact catalogued.recipientMapped uid record member
  · rw [← schema]
    exact catalogued.schemaMapped uid record member
  · have alone : Indexer.NeverAttests index record.recipient := by
      intro other entry indexed same
      rcases known other entry indexed with ⟨found, held, -, made⟩
      exact only other found held (made.symm.trans (same.trans recipient))
    rw [← recipient]
    exact .of_listing (fun _ => catalogued.recipient_answers member alone) active
  · rw [← schema]
    exact .of_listing (fun _ => catalogued.schema_answers member) active
  · have alone : Indexer.NeverReceives index record.attester := by
      intro other entry indexed same
      rcases known other entry indexed with ⟨found, held, received, -⟩
      exact only other found held (received.symm.trans (same.trans attester))
    rw [← attester]
    exact .of_listing (fun _ => catalogued.attester_answers member alone) active
  · refine (catalogued.expiration_classes member .perpetual).mono fun uids listed => ?_
    rw [listed, expirationStatusOf_perpetual, perpetual]
  · refine (catalogued.expiration_classes member .expiring).mono fun uids listed => ?_
    rw [listed, expirationStatusOf_expiring, ne_eq, perpetual]
  · rw [← expirationStatusOf_congr perpetual]
    exact .of_listing (fun _ => catalogued.expiration_answers member) active
  · intro read env counter all shown unfiltered filtered listed
    rw [Indexer.Read.answer_selects unfiltered filtered uid listed, active]

theorem Mirrors.indexed {state : State} (mirrors : Mirrors Knows admin service (state.book, index))
    (stored : recordOf state uid = some attestation) : Indexed state index uid attestation := by
  rcases mirrors.initialised.catalogued with ⟨entries, catalogued⟩
  refine (mirrors.reflects uid attestation stored).indexed catalogued fun other record indexed => ?_
  rcases mirrors.stored_of_indexed indexed with ⟨found, held, _, ⟨⟩, recipient, -, attester, -⟩
  exact ⟨found, held, recipient, attester⟩

/-- In a run without such renewals and issuances, every attestation that is stored is indexed
as it should be, as long as the counters can count the records. -/
theorem indexer_mirrors (serves : Serves host service indexer) {initial : Env}
    {compatible : Bool} {start : Ledger (Indexer.State × X)}
    (initialised : Indexer.step Indexer.State.deployed (initial, .init compatible admin service) = .ok start.world.1)
    (unissued : forall uid, recordOf start.sas uid = none) {actions : List (Action X)}
    (admissible : Admissible (act host crypto) (fun ledger action =>
      action.Attached indexer ledger ∧ action.Announced ledger) start actions) :
    let reached := run (act host crypto) start actions
    Countable reached.sas.book -> forall uid attestation, recordOf reached.sas uid = some attestation ->
        Indexed reached.sas reached.world.1 uid attestation := by
  intro reached countable uid attestation stored
  have preserved (ledger : Ledger (Indexer.State × X)) (action : Action X)
      (next : Ledger (Indexer.State × X)) (mirrored : Mirrored Knows admin service ledger.paired)
      (allowed : action.Attached indexer ledger ∧ action.Announced ledger)
      (success : act host crypto ledger action = .ok next) :
      Mirrored Knows admin service next.paired := act_mirrored serves mirrored allowed.1 allowed.2 success
  have mirrored : Mirrored Knows admin service reached.paired :=
    run_invariant preserved (.fresh initialised unissued) admissible
  exact (mirrored countable).indexed stored

open Address (accountOfNat)

/-- The service with its administrator, its registry and its indexer. -/
def okAttached : Ledger (Indexer.State × Unit) where
  sas := { deployed with
    admin := some (accountOfNat 1)
    registry := some (.contract 7)
    indexer := some (.contract 6) }
  world := (okIndex, ())

def okExpiring : Attestation := { okAnswer true with expirationTime := 300, validFrom := 150 }

/-- Account 2 answers, renews its answer and revokes it. -/
def okProlonged : List (Action Unit) :=
  [.service (signedAt [2] 100) (.attest okExpiring),
    .service (signedAt [2] 120) (.renewAttestation okExpiring.uid 400),
    .service (signedAt [2] 200) (.revoke okExpiring.uid)]

theorem indexer_mirrors_prolonged :
    let reached := run (act indexedHost answerCrypto) okAttached okProlonged
    Indexed reached.sas reached.world.1 okExpiring.uid
      { okExpiring with time := 100, expirationTime := 400, revocationTime := 200 } := by
  refine indexer_mirrors indexedHost_serves okIndex_initialised (fun _ => rfl) ?_ ?_ _ _
    (by decide +kernel)
  · refine ⟨⟨⟨by decide +kernel, by decide, by simp⟩, rfl, by simp⟩,
      ⟨⟨by decide +kernel, by decide, by simp⟩, trivial, by simp⟩,
      ⟨⟨by decide +kernel, by decide, by simp⟩, trivial, by simp⟩, trivial⟩
  · have short : [okExpiring.uid].length < 2 ^ 32 := by decide
    refine countable_run short (fun _ => rfl) fun action member => ?_
    simp only [okProlonged, mem_cons, not_mem_nil, or_false] at member
    rcases member with rfl | rfl | rfl
    · rintro issued rfl
      exact mem_singleton_self _
    · exact fun _ asked => asked.elim
    · exact fun _ asked => asked.elim

/-- Account 2 answers, and makes its answer perpetual. -/
def okPerpetuated : List (Action Unit) :=
  [.service (signedAt [2] 100) (.attest okExpiring), .service (signedAt [2] 120) (.renewAttestation okExpiring.uid 0)]

/-- The record has no expiration time, but the indexer lists it as expiring. -/
theorem perpetual_listed_expiring :
    let reached := run (act indexedHost answerCrypto) okAttached okPerpetuated
    Admissible (act indexedHost answerCrypto) (Action.Attached (.contract 6)) okAttached
      okPerpetuated ∧ recordOf reached.sas okExpiring.uid = some { okExpiring with time := 100, expirationTime := 0 } ∧
    Indexer.getExpirationFiltered fromService ⟨none, none⟩ reached.world.1 .perpetual true =
      .ok ([], ⟨some 100, some 1⟩) ∧
    Indexer.getExpirationFiltered fromService ⟨none, none⟩ reached.world.1 .expiring true =
      .ok ([okExpiring.uid], ⟨some 100, some 1⟩) := by
  refine ⟨⟨⟨?_, by decide, by simp⟩, ⟨?_, by decide, by simp⟩, trivial⟩, ?_, ?_, ?_⟩
  · decide
  · decide
  · decide
  · decide
  · decide

end SorobanSas.Sas
