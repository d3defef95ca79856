import SorobanSas.Indexer.AdaptiveChunks
import SorobanSas.Indexer.Catalogue
import Mathlib.Data.Set.Card

namespace SorobanSas.Indexer

open Library List

/-!
# Membership and counters under retries

Every accepted UID is kept under a record, in two mappings and in six counters.  The
counters and the mappings are written by separate helpers, and the two counters beside the
mappings saturate where the others abort.  They agree nevertheless: a UID reaches the
helpers once, and whatever brings a counter to its end aborts the call.

What a run has indexed is said here without the history and without storage: a UID was
indexed with a record when some call of the run offered it with that record and succeeded.
Neither the chunk capacity nor the status of a UID matters to it.
-/

def getRecipientAttestationCount (state : State) (address : Address) : Nat := state.recipientAttestationCount address

def getCountByExpiration (state : State) (expirationStatus : ExpirationStatus) : Nat :=
  state.expirationTotal expirationStatus

variable {uid : UID}

/-- A UID that is not mapped yet is added, and counted once more. -/
theorem withPair_fresh {κ : Type} [DecidableEq κ] {mapping : κ -> UID -> Bool} {key : κ}
    (fresh : mapping key uid = false) :
    withPair mapping key uid = update mapping key (update (mapping key) uid true) := by
  rw [withPair, fresh]
  rfl

theorem countPair_fresh {κ : Type} [DecidableEq κ] {mapping : κ -> UID -> Bool} {count : κ -> Nat} {key : κ}
    (fresh : mapping key uid = false) (room : count key + 1 < 2 ^ 32) :
    countPair mapping count key uid = update count key (count key + 1) := by
  have exact : saturatingAdd (count key) 1 = count key + 1 := Nat.min_eq_left (by omega)
  rw [countPair, fresh, exact]
  rfl

/-! ## The mappings against the history -/

theorem mapping_update {κ : Type} [DecidableEq κ] {keyOf : IndexRecord -> κ}
    {mapping : κ -> UID -> Bool} {entries : History} (exact : ∀ key uid,
      mapping key uid = true ↔ uid ∈ uidsWhere (fun record => keyOf record = key) entries)
    (uid : UID) (record : IndexRecord) (key : κ) (other : UID) :
    update mapping (keyOf record) (update (mapping (keyOf record)) uid true) key other = true ↔
      other ∈ uidsWhere (fun record => keyOf record = key) (entries ++ [(uid, record)]) := by
  rw [uidsWhere_concat, mem_append, ← exact]
  by_cases same : keyOf record = key
  · subst same
    by_cases own : other = uid
    · simp [own]
    · simp [own]
  · simp [same, update_of_ne (Ne.symm same)]

/-- Records, counters and mappings hold exactly the history. -/
structure Mapped (entries : History) (state : State) : Prop where
  counted : Counted entries state
  filed : ∀ uid record, state.indexed uid = some record ↔ (uid, record) ∈ entries
  expiration : ∀ expirationStatus, state.expirationTotal expirationStatus =
    (expirationUids expirationStatus entries).length
  recipientMapped : ∀ recipient uid, state.recipientAttestation recipient uid = true ↔
    uid ∈ recipientUids recipient entries
  recipientCount : ∀ recipient, state.recipientAttestationCount recipient = (recipientUids recipient entries).length
  schemaMapped : ∀ schemaUid uid, state.schemaAttestation schemaUid uid = true ↔ uid ∈ schemaUids schemaUid entries
  schemaCount : ∀ schemaUid, state.schemaAttestationCount schemaUid = (schemaUids schemaUid entries).length

variable {record : IndexRecord}

namespace Mapped

variable {entries : History} {before after state : State}

theorem initial : Mapped [] deployed where
  counted := Counted.initial
  filed := by simp [deployed]
  expiration := fun _ => rfl
  recipientMapped := by simp [deployed, recipientUids, uidsWhere]
  recipientCount := fun _ => rfl
  schemaMapped := by simp [deployed, schemaUids, uidsWhere]
  schemaCount := fun _ => rfl

section Fresh

variable (mapped : Mapped entries state) (fresh : state.indexed uid = none)

include mapped fresh

theorem notMem_of_fresh (condition : IndexRecord -> Bool) : uid ∉ uidsWhere condition entries := by
  intro member
  rcases mem_uidsWhere.mp member with ⟨record, member, -⟩
  cases fresh.symm.trans ((mapped.filed uid record).mpr member)

theorem recipient_fresh (recipient : Address) : state.recipientAttestation recipient uid = false := by
  rw [Bool.eq_false_iff, ne_eq, mapped.recipientMapped]
  exact mapped.notMem_of_fresh fresh _

theorem schema_fresh (schemaUid : UID) : state.schemaAttestation schemaUid uid = false := by
  rw [Bool.eq_false_iff, ne_eq, mapped.schemaMapped]
  exact mapped.notMem_of_fresh fresh _

end Fresh

theorem files (mapped : Mapped entries before) (fresh : before.indexed uid = none)
    (success : indexNew before uid record = .ok after) : Mapped (entries ++ [(uid, record)]) after := by
  rcases indexNew_ok success with ⟨indexed, classed, change⟩
  have recipient := mapped.recipient_fresh fresh record.recipient
  have schema := mapped.schema_fresh fresh record.schemaUid
  constructor
  · exact mapped.counted.files fresh indexed
  · intro other filed
    rw [indexed.indexed, mem_append, ← mapped.filed]
    by_cases same : other = uid
    · subst same
      simp [fresh, eq_comm]
    · simp [same]
  · intro expirationStatus
    rw [classed.expirationTotal]
    exact counter_update mapped.expiration uid record expirationStatus
  · intro address other
    rw [change.recipientAttestation, indexRecipientAttestation_eq, withPair_fresh recipient]
    exact mapping_update mapped.recipientMapped uid record address other
  · intro address
    have room := change.recipientRoom
    rw [mapped.counted.recipient, ← mapped.recipientCount] at room
    rw [change.recipientCount, indexRecipientAttestation_eq, countPair_fresh recipient room]
    exact counter_update mapped.recipientCount uid record address
  · intro schemaUid other
    rw [change.schemaAttestation, indexSchemaAttestation_eq, withPair_fresh schema]
    exact mapping_update mapped.schemaMapped uid record schemaUid other
  · intro schemaUid
    have room := change.schemaRoom
    rw [mapped.counted.schema, ← mapped.schemaCount] at room
    rw [change.schemaCount, indexSchemaAttestation_eq, countPair_fresh schema room]
    exact counter_update mapped.schemaCount uid record schemaUid

theorem same (mapped : Mapped entries before) (kept : SameContents before after) : Mapped entries after where
  counted := mapped.counted.same kept.indexed kept.addressTotal kept.schemaTotal
  filed := kept.indexed ▸ mapped.filed
  expiration := kept.expirationTotal ▸ mapped.expiration
  recipientMapped := kept.recipientAttestation ▸ mapped.recipientMapped
  recipientCount := kept.recipientCount ▸ mapped.recipientCount
  schemaMapped := kept.schemaAttestation ▸ mapped.schemaMapped
  schemaCount := kept.schemaCount ▸ mapped.schemaCount

/-- Every call extends the mappings as it extends the history. -/
theorem step {call : Env × Call} (mapped : Mapped entries before)
    (success : Indexer.step before call = .ok after) : Mapped (entries ++ accepted before call) after := by
  rcases step_cases success with ⟨uid, record, files, filed⟩ | idles
  · rw [accepted_of_files success files]
    exact mapped.files files.2 filed
  · rw [accepted_of_not_files idles.other, append_nil]
    exact mapped.same idles.contents

theorem run (calls : List (Env × Call)) :
    Mapped (history deployed calls) (Library.run Indexer.step deployed calls) := by
  rw [← nil_append (history _ _)]
  exact history_related (fun entries before call after mapped _ success => mapped.step success)
    initial (admissible_true deployed calls)

end Mapped

/-! ## What a run has indexed -/

/-- A call that offers the UID with this record, and succeeds. -/
def Indexes (uid : UID) (record : IndexRecord) (state : State) (call : Env × Call) : Prop :=
  call.2 = .indexAttestation uid record ∧ (step state call).isOk = true

/-- The UIDs that the run has indexed with a record that meets the condition. -/
def indexedWhere (calls : List (Env × Call)) (condition : IndexRecord -> Prop) : Set UID :=
  {uid | ∃ record, condition record ∧ Occurs step deployed (Indexes uid record) calls}

theorem indexed_after {before after : State} {call : Env × Call} (success : step before call = .ok after) :
    after.indexed uid = some record ↔ before.indexed uid = some record ∨ Indexes uid record before call := by
  have succeeds : (step before call).isOk = true := by
    rw [success]
    rfl
  rcases step_cases success with ⟨other, filed, files, written⟩ | ⟨none, kept, -⟩
  · rw [(indexNew_ok written).1.indexed, Indexes, files.1]
    by_cases same : uid = other
    · subst same
      simp [files.2, succeeds]
    · simp [same, Ne.symm same]
  · rw [kept.indexed]
    refine ⟨.inl, ?_⟩
    rintro (known | ⟨offered, -⟩)
    · exact known
    · rcases call with ⟨env, call⟩
      cases offered
      rcases (indexAttestation_ok success).2 with ⟨fresh, -⟩ | ⟨known, -⟩
      · exact absurd ⟨rfl, fresh⟩ (none uid record)
      · exact known

/-- The record of a UID is the one it was indexed with. -/
def RecordsRun (calls : List (Env × Call)) (state : State) : Prop :=
  ∀ uid record, state.indexed uid = some record ↔ Occurs step deployed (Indexes uid record) calls

theorem recordsRun (calls : List (Env × Call)) : RecordsRun calls (run step deployed calls) := by
  refine trail_invariant ?_ ?_ ?_ (admissible_true deployed calls)
  · intro uid record
    simp [deployed, Occurs]
  · intro inputs input next recorded _ success uid record
    rw [indexed_after success, occurs_concat, recorded]
  · intro inputs input failure recorded aborted uid record
    rw [occurs_concat, ← recorded]
    refine ⟨.inl, ?_⟩
    rintro (earlier | ⟨-, succeeds⟩)
    · exact earlier
    · rw [aborted] at succeeds
      cases succeeds

theorem mem_indexedWhere {calls : List (Env × Call)} {condition : IndexRecord -> Bool} :
    uid ∈ indexedWhere calls (fun record => condition record = true) ↔
      uid ∈ uidsWhere condition (history deployed calls) := by
  simp only [indexedWhere, Set.mem_ofPred_eq, mem_uidsWhere, ← recordsRun calls uid, (Mapped.run calls).filed, and_comm]

theorem ncard_indexedWhere (calls : List (Env × Call)) (condition : IndexRecord -> Bool) :
    (indexedWhere calls (fun record => condition record = true)).ncard =
      (uidsWhere condition (history deployed calls)).length := by
  have same : indexedWhere calls (fun record => condition record = true) =
      ((uidsWhere condition (history deployed calls)).toFinset : Set UID) := by
    ext uid
    rw [mem_indexedWhere, Finset.mem_coe, mem_toFinset]
  rw [same, Set.ncard_coe_finset]
  exact toFinset_card_of_nodup ((Mapped.run calls).counted.uidsWhere_nodup condition)

/-- A call for a known UID changes nothing: it succeeds with the record the UID has, and
aborts with any other. -/
theorem indexAttestation_known {env : Env} {state : State} {service : Address}
    (bound : state.sas = some service) (signed : env.authorized service = true)
    (known : state.indexed uid = some record) (offered : IndexRecord) : indexAttestation env state uid offered =
      if offered = record then .ok state else .error (.contract .duplicateAttestation) := by
  have entered : requireSas env state = .ok () := by simp [requireSas, bound, requireAuth_eq_ok, signed]
  simp only [indexAttestation, entered, known, require]
  by_cases same : record = offered
  · rw [if_pos same, if_pos same.symm]
    rfl
  · rw [if_neg same, if_neg (Ne.symm same)]
    rfl

/-- The index holds what the run has indexed, and nothing else. -/
structure HoldsExactly (calls : List (Env × Call)) (state : State) : Prop where
  /-- A repeated call is accepted without effect. -/
  retry : ∀ env service uid record, state.sas = some service ->
    env.authorized service = true -> Occurs step deployed (Indexes uid record) calls ->
    step state (env, .indexAttestation uid record) = .ok state
  conflict : ∀ env service uid record other, state.sas = some service ->
    env.authorized service = true -> Occurs step deployed (Indexes uid record) calls -> other ≠ record ->
    step state (env, .indexAttestation uid other) = .error (.contract .duplicateAttestation) ∧
      commit step state (env, .indexAttestation uid other) = state
  recipient : ∀ address, getCountByRecipient state address = (indexedWhere calls (·.recipient = address)).ncard ∧
      getRecipientAttestationCount state address = (indexedWhere calls (·.recipient = address)).ncard
  /-- The second counter has no reader. -/
  schema : ∀ schemaUid, getCountBySchema state schemaUid = (indexedWhere calls (·.schemaUid = schemaUid)).ncard ∧
      state.schemaAttestationCount schemaUid = (indexedWhere calls (·.schemaUid = schemaUid)).ncard
  attester : ∀ address, getCountByAttester state address = (indexedWhere calls (·.attester = address)).ncard
  expiration : ∀ expirationStatus, getCountByExpiration state expirationStatus =
    (indexedWhere calls (expirationStatusOf ·.expirationTime = expirationStatus)).ncard
  recipientMember : ∀ address uid, hasRecipientAttestation state address uid = true ↔
    uid ∈ indexedWhere calls (·.recipient = address)
  schemaMember : ∀ schemaUid uid, hasSchemaAttestation state schemaUid uid = true ↔
    uid ∈ indexedWhere calls (·.schemaUid = schemaUid)
  member : ∀ uid, isAttestationIndexed state uid = true ↔ uid ∈ indexedWhere calls (fun _ => True)

/-- After every run, whatever its calls, records, counters and mappings are exact. -/
theorem index_holds_exactly (calls : List (Env × Call)) : HoldsExactly calls (run step deployed calls) := by
  have mapped := Mapped.run calls
  have counted {condition : IndexRecord -> Prop} [DecidablePred condition] : (indexedWhere calls condition).ncard =
        (uidsWhere (fun record => condition record) (history deployed calls)).length := by
    rw [← ncard_indexedWhere]
    simp only [decide_eq_true_eq]
  have member {condition : IndexRecord -> Prop} [DecidablePred condition] {uid : UID} :
      uid ∈ indexedWhere calls condition ↔
        uid ∈ uidsWhere (fun record => condition record) (history deployed calls) := by
    rw [← mem_indexedWhere]
    simp only [decide_eq_true_eq]
  constructor
  · intro env service uid record bound signed occurred
    have known := (recordsRun calls uid record).mpr occurred
    exact (indexAttestation_known bound signed known record).trans (if_pos rfl)
  · intro env service uid record other bound signed occurred different
    have known := (recordsRun calls uid record).mpr occurred
    have aborted := (indexAttestation_known bound signed known other).trans (if_neg different)
    exact ⟨aborted, commit_of_error aborted⟩
  · intro address
    rw [counted]
    exact ⟨mapped.counted.recipient address, mapped.recipientCount address⟩
  · intro schemaUid
    rw [counted]
    exact ⟨mapped.counted.schema schemaUid, mapped.schemaCount schemaUid⟩
  · intro address
    rw [counted]
    exact mapped.counted.attester address
  · intro expirationStatus
    rw [counted]
    exact mapped.expiration expirationStatus
  · intro address uid
    rw [member]
    exact mapped.recipientMapped address uid
  · intro schemaUid uid
    rw [member]
    exact mapped.schemaMapped schemaUid uid
  · intro uid
    rw [isAttestationIndexed, Option.isSome_iff_exists]
    simp only [indexedWhere, Set.mem_ofPred_eq, true_and, recordsRun calls uid]

open Address (accountOfNat)
open UID (ofNat)

/-- The first UID of the run is offered once more, and then with another expiration. -/
theorem index_holds_exactly_retried :
    let state := run step deployed tunedRun
    step state (indexNumber 1) = .ok state ∧
      step state (sasCall, .indexAttestation (ofNat 1) ⟨accountOfNat 2, ofNat 0, accountOfNat 3, 5⟩) =
        .error (.contract .duplicateAttestation) := by
  have exactly := index_holds_exactly tunedRun
  have occurred : Occurs step deployed (Indexes (ofNat 1) ⟨accountOfNat 2, ofNat 0, accountOfNat 3, 0⟩) tunedRun :=
    ⟨tunedRun.take 2, indexNumber 1, [indexNumber 2], rfl, rfl, by decide⟩
  have bound : (run step deployed tunedRun).sas = some (.contract 1) := by decide
  exact ⟨exactly.retry sasCall _ _ _ bound (by decide) occurred,
    (exactly.conflict sasCall _ _ _ _ bound (by decide) occurred (by decide)).1⟩

end SorobanSas.Indexer
