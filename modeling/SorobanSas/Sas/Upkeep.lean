import SorobanSas.Sas.Persistent
import SorobanSas.Sas.Queries
import SorobanSas.Sas.AppendOnly
import SorobanSas.Library.Sweep

namespace SorobanSas.Sas

open Library List

/-!
# Migrating and pruning

Two entry points go through a list of UIDs.  `migrate_attestations` is there to rewrite records of the
old layout, and `prune_expired` to remove records that have expired.  Both are open to everybody, and
the list may hold the same UID twice or UIDs that nothing is known about.

Both look at a record as every reader does, so one record of the old layout on the list aborts the
call.  On a list without such records a migration has nothing to do, and pruning is a sweep: removing a
record settles its UID and touches no other.
-/

variable {uid : UID}

theorem persistent_putSlot_of_ne (state : State) {other : UID} (slot : Slot uid) (different : other ≠ uid) :
    (state.putSlot uid slot).persistent.entries other = state.persistent.entries other := by
  rw [persistent_putSlot]
  simp only [Persistent.entries, update_of_ne different]

/-! ## Migration -/

/-- No call of the contract is in progress. -/
def State.Idle (state : State) : Prop := state.guard = false ∧ state.callDepth = 0

variable {state : State} {uids : List UID}

theorem rejectReentrant_of_idle (idle : state.Idle) : rejectReentrant state = .ok () := if_pos idle

theorem tryCompact_eq_ok {slot : Slot uid} :
    (∃ found, slot.entry.mapM Entry.tryCompact = .ok found) ↔ slot.isLegacy = false := by
  unfold Slot.isLegacy
  rcases slot.entry with _ | entry | entry
  · exact ⟨fun _ => rfl, fun _ => ⟨none, rfl⟩⟩
  · exact ⟨fun _ => rfl, fun _ => ⟨some entry, rfl⟩⟩
  · refine ⟨?_, nofun⟩
    rintro ⟨_, decoded⟩
    cases decoded

/-- A migration goes through exactly if there is nothing to migrate. -/
theorem migrateAttestations_eq_ok {result : Nat × State} (idle : state.Idle) :
    migrateAttestations state uids = .ok result ↔
      (∀ uid ∈ uids, (state.records uid).isLegacy = false) ∧ (0, state) = result := by
  have each {counted next : Nat × State} {uid : UID} : (do
        let migrated <- migrateAttestation counted.2 uid
        return (if migrated.1 then counted.1 + 1 else counted.1, migrated.2) :
          Except Trap (Nat × State)) = .ok next ↔
      (counted.2.Idle ∧ (counted.2.records uid).isLegacy = false) ∧ counted = next := by
    simp only [migrateAttestation, rejectReentrant, ← tryCompact_eq_ok, eq_ok]
    constructor
    · rintro ⟨_, ⟨outside, found, decoded, rfl⟩, rfl⟩
      exact ⟨⟨outside, found, decoded⟩, rfl⟩
    · rintro ⟨⟨outside, found, decoded⟩, rfl⟩
      exact ⟨_, ⟨outside, found, decoded, rfl⟩, rfl⟩
  rw [migrateAttestations, rejectReentrant_of_idle idle]
  change uids.foldlM _ (0, state) = _ ↔ _
  rw [foldlM_ready each fun _ => Iff.rfl, foldl_fixed]
  simp only [idle, true_and]

structure Migrated (state : State) (uids : List UID) (count : Nat) (after : State) : Prop where
  records : ∀ uid, getAttestation after uid = getAttestation state uid
  verdicts : ∀ env uid, verifyAttestation env after uid = verifyAttestation env state uid
  activations : ∀ uid, getValidFrom after uid = getValidFrom state uid
  compacted : ∀ uid ∈ uids, ∀ record, state.persistent.entry uid = some (.legacy record) ->
    after.persistent.entry uid = some (.compact (.fromAttestation record))
  unlisted : ∀ uid, uid ∉ uids -> state.persistent.SameEntries after.persistent uid
  count : count = (uids.toFinset.filter fun uid => state.persistent.isLegacy uid = true).card
  settled : ∀ again : List UID, (∀ uid ∈ again, uid ∈ uids) -> migrateAttestations after again = .ok (0, after)

/-- A record of the old layout that becomes valid at 5. -/
def oldRecord : Attestation where
  uid := .ofNat 1
  schemaUid := .ofNat 2
  time := 1
  expirationTime := 90
  revocationTime := 0
  refUid := .zero
  recipient := .accountOfNat 3
  attester := .accountOfNat 2
  revocable := true
  data := [7]
  validFrom := 5

/-- What an earlier version of the contract has left under UID 1. -/
def oldSlot : Slot (.ofNat 1) where
  keyed := none
  entry := some (.legacy oldRecord rfl)
  validFrom := none
  issuance := none
  revocation := none
  single := .inl rfl
  bare := fun _ _ _ => rfl

/-- A migration keeps its promise exactly if no listed record has the old layout.  Otherwise the call
does not return. -/
theorem migration_preserves_meaning_iff (state : State) (idle : state.Idle) (uids : List UID) :
    (∃ count after, migrateAttestations state uids = .ok (count, after) ∧ Migrated state uids count after) ↔
      ∀ uid ∈ uids, (state.records uid).isLegacy = false := by
  constructor
  · rintro ⟨count, after, success, -⟩
    exact ((migrateAttestations_eq_ok idle).mp success).1
  · intro compact
    refine ⟨0, state, (migrateAttestations_eq_ok idle).mpr ⟨compact, rfl⟩, ?_⟩
    exact {
      records := fun _ => rfl
      verdicts := fun _ _ => rfl
      activations := fun _ => rfl
      compacted := by
        intro uid listed record stored
        have legacy : state.persistent.isLegacy uid = true := by rw [Persistent.isLegacy, stored]
        cases (compact uid listed).symm.trans ((persistent_isLegacy state uid).symm.trans legacy)
      unlisted := fun _ _ => ⟨rfl, rfl, rfl, rfl⟩
      count := by
        refine (Finset.card_eq_zero.mpr (Finset.filter_eq_empty_iff.mpr fun uid listed legacy => ?_)).symm
        rw [persistent_isLegacy, compact uid (mem_toFinset.mp listed)] at legacy
        cases legacy
      settled := fun again among =>
        (migrateAttestations_eq_ok idle).mpr ⟨fun uid member => compact uid (among uid member), rfl⟩ }

/-- UID 1 with a record that the contract itself has written. -/
def newSlot : Slot (.ofNat 1) := Slot.empty.write oldRecord

/-- A compact record listed twice next to an unknown UID. -/
theorem migration_preserves_meaning_iff_twice : ∃ after, migrateAttestations (deployed.putSlot (.ofNat 1) newSlot)
        [.ofNat 1, .ofNat 1, .ofNat 2] = .ok (0, after) ∧ getAttestation after (.ofNat 1) = .ok (some oldRecord) := by
  rcases (migration_preserves_meaning_iff (deployed.putSlot (.ofNat 1) newSlot) ⟨rfl, rfl⟩
    [.ofNat 1, .ofNat 1, .ofNat 2]).mpr (by decide) with ⟨count, after, success, migrated⟩
  have none : count = 0 := migrated.count.trans rfl
  subst none
  refine ⟨after, success, ?_⟩
  rw [migrated.records]
  decide

/-- One record of the old layout is listed.  The call aborts, as does every reader of the record. -/
theorem migration_aborts :
    let state := deployed.putSlot (.ofNat 1) oldSlot
    state.Idle ∧ state.persistent.entry (.ofNat 1) = some (.legacy oldRecord) ∧
      migrateAttestations state [.ofNat 1] = .error .storage ∧ getAttestation state (.ofNat 1) = .error .storage ∧
      verifyAttestation (signedAt [] 100) state (.ofNat 1) = .error .storage ∧
      getValidFrom state (.ofNat 1) = .error .storage := ⟨⟨rfl, rfl⟩, rfl, rfl, rfl, rfl, rfl⟩

/-! ## Pruning -/

variable (env : Env)

def expiredAt (state : State) (uid : UID) : Bool :=
  match recordOf state uid with
  | some attestation =>
    decide (attestation.expirationTime ≠ 0 ∧ attestation.expirationTime <= env.timestamp)
  | none => false

theorem recordOf_removed (state : State) (uid : UID) : recordOf (state.putSlot uid .empty) uid = none := by
  rw [recordOf, records_putSlot_self]
  rfl

def pruning : Sweep State UID where
  due := expiredAt env
  treat := fun state uid => (state.putSlot uid .empty).publish (.pruned uid)
  settles := by
    intro state uid expired other
    by_cases same : other = uid
    · subst same
      change expiredAt env (state.putSlot other .empty) other = true <-> _
      rw [expiredAt, recordOf_removed]
      simp
    · change expiredAt env (state.putSlot uid .empty) other = true <-> _
      rw [expiredAt, recordOf, records_putSlot_of_ne state _ same]
      exact ⟨fun due => ⟨due, same⟩, And.left⟩

theorem pruneStored_eq_visit : pruneStored env = (pruning env).visit := by
  funext pruned uid
  have due : (pruning env).due pruned.2 uid = expiredAt env pruned.2 uid := rfl
  unfold pruneStored pruneFound Sweep.visit
  rw [due, expiredAt]
  cases recordOf pruned.2 uid with
  | none => rfl
  | some attestation =>
    by_cases expired :
        attestation.expirationTime ≠ 0 ∧ attestation.expirationTime <= env.timestamp
    · simp only [if_pos expired, decide_eq_true expired]
      rfl
    · simp only [if_neg expired, decide_eq_false expired]
      rfl

theorem pruneExpired_eq_run (enabled : state.autoPrune = true) (few : uids.length <= maxPruneBatch)
    (compact : ∀ uid ∈ uids, (state.records uid).isLegacy = false) :
    pruneExpired env state uids = .ok ((pruning env).run (0, state) uids) :=
  pruneExpired_eq_ok.mpr ⟨enabled, few, compact, by rw [pruneStored_eq_visit]; rfl⟩

structure Pruned (state : State) (uids : List UID) (count : Nat) (after : State) : Prop where
  removed : ∀ uid ∈ uids, expiredAt env state uid = true -> after.persistent.Vacant uid
  others : ∀ uid, ¬ (uid ∈ uids ∧ expiredAt env state uid = true) -> state.persistent.SameEntries after.persistent uid
  count : count = (uids.toFinset.filter fun uid => expiredAt env state uid = true).card
  settled : pruneExpired env after uids = .ok (0, after)

variable {env}

theorem pruned_run (enabled : state.autoPrune = true) (few : uids.length <= maxPruneBatch)
    (compact : ∀ uid ∈ uids, (state.records uid).isLegacy = false) :
    Pruned env state uids ((pruning env).run (0, state) uids).1 ((pruning env).run (0, state) uids).2 := by
  have apart : forall (state : State) (uid : UID), (pruning env).due state uid = true -> forall other, other ≠ uid ->
      ((pruning env).treat state uid).persistent.entries other = state.persistent.entries other :=
    fun state uid _ other different => persistent_putSlot_of_ne state _ different
  have still : ((pruning env).run (0, state) uids).2.autoPrune = true := by
    rw [(pruning env).run_kept (·.autoPrune) (fun state item _ => rfl) (0, state) uids]
    exact enabled
  have removed (uid : UID) (listed : uid ∈ uids) (expired : expiredAt env state uid = true) :
      ((pruning env).run (0, state) uids).2.persistent.Vacant uid := by
    rcases (pruning env).view_run_of_due (fun state uid => state.persistent.entries uid) apart
        (0, state) listed expired with ⟨reached, -, -, result⟩
    have vacant : ((reached.putSlot uid .empty).persistent).Vacant uid := by
      rw [persistent_removeAttestation]
      exact reached.persistent.vacant_removeAttestation uid
    have same := Persistent.sameEntries_of_entries_eq
      (show _ = (reached.putSlot uid .empty).persistent.entries uid from result)
    exact ⟨same.keyed.trans vacant.keyed, same.entry.trans vacant.entry, same.validFrom.trans vacant.validFrom,
      fun revocation => (congrFun same.anchor revocation).trans (vacant.anchor revocation)⟩
  have others (uid : UID) (spared : ¬ (uid ∈ uids ∧ expiredAt env state uid = true)) :
      state.persistent.SameEntries ((pruning env).run (0, state) uids).2.persistent uid := by
    refine Persistent.sameEntries_of_entries_eq ((pruning env).view_run_of_untreated
      (fun state uid => state.persistent.entries uid) apart (0, state) ?_)
    by_cases listed : uid ∈ uids
    · exact .inr fun expired => spared ⟨listed, expired⟩
    · exact .inl listed
  have readable (uid : UID) (listed : uid ∈ uids) :
      (((pruning env).run (0, state) uids).2.records uid).isLegacy = false := by
    rw [← persistent_isLegacy, Persistent.isLegacy]
    by_cases expired : expiredAt env state uid = true
    · rw [(removed uid listed expired).entry]
    · rw [(others uid fun both => expired both.2).entry]
      exact (persistent_isLegacy state uid).trans (compact uid listed)
  refine ⟨removed, others, ?_, ?_⟩
  · rw [(pruning env).count_run, Nat.zero_add]
    rfl
  · rw [pruneExpired_eq_run env still few readable, (pruning env).run_of_settled]
    intro uid listed due
    exact (((pruning env).due_run (0, state) uids uid).mp due).2 listed

/-- Pruning removes exactly the listed records that have expired, if none of the listed records has
the old layout.  Otherwise the call does not return. -/
theorem pruning_removes_expired_iff (env : Env) (state : State) (uids : List UID)
    (enabled : state.autoPrune = true) (few : uids.length ≤ maxPruneBatch) :
    (∃ count after, pruneExpired env state uids = .ok (count, after) ∧ Pruned env state uids count after) ↔
      ∀ uid ∈ uids, (state.records uid).isLegacy = false := by
  constructor
  · rintro ⟨count, after, success, -⟩
    exact (pruneExpired_eq_ok.mp success).2.2.1
  · intro compact
    exact ⟨_, _, pruneExpired_eq_run env enabled few compact, pruned_run enabled few compact⟩

/-- The record of UID 1 has expired at 100; it is listed twice next to an unknown UID. -/
theorem pruning_removes_expired_iff_twice : ∃ after, pruneExpired (signedAt [] 100)
        ({ deployed with autoPrune := true }.putSlot (.ofNat 1) newSlot)
        [.ofNat 1, .ofNat 1, .ofNat 2] = .ok (1, after) ∧ after.persistent.Vacant (.ofNat 1) := by
  rcases (pruning_removes_expired_iff (signedAt [] 100)
    ({ deployed with autoPrune := true }.putSlot (.ofNat 1) newSlot)
    [.ofNat 1, .ofNat 1, .ofNat 2] rfl (by decide)).mpr (by decide) with ⟨count, after, success, pruned⟩
  have one : count = 1 := pruned.count.trans rfl
  have expired : expiredAt (signedAt [] 100)
      ({ deployed with autoPrune := true }.putSlot (.ofNat 1) newSlot) (.ofNat 1) = true := by
    decide
  subst one
  exact ⟨after, success, pruned.removed _ mem_cons_self expired⟩

/-- The expired record of UID 1 has the old layout, and nothing on the list is removed. -/
theorem pruning_aborts :
    let state := { deployed with autoPrune := true }.putSlot (.ofNat 1) oldSlot
    expiredAt (signedAt [] 100) state (.ofNat 1) = true ∧
      pruneExpired (signedAt [] 100) state [.ofNat 1] = .error .storage := ⟨by decide, rfl⟩

end SorobanSas.Sas
