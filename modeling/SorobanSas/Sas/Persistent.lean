import SorobanSas.Sas.State

namespace SorobanSas.Sas

/-!
# The persistent storage below the slots

The host knows nothing of slots.  It keeps four kinds of persistent entries about a UID: a compact
record under `CompactAttestationKey`, a record in either layout under the UID itself, the activation
time under `(VALID_FROM, uid)` and the two timestamp anchors.  The storage functions of the contract
read and write these entries one by one, and here they are translated in that form.

`Persistent` has no invariant, so the theorems of this module hold whatever combination of entries a
UID has.  A value is decoded only as the type it was written as, which is why the entries of each
kind have a type of their own, and why a value under a UID is one of two layouts.  The attempt to
decode the other layout is a trap.

The state of the service keeps the entries of a UID together as a slot.  `State.persistent` forgets
that, and every operation on slots is the operation on storage.
-/

variable {other : Persistent} {attestation : Attestation}

/-- A value under a UID. -/
inductive StoredRecord where
  | compact (record : CompactAttestation)
  | legacy (record : Attestation)
  deriving DecidableEq

/-- `CompactAttestation::try_from_val` on a value under a UID. -/
def StoredRecord.tryCompact : StoredRecord -> Except Trap CompactAttestation
  | .compact record => .ok record
  | .legacy _ => .error .storage

/-- The persistent entries by the kind of their key. -/
@[ext] structure Persistent where
  /-- Under `CompactAttestationKey`. -/
  keyed : UID -> Option CompactAttestation
  /-- Under the UID itself. -/
  entry : UID -> Option StoredRecord
  /-- Under `(VALID_FROM, uid)`. -/
  validFrom : UID -> Option UInt64
  /-- Of the issuance and of the revocation. -/
  anchor : UID -> Bool -> Option TimestampAnchor

namespace Persistent

variable (storage : Persistent) {uid : UID}

/-- The record before the side entry is consulted. -/
def record (uid : UID) : Except Trap (Option Attestation) := do
  let found <- match storage.keyed uid with
    | some compact => pure (some compact)
    | none => (storage.entry uid).mapM StoredRecord.tryCompact
  return found.map fun compact => compact.toAttestation uid

def readAttestation (uid : UID) : Except Trap (Option Attestation) := do
  let found <- storage.record uid
  return found.map fun attestation =>
    match storage.validFrom uid with
    | some validFrom => { attestation with validFrom := validFrom }
    | none => attestation

def hasAttestation (uid : UID) : Bool := (storage.keyed uid).isSome || (storage.entry uid).isSome

/-- The record of `write_attestation`: under `CompactAttestationKey` if there is one already. -/
def writeRecord (attestation : Attestation) : Persistent :=
  if (storage.keyed attestation.uid).isSome then
    { storage with
      keyed := update storage.keyed attestation.uid
        (some (.fromAttestation attestation)) }
  else
    { storage with
      entry := update storage.entry attestation.uid
        (some (.compact (.fromAttestation attestation))) }

/-- The side entry of `write_attestation`. -/
def writeValidFrom (uid : UID) (validFrom : UInt64) : Persistent :=
  if validFrom ≠ 0 then
    { storage with validFrom := update storage.validFrom uid (some validFrom) }
  else if (storage.validFrom uid).isSome then
    { storage with validFrom := update storage.validFrom uid none }
  else storage

def writeAttestation (attestation : Attestation) : Persistent :=
  (storage.writeRecord attestation).writeValidFrom attestation.uid attestation.validFrom

def removeAnchors (uid : UID) : Persistent := { storage with anchor := update storage.anchor uid fun _ => none }

def removeAttestation (uid : UID) : Persistent :=
  { storage with
    keyed := update storage.keyed uid none
    entry := update storage.entry uid none
    validFrom := update storage.validFrom uid none }.removeAnchors uid

/-- The record under the UID has the old layout. -/
def isLegacy (uid : UID) : Bool :=
  match storage.entry uid with
  | some (.legacy _) => true
  | _ => false

/-- Nothing that belongs to the UID is stored. -/
structure Vacant (uid : UID) : Prop where
  keyed : storage.keyed uid = none
  entry : storage.entry uid = none
  validFrom : storage.validFrom uid = none
  anchor : ∀ revocation, storage.anchor uid revocation = none

structure SameEntries (other : Persistent) (uid : UID) : Prop where
  keyed : other.keyed uid = storage.keyed uid
  entry : other.entry uid = storage.entry uid
  validFrom : other.validFrom uid = storage.validFrom uid
  anchor : other.anchor uid = storage.anchor uid

def entries (uid : UID) : Option CompactAttestation × Option StoredRecord × Option UInt64 ×
    (Bool -> Option TimestampAnchor) :=
  (storage.keyed uid, storage.entry uid, storage.validFrom uid, storage.anchor uid)

variable {storage}

theorem sameEntries_of_entries_eq (same : other.entries uid = storage.entries uid) : storage.SameEntries other uid := by
  simp only [entries, Prod.mk.injEq] at same
  exact ⟨same.1, same.2.1, same.2.2.1, same.2.2.2⟩

/-! ## Reading back -/

theorem SameEntries.readAttestation (same : storage.SameEntries other uid) :
    other.readAttestation uid = storage.readAttestation uid := by
  simp only [Persistent.readAttestation, record, same.keyed, same.entry, same.validFrom]

theorem SameEntries.hasAttestation (same : storage.SameEntries other uid) :
    other.hasAttestation uid = storage.hasAttestation uid := by
  simp only [Persistent.hasAttestation, same.keyed, same.entry]

variable (storage)

/-- The side entry is set, removed, or was absent already. -/
theorem writeValidFrom_eq (uid : UID) (validFrom : UInt64) : storage.writeValidFrom uid validFrom = { storage with
        validFrom := update storage.validFrom uid (Slot.sideEntry validFrom) } := by
  unfold writeValidFrom Slot.sideEntry
  by_cases active : validFrom ≠ 0
  · rw [if_pos active, if_pos active]
  · rw [if_neg active, if_neg active]
    by_cases present : (storage.validFrom uid).isSome
    · rw [if_pos present]
    · have absent : storage.validFrom uid = none := by simpa using present
      rw [if_neg present, ← absent, update_eq_self]

variable {storage}

theorem writeAttestation_of_keyed (keyed : (storage.keyed attestation.uid).isSome) :
    storage.writeAttestation attestation = { storage with
        keyed := update storage.keyed attestation.uid (some (.fromAttestation attestation))
        validFrom := update storage.validFrom attestation.uid (Slot.sideEntry attestation.validFrom) } := by
  rw [writeAttestation, writeValidFrom_eq, writeRecord, if_pos keyed]

theorem writeAttestation_of_not_keyed (unkeyed : ¬ (storage.keyed attestation.uid).isSome) :
    storage.writeAttestation attestation = { storage with
        entry := update storage.entry attestation.uid (some (.compact (.fromAttestation attestation)))
        validFrom := update storage.validFrom attestation.uid (Slot.sideEntry attestation.validFrom) } := by
  rw [writeAttestation, writeValidFrom_eq, writeRecord, if_neg unkeyed]

variable (storage)

/-- The reader prefers the key that the writer has used. -/
theorem record_writeAttestation (attestation : Attestation) :
    (storage.writeAttestation attestation).record attestation.uid = .ok (some { attestation with validFrom := 0 }) := by
  rw [← CompactAttestation.toAttestation_fromAttestation attestation attestation.uid]
  by_cases keyed : (storage.keyed attestation.uid).isSome
  · simp only [writeAttestation_of_keyed keyed, record, update_self]
    rfl
  · have absent : storage.keyed attestation.uid = none := by simpa using keyed
    simp only [writeAttestation_of_not_keyed keyed, record, absent, update_self]
    rfl

theorem validFrom_writeAttestation (attestation : Attestation) :
    (storage.writeAttestation attestation).validFrom attestation.uid = Slot.sideEntry attestation.validFrom := by
  rw [writeAttestation, writeValidFrom_eq]
  exact update_self _ _ _

theorem readAttestation_writeAttestation (attestation : Attestation) :
    (storage.writeAttestation attestation).readAttestation attestation.uid = .ok (some attestation) := by
  rw [readAttestation, record_writeAttestation, validFrom_writeAttestation]
  unfold Slot.sideEntry
  by_cases zero : attestation.validFrom = 0
  · rw [if_neg (not_not.mpr zero), ← zero]
    rfl
  · rw [if_pos zero]
    rfl

theorem hasAttestation_writeAttestation (attestation : Attestation) :
    (storage.writeAttestation attestation).hasAttestation attestation.uid = true := by
  by_cases keyed : (storage.keyed attestation.uid).isSome
  · simp [writeAttestation_of_keyed keyed, hasAttestation]
  · simp [writeAttestation_of_not_keyed keyed, hasAttestation]

theorem sameEntries_writeAttestation {other : UID} (different : other ≠ attestation.uid) :
    storage.SameEntries (storage.writeAttestation attestation) other := by
  by_cases keyed : (storage.keyed attestation.uid).isSome
  · rw [writeAttestation_of_keyed keyed]
    exact ⟨update_of_ne different _ _, rfl, update_of_ne different _ _, rfl⟩
  · rw [writeAttestation_of_not_keyed keyed]
    exact ⟨rfl, update_of_ne different _ _, update_of_ne different _ _, rfl⟩

theorem vacant_removeAttestation (uid : UID) : (storage.removeAttestation uid).Vacant uid where
  keyed := update_self _ _ _
  entry := update_self _ _ _
  validFrom := update_self _ _ _
  anchor := by
    intro revocation
    simp only [removeAttestation, removeAnchors, update_self]

theorem sameEntries_removeAttestation {other : UID} (different : other ≠ uid) :
    storage.SameEntries (storage.removeAttestation uid) other where
  keyed := update_of_ne different _ _
  entry := update_of_ne different _ _
  validFrom := update_of_ne different _ _
  anchor := update_of_ne different _ _

end Persistent

/-- Storage is a faithful codec.  Whatever is stored about the UID before, in whichever layout, the
record that was written is read back, other UIDs are read as before, and a removal leaves nothing. -/
theorem attestation_storage_faithful (storage : Persistent) (attestation : Attestation) :
    (storage.writeAttestation attestation).readAttestation attestation.uid = .ok (some attestation) ∧
      (storage.writeAttestation attestation).hasAttestation attestation.uid = true ∧
      (forall other, other ≠ attestation.uid -> (storage.writeAttestation attestation).readAttestation other =
            storage.readAttestation other ∧ (storage.writeAttestation attestation).hasAttestation other =
            storage.hasAttestation other) ∧
      ((storage.writeAttestation attestation).removeAttestation attestation.uid).Vacant attestation.uid ∧
      forall other, other ≠ attestation.uid ->
        ((storage.writeAttestation attestation).removeAttestation attestation.uid).readAttestation
          other = storage.readAttestation other := by
  refine ⟨storage.readAttestation_writeAttestation attestation,
    storage.hasAttestation_writeAttestation attestation, ?_, Persistent.vacant_removeAttestation _ attestation.uid, ?_⟩
  · intro other different
    have same := storage.sameEntries_writeAttestation different
    exact ⟨same.readAttestation, same.hasAttestation⟩
  · intro other different
    have written := storage.sameEntries_writeAttestation different
    have removed := (storage.writeAttestation attestation).sameEntries_removeAttestation different
    exact removed.readAttestation.trans written.readAttestation

/-! ## Slots are storage -/

/-- The value under the UID of a slot. -/
def Entry.stored {uid : UID} : Entry uid -> StoredRecord
  | .compact record => .compact record
  | .legacy record _ => .legacy record

/-- The storage in which the slots of a state are kept. -/
def State.persistent (state : State) : Persistent where
  keyed := fun uid => (state.records uid).keyed
  entry := fun uid => (state.records uid).entry.map Entry.stored
  validFrom := fun uid => (state.records uid).validFrom
  anchor := fun uid revocation => (state.records uid).anchor revocation

theorem persistent_readAttestation (state : State) (uid : UID) :
    state.persistent.readAttestation uid = readAttestation state uid := by
  simp only [Persistent.readAttestation, Persistent.record, State.persistent, readAttestation, Slot.read]
  cases (state.records uid).keyed with
  | some compact => rfl
  | none =>
    cases (state.records uid).entry with
    | none => rfl
    | some entry => cases entry <;> rfl

theorem persistent_hasAttestation (state : State) (uid : UID) :
    state.persistent.hasAttestation uid = hasAttestation state uid := by
  simp only [Persistent.hasAttestation, State.persistent, hasAttestation, Slot.has, Option.isSome_map]

theorem persistent_putSlot (state : State) (uid : UID) (slot : Slot uid) : (state.putSlot uid slot).persistent =
      { keyed := update state.persistent.keyed uid slot.keyed
        entry := update state.persistent.entry uid (slot.entry.map Entry.stored)
        validFrom := update state.persistent.validFrom uid slot.validFrom
        anchor := update state.persistent.anchor uid slot.anchor } := by
  ext other : 2
  all_goals
    by_cases same : other = uid
    · subst same
      simp [State.persistent, State.putSlot]
    · simp [State.persistent, State.putSlot, update_of_ne same]

theorem persistent_writeAttestation (state : State) (attestation : Attestation) :
    (writeAttestation state attestation).persistent = state.persistent.writeAttestation attestation := by
  rw [writeAttestation, persistent_putSlot]
  by_cases keyed : (state.records attestation.uid).keyed.isSome
  · have keyed' : (state.persistent.keyed attestation.uid).isSome := keyed
    rw [Persistent.writeAttestation_of_keyed keyed', Slot.write, dif_pos keyed]
    exact Persistent.ext rfl (update_eq_self _ _) rfl (update_eq_self _ _)
  · have keyed' : ¬ (state.persistent.keyed attestation.uid).isSome := keyed
    rw [Persistent.writeAttestation_of_not_keyed keyed', Slot.write, dif_neg keyed]
    exact Persistent.ext (update_eq_self _ _) rfl rfl (update_eq_self _ _)

theorem persistent_removeAttestation (state : State) (uid : UID) :
    (state.putSlot uid .empty).persistent = state.persistent.removeAttestation uid := by
  have bare : (Slot.empty : Slot uid).anchor = fun _ => none := by
    funext revocation
    cases revocation <;> rfl
  rw [persistent_putSlot, bare]
  rfl

theorem persistent_isLegacy (state : State) (uid : UID) :
    state.persistent.isLegacy uid = (state.records uid).isLegacy := by
  unfold Persistent.isLegacy Slot.isLegacy State.persistent
  dsimp only
  cases (state.records uid).entry with
  | none => rfl
  | some entry => cases entry <;> rfl

end SorobanSas.Sas
