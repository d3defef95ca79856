import SorobanSas.Common.Types

namespace SorobanSas.Sas

open List

/-!
# The stored form of one attestation

An attestation occupies up to five persistent entries.  Its record is a compact one
under `CompactAttestationKey`, or an entry under the UID itself that is either compact
or a full record written before the compact layout existed.  The activation time has a
side entry of its own because the compact layout has no room for it, and issuance and
revocation each leave a timestamp anchor.

`Slot` collects the five entries of a UID.  Its proof fields exclude the combinations no
version of the contract writes: two records for one UID, a full record filed under a
foreign UID, and a full record next to a side entry.

The contract tries the compact layout first and means to fall back on the full one.  The host does
not let it: a map with other keys than those of the requested type is a trap, not an `Err`.  So
what a slot holds and what a reader gets to see of it are different things, and `content` and `read`
are different functions.
-/

/-! ## The compact codec -/

/-- The byte of `FLAG_REVOCABLE`, `FLAG_REVOKED` and `FLAG_DEPRECATED`. -/
def flagByte (revocable revoked deprecated : Bool) : UInt8 :=
  (if revocable then 1 else 0) ||| (if revoked then 2 else 0) ||| (if deprecated then 4 else 0)

theorem flagByte_bits (revocable revoked deprecated : Bool) :
    ((flagByte revocable revoked deprecated &&& 1) != 0) = revocable ∧
      ((flagByte revocable revoked deprecated &&& 2) != 0) = revoked ∧
      ((flagByte revocable revoked deprecated &&& 4) != 0) = deprecated := by
  revert revocable revoked deprecated
  decide

def packMeta (time expirationTime revocationTime : UInt64) (revocable deprecated : Bool) : Bytes :=
  flagByte revocable (decide (0 < revocationTime)) deprecated ::
    (toBeBytes time ++ (toBeBytes expirationTime ++ toBeBytes revocationTime))

theorem length_packMeta (time expirationTime revocationTime : UInt64) (revocable deprecated : Bool) :
    (packMeta time expirationTime revocationTime revocable deprecated).length = 25 := by
  simp [packMeta, length_toBeBytes]

/-- `CompactAttestation`.  `packed_meta` is a `BytesN<25>`. -/
structure CompactAttestation where
  schemaUid : UID
  refUid : UID
  recipient : Address
  attester : Address
  packedMeta : Bytes
  data : Bytes
  size : packedMeta.length = 25
  deriving DecidableEq

/-- The fields of `packed_meta`. -/
structure Meta where
  time : UInt64
  expirationTime : UInt64
  revocationTime : UInt64
  revocable : Bool
  revoked : Bool
  deprecated : Bool
  deriving DecidableEq

def unpackMeta (packed : Bytes) : Meta where
  time := fromBeBytes ((packed.drop 1).take 8)
  expirationTime := fromBeBytes ((packed.drop 9).take 8)
  revocationTime := fromBeBytes ((packed.drop 17).take 8)
  revocable := (packed.headD 0 &&& 1) != 0
  revoked := (packed.headD 0 &&& 2) != 0
  deprecated := (packed.headD 0 &&& 4) != 0

/-- The first of two fields, the first being a word. -/
theorem take_word (word : UInt64) (rest : Bytes) : (toBeBytes word ++ rest).take 8 = toBeBytes word :=
  take_left' (length_toBeBytes word)

theorem drop_word (word : UInt64) (rest : Bytes) : (toBeBytes word ++ rest).drop 8 = rest :=
  drop_left' (length_toBeBytes word)

theorem unpackMeta_packMeta (time expirationTime revocationTime : UInt64) (revocable deprecated : Bool) :
    unpackMeta (packMeta time expirationTime revocationTime revocable deprecated) =
      ⟨time, expirationTime, revocationTime, revocable, decide (0 < revocationTime), deprecated⟩ := by
  have last : (toBeBytes time ++ (toBeBytes expirationTime ++ toBeBytes revocationTime)).drop 16 =
      toBeBytes revocationTime := by
    rw [show (16 : Nat) = 8 + 8 from rfl, ← drop_drop, drop_word, drop_word]
  have whole : (toBeBytes revocationTime).take 8 = toBeBytes revocationTime :=
    take_of_length_le (Nat.le_of_eq (length_toBeBytes revocationTime))
  simp only [unpackMeta, packMeta, drop_succ_cons, drop_zero, headD_cons, last, whole,
    drop_word, take_word, fromBeBytes_toBeBytes]
  rcases flagByte_bits revocable (decide (0 < revocationTime)) deprecated with ⟨first, second, third⟩
  rw [first, second, third]

namespace CompactAttestation

def fromAttestation (attestation : Attestation) : CompactAttestation where
  schemaUid := attestation.schemaUid
  refUid := attestation.refUid
  recipient := attestation.recipient
  attester := attestation.attester
  packedMeta := packMeta attestation.time attestation.expirationTime attestation.revocationTime
    attestation.revocable false
  data := attestation.data
  size := length_packMeta _ _ _ _ _

def toAttestation (compact : CompactAttestation) (uid : UID) : Attestation :=
  let fields := unpackMeta compact.packedMeta
  { uid := uid
    schemaUid := compact.schemaUid
    time := fields.time
    expirationTime := fields.expirationTime
    revocationTime := fields.revocationTime
    refUid := compact.refUid
    recipient := compact.recipient
    attester := compact.attester
    revocable := fields.revocable
    data := compact.data
    validFrom := 0 }

/-- The compact layout keeps everything but the UID and the activation time. -/
theorem toAttestation_fromAttestation (attestation : Attestation) (uid : UID) :
    (fromAttestation attestation).toAttestation uid = { attestation with uid := uid, validFrom := 0 } := by
  simp only [toAttestation, fromAttestation, unpackMeta_packMeta]

end CompactAttestation

/-! ## The entries of one UID -/

structure TimestampAnchor where
  ledgerSequence : Nat
  ledgerTimestamp : UInt64
  deriving DecidableEq, Repr

inductive Entry (uid : UID) where
  | compact (record : CompactAttestation)
  | legacy (record : Attestation) (own : record.uid = uid)
  deriving DecidableEq

/-- `CompactAttestation::try_from_val`.  The host traps on the map of a full record. -/
def Entry.tryCompact {uid : UID} : Entry uid -> Except Trap CompactAttestation
  | .compact record => .ok record
  | .legacy _ _ => .error .storage

/-- The persistent entries of a UID. -/
structure Slot (uid : UID) where
  /-- Under `CompactAttestationKey`. -/
  keyed : Option CompactAttestation
  entry : Option (Entry uid)
  /-- Under `(VALID_FROM, uid)`. -/
  validFrom : Option UInt64
  issuance : Option TimestampAnchor
  revocation : Option TimestampAnchor
  single : keyed = none ∨ entry = none
  bare : ∀ record own, entry = some (.legacy record own) -> validFrom = none

namespace Slot

variable {uid : UID} {attestation : Attestation}

/-- A UID that was never issued, or whose entries `remove_attestation` deleted. -/
def empty : Slot uid where
  keyed := none
  entry := none
  validFrom := none
  issuance := none
  revocation := none
  single := .inl rfl
  bare := nofun

/-- The entry under the UID is a record in the old layout. -/
def isLegacy (slot : Slot uid) : Bool :=
  match slot.entry with
  | some (.legacy _ _) => true
  | _ => false

/-- The activation time of the side entry. -/
def activate (slot : Slot uid) (attestation : Attestation) : Attestation :=
  match slot.validFrom with
  | some validFrom => { attestation with validFrom := validFrom }
  | none => attestation

/-- The record that the entries hold, in whichever layout. -/
def content (slot : Slot uid) : Option Attestation :=
  match slot.keyed, slot.entry with
  | some compact, _ | none, some (.compact compact) => some (slot.activate (compact.toAttestation uid))
  | none, some (.legacy record _) => some (slot.activate record)
  | none, none => none

/-- `read_attestation`.  Its branch for full records is not reached. -/
def read (slot : Slot uid) : Except Trap (Option Attestation) := do
  let found <- match slot.keyed with
    | some compact => pure (some compact)
    | none => slot.entry.mapM Entry.tryCompact
  return found.map fun compact => slot.activate (compact.toAttestation uid)

/-- `has_attestation`. -/
def has (slot : Slot uid) : Bool := slot.keyed.isSome || slot.entry.isSome

/-- The side entry that `write_attestation` leaves. -/
def sideEntry (validFrom : UInt64) : Option UInt64 := if validFrom ≠ 0 then some validFrom else none

/-- `write_attestation`, on the slot of the attestation's UID. -/
def write (slot : Slot uid) (attestation : Attestation) : Slot uid :=
  if keyed : slot.keyed.isSome then
    { slot with
      keyed := some (.fromAttestation attestation)
      validFrom := sideEntry attestation.validFrom
      single := .inr (slot.single.resolve_left (by simpa [Option.isSome_iff_ne_none] using keyed))
      bare := by
        intro record own stored
        rw [slot.single.resolve_left (by simpa [Option.isSome_iff_ne_none] using keyed)] at stored
        cases stored }
  else
    { slot with
      entry := some (.compact (.fromAttestation attestation))
      validFrom := sideEntry attestation.validFrom
      single := .inl (by simpa using keyed)
      bare := nofun }

/-- `read_anchor`: the anchor of the revocation, or of the issuance. -/
def anchor (slot : Slot uid) (revocation : Bool) : Option TimestampAnchor :=
  if revocation then slot.revocation else slot.issuance

/-- The write of `write_anchor`. -/
def setAnchor (slot : Slot uid) (revocation : Bool) (anchor : TimestampAnchor) : Slot uid :=
  if revocation then { slot with revocation := some anchor }
  else { slot with issuance := some anchor }

/-! ### Reading back -/

theorem exists_of_isLegacy {slot : Slot uid} (legacy : slot.isLegacy = true) :
    ∃ record own, slot.entry = some (.legacy record own) := by
  unfold isLegacy at legacy
  split at legacy
  · exact ⟨_, _, ‹_›⟩
  · cases legacy

theorem content_of_legacy {slot : Slot uid} {record : Attestation} {own : record.uid = uid}
    (stored : slot.entry = some (.legacy record own)) : slot.content = some record := by
  have unkeyed : slot.keyed = none := slot.single.resolve_right (by simp [stored])
  simp only [content, activate, unkeyed, stored, slot.bare record own stored]

/-- The readers see what the slot holds, unless it has the old layout. -/
theorem read_eq (slot : Slot uid) : slot.read = if slot.isLegacy then .error .storage else .ok slot.content := by
  unfold read isLegacy content
  rcases slot with ⟨_ | compact, _ | entry | entry, _, _, _, single, -⟩
  all_goals first | rfl | simp at single

/-- A record is filed under its own UID. -/
theorem uid_of_content {slot : Slot uid} (stored : slot.content = some attestation) : attestation.uid = uid := by
  have own {record : Attestation} (mine : record.uid = uid) : (slot.activate record).uid = uid := by
    unfold activate
    split <;> exact mine
  unfold content at stored
  split at stored
  all_goals cases stored
  · exact own rfl
  · exact own rfl
  · exact own ‹_›

theorem has_eq_isSome (slot : Slot uid) : slot.has = slot.content.isSome := by
  unfold has content
  cases slot.keyed with
  | some compact => rfl
  | none =>
    cases slot.entry with
    | none => rfl
    | some entry => cases entry <;> rfl

/-- What is written has the compact layout. -/
theorem isLegacy_write (slot : Slot uid) (attestation : Attestation) : (slot.write attestation).isLegacy = false := by
  unfold write
  split
  · rename_i keyed
    have absent : slot.entry = none := slot.single.resolve_left (by simpa [Option.isSome_iff_ne_none] using keyed)
    simp only [isLegacy, absent]
  · rfl

theorem isLegacy_setAnchor (slot : Slot uid) (revocation : Bool) (anchor : TimestampAnchor) :
    (slot.setAnchor revocation anchor).isLegacy = slot.isLegacy := by
  cases revocation <;> rfl

/-- The side entry restores the activation time the compact layout drops. -/
theorem content_write (slot : Slot uid) (own : attestation.uid = uid) :
    (slot.write attestation).content = some attestation := by
  have restored : (match sideEntry attestation.validFrom with
      | some validFrom => { attestation with validFrom := validFrom }
      | none => { attestation with validFrom := 0 }) = attestation := by
    unfold sideEntry
    by_cases zero : attestation.validFrom = 0
    · simp only [zero, ne_eq, not_true_eq_false, if_false]
      rw [← zero]
    · simp only [ne_eq, zero, not_false_eq_true, if_true]
  subst own
  unfold write
  split
  · simp only [content, activate, CompactAttestation.toAttestation_fromAttestation]
    refine congrArg some (Eq.trans ?_ restored)
    cases sideEntry attestation.validFrom <;> rfl
  · rename_i unkeyed
    have absent : slot.keyed = none := by simpa using unkeyed
    simp only [content, activate, absent, CompactAttestation.toAttestation_fromAttestation]
    refine congrArg some (Eq.trans ?_ restored)
    cases sideEntry attestation.validFrom <;> rfl

@[simp] theorem issuance_write (slot : Slot uid) (attestation : Attestation) :
    (slot.write attestation).issuance = slot.issuance := by
  unfold write
  split <;> rfl

@[simp] theorem revocation_write (slot : Slot uid) (attestation : Attestation) :
    (slot.write attestation).revocation = slot.revocation := by
  unfold write
  split <;> rfl

end Slot

end SorobanSas.Sas
