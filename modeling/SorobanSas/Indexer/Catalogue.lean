import SorobanSas.Indexer.Histories
import SorobanSas.Indexer.Reads

namespace SorobanSas.Indexer

open Library List

/-!
# Where an indexed UID is found

As long as the chunk capacity is left at its default, every UID that was accepted is listed
under its schema and under its expiration class, and it is mapped to its recipient and its
schema.  It is listed under its recipient and its attester as well, provided that the two
roles of an address do not meet in one row.

The readers that leave out inactive UIDs list it exactly while it is active.
-/

variable {κ : Type} {env : Env} {compatible : Bool} {condition : IndexRecord -> Bool} {read : Read}
  {state : State} {uid : UID} {record : IndexRecord} {after : State} {entries : History} {before : State}
  {includeRevoked : Bool}

/-- The UIDs filed under an expiration class. -/
def expirationUids (expirationStatus : ExpirationStatus) : History -> List UID :=
  uidsWhere (fun record => expirationStatusOf record.expirationTime = expirationStatus)

theorem expirationUids_concat (expirationStatus : ExpirationStatus) (entries : History) (uid : UID)
    (record : IndexRecord) :
    expirationUids expirationStatus (entries ++ [(uid, record)]) = expirationUids expirationStatus entries ++
        if expirationStatusOf record.expirationTime = expirationStatus then [uid] else [] := by
  simp [expirationUids, uidsWhere_concat]

theorem indexAttestation_status (success : indexAttestation env before uid record = .ok after) :
    after.status = before.status := by
  rcases (indexAttestation_ok success).2 with ⟨-, filed⟩ | ⟨-, rfl⟩
  · exact (indexNew_ok filed).2.1.status
  · rfl

/-- A UID can be filed as long as no counter is at its end. -/
theorem indexNew_succeeds (recipient : state.addressTotal .recipient record.recipient + 1 < 2 ^ 32)
    (schema : state.schemaTotal record.schemaUid + 1 < 2 ^ 32)
    (attester : state.addressTotal .attester record.attester + 1 < 2 ^ 32) (expiration :
      state.expirationTotal (expirationStatusOf record.expirationTime) + 1 < 2 ^ 32) :
    ∃ after, indexNew state uid record = .ok after := by
  simp only [indexNew, indexAddressUid, indexUidUid, indexExpirationStatus, eq_ok, checkedU32_eq_ok,
    indexRecipientAttestation_eq, indexSchemaAttestation_eq]
  refine ⟨_, _, ⟨_, ⟨recipient, rfl⟩, rfl⟩, _, ⟨_, ⟨?_, rfl⟩, rfl⟩, _, ⟨_, ⟨?_, rfl⟩, rfl⟩, _, ⟨_, ⟨?_, rfl⟩, rfl⟩, rfl⟩
  · exact schema
  · simpa using attester
  · exact expiration

/-! ## The catalogue -/

theorem layout_update [DecidableEq κ] {rows : κ -> Row} {totals : κ -> Nat}
    {items : κ -> List UID} {capacity : Nat} (key : κ) (uid : UID)
    (counted : ∀ other, totals other = (items other).length)
    (layout : ∀ other, Layout capacity 1 (items other) (rows other)) (other : κ) :
    Layout capacity 1 (items other ++ if key = other then [uid] else [])
      (update rows key (appendUid capacity (totals key) (rows key) uid).1 other) := by
  by_cases same : key = other
  · subst same
    rw [if_pos rfl, update_self, counted]
    exact appendUid_layout (layout key) uid
  · rw [if_neg same, append_nil, update_of_ne (Ne.symm same)]
    exact layout other

/-- The storage of an indexer whose capacity was never tuned, after these entries were
accepted. -/
structure Catalogued (entries : History) (state : State) : Prop where
  rows : SharedRows entries state
  capacity : state.chunkCapacity = none
  filed : ∀ uid record, (uid, record) ∈ entries -> state.indexed uid = some record
  schemas : ∀ schemaUid, Layout maxChunkSize 1 (schemaUids schemaUid entries) (state.schemaChunks schemaUid)
  expirationTotal : ∀ expirationStatus, state.expirationTotal expirationStatus =
    (expirationUids expirationStatus entries).length
  expirations : ∀ expirationStatus, Layout maxChunkSize 1
    (expirationUids expirationStatus entries) (state.expirationChunks expirationStatus)
  recipientMapped : ∀ uid record, (uid, record) ∈ entries -> state.recipientAttestation record.recipient uid = true
  schemaMapped : ∀ uid record, (uid, record) ∈ entries -> state.schemaAttestation record.schemaUid uid = true

namespace Catalogued

theorem initial : Catalogued [] deployed where
  rows := SharedRows.initial
  capacity := rfl
  filed := by
    intro uid record member
    cases member
  schemas := fun _ => Layout.empty (by decide)
  expirationTotal := fun _ => rfl
  expirations := fun _ => Layout.empty (by decide)
  recipientMapped := by
    intro uid record member
    cases member
  schemaMapped := by
    intro uid record member
    cases member

variable (catalogued : Catalogued entries state)

include catalogued

theorem chunkCapacity_eq : chunkCapacity state = maxChunkSize := by
  rw [chunkCapacity, catalogued.capacity]
  decide

theorem untuned {items : List UID} {row : Row} (layout : Layout maxChunkSize 1 items row) :
    Layout (chunkCapacity state) 1 items row := catalogued.chunkCapacity_eq ▸ layout

theorem files (fresh : state.indexed uid = none) (success : indexNew state uid record = .ok after) :
    Catalogued (entries ++ [(uid, record)]) after := by
  rcases indexNew_ok success with ⟨indexed, classed, -⟩
  have counted := catalogued.rows.counted
  have last {other : UID} {filed : IndexRecord} (member : (other, filed) ∈ [(uid, record)]) :
      other = uid ∧ filed = record := by
    simpa using member
  constructor
  · exact catalogued.rows.files fresh indexed
  · exact indexed.capacity.trans catalogued.capacity
  · intro other filed member
    rw [indexed.indexed]
    rcases List.mem_append.mp member with earlier | now
    · have different : other ≠ uid := by
        rintro rfl
        exact (counted.known other).mp fresh (mem_map_of_mem earlier)
      rw [update_of_ne different]
      exact catalogued.filed other filed earlier
    · rcases last now with ⟨rfl, rfl⟩
      rw [update_self]
  · intro schemaUid
    rw [indexed.schemaChunks, schemaUids_concat, catalogued.chunkCapacity_eq]
    exact layout_update record.schemaUid uid counted.schema catalogued.schemas schemaUid
  · intro expirationStatus
    rw [classed.expirationTotal]
    exact counter_update catalogued.expirationTotal uid record expirationStatus
  · intro expirationStatus
    rw [classed.expirationChunks, expirationUids_concat]
    exact layout_update (expirationStatusOf record.expirationTime) uid catalogued.expirationTotal
      catalogued.expirations expirationStatus
  · intro other filed member
    rcases List.mem_append.mp member with earlier | now
    · exact classed.recipientKept _ _ (catalogued.recipientMapped other filed earlier)
    · rcases last now with ⟨rfl, rfl⟩
      exact classed.recipientMapped
  · intro other filed member
    rcases List.mem_append.mp member with earlier | now
    · exact classed.schemaKept _ _ (catalogued.schemaMapped other filed earlier)
    · rcases last now with ⟨rfl, rfl⟩
      exact classed.schemaMapped

theorem congr (same : SameIndex state after) (contents : SameContents state after) : Catalogued entries after where
  rows := catalogued.rows.same same
  capacity := same.capacity.trans catalogued.capacity
  filed := by
    rw [same.indexed]
    exact catalogued.filed
  schemas := by
    rw [same.schemaChunks]
    exact catalogued.schemas
  expirationTotal := by
    rw [contents.expirationTotal]
    exact catalogued.expirationTotal
  expirations := by
    rw [contents.expirationChunks]
    exact catalogued.expirations
  recipientMapped := by
    rw [contents.recipientAttestation]
    exact catalogued.recipientMapped
  schemaMapped := by
    rw [contents.schemaAttestation]
    exact catalogued.schemaMapped

theorem mem_iff : state.indexed uid = some record ↔ (uid, record) ∈ entries := by
  constructor
  · intro indexed
    have present : uid ∈ entries.map Prod.fst := by
      by_contra absent
      cases ((catalogued.rows.counted.known uid).mpr absent).symm.trans indexed
    rcases List.mem_map.mp present with ⟨⟨other, filed⟩, member, rfl⟩
    cases (catalogued.filed other filed member).symm.trans indexed
    exact member
  · exact catalogued.filed uid record

/-- Whatever call succeeds, unless it tunes the capacity, the catalogue stays one. -/
theorem step {call : Env × Call} (untuned : ∀ tier, call.2 ≠ .setChunkTier tier)
    (success : Indexer.step state call = .ok after) : ∃ entries, Catalogued entries after := by
  rcases step_cases success with ⟨uid, record, files, filed⟩ | idles
  · exact ⟨_, catalogued.files files.2 filed⟩
  · rcases idles.index with ⟨tier, tuned, -⟩ | ⟨-, same⟩
    · exact absurd tuned (untuned tier)
    · exact ⟨entries, catalogued.congr same idles.contents⟩

/-- There is room for one more UID as long as the counters can count it. -/
theorem accepts (room : entries.length + 1 < 2 ^ 32) (uid : UID) (record : IndexRecord) :
    ∃ after, indexNew state uid record = .ok after := by
  have counted := catalogued.rows.counted
  have below (condition : IndexRecord -> Bool) : (uidsWhere condition entries).length + 1 < 2 ^ 32 := by
    have shorter : (uidsWhere condition entries).length <= entries.length := by
      rw [uidsWhere, length_map]
      exact length_filter_le _ _
    omega
  apply indexNew_succeeds
  · rw [counted.recipient]
    exact below _
  · rw [counted.schema]
    exact below _
  · rw [counted.attester]
    exact below _
  · rw [catalogued.expirationTotal]
    exact below _

end Catalogued

/-! ## An indexer at work -/

/-- A call that succeeds and does not tune the capacity. -/
def Works (before after : State) : Prop :=
  ∃ call : Env × Call, (∀ tier, call.2 ≠ .setChunkTier tier) ∧ step before call = .ok after

/-- The UID whose status a call changes. -/
def Call.hides : Call -> Option UID
  | .handleRevoke uid => some uid
  | .handleReplace oldUid _ => some oldUid
  | _ => none

/-- The storage of an indexer that was initialised for this administrator and this service. -/
structure Initialised (admin service : Address) (state : State) : Prop where
  admin : state.admin = some admin
  sas : state.sas = some service
  catalogued : ∃ entries, Catalogued entries state

namespace Initialised

variable {admin service : Address}

theorem of_init (success : step deployed (env, .init compatible admin service) = .ok after) :
    Initialised admin service after := by
  have catalogued := Catalogued.initial.step (by simp) success
  simp only [step, init, eq_ok] at success
  rcases success with ⟨-, -, -, -, -, -, rfl⟩
  exact ⟨rfl, rfl, catalogued⟩

/-- `init` succeeds once. -/
theorem init_closed {other sas : Address} (initialised : Initialised admin service before)
    (success : step before (env, .init compatible other sas) = .ok after) : False := by
  simp only [step, init, bind_eq_ok, require_eq_ok, initialised.admin] at success
  rcases success with ⟨-, absurdity, -⟩
  cases absurdity

theorem works (initialised : Initialised admin service before) (works : Works before after) :
    Initialised admin service after := by
  rcases works with ⟨⟨env, call⟩, untuned, success⟩
  rcases initialised.catalogued with ⟨entries, catalogued⟩
  have same : after.admin = before.admin ∧ after.sas = before.sas := by
    cases call with
    | init => exact (initialised.init_closed success).elim
    | upgrade =>
      simp only [step, upgrade, eq_ok] at success
      rcases success with ⟨_, -, -, -, rfl⟩
      exact ⟨rfl, rfl⟩
    | setChunkTier tier => exact absurd rfl (untuned tier)
    | indexAttestation =>
      rcases indexAttestation_ok success with ⟨-, ⟨-, filed⟩ | ⟨-, rfl⟩⟩
      · have classed := (indexNew_ok filed).2.1
        exact ⟨classed.admin, classed.sas⟩
      · exact ⟨rfl, rfl⟩
    | handleRevoke uid | handleReplace oldUid newUid =>
      cases success
      exact ⟨rfl, rfl⟩
    | setValidFrom =>
      simp only [step, setValidFrom, eq_ok] at success
      rcases success with ⟨-, -, rfl⟩
      exact ⟨rfl, rfl⟩
  exact ⟨same.1.trans initialised.admin, same.2.trans initialised.sas, catalogued.step untuned success⟩

theorem keeps (initialised : Initialised admin service before)
    (reached : Relation.ReflTransGen Works before after) : Initialised admin service after := by
  induction reached with
  | refl => exact initialised
  | tail _ last ih => exact ih.works last

/-- Without the two authorizations, only the status of a UID can be changed. -/
theorem outsider {call : Call} (initialised : Initialised admin service before)
    (foreign : env.authorized admin = false ∧ env.authorized service = false)
    (success : step before (env, call) = .ok after) :
    ∃ uid status, call.hides = some uid ∧ after = setIndexStatus before uid status := by
  cases call with
  | init => exact (initialised.init_closed success).elim
  | upgrade =>
    simp only [step, upgrade, validateUpgrade, bind_eq_ok, expect_eq_ok, pure_eq_ok,
      requireAuth_eq_ok, initialised.admin, Option.some.injEq] at success
    rcases success with ⟨_, ⟨_, rfl, _, -, -, -, -, -, -, -, rfl⟩, -, authorized, -⟩
    cases foreign.1.symm.trans authorized
  | setChunkTier =>
    simp only [step, setChunkTier, bind_eq_ok, expect_eq_ok, requireAuth_eq_ok,
      initialised.admin, Option.some.injEq] at success
    rcases success with ⟨_, rfl, -, authorized, -⟩
    cases foreign.1.symm.trans authorized
  | indexAttestation =>
    rcases (indexAttestation_ok success).1 with ⟨bound, sas, authorized⟩
    cases initialised.sas.symm.trans sas
    cases foreign.2.symm.trans authorized
  | handleRevoke uid =>
    cases success
    exact ⟨uid, .revoked, rfl, rfl⟩
  | handleReplace oldUid =>
    cases success
    exact ⟨oldUid, .replaced, rfl, rfl⟩
  | setValidFrom =>
    simp only [step, setValidFrom, requireSas, bind_eq_ok, expect_eq_ok, requireAuth_eq_ok,
      initialised.sas, Option.some.injEq] at success
    rcases success with ⟨-, ⟨_, rfl, authorized⟩, -⟩
    cases foreign.2.symm.trans authorized

end Initialised

theorem isActive_congr (same : after.status = before.status) (uid : UID) :
    isActive after uid = isActive before uid := by
  simp only [isActive, same]

/-- A new indexer hides nothing. -/
theorem isActive_init {admin service : Address}
    (success : step deployed (env, .init compatible admin service) = .ok after) : isActive after uid = true := by
  simp only [step, init, eq_ok] at success
  rcases success with ⟨-, -, -, -, -, -, rfl⟩
  rfl

theorem isActive_setIndexStatus {other : UID} {status : IndexStatus}
    (inactive : isActive (setIndexStatus state uid status) other = false) :
    other = uid ∨ isActive state other = false := by
  by_cases same : other = uid
  · exact .inl same
  · right
    simpa only [isActive, setIndexStatus, update_of_ne same] using inactive

/-- No indexed UID was received by the address. -/
def NeverReceives (state : State) (address : Address) : Prop :=
  ∀ uid record, state.indexed uid = some record -> record.recipient ≠ address

/-- No indexed UID was attested by the address. -/
def NeverAttests (state : State) (address : Address) : Prop :=
  ∀ uid record, state.indexed uid = some record -> record.attester ≠ address

theorem uidsWhere_eq_nil (never : ∀ uid record, (uid, record) ∈ entries -> condition record = false) :
    uidsWhere condition entries = [] := by
  rw [eq_nil_iff_forall_not_mem]
  intro uid member
  rcases mem_uidsWhere.mp member with ⟨record, filed, meets⟩
  rw [never uid record filed] at meets
  cases meets

section OneRole

variable {address : Address}

theorem NeverReceives.recipientUids (never : NeverReceives state address)
    (catalogued : Catalogued entries state) : recipientUids address entries = [] :=
  uidsWhere_eq_nil fun uid record member => decide_eq_false (never uid record (catalogued.filed uid record member))

theorem NeverAttests.attesterUids (never : NeverAttests state address)
    (catalogued : Catalogued entries state) : attesterUids address entries = [] :=
  uidsWhere_eq_nil fun uid record member => decide_eq_false (never uid record (catalogued.filed uid record member))

end OneRole

/-! ## What the readers answer -/

/-- Within the limit of queries the read succeeds, and its answer has the property. -/
def Answers (state : State) (read : Read) (includeRevoked : Bool) (property : List UID -> Prop) : Prop :=
  ∀ env counter counted, checkQueryLimit env counter = .ok counted ->
    ∃ uids, read.answer env counter state includeRevoked = .ok (uids, counted) ∧ property uids

theorem Answers.mono {strong weak : List UID -> Prop} (answers : Answers state read includeRevoked strong)
    (implies : ∀ uids, strong uids -> weak uids) : Answers state read includeRevoked weak := by
  intro env counter counted within
  rcases answers env counter counted within with ⟨uids, answered, holds⟩
  exact ⟨uids, answered, implies uids holds⟩

theorem metered_of_ok {counter counted : QueryCounter} {read : Except Trap (List UID)}
    {uids : List UID} (within : checkQueryLimit env counter = .ok counted)
    (answered : read = .ok uids) : metered env counter read = .ok (uids, counted) := by
  simp only [metered, within, answered]
  rfl

/-- The UID is in an answer exactly if it is active or the flag is set. -/
def Listing (state : State) (includeRevoked : Bool) (uid : UID) (uids : List UID) : Prop :=
  uid ∈ uids ↔ includeRevoked = true ∨ isActive state uid = true

namespace Catalogued

theorem listing_filter (member : (uid, record) ∈ entries) (meets : condition record = true) :
    Listing state includeRevoked uid ((uidsWhere condition entries).filter fun uid =>
      includeRevoked || isActive state uid) := by
  have listed : uid ∈ uidsWhere condition entries := mem_uidsWhere.mpr ⟨record, member, meets⟩
  simp [Listing, mem_filter, listed]

theorem answers_listing {total width : Nat} {row : Row}
    (layout : Layout (chunkCapacity state) width (uidsWhere condition entries) row)
    (counted : total = (uidsWhere condition entries).length)
    (reads : ∀ env counter, read.answer env counter state includeRevoked =
      metered env counter (collectFiltered state total row includeRevoked))
    (member : (uid, record) ∈ entries) (meets : condition record = true) :
    Answers state read includeRevoked (Listing state includeRevoked uid) := by
  intro env counter counted' within
  rw [reads]
  exact ⟨_, metered_of_ok within (collectFiltered_layout_filter layout counted includeRevoked),
    listing_filter member meets⟩

variable (catalogued : Catalogued entries state) (member : (uid, record) ∈ entries)

include catalogued member

theorem schema_answers : Answers state (.schemaFiltered record.schemaUid) includeRevoked
    (Listing state includeRevoked uid) :=
  answers_listing (catalogued.untuned (catalogued.schemas _)) (catalogued.rows.counted.schema _)
    (fun _ _ => rfl) member (decide_eq_true rfl)

theorem expiration_answers :
    Answers state (.expirationFiltered (expirationStatusOf record.expirationTime)) includeRevoked
      (Listing state includeRevoked uid) :=
  answers_listing (catalogued.untuned (catalogued.expirations _)) (catalogued.expirationTotal _)
    (fun _ _ => rfl) member (decide_eq_true rfl)

theorem recipient_answers (alone : NeverAttests state record.recipient) :
    Answers state (.recipientFiltered record.recipient) includeRevoked (Listing state includeRevoked uid) :=
  answers_listing (catalogued.rows.recipientOnly _ (alone.attesterUids catalogued))
    (catalogued.rows.counted.recipient _) (fun _ _ => rfl) member (decide_eq_true rfl)

theorem attester_answers (alone : NeverReceives state record.attester) :
    Answers state (.attesterFiltered record.attester) includeRevoked (Listing state includeRevoked uid) :=
  answers_listing (catalogued.rows.attesterOnly _ (alone.recipientUids catalogued))
    (catalogued.rows.counted.attester _) (fun _ _ => rfl) member (decide_eq_true rfl)

theorem expiration_classes (expirationStatus : ExpirationStatus) :
    Answers state (.expirationFiltered expirationStatus) true (fun uids =>
      uid ∈ uids ↔ expirationStatusOf record.expirationTime = expirationStatus) := by
  intro env counter counted within
  refine ⟨_, metered_of_ok within (collectFiltered_layout (catalogued.untuned (catalogued.expirations expirationStatus))
    (catalogued.expirationTotal expirationStatus)), ?_⟩
  simp only [expirationUids, mem_uidsWhere, decide_eq_true_eq]
  constructor
  · rintro ⟨other, filed, meets⟩
    cases (catalogued.filed uid other filed).symm.trans (catalogued.filed uid record member)
    exact meets
  · exact fun meets => ⟨record, member, meets⟩

end Catalogued

/-- With the flag the read shows the UID.  Without it, it does so exactly if the UID is
visible. -/
structure Shows (state : State) (read : Read) (uid : UID) (visible : Prop) : Prop where
  listed : Answers state read true (uid ∈ ·)
  filtered : Answers state read false (fun uids => uid ∈ uids ↔ visible)

theorem Shows.of_listing {visible : Prop}
    (answers : ∀ includeRevoked, Answers state read includeRevoked (Listing state includeRevoked uid))
    (active : isActive state uid = true ↔ visible) : Shows state read uid visible where
  listed := (answers true).mono fun _ listing => listing.mpr (.inl rfl)
  filtered := by
    refine (answers false).mono fun uids listing => ?_
    rw [← active]
    exact listing.trans (or_iff_right Bool.false_ne_true)

end SorobanSas.Indexer
