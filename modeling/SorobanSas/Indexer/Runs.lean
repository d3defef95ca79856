import SorobanSas.Indexer.Chunks
import Mathlib.Data.List.Nodup

namespace SorobanSas.Indexer

open Library List

/-!
# What a call does to the index

Every successful call does one of three things to the lists of the indexer: it
files a UID that was not indexed before, it changes the chunk capacity, or it
leaves lists, counters and capacity alone.  `step_cases` says so, and the rest of
the file derives from it the part of the index that is right in every run: the
counters, and the absence of duplicates.

The history of a run is the list of UIDs in the order in which they were first
accepted, each with the record it was accepted with.  It is defined from the
acceptance of calls alone and does not look at chunks or counters.
-/

variable {before after : State} {allowed : State -> Env × Call -> Prop}
  {calls : List (Env × Call)} {entries : History} {uid : UID} {state : State} {record : IndexRecord}
  {call : Env × Call}

/-! ## Inversion of the write path -/

theorem checkedU32_eq_ok {value result : Nat} : checkedU32 value = .ok result ↔ value < 2 ^ 32 ∧ value = result := by
  unfold checkedU32
  split <;> simp_all

def withPair [DecidableEq κ] (mapping : κ -> UID -> Bool) (key : κ) (uid : UID) : κ -> UID -> Bool :=
  if mapping key uid then mapping
  else update mapping key (update (mapping key) uid true)

/-- The counter beside it. -/
def countPair [DecidableEq κ] (mapping : κ -> UID -> Bool) (count : κ -> Nat) (key : κ) (uid : UID) : κ -> Nat :=
  if mapping key uid then count else update count key (saturatingAdd (count key) 1)

theorem withPair_maps [DecidableEq κ] (mapping : κ -> UID -> Bool) (key : κ) (uid : UID) :
    withPair mapping key uid key uid = true ∧ ∀ other known, mapping other known = true ->
        withPair mapping key uid other known = true := by
  unfold withPair
  split
  · rename_i present
    exact ⟨present, fun _ _ => id⟩
  · refine ⟨by simp, fun other known mapped => ?_⟩
    by_cases same : other = key
    · subst same
      by_cases own : known = uid
      · simp [own]
      · simpa [update_of_ne own] using mapped
    · rwa [update_of_ne same]

theorem indexRecipientAttestation_eq (state : State) (recipient : Address) (uid : UID) :
    indexRecipientAttestation state recipient uid = { state with
      recipientAttestation := withPair state.recipientAttestation recipient uid
      recipientAttestationCount := countPair state.recipientAttestation
        state.recipientAttestationCount recipient uid } := by
  unfold indexRecipientAttestation withPair countPair
  split <;> rfl

theorem indexSchemaAttestation_eq (state : State) (schemaUid uid : UID) :
    indexSchemaAttestation state schemaUid uid = { state with
      schemaAttestation := withPair state.schemaAttestation schemaUid uid
      schemaAttestationCount := countPair state.schemaAttestation state.schemaAttestationCount
        schemaUid uid } := by
  unfold indexSchemaAttestation withPair countPair
  split <;> rfl

/-- The row of an address after one write by the given dimension. -/
def writtenRow (state : State) (dimension : AddressDimension) (key : Address) (row : Row) (uid : UID) : Row :=
  (appendUid (chunkCapacity state) (state.addressTotal dimension key) row uid).1

section Filing

variable (before : State) (uid : UID) (record : IndexRecord) (after : State)

/-- Everything filing a new UID does to the lists read by recipient, attester and
schema. -/
structure NewlyIndexed :
    Prop where
  indexed : after.indexed = update before.indexed uid (some record)
  capacity : after.chunkCapacity = before.chunkCapacity
  recipientTotal : after.addressTotal .recipient = update (before.addressTotal .recipient) record.recipient
      (before.addressTotal .recipient record.recipient + 1)
  attesterTotal : after.addressTotal .attester = update (before.addressTotal .attester) record.attester
      (before.addressTotal .attester record.attester + 1)
  schemaTotal : after.schemaTotal =
    update before.schemaTotal record.schemaUid (before.schemaTotal record.schemaUid + 1)
  schemaChunks : after.schemaChunks = update before.schemaChunks record.schemaUid
      (appendUid (chunkCapacity before) (before.schemaTotal record.schemaUid)
        (before.schemaChunks record.schemaUid) uid).1
  /-- The recipient's write comes first, and the attester's write sees it. -/
  addressChunks : ∃ middle, middle = update before.addressChunks record.recipient
      (writtenRow before .recipient record.recipient (before.addressChunks record.recipient) uid) ∧
    after.addressChunks = update middle record.attester
      (writtenRow before .attester record.attester (middle record.attester) uid)

/-- What filing a new UID does apart from the lists by recipient, attester and schema. -/
structure NewlyClassed :
    Prop where
  expirationTotal : after.expirationTotal = update before.expirationTotal (expirationStatusOf record.expirationTime)
      (before.expirationTotal (expirationStatusOf record.expirationTime) + 1)
  expirationChunks : after.expirationChunks = update before.expirationChunks (expirationStatusOf record.expirationTime)
      (appendUid maxChunkSize (before.expirationTotal (expirationStatusOf record.expirationTime))
        (before.expirationChunks (expirationStatusOf record.expirationTime)) uid).1
  recipientMapped : after.recipientAttestation record.recipient uid = true
  recipientKept : ∀ other known, before.recipientAttestation other known = true ->
    after.recipientAttestation other known = true
  schemaMapped : after.schemaAttestation record.schemaUid uid = true
  schemaKept : ∀ other known, before.schemaAttestation other known = true -> after.schemaAttestation other known = true
  status : after.status = before.status
  validFrom : after.validFrom = before.validFrom
  admin : after.admin = before.admin
  sas : after.sas = before.sas

/-- Filing a UID passes the mappings to the helpers as they are, and finds room in its lists. -/
structure NewlyMapped :
    Prop where
  recipientRoom : before.addressTotal .recipient record.recipient + 1 < 2 ^ 32
  schemaRoom : before.schemaTotal record.schemaUid + 1 < 2 ^ 32
  expirationRoom : before.expirationTotal (expirationStatusOf record.expirationTime) + 1 < 2 ^ 32
  recipientAttestation : after.recipientAttestation =
    (indexRecipientAttestation before record.recipient uid).recipientAttestation
  recipientCount : after.recipientAttestationCount =
    (indexRecipientAttestation before record.recipient uid).recipientAttestationCount
  schemaAttestation : after.schemaAttestation = (indexSchemaAttestation before record.schemaUid uid).schemaAttestation
  schemaCount : after.schemaAttestationCount =
    (indexSchemaAttestation before record.schemaUid uid).schemaAttestationCount

end Filing

theorem indexNew_ok (success : indexNew before uid record = .ok after) :
    NewlyIndexed before uid record after ∧ NewlyClassed before uid record after ∧
      NewlyMapped before uid record after := by
  simp only [indexNew, eq_ok, indexRecipientAttestation_eq, indexSchemaAttestation_eq] at success
  rcases success with ⟨first, recipientWrite, second, schemaWrite, third, attesterWrite, fourth, expirationWrite, rfl⟩
  simp only [indexAddressUid, eq_ok, checkedU32_eq_ok] at recipientWrite
  rcases recipientWrite with ⟨_, ⟨recipientRoom, rfl⟩, rfl⟩
  simp only [indexUidUid, eq_ok, checkedU32_eq_ok] at schemaWrite
  rcases schemaWrite with ⟨_, ⟨schemaRoom, rfl⟩, rfl⟩
  simp only [indexAddressUid, eq_ok, checkedU32_eq_ok] at attesterWrite
  rcases attesterWrite with ⟨_, ⟨-, rfl⟩, rfl⟩
  simp only [indexExpirationStatus, eq_ok, checkedU32_eq_ok] at expirationWrite
  rcases expirationWrite with ⟨_, ⟨expirationRoom, rfl⟩, rfl⟩
  have recipients := withPair_maps before.recipientAttestation record.recipient uid
  have schemas := withPair_maps before.schemaAttestation record.schemaUid uid
  refine ⟨⟨rfl, rfl, rfl, rfl, rfl, rfl, _, rfl, rfl⟩,
    ⟨rfl, rfl, recipients.1, recipients.2, schemas.1, schemas.2, rfl, rfl, rfl, rfl⟩,
    recipientRoom, schemaRoom, expirationRoom, ?_, ?_, ?_, ?_⟩
  all_goals simp only [indexRecipientAttestation_eq, indexSchemaAttestation_eq]

/-- Two states with the same lists, counters and capacity. -/
structure SameIndex (before after : State) : Prop where
  indexed : after.indexed = before.indexed
  capacity : after.chunkCapacity = before.chunkCapacity
  addressTotal : after.addressTotal = before.addressTotal
  schemaTotal : after.schemaTotal = before.schemaTotal
  addressChunks : after.addressChunks = before.addressChunks
  schemaChunks : after.schemaChunks = before.schemaChunks

/-- The call files a UID that the state does not know yet. -/
def Files (state : State) (call : Env × Call) (uid : UID) (record : IndexRecord) : Prop :=
  call.2 = .indexAttestation uid record ∧ state.indexed uid = none

/-- Two states that hold the same UIDs in the same places.  Capacity, status and
configuration may differ. -/
structure SameContents (before after : State) : Prop where
  indexed : after.indexed = before.indexed
  addressTotal : after.addressTotal = before.addressTotal
  schemaTotal : after.schemaTotal = before.schemaTotal
  schemaChunks : after.schemaChunks = before.schemaChunks
  expirationTotal : after.expirationTotal = before.expirationTotal
  expirationChunks : after.expirationChunks = before.expirationChunks
  recipientAttestation : after.recipientAttestation = before.recipientAttestation
  recipientCount : after.recipientAttestationCount = before.recipientAttestationCount
  schemaAttestation : after.schemaAttestation = before.schemaAttestation
  schemaCount : after.schemaAttestationCount = before.schemaAttestationCount

/-- A UID is filed once, and a known one is accepted only with the record it has. -/
theorem indexAttestation_ok {env : Env} (success : indexAttestation env before uid record = .ok after) :
    (∃ service, before.sas = some service ∧ env.authorized service = true) ∧
      (before.indexed uid = none ∧ indexNew before uid record = .ok after ∨
        before.indexed uid = some record ∧ before = after) := by
  simp only [indexAttestation, requireSas, eq_ok, requireAuth_eq_ok] at success
  rcases success with ⟨bound, success⟩
  refine ⟨bound, ?_⟩
  cases known : before.indexed uid with
  | none =>
    rw [known] at success
    exact .inl ⟨rfl, success⟩
  | some existing =>
    simp only [known, eq_ok] at success
    rcases success with ⟨rfl, same⟩
    exact .inr ⟨rfl, same⟩

/-- What a call does that files nothing. -/
structure Idles (before after : State) (call : Env × Call) : Prop where
  other : ∀ uid record, ¬ Files before call uid record
  contents : SameContents before after
  index : (∃ tier, call.2 = .setChunkTier tier ∧ after = { before with
      chunkCapacity := some (adaptiveCapacityForTier tier), chunkTier := some tier }) ∨
    (∀ tier, call.2 ≠ .setChunkTier tier) ∧ SameIndex before after

theorem step_cases (success : step before call = .ok after) :
    (∃ uid record, Files before call uid record ∧ indexNew before uid record = .ok after) ∨
      Idles before after call := by
  rcases call with ⟨env, call⟩
  cases call with
  | indexAttestation uid record =>
    rcases (indexAttestation_ok success).2 with ⟨fresh, filed⟩ | ⟨known, rfl⟩
    · exact .inl ⟨uid, record, ⟨rfl, fresh⟩, filed⟩
    · refine .inr ⟨?_, by constructor <;> rfl, .inr ⟨by simp, by constructor <;> rfl⟩⟩
      rintro other offered ⟨same, absent⟩
      cases same
      cases known.symm.trans absent
  | setChunkTier tier =>
    simp only [step, setChunkTier, eq_ok] at success
    rcases success with ⟨-, -, -, -, rfl⟩
    exact .inr ⟨by simp [Files], by constructor <;> rfl, .inl ⟨tier, rfl, rfl⟩⟩
  | init =>
    simp only [step, init, eq_ok] at success
    rcases success with ⟨-, -, -, -, -, -, rfl⟩
    exact .inr ⟨by simp [Files], by constructor <;> rfl, .inr ⟨by simp, by constructor <;> rfl⟩⟩
  | upgrade =>
    simp only [step, upgrade, eq_ok] at success
    rcases success with ⟨_, -, -, -, rfl⟩
    exact .inr ⟨by simp [Files], by constructor <;> rfl, .inr ⟨by simp, by constructor <;> rfl⟩⟩
  | handleRevoke uid | handleReplace oldUid newUid =>
    cases success
    exact .inr ⟨by simp [Files], by constructor <;> rfl, .inr ⟨by simp, by constructor <;> rfl⟩⟩
  | setValidFrom =>
    simp only [step, setValidFrom, eq_ok] at success
    rcases success with ⟨-, -, rfl⟩
    exact .inr ⟨by simp [Files], by constructor <;> rfl, .inr ⟨by simp, by constructor <;> rfl⟩⟩

/-! ## The history of a run -/

/-- UIDs in the order of their first acceptance, with what they were accepted with. -/
abbrev History := List (UID × IndexRecord)

/-- What one call adds to the history. -/
def accepted (state : State) (call : Env × Call) : History :=
  match call.2, step state call with
  | .indexAttestation uid record, .ok _ =>
    if state.indexed uid = none then [(uid, record)] else []
  | _, _ => []

/-- The history of a run. -/
def history : State -> List (Env × Call) -> History
  | _, [] => []
  | state, call :: rest => accepted state call ++ history (commit step state call) rest

/-- The UIDs of a history whose record satisfies a condition, in order. -/
def uidsWhere (condition : IndexRecord -> Bool) (entries : History) : List UID :=
  (entries.filter (fun entry => condition entry.2)).map Prod.fst

def recipientUids (address : Address) : History -> List UID := uidsWhere (fun record => record.recipient = address)

def attesterUids (address : Address) : History -> List UID := uidsWhere (fun record => record.attester = address)

def schemaUids (schemaUid : UID) : History -> List UID := uidsWhere (fun record => record.schemaUid = schemaUid)

section Concat

variable (entries : History) (uid : UID) (record : IndexRecord)

theorem uidsWhere_concat (condition : IndexRecord -> Bool) : uidsWhere condition (entries ++ [(uid, record)]) =
      uidsWhere condition entries ++ if condition record then [uid] else [] := by
  simp only [uidsWhere, filter_append, map_append, filter_cons, filter_nil]
  split <;> rfl

theorem recipientUids_concat (address : Address) : recipientUids address (entries ++ [(uid, record)]) =
      recipientUids address entries ++ if record.recipient = address then [uid] else [] := by
  simp [recipientUids, uidsWhere_concat]

theorem attesterUids_concat (address : Address) : attesterUids address (entries ++ [(uid, record)]) =
      attesterUids address entries ++ if record.attester = address then [uid] else [] := by
  simp [attesterUids, uidsWhere_concat]

theorem schemaUids_concat (schemaUid : UID) : schemaUids schemaUid (entries ++ [(uid, record)]) =
      schemaUids schemaUid entries ++ if record.schemaUid = schemaUid then [uid] else [] := by
  simp [schemaUids, uidsWhere_concat]

end Concat

theorem mem_uidsWhere {condition : IndexRecord -> Bool} :
    uid ∈ uidsWhere condition entries ↔ ∃ record, (uid, record) ∈ entries ∧ condition record = true := by
  simp [uidsWhere]

theorem accepted_of_files (success : step before call = .ok after) (files : Files before call uid record) :
    accepted before call = [(uid, record)] := by
  simp only [accepted, files.1, success, files.2, if_true]

theorem accepted_of_not_files (other : ∀ uid record, ¬ Files state call uid record) : accepted state call = [] := by
  rcases call with ⟨env, call⟩
  cases call with
  | indexAttestation uid record =>
    have known : state.indexed uid ≠ none := fun absent => other uid record ⟨rfl, absent⟩
    unfold accepted
    split
    · rename_i same _
      cases same
      rw [if_neg known]
    · rfl
  | _ => rfl

theorem accepted_of_error {failure : Trap} (aborted : step state call = .error failure) : accepted state call = [] := by
  unfold accepted
  rw [aborted]
  split
  · rename_i impossible
    cases impossible
  · rfl

variable {related : History -> State -> Prop}

/-- A relation between a history and a state that every allowed call extends, by what it
adds to the history, holds after every admissible run. -/
theorem history_related (extended : ∀ entries before call after, related entries before -> allowed before call ->
      step before call = .ok after -> related (entries ++ accepted before call) after)
    (start : related entries state) (admissible : Admissible step allowed state calls) :
    related (entries ++ history state calls) (run step state calls) := by
  induction calls generalizing entries state with
  | nil => simpa [history] using start
  | cons call rest ih =>
    rcases admissible with ⟨permitted, remaining⟩
    rw [history, run_cons, ← append_assoc]
    refine ih ?_ remaining
    cases outcome : step state call with
    | error failure => rwa [accepted_of_error outcome, append_nil, commit_of_error outcome]
    | ok after =>
      rw [commit_of_ok outcome]
      exact extended entries state call after start permitted outcome

/-- An invariant between a history and a state that filing a UID extends, and that
every other allowed call keeps, holds after every admissible run. -/
theorem history_invariant (files : ∀ entries before after uid record, related entries before ->
      before.indexed uid = none -> NewlyIndexed before uid record after -> related (entries ++ [(uid, record)]) after)
    (retunes : ∀ entries before call tier after, related entries before ->
      allowed before call -> call.2 = .setChunkTier tier -> step before call = .ok after -> after = { before with
        chunkCapacity := some (adaptiveCapacityForTier tier), chunkTier := some tier } -> related entries after)
    (keeps : ∀ entries before after, related entries before -> SameIndex before after ->
      related entries after) (start : related entries state) (admissible : Admissible step allowed state calls) :
    related (entries ++ history state calls) (run step state calls) := by
  refine history_related (fun entries before call after kept permitted success => ?_) start
    admissible
  rcases step_cases success with ⟨uid, record, filed, written⟩ | idles
  · rw [accepted_of_files success filed]
    exact files entries before after uid record kept filed.2 (indexNew_ok written).1
  · rw [accepted_of_not_files idles.other, append_nil]
    rcases idles.index with ⟨tier, tuned, same⟩ | ⟨-, same⟩
    · exact retunes entries before call tier after kept permitted tuned success same
    · exact keeps entries before after kept same

/-- The environment of a call to the indexer at contract `0` made by contract `1`, the
bound SAS contract, and signed by account `1`, the administrator. -/
def sasCall : Env := .signedBy [.contract 1, .accountOfNat 1] 1 1 (.contract 0) (by decide)

/-! ## Counters and duplicates -/

/-- A counter by one of the fields of a record, with one more entry in the history. -/
theorem counter_update {κ : Type} [DecidableEq κ] {keyOf : IndexRecord -> κ} {totals : κ -> Nat} (counted : ∀ key,
      totals key = (uidsWhere (fun record => keyOf record = key) entries).length) (uid : UID)
    (record : IndexRecord) (key : κ) : update totals (keyOf record) (totals (keyOf record) + 1) key =
      (uidsWhere (fun record => keyOf record = key) (entries ++ [(uid, record)])).length := by
  rw [uidsWhere_concat, length_append]
  by_cases same : keyOf record = key
  · subst same
    simp [counted]
  · simp [same, update_of_ne (Ne.symm same), counted]

/-- Every entry is filed under its record, and every counter counts the history. -/
structure Counted (entries : History) (state : State) : Prop where
  known : ∀ uid, state.indexed uid = none ↔ uid ∉ entries.map Prod.fst
  distinct : (entries.map Prod.fst).Nodup
  recipient : ∀ address, state.addressTotal .recipient address = (recipientUids address entries).length
  attester : ∀ address, state.addressTotal .attester address = (attesterUids address entries).length
  schema : ∀ schemaUid, state.schemaTotal schemaUid = (schemaUids schemaUid entries).length

namespace Counted

theorem initial : Counted [] deployed := ⟨by simp [deployed], by simp, fun _ => rfl, fun _ => rfl, fun _ => rfl⟩

theorem files (counted : Counted entries before) (fresh : before.indexed uid = none)
    (change : NewlyIndexed before uid record after) : Counted (entries ++ [(uid, record)]) after := by
  have absent := (counted.known uid).mp fresh
  refine ⟨fun other => ?_, ?_, fun address => ?_, fun address => ?_, fun schemaUid => ?_⟩
  · rw [change.indexed]
    by_cases same : other = uid
    · simp [same]
    · rw [update_of_ne same, counted.known other]
      simp [same]
  · rw [map_append, nodup_append]
    refine ⟨counted.distinct, by simp, ?_⟩
    rintro first member second last rfl
    simp only [map_cons, map_nil, mem_singleton] at last
    exact absent (last ▸ member)
  · rw [change.recipientTotal]
    exact counter_update counted.recipient uid record address
  · rw [change.attesterTotal]
    exact counter_update counted.attester uid record address
  · rw [change.schemaTotal]
    exact counter_update counted.schema uid record schemaUid

theorem same {entries : History} (counted : Counted entries before) (indexed : after.indexed = before.indexed)
    (address : after.addressTotal = before.addressTotal)
    (schema : after.schemaTotal = before.schemaTotal) : Counted entries after :=
  ⟨by rw [indexed]; exact counted.known, counted.distinct, by rw [address]; exact counted.recipient,
    by rw [address]; exact counted.attester, by rw [schema]; exact counted.schema⟩

/-- A selection from the history has no duplicates. -/
theorem uidsWhere_nodup (counted : Counted entries state) (condition : IndexRecord -> Bool) :
    (uidsWhere condition entries).Nodup := counted.distinct.sublist (List.filter_sublist.map Prod.fst)

theorem record_unique (counted : Counted entries state) {first second : IndexRecord}
    (one : (uid, first) ∈ entries) (other : (uid, second) ∈ entries) : first = second :=
  congrArg Prod.snd (inj_on_of_nodup_map counted.distinct one other rfl)

end Counted

end SorobanSas.Indexer
