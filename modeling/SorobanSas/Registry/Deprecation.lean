import SorobanSas.Registry.Effects

namespace SorobanSas.Registry

open Library

/-!
# Deprecation

Deprecation is recorded in two places.  `deprecate` writes a tombstone under the key
`DEPRECATED`; `deprecate_schema` sets the field `deprecated` of the record.  Every reader
looks for the tombstone and none at the field, so a schema that was deprecated by
`deprecate_schema` alone is still active for all of them.

Neither record of the deprecation is ever taken back, whatever calls follow.
-/

variable {crypto : Crypto} {env : Env} {uid : UID} {record : SchemaRecord} {start : State} {before : State}

/-! ## The readers -/

def validateSchema (state : State) (uid : UID) : Bool :=
  if state.deprecated uid then false else (state.schemas uid).isSome

def maxScanBudget : Nat := 100

/-- The loop of the readers that list schemas, with the part of the scan budget that is
left.  It collects the schemas of an index that are not deprecated, and returns them with
the position it has come to. -/
def scanSchemas (state : State) (index : Nat -> Option UID) (count limit : Nat) :
    Nat -> Nat -> List SchemaRecord -> List SchemaRecord × Nat
  | 0, current, schemas => (schemas, current)
  | budget + 1, current, schemas =>
    if current < count ∧ schemas.length < limit then
      scanSchemas state index count limit budget (current + 1)
        (schemas ++ ((index current).bind (getSchema state)).toList)
    else (schemas, current)

variable (state : State)

def getSchemas (start limit : Nat) : List SchemaRecord :=
  let count := state.count.getD 0
  if limit = 0 ∨ count <= start then []
  else (scanSchemas state state.index count limit maxScanBudget start []).1

def getSchemasPaginated (start limit : Nat) : List SchemaRecord × Nat :=
  let count := state.count.getD 0
  if limit = 0 ∨ count <= start then ([], if count <= start then count else start)
  else scanSchemas state state.index count limit maxScanBudget start []

def getSchemasByCategory (category : Bytes) (cursor limit : Nat) : Except Trap (List SchemaRecord × Nat) := do
  validateCategory category
  let count := (state.categoryCount category).getD 0
  if limit = 0 ∨ count <= cursor then
    return ([], min cursor count)
  else
    return scanSchemas state (state.categoryIndex category) count limit maxScanBudget cursor []

/-- No reader shows the schema as active. -/
structure Hidden (uid : UID) : Prop where
  getSchema : getSchema state uid = none
  validateSchema : validateSchema state uid = false
  isAuthorized : ∀ env attester, isAuthorized env state uid attester = false
  isAttesterAuthorized : ∀ attester, isAttesterAuthorized state uid attester = false
  getSchemas : ∀ start limit record, record ∈ getSchemas state start limit -> record.uid ≠ uid
  getSchemasPaginated : ∀ start limit record, record ∈ (getSchemasPaginated state start limit).1 -> record.uid ≠ uid
  getSchemasByCategory : ∀ category cursor limit page, getSchemasByCategory state category cursor limit = .ok page ->
    ∀ record ∈ page.1, record.uid ≠ uid

/-- A record is filed under its own UID. -/
def State.Filed : Prop := ∀ uid record, state.schemas uid = some record -> record.uid = uid

theorem mem_scanSchemas {state : State} {index : Nat -> Option UID} {count limit : Nat}
    {budget current : Nat} {schemas : List SchemaRecord}
    (member : record ∈ (scanSchemas state index count limit budget current schemas).1) :
    record ∈ schemas ∨ ∃ uid, getSchema state uid = some record := by
  induction budget generalizing current schemas with
  | zero => exact .inl member
  | succ budget ih =>
    unfold scanSchemas at member
    split at member
    · rcases ih member with earlier | found
      · rcases List.mem_append.mp earlier with earlier | now
        · exact .inl earlier
        · rcases Option.bind_eq_some_iff.mp (Option.mem_toList.mp now) with ⟨uid, -, found⟩
          exact .inr ⟨uid, found⟩
      · exact .inr found
    · exact .inl member

/-- A tombstone hides a schema from every reader. -/
theorem hidden_of_deprecated {state : State} (filed : state.Filed)
    (deprecated : state.deprecated uid = true) : Hidden state uid := by
  have listed {record : SchemaRecord} (found : ∃ other, getSchema state other = some record) : record.uid ≠ uid := by
    rcases found with ⟨other, found⟩
    rcases getSchema_eq_some.mp found with ⟨live, stored⟩
    rintro rfl
    rw [filed other record stored, live] at deprecated
    cases deprecated
  have scanned {index : Nat -> Option UID} {count limit budget start : Nat} {record : SchemaRecord}
      (member : record ∈ (scanSchemas state index count limit budget start []).1) :
      record.uid ≠ uid := by
    rcases mem_scanSchemas member with absurdly | found
    · cases absurdly
    · exact listed found
  constructor
  · exact if_pos deprecated
  · exact if_pos deprecated
  · intro env attester
    exact if_pos deprecated
  · intro attester
    rw [isAttesterAuthorized, deprecated]
    rfl
  · intro start limit record member
    simp only [Registry.getSchemas] at member
    split at member
    · cases member
    · exact scanned member
  · intro start limit record member
    simp only [Registry.getSchemasPaginated] at member
    split at member
    · cases member
    · exact scanned member
  · intro category cursor limit page success record member
    simp only [Registry.getSchemasByCategory, bind_eq_ok] at success
    rcases success with ⟨-, -, success⟩
    split at success
    · cases success
      cases member
    · rw [← pure_eq_ok.mp success] at member
      exact scanned member

theorem hidden_iff_deprecated {state : State} (filed : state.Filed)
    (present : state.schemas uid ≠ none) : Hidden state uid ↔ state.deprecated uid = true := by
  constructor
  · intro hidden
    by_contra live
    rw [Bool.not_eq_true] at live
    have shown : getSchema state uid = state.schemas uid := by simp [getSchema, live]
    exact present (shown.symm.trans hidden.getSchema)
  · exact hidden_of_deprecated filed

/-! ## What a call does to the catalogue -/

/-- Schemas were added, each under its own UID, and nothing else happened. -/
structure Catalogue.Grows (before after : Catalogue) : Prop where
  deprecated : after.deprecated = before.deprecated
  kept : ∀ uid record, before.schemas uid = some record -> after.schemas uid = some record
  filed : ∀ uid record, after.schemas uid = some record -> before.schemas uid = some record ∨ record.uid = uid

namespace Catalogue.Grows

theorem refl (catalogue : Catalogue) : Grows catalogue catalogue := ⟨rfl, fun _ _ => id, fun _ _ => .inl⟩

theorem trans {first middle last : Catalogue} (one : Grows first middle) (two : Grows middle last) :
    Grows first last where
  deprecated := two.deprecated.trans one.deprecated
  kept := fun uid record stored => two.kept uid record (one.kept uid record stored)
  filed := by
    intro uid record stored
    rcases two.filed uid record stored with earlier | own
    · exact one.filed uid record earlier
    · exact .inr own

theorem of_eq {before after : Catalogue} (same : after = before) : Grows before after := by
  rw [same]
  exact .refl before

theorem enters {after : State} {entry : Registration} (enters : Enters before entry after) :
    Grows before.catalogue after.catalogue := by
  refine ⟨enters.deprecated, ?_, ?_⟩
  · intro other record stored
    have different : other ≠ entry.record.uid := by
      rintro rfl
      cases enters.free.symm.trans stored
    change after.schemas other = some record
    rw [enters.schemas, update_of_ne different]
    exact stored
  · intro other record stored
    change after.schemas other = some record at stored
    rw [enters.schemas] at stored
    rcases update_eq.mp stored with ⟨rfl, ⟨⟩⟩ | ⟨-, stored⟩
    · exact .inr rfl
    · exact .inl stored

theorem entersAll {after : State} {entries : List Registration} (entered : EntersAll before entries after) :
    Grows before.catalogue after.catalogue := by
  induction entered with
  | nil state => exact .refl state.catalogue
  | cons first _ ih => exact (enters first).trans ih

end Catalogue.Grows

section Steps

/-- The calls that write the tombstone of a schema. -/
def Call.tombstones (uid : UID) : Call -> Bool
  | .deprecateKey target _ => target = uid
  | _ => false

/-- What a successful call does to the catalogue: a registration adds to it, a deprecation
marks the schema in one of the two ways, and everything else keeps it. -/
inductive CatalogueChange (before : State) : Call -> Catalogue -> Prop where
  | grows call (after : Catalogue) (silent : ∀ uid, call.deprecates uid = false)
      (grown : before.catalogue.Grows after) : CatalogueChange before call after
  | deprecateKey uid authorizer (present : before.schemas uid ≠ none) :
      CatalogueChange before (.deprecateKey uid authorizer)
        { before.catalogue with deprecated := update before.deprecated uid true }
  | deprecateSchema sender uid record (stored : before.schemas uid = some record)
      (live : before.deprecated uid = false) :
      CatalogueChange before (.deprecateSchema sender uid) { before.catalogue with
          schemas := update before.schemas uid (some { record with deprecated := true }) }

theorem step_catalogues {call : Call} :
    Yields (step crypto before (env, call)) fun after => CatalogueChange before call after.catalogue := by
  by_cases registers : call.registers = true
  · refine (step_enters registers).mono fun after entered => .grows call _ (fun uid => ?_) (.entersAll entered)
    cases call <;> first | rfl | cases registers
  rw [Bool.not_eq_true] at registers
  cases call with
  | deprecateKey uid authorizer =>
    refine .skip <| .bind fun _ present => .skip2 ?_
    intro _ _
    have change := CatalogueChange.deprecateKey uid authorizer (require_eq_ok.mp present)
    refine .ite (fun already => .pure ?_) fun _ => .pure change
    rwa [← already, update_eq_self] at change
  | deprecateSchema sender uid =>
    refine .skip <| .bind fun record found => .skip <| .pure ?_
    rcases getSchema_eq_some.mp (expect_eq_ok.mp found) with ⟨live, stored⟩
    exact .deprecateSchema sender uid record stored live
  | _ =>
    exact (step_records registers fun _ => rfl).mono fun after same =>
      .grows _ _ (fun _ => rfl) (.of_eq (congrArg Records.catalogue same))

end Steps

namespace CatalogueChange

variable {call : Call} {after : Catalogue}

/-- Exactly `deprecate` writes a tombstone, and nothing removes one. -/
theorem deprecated (change : CatalogueChange before call after) (uid : UID) :
    after.deprecated uid = (before.deprecated uid || call.tombstones uid) := by
  cases change with
  | grows call after silent grown =>
    have quiet : call.tombstones uid = false := by
      cases call with
      | deprecateKey => exact silent uid
      | _ => rfl
    rw [grown.deprecated, quiet, Bool.or_false]
  | deprecateKey target =>
    by_cases same : uid = target
    · simp [Call.tombstones, same]
    · simp [Call.tombstones, update_of_ne same, Ne.symm same]
  | deprecateSchema => exact (Bool.or_false _).symm

theorem present (change : CatalogueChange before call after) (stored : before.schemas uid ≠ none) :
    after.schemas uid ≠ none := by
  cases change with
  | grows call after silent grown =>
    rcases Option.ne_none_iff_exists'.mp stored with ⟨record, found⟩
    rw [grown.kept uid record found]
    exact Option.some_ne_none record
  | deprecateKey => exact stored
  | deprecateSchema sender target =>
    by_cases same : uid = target
    · simp [same]
    · simpa [update_of_ne same] using stored

theorem filed (change : CatalogueChange before call after) (filed : before.Filed)
    (stored : after.schemas uid = some record) : record.uid = uid := by
  cases change with
  | grows call after silent grown =>
    rcases grown.filed uid record stored with earlier | own
    · exact filed uid record earlier
    · exact own
  | deprecateKey => exact filed uid record stored
  | deprecateSchema sender target old found =>
    rcases update_eq.mp stored with ⟨rfl, ⟨⟩⟩ | ⟨-, stored⟩
    · exact filed uid old found
    · exact filed uid record stored

theorem existing (change : CatalogueChange before call after) (deprecates : call.deprecates uid = true) :
    before.schemas uid ≠ none := by
  cases change with
  | grows call after silent => exact absurd (silent uid) (by simp [deprecates])
  | deprecateKey target authorizer present => exact of_decide_eq_true deprecates ▸ present
  | deprecateSchema sender target record stored =>
    rw [← of_decide_eq_true deprecates, stored]
    exact Option.some_ne_none record

end CatalogueChange

/-! ## Across runs -/

/-- A call of the kind is made and commits. -/
def Succeeds (crypto : Crypto) (kind : Call -> Bool) (state : State) (input : Env × Call) : Prop :=
  kind input.2 = true ∧ (step crypto state input).isOk = true

theorem deprecated_run (crypto : Crypto) (start : State) (inputs : List (Env × Call)) (uid : UID) :
    (run (step crypto) start inputs).deprecated uid = true ↔ start.deprecated uid = true ∨
        Occurs (step crypto) start (Succeeds crypto (Call.tombstones uid)) inputs := by
  induction inputs using List.reverseRecOn with
  | nil =>
    refine ⟨.inl, ?_⟩
    rintro (tombstone | occurred)
    · exact tombstone
    · exact absurd occurred not_occurs_nil
  | append_singleton inputs input ih =>
    rw [run_concat, occurs_concat, ← or_assoc, ← ih]
    cases outcome : step crypto (run (step crypto) start inputs) input with
    | ok next =>
      have change := (step_catalogues next outcome).deprecated uid
      rw [commit_of_ok outcome]
      rw [show next.deprecated uid = _ from change, Bool.or_eq_true]
      simp [Succeeds, outcome, Except.isOk, Except.toBool]
    | error failure =>
      rw [commit_of_error outcome]
      simp [Succeeds, outcome, Except.isOk, Except.toBool]

theorem filed_run (crypto : Crypto) (inputs : List (Env × Call)) : (run (step crypto) deployed inputs).Filed := by
  refine run_invariant (fun state input next filed _ success uid record stored => ?_) ?_
    (admissible_true deployed inputs)
  · exact (step_catalogues next success).filed filed stored
  · intro uid record stored
    cases stored

theorem present_run (crypto : Crypto) (inputs : List (Env × Call)) (present : start.schemas uid ≠ none) :
    (run (step crypto) start inputs).schemas uid ≠ none :=
  run_invariant (fun _ _ next stored _ success => (step_catalogues next success).present stored)
    present (admissible_true start inputs)

theorem known_run_iff (crypto : Crypto) (inputs : List (Env × Call)) {schema : SchemaRecord}
    (known : getSchema start uid = some schema) :
    (∃ later, getSchema (run (step crypto) start inputs) uid = some later) ↔
      ¬ Occurs (step crypto) start (Succeeds crypto (Call.tombstones uid)) inputs := by
  rcases getSchema_eq_some.mp known with ⟨live, stored⟩
  have present : start.schemas uid ≠ none := by
    rw [stored]
    exact Option.some_ne_none schema
  have tombstone := deprecated_run crypto start inputs uid
  rw [live] at tombstone
  simp only [Bool.false_eq_true, false_or] at tombstone
  rw [← tombstone]
  constructor
  · rintro ⟨later, found⟩
    rw [(getSchema_eq_some.mp found).1]
    exact Bool.false_ne_true
  · intro undeprecated
    rcases Option.ne_none_iff_exists'.mp (present_run crypto inputs present) with ⟨later, found⟩
    exact ⟨later, getSchema_eq_some.mpr ⟨Bool.eq_false_iff.mpr undeprecated, found⟩⟩

theorem present_of_deprecated (crypto : Crypto) {inputs : List (Env × Call)}
    (done : Occurs (step crypto) start (Succeeds crypto (Call.deprecates uid)) inputs) :
    (run (step crypto) start inputs).schemas uid ≠ none := by
  rcases done with ⟨before, ⟨env, call⟩, after, rfl, deprecates, succeeds⟩
  rcases exists_of_isOk succeeds with ⟨next, success⟩
  rw [run_append]
  exact present_run crypto _ ((step_catalogues next success).existing deprecates)

/-- In every run in which a schema has been deprecated in one way or the other, no reader
shows it as active from then on exactly if it has been deprecated by `deprecate`. -/
theorem deprecation_hides_iff (crypto : Crypto) (inputs : List (Env × Call)) (uid : UID)
    (done : Occurs (step crypto) deployed (Succeeds crypto (Call.deprecates uid)) inputs) :
    Hidden (run (step crypto) deployed inputs) uid ↔
      Occurs (step crypto) deployed (Succeeds crypto (Call.tombstones uid)) inputs := by
  rw [hidden_iff_deprecated (filed_run crypto inputs) (present_of_deprecated crypto done), deprecated_run]
  simp [deployed]

/-- Account 2 deprecates its schema by the tombstone. -/
theorem deprecation_hides_iff_tombstone : Hidden (run (step okCrypto) deployed (okRegistered ++
      [calledBy 2 (.deprecateKey okSchemaUid (.accountOfNat 2))])) okSchemaUid := by
  have succeeds : (step okCrypto (run (step okCrypto) deployed okRegistered)
      (calledBy 2 (.deprecateKey okSchemaUid (.accountOfNat 2)))).isOk = true := by
    decide
  have marked : Occurs (step okCrypto) deployed (Succeeds okCrypto (Call.tombstones okSchemaUid)) (okRegistered ++
        [calledBy 2 (.deprecateKey okSchemaUid (.accountOfNat 2))]) := ⟨okRegistered, _, [], rfl, by decide, succeeds⟩
  exact (deprecation_hides_iff okCrypto _ okSchemaUid ⟨okRegistered, _, [], rfl, by decide, succeeds⟩).mpr marked

/-- Account 2 deprecates its schema by the field, and every reader still shows it. -/
theorem deprecation_ignored : Occurs (step okCrypto) deployed (Succeeds okCrypto (Call.deprecates okSchemaUid))
        (okRegistered ++ [calledBy 2 (.deprecateSchema (.accountOfNat 2) okSchemaUid)]) ∧
      let state := run (step okCrypto) deployed (okRegistered ++
        [calledBy 2 (.deprecateSchema (.accountOfNat 2) okSchemaUid)])
      (getSchema state okSchemaUid).map (·.deprecated) = some true ∧ validateSchema state okSchemaUid = true ∧
      isAuthorized (signer 2) state okSchemaUid (.accountOfNat 2) = true ∧
      (getSchemas state 0 10).map (·.uid) = [okSchemaUid] := by
  refine ⟨⟨okRegistered, _, [], rfl, by decide, ?_⟩, ?_⟩ <;> decide

end SorobanSas.Registry
