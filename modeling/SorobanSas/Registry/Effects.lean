import SorobanSas.Registry.Ownership

namespace SorobanSas.Registry

open Library

/-!
# What a call does to schemas and to issuing authority

Two more parts of the storage are followed here.  The records say which schemas there are, how
they are numbered and how they are linked; the authority says who may issue under a schema
besides its creator.  Registrations add to the records, the two kinds of deprecation mark
them, and six entry points change the authority.  No other call touches either part.

What a registration enters can be read off its arguments, so the schemas that a call
registers are a function of the call.  `Enters` lists the checks that each of them passed
and what was written for it; the variants of `register` are not distinguished any further.
-/

/-! ## Registrations -/

/-- One schema that a call registers. -/
structure Registration where
  record : SchemaRecord
  category : Option Bytes
  predecessor : Option UID
  deriving DecidableEq

/-- A registration without category and without predecessor. -/
def Registration.plain (crypto : Crypto) (schema : Bytes) (resolver : Address) (revocable : Bool)
    (parent : Option UID) : Registration :=
  ⟨⟨schemaUid crypto schema resolver revocable, resolver, revocable, schema, false, parent⟩, none, none⟩

def Call.registers : Call -> Bool
  | .register .. | .registerWithParent .. | .registerWithTtl .. | .registerWithPolicy ..
  | .registerWithRoyalty .. | .registerWithValueAndTtl .. | .registerSchema ..
  | .registerSchemaWithValue .. | .registerSchemasBatch .. | .registerWithCategory ..
  | .registerWithPredecessor .. => true
  | _ => false

def Call.registrations (crypto : Crypto) : Call -> List Registration
  | .register _ schema resolver revocable | .registerWithTtl _ schema resolver revocable _
  | .registerWithRoyalty _ schema resolver revocable _
  | .registerWithValueAndTtl _ schema resolver revocable _ _ _ _
  | .registerSchema _ schema resolver revocable _
  | .registerSchemaWithValue _ schema resolver revocable _ _ _ _ =>
    [.plain crypto schema resolver revocable none]
  | .registerWithParent _ schema resolver revocable parent =>
    [.plain crypto schema resolver revocable parent]
  | .registerWithPolicy _ schema resolver policy =>
    [.plain crypto schema resolver (decide (policy ≠ .irrevocableOnly)) none]
  | .registerSchemasBatch items =>
    items.map fun item => .plain crypto item.schema item.resolver item.revocable none
  | .registerWithCategory _ schema resolver revocable category =>
    [{ Registration.plain crypto schema resolver revocable none with
      category := category.filter (fun name => !name.isEmpty) }]
  | .registerWithPredecessor _ schema resolver revocable predecessorUid =>
    [{ Registration.plain crypto schema resolver revocable none with
      predecessor := some predecessorUid }]
  | _ => []

/-- The checks on a category, and its new entry. -/
structure Categorised (before : State) (uid : UID) (name : Bytes) (after : State) : Prop where
  valid : validateCategory name = .ok ()
  named : name ≠ []
  entry : ∃ number, categoryCount before name = .ok number ∧ number + 1 < 2 ^ 32 ∧
    after.categoryIndex = update before.categoryIndex name (update (before.categoryIndex name) number (some uid)) ∧
    after.categoryCount = update before.categoryCount name (some (number + 1))

/-- The checks on a predecessor, and the new link. -/
structure Derived (before : State) (record : SchemaRecord) (predecessorUid : UID) (after : State) :
    Prop where
  appended : ∃ old, before.schemas predecessorUid = some old ∧ isAppendOnlySchema old.schema record.schema = true
  bounded : ∃ lineage, schemaHistory before (maxSchemaHistoryDepth + 1) predecessorUid [] = .ok lineage ∧
      lineage.length < maxSchemaHistoryDepth
  link : after.predecessor = update before.predecessor record.uid (some predecessorUid)

/-- What registering one schema checks and writes. -/
structure Enters (before : State) (entry : Registration) (after : State) : Prop where
  free : before.schemas entry.record.uid = none
  lexical : SchemaSyntax.validateSchemaLexical entry.record.schema = .ok ()
  wellFormed : SchemaSyntax.validateSchemaSyntax entry.record.schema = .ok ()
  parent : ∀ parent, entry.record.parentSchemaUid = some parent ->
    ∃ owner, validateParentSchema before owner parent = .ok ()
  schemas : after.schemas = update before.schemas entry.record.uid (some entry.record)
  creator : ∃ owner, after.creator = update before.creator entry.record.uid (some owner)
  deprecated : after.deprecated = before.deprecated
  numbered : ∃ number, schemaCount before = .ok number ∧ number + 1 < 2 ^ 32 ∧
    after.index = update before.index number (some entry.record.uid) ∧ after.count = some (number + 1)
  uncategorised : entry.category = none ->
    after.categoryIndex = before.categoryIndex ∧ after.categoryCount = before.categoryCount
  categorised : ∀ name, entry.category = some name -> Categorised before entry.record.uid name after
  underived : entry.predecessor = none -> after.predecessor = before.predecessor
  derived : ∀ predecessorUid, entry.predecessor = some predecessorUid ->
    Derived before entry.record predecessorUid after
  authority : after.authority = before.authority

/-- Several schemas registered one after the other. -/
inductive EntersAll : State -> List Registration -> State -> Prop
  | nil (state : State) : EntersAll state [] state
  | cons {before middle after : State} {entry : Registration} {rest : List Registration} :
      Enters before entry middle -> EntersAll middle rest after -> EntersAll before (entry :: rest) after

variable {after : State} {entry : Registration} {before : State}

theorem Enters.all (enters : Enters before entry after) : EntersAll before [entry] after := .cons enters (.nil after)

theorem EntersAll.authority {entries : List Registration} (enters : EntersAll before entries after) :
    after.authority = before.authority := by
  induction enters with
  | nil state => rfl
  | cons first _ ih => exact ih.trans first.authority

variable {call : Call}

section Registering

variable {crypto : Crypto} {env : Env} {owner resolver : Address} {schema : Bytes} {revocable : Bool}

/-- The common body, with the part of the result that the variants return. -/
theorem registerInternal_enters {maxTtl : UInt64} {parent : Option UID} {metadata : Option Bytes} :
    Yields (registerInternal crypto before owner schema resolver revocable maxTtl parent metadata)
      fun result => result.1 = schemaUid crypto schema resolver revocable ∧
        Enters before (.plain crypto schema resolver revocable parent) result.2 := by
  rintro ⟨uid, after⟩ success
  simp only [registerInternal, eq_ok, panicOn_eq_ok, Prod.mk.injEq] at success
  rcases success with ⟨lexical, wellFormed, parents, free, -, number, counted, room, rfl, rfl⟩
  refine ⟨rfl, ?_⟩
  constructor
  · exact free
  · exact lexical
  · exact wellFormed
  · rintro target rfl
    exact ⟨owner, parents⟩
  · rfl
  · exact ⟨owner, rfl⟩
  · rfl
  · exact ⟨number, counted, room, rfl, rfl⟩
  · intro _
    exact ⟨rfl, rfl⟩
  · rintro name ⟨⟩
  · intro _
    rfl
  · rintro predecessorUid ⟨⟩
  · rfl

theorem Enters.quiet {middle : State} (enters : Enters before entry middle) (quiet : Quiet middle after)
    (creator : after.creator = middle.creator) : Enters before entry after := by
  rcases quiet with ⟨records, authority⟩
  refine ⟨enters.free, enters.lexical, enters.wellFormed, enters.parent, ?_, creator ▸ enters.creator, ?_, ?_, ?_,
    fun name named => ?_, ?_, fun predecessorUid linked => ?_, authority.trans enters.authority⟩
  · exact records ▸ enters.schemas
  · exact records ▸ enters.deprecated
  · exact records ▸ enters.numbered
  · exact records ▸ enters.uncategorised
  · rcases enters.categorised name named with ⟨valid, nonempty, entry⟩
    exact ⟨valid, nonempty, records ▸ entry⟩
  · exact records ▸ enters.underived
  · rcases enters.derived predecessorUid linked with ⟨appended, bounded, link⟩
    exact ⟨appended, bounded, records ▸ link⟩

theorem Enters.withCategory {middle : State} {name : Bytes} (enters : Enters before entry middle)
    (plain : entry.category = none) (valid : validateCategory name = .ok ()) (named : name ≠ [])
    (success : indexCategory middle entry.record.uid name = .ok after) :
    Enters before { entry with category := some name } after := by
  simp only [indexCategory, eq_ok] at success
  rcases success with ⟨number, counted, room, rfl⟩
  rcases enters.uncategorised plain with ⟨index, counts⟩
  have same : categoryCount middle name = categoryCount before name := by
    simp only [categoryCount, index, counts]
  constructor
  · exact enters.free
  · exact enters.lexical
  · exact enters.wellFormed
  · exact enters.parent
  · exact enters.schemas
  · exact enters.creator
  · exact enters.deprecated
  · exact enters.numbered
  · rintro ⟨⟩
  · rintro other ⟨⟩
    refine ⟨valid, named, number, same ▸ counted, room, ?_, ?_⟩
    · rw [← index]
    · rw [← counts]
  · exact enters.underived
  · intro predecessorUid linked
    rcases enters.derived predecessorUid linked with ⟨appended, bounded, link⟩
    exact ⟨appended, bounded, link⟩
  · exact enters.authority

theorem registerWithCategory_enters {category : Option Bytes} :
    Yields (registerWithCategory crypto env before owner schema resolver revocable category)
      (EntersAll before ((Call.registerWithCategory owner schema resolver revocable
        category).registrations crypto)) := by
  intro after success
  simp only [registerWithCategory, eq_ok] at success
  rcases success with ⟨-, valid, ⟨uid, registered⟩, entered, success⟩
  rcases registerInternal_enters _ entered with ⟨same, enters⟩
  dsimp only at same
  subst same
  cases category with
  | none =>
    cases success
    exact enters.all
  | some name =>
    dsimp only at success
    split at success
    · rename_i empty
      cases success
      have none : (some name).filter (fun name => !name.isEmpty) = Option.none := by
        simp [Option.filter, empty]
      rw [Call.registrations, none]
      exact enters.all
    · rename_i nonempty
      have some : (some name).filter (fun name => !name.isEmpty) = Option.some name := by
        simp [Option.filter, nonempty]
      have named : name ≠ [] := by
        rintro rfl
        exact nonempty rfl
      rw [Call.registrations, some]
      exact (enters.withCategory rfl valid named success).all

theorem registerWithPredecessor_enters {predecessorUid : UID} :
    Yields (registerWithPredecessor crypto env before owner schema resolver revocable
      predecessorUid) fun result => EntersAll before ((Call.registerWithPredecessor owner schema
        resolver revocable predecessorUid).registrations crypto) result.2 := by
  rintro ⟨uid, after⟩ success
  simp only [registerWithPredecessor, eq_ok, Prod.mk.injEq] at success
  rcases success with ⟨-, old, stored, -, -, -, appended, -, -, lineage, traced, bounded,
    ⟨entered, registered⟩, success, rfl, rfl⟩
  rcases registerInternal_enters _ success with ⟨same, enters⟩
  dsimp only at same
  subst same
  apply Enters.all
  constructor
  · exact enters.free
  · exact enters.lexical
  · exact enters.wellFormed
  · exact enters.parent
  · exact enters.schemas
  · exact enters.creator
  · exact enters.deprecated
  · exact enters.numbered
  · exact enters.uncategorised
  · rintro name ⟨⟩
  · rintro ⟨⟩
  · rintro other ⟨⟩
    refine ⟨⟨old, stored, appended⟩, ⟨lineage, traced, bounded⟩, ?_⟩
    change update registered.predecessor _ _ = _
    rw [enters.underived rfl]
    rfl
  · exact enters.authority

theorem registerSchemasBatch_enters {items : List SchemaBatchItem} :
    Yields (registerSchemasBatch crypto env before items)
      (EntersAll before ((Call.registerSchemasBatch items).registrations crypto)) := by
  intro after success
  simp only [registerSchemasBatch, eq_ok] at success
  rcases success with ⟨-, -, success⟩
  induction items generalizing before with
  | nil =>
    cases success
    exact .nil _
  | cons item rest ih =>
    simp only [List.foldlM_cons, eq_ok, registerBatchItem] at success
    rcases success with ⟨middle, ⟨-, ⟨uid, registered⟩, entered, rfl⟩, remaining⟩
    exact .cons (registerInternal_enters _ entered).2 (ih remaining)

theorem step_enters (registers : call.registers = true) :
    Yields (step crypto before (env, call)) (EntersAll before (call.registrations crypto)) := by
  have plain {schema : Bytes} {resolver : Address} {revocable : Bool} {parent : Option UID}
      {result : Except Trap (UID × State)}
      (enters : Yields result (fun value => value.1 = schemaUid crypto schema resolver revocable ∧
        Enters before (.plain crypto schema resolver revocable parent) value.2)) :
      Yields (stateOf result) (EntersAll before [.plain crypto schema resolver revocable parent]) :=
    .bind fun value success => .pure (enters value success).2.all
  cases call with
  | register | registerWithParent | registerWithTtl _ _ _ _ _
  | registerWithValueAndTtl | registerSchema _ _ _ _ _
  | registerSchemaWithValue => exact plain (.skip <| registerInternal_enters)
  | registerWithPolicy =>
    refine plain (.skip <| .bind fun value success => .pure ?_)
    rcases registerInternal_enters value success with ⟨same, enters⟩
    exact ⟨same, enters.quiet ⟨rfl, rfl⟩ rfl⟩
  | registerWithRoyalty owner schema resolver revocable =>
    refine plain (.skip <| .bind fun value success => .pure ?_)
    have registered : Yields (register crypto env before owner schema resolver revocable)
        fun value => value.1 = schemaUid crypto schema resolver revocable ∧
          Enters before (.plain crypto schema resolver revocable none) value.2 := .skip <| registerInternal_enters
    rcases registered value success with ⟨same, enters⟩
    exact ⟨same, enters.quiet ⟨rfl, rfl⟩ rfl⟩
  | registerSchemasBatch => exact registerSchemasBatch_enters
  | registerWithCategory => exact registerWithCategory_enters
  | registerWithPredecessor =>
    exact .bind fun value success => .pure (registerWithPredecessor_enters value success)
  | _ => cases registers

end Registering

/-! ## Everything else -/

def Call.deprecates (uid : UID) : Call -> Bool
  | .deprecateKey target _ => target = uid
  | .deprecateSchema _ target => target = uid
  | _ => false

section Steps

variable {crypto : Crypto} {env : Env}

/-- A call of no other kind keeps both parts. -/
theorem step_quiet (registers : call.registers = false) (deprecates : ∀ uid, call.deprecates uid = false)
    (concerns : call.concernsAuthority = false) : Yields (step crypto before (env, call)) (Quiet before) := by
  by_cases configures : call.configures = true
  · exact (step_configures configures).mono fun _ kept => kept.1
  by_cases owns : call.concernsOwnership = true
  · exact (step_changes owns).mono fun _ changes => changes.2
  cases call with
  | deprecateKey uid | deprecateSchema _ uid =>
    exact absurd (deprecates uid) (by simp [Call.deprecates])
  | _ => simp [Call.registers, Call.concernsAuthority, Call.configures, Call.concernsOwnership]
      at registers concerns configures owns

theorem step_authority (concerns : call.concernsAuthority = false) :
    Yields (step crypto before (env, call)) fun after => after.authority = before.authority := by
  by_cases registers : call.registers = true
  · exact (step_enters registers).mono fun after enters => enters.authority
  rw [Bool.not_eq_true] at registers
  cases call with
  | deprecateKey => exact .skip4 <| .ite (fun _ => .pure rfl) fun _ => .pure rfl
  | deprecateSchema => exact .skip3 <| .pure rfl
  | _ => exact (step_quiet registers (fun _ => rfl) concerns).mono fun after quiet => quiet.authority

theorem step_records (registers : call.registers = false) (deprecates : ∀ uid, call.deprecates uid = false) :
    Yields (step crypto before (env, call)) fun after => after.records = before.records := by
  by_cases concerns : call.concernsAuthority = true
  · exact (step_authority_records concerns).mono fun _ kept => kept.1
  · rw [Bool.not_eq_true] at concerns
    exact (step_quiet registers deprecates concerns).mono fun after quiet => quiet.records

theorem getSchema_eq_some {state : State} {uid : UID} {record : SchemaRecord} :
    getSchema state uid = some record ↔ state.deprecated uid = false ∧ state.schemas uid = some record := by
  unfold getSchema
  split <;> simp_all

/-- The records keep all but the field that says whether they are deprecated, and the indexes
and links are the same. -/
structure OnlyDeprecates (before after : State) : Prop where
  schemas : ∀ uid, ∃ flag, after.schemas uid =
    (before.schemas uid).map fun record => { record with deprecated := flag }
  count : after.count = before.count
  index : after.index = before.index
  categoryCount : after.categoryCount = before.categoryCount
  categoryIndex : after.categoryIndex = before.categoryIndex
  predecessor : after.predecessor = before.predecessor

theorem exists_map_deprecated (stored : Option SchemaRecord) :
    ∃ flag, stored = stored.map fun record => { record with deprecated := flag } := by
  cases stored with
  | none => exact ⟨false, rfl⟩
  | some record => exact ⟨record.deprecated, rfl⟩

theorem onlyDeprecates_of_schemas (schemas : after.schemas = before.schemas)
    (count : after.count = before.count) (index : after.index = before.index)
    (categoryCount : after.categoryCount = before.categoryCount)
    (categoryIndex : after.categoryIndex = before.categoryIndex)
    (predecessor : after.predecessor = before.predecessor) : OnlyDeprecates before after := by
  refine ⟨fun uid => ?_, count, index, categoryCount, categoryIndex, predecessor⟩
  rw [schemas]
  exact exists_map_deprecated _

theorem step_onlyDeprecates (registers : call.registers = false) :
    Yields (step crypto before (env, call)) (OnlyDeprecates before) := by
  cases call with
  | deprecateKey =>
    exact .skip4 <| .ite (fun _ => .pure (onlyDeprecates_of_schemas rfl rfl rfl rfl rfl rfl))
        fun _ => .pure (onlyDeprecates_of_schemas rfl rfl rfl rfl rfl rfl)
  | deprecateSchema _ target =>
    refine .skip <| .bind fun record found => .skip <| .pure ?_
    have stored := (getSchema_eq_some.mp (expect_eq_ok.mp found)).2
    refine ⟨fun uid => ?_, rfl, rfl, rfl, rfl, rfl⟩
    by_cases same : uid = target
    · subst same
      refine ⟨true, ?_⟩
      rw [stored]
      exact update_self _ _ _
    · rcases exists_map_deprecated (before.schemas uid) with ⟨flag, kept⟩
      exact ⟨flag, (update_of_ne same _ _).trans kept⟩
  | _ =>
    refine (step_records registers fun _ => rfl).mono fun after same => ?_
    refine onlyDeprecates_of_schemas ?_ ?_ ?_ ?_ ?_ ?_
    all_goals rw [same]

end Steps

end SorobanSas.Registry
