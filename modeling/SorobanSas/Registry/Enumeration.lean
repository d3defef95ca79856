import SorobanSas.Registry.Deprecation
import SorobanSas.Library.Paging

namespace SorobanSas.Registry

open Library List

/-!
# The schemas of a run and the readers that list them

The registry numbers its schemas in one index, and those of a category in an index of their
own.  Eleven entry points register schemas, one of them several at once.  The list of all that
a run has registered, in order, is what both indexes hold, whatever else was called.

The two paged readers pass over the entries with a tombstone, and a page ends at the limit, at
the end of the index or after a fixed number of entries.  Pages may therefore be short or empty
before the end.  Following the cursor they return still enumerates the schemas.
-/

variable {crypto : Crypto} {env : Env} {before after : State} {index : Nat -> Option UID}
  {number : Nat} {uids : List UID} {entries : List Registration} {call : Call} {entry : Registration}

/-- The schemas that a run registers, in order. -/
def registered (crypto : Crypto) (calls : List (Env × Call)) : List Registration :=
  effects (step crypto) (fun input => input.2.registrations crypto) deployed calls

def inCategory (name : Bytes) (entries : List Registration) : List Registration :=
  entries.filter fun entry => entry.category = some name

def uidsOf (entries : List Registration) : List UID := entries.map (·.record.uid)

/-- The records of the schemas that have no tombstone. -/
def activeAmong (state : State) (entries : List Registration) : List SchemaRecord :=
  ((uidsOf entries).filter fun uid => !state.deprecated uid).filterMap state.schemas

theorem activeAmong_eq (state : State) (entries : List Registration) :
    activeAmong state entries = (uidsOf entries).filterMap (getSchema state) := by
  rw [activeAmong, filterMap_filter]
  refine filterMap_congr fun uid _ => ?_
  cases marked : state.deprecated uid <;> simp [getSchema, marked]

/-- The index and its counter hold these UIDs. -/
structure Numbers (index : Nat -> Option UID) (count : Option Nat) (uids : List UID) : Prop where
  count : count.getD 0 = uids.length
  index : ∀ number, index number = uids[number]?

theorem numbers_nil : Numbers (fun _ => none) none [] := ⟨rfl, fun _ => rfl⟩

theorem Numbers.concat {count : Option Nat} (numbers : Numbers index count uids)
    (last : number = count.getD 0) (uid : UID) :
    Numbers (update index number (some uid)) (some (number + 1)) (uids ++ [uid]) := by
  rw [numbers.count] at last
  subst last
  refine ⟨by simp, fun position => ?_⟩
  by_cases same : position = uids.length
  · rw [same, update_self, List.getElem?_concat_length]
  · rw [update_of_ne same, numbers.index]
    by_cases inside : position < uids.length
    · rw [List.getElem?_append_left inside]
    · rw [List.getElem?_eq_none (by omega), List.getElem?_eq_none (by simp; omega)]

theorem schemaCount_eq_ok (counted : schemaCount before = .ok number) : number = before.count.getD 0 := by
  unfold schemaCount at counted
  cases stored : before.count with
  | some count =>
    rw [stored] at counted
    exact (Except.ok.inj counted).symm
  | none =>
    simp only [stored, eq_ok] at counted
    exact counted.2.symm

theorem categoryCount_eq_ok {name : Bytes} (counted : categoryCount before name = .ok number) :
    number = (before.categoryCount name).getD 0 := by
  unfold categoryCount at counted
  cases stored : before.categoryCount name with
  | some count =>
    rw [stored] at counted
    exact (Except.ok.inj counted).symm
  | none =>
    simp only [stored, eq_ok] at counted
    exact counted.2.symm

/-! ## What a run stores -/

/-- The state holds exactly these registrations. -/
structure Enumerated (crypto : Crypto) (entries : List Registration) (state : State) : Prop where
  distinct : (uidsOf entries).Nodup
  derived : ∀ entry ∈ entries, entry.record.uid =
    schemaUid crypto entry.record.schema entry.record.resolver entry.record.revocable
  recorded : ∀ entry ∈ entries, ∃ flag, state.schemas entry.record.uid = some { entry.record with deprecated := flag }
  complete : ∀ uid, state.schemas uid ≠ none -> uid ∈ uidsOf entries
  schemas : Numbers state.index state.count (uidsOf entries)
  categories : ∀ name, Numbers (state.categoryIndex name) (state.categoryCount name) (uidsOf (inCategory name entries))
  named : ∀ entry ∈ entries, ∀ name, entry.category = some name -> validateCategory name = .ok ()

theorem registrations_derived (member : entry ∈ call.registrations crypto) : entry.record.uid =
      schemaUid crypto entry.record.schema entry.record.resolver entry.record.revocable := by
  cases call with
  | registerSchemasBatch =>
    rcases List.mem_map.mp member with ⟨item, -, rfl⟩
    rfl
  | _ =>
    first
      | (rw [Call.registrations, mem_singleton] at member; subst member; rfl)
      | cases member

namespace Enumerated

variable (enumerated : Enumerated crypto entries before)

include enumerated

/-- A UID without a record is not among those registered. -/
theorem fresh {uid : UID} (free : before.schemas uid = none) : uid ∉ uidsOf entries := by
  intro member
  rcases List.mem_map.mp member with ⟨other, earlier, rfl⟩
  rcases enumerated.recorded other earlier with ⟨flag, stored⟩
  rw [free] at stored
  cases stored

theorem enters_categories (enters : Enters before entry after) (name : Bytes) :
    Numbers (after.categoryIndex name) (after.categoryCount name) (uidsOf (inCategory name (entries ++ [entry]))) := by
  cases category : entry.category with
  | none =>
    rcases enters.uncategorised category with ⟨index, counts⟩
    have same : inCategory name (entries ++ [entry]) = inCategory name entries := by
      simp [inCategory, category]
    rw [index, counts, same]
    exact enumerated.categories name
  | some own =>
    rcases (enters.categorised own category).entry with ⟨number, counted, -, index, counts⟩
    rw [index, counts]
    by_cases same : name = own
    · subst same
      have more : uidsOf (inCategory name (entries ++ [entry])) =
          uidsOf (inCategory name entries) ++ [entry.record.uid] := by
        simp [inCategory, category, uidsOf]
      rw [more, update_self, update_self]
      exact (enumerated.categories name).concat (categoryCount_eq_ok counted) entry.record.uid
    · have kept : inCategory name (entries ++ [entry]) = inCategory name entries := by
        simp [inCategory, category, Ne.symm same]
      rw [kept, update_of_ne same, update_of_ne same]
      exact enumerated.categories name

theorem enters (enters : Enters before entry after) (derived : entry.record.uid =
      schemaUid crypto entry.record.schema entry.record.resolver entry.record.revocable) :
    Enumerated crypto (entries ++ [entry]) after := by
  have fresh := enumerated.fresh enters.free
  have uids : uidsOf (entries ++ [entry]) = uidsOf entries ++ [entry.record.uid] := by simp [uidsOf]
  constructor
  · rw [uids, ← concat_eq_append]
    exact List.Nodup.concat fresh enumerated.distinct
  · intro other member
    rcases List.mem_append.mp member with earlier | now
    · exact enumerated.derived other earlier
    · rw [List.mem_singleton.mp now]
      exact derived
  · intro other member
    rw [enters.schemas]
    rcases List.mem_append.mp member with earlier | now
    · have apart : other.record.uid ≠ entry.record.uid := by
        intro same
        exact fresh (same ▸ mem_map_of_mem earlier)
      rw [update_of_ne apart]
      exact enumerated.recorded other earlier
    · rw [List.mem_singleton.mp now, update_self]
      exact ⟨entry.record.deprecated, rfl⟩
  · intro uid present
    rw [uids, mem_append, mem_singleton]
    by_cases same : uid = entry.record.uid
    · exact .inr same
    · rw [enters.schemas, update_of_ne same] at present
      exact .inl (enumerated.complete uid present)
  · rcases enters.numbered with ⟨number, counted, -, index, count⟩
    rw [uids, index, count]
    exact enumerated.schemas.concat (schemaCount_eq_ok counted) entry.record.uid
  · exact enumerated.enters_categories enters
  · intro other member name category
    rcases List.mem_append.mp member with earlier | now
    · exact enumerated.named other earlier name category
    · rw [List.mem_singleton.mp now] at category
      exact (enters.categorised name category).valid

theorem entersAll {added : List Registration} (entered : EntersAll before added after)
    (derived : ∀ entry ∈ added, entry.record.uid =
      schemaUid crypto entry.record.schema entry.record.resolver entry.record.revocable) :
    Enumerated crypto (entries ++ added) after := by
  induction entered generalizing entries with
  | nil state =>
    rw [append_nil]
    exact enumerated
  | @cons _ _ _ entry rest first _ ih =>
    have next := enumerated.enters first (derived entry mem_cons_self)
    have all := ih next fun other member => derived other (mem_cons_of_mem entry member)
    rwa [append_assoc] at all

theorem onlyDeprecates (only : OnlyDeprecates before after) : Enumerated crypto entries after := by
  constructor
  · exact enumerated.distinct
  · exact enumerated.derived
  · intro entry member
    rcases enumerated.recorded entry member with ⟨flag, stored⟩
    rcases only.schemas entry.record.uid with ⟨later, kept⟩
    rw [stored] at kept
    exact ⟨later, kept⟩
  · intro uid present
    apply enumerated.complete
    intro absent
    rcases only.schemas uid with ⟨flag, kept⟩
    exact present (by rw [kept, absent, Option.map_none])
  · rw [only.index, only.count]
    exact enumerated.schemas
  · intro name
    rw [only.categoryIndex, only.categoryCount]
    exact enumerated.categories name
  · exact enumerated.named

end Enumerated

theorem registrations_of_registers (registers : call.registers = false) : call.registrations crypto = [] := by
  cases call <;> first | rfl | cases registers

theorem enumerated_run (crypto : Crypto) (calls : List (Env × Call)) :
    Enumerated crypto (registered crypto calls) (run (step crypto) deployed calls) := by
  refine effects_invariant ?_ ?_ calls
  · rintro past state ⟨env, call⟩ next enumerated success
    by_cases registers : call.registers = true
    · exact enumerated.entersAll (step_enters registers next success)
        fun entry member => registrations_derived member
    · rw [Bool.not_eq_true] at registers
      rw [registrations_of_registers registers, append_nil]
      exact enumerated.onlyDeprecates (step_onlyDeprecates registers next success)
  · constructor
    · exact nodup_nil
    · nofun
    · nofun
    · intro uid present
      exact absurd rfl present
    · exact numbers_nil
    · intro name
      exact numbers_nil
    · nofun

/-- The second state still has all schemas of the first, with the same contents. -/
def KeepsRecords (before after : State) : Prop :=
  ∀ uid record, before.schemas uid = some record -> ∃ flag, after.schemas uid = some { record with deprecated := flag }

theorem KeepsRecords.refl (state : State) : KeepsRecords state state :=
  fun _ record stored => ⟨record.deprecated, stored⟩

theorem KeepsRecords.trans {first middle last : State} (earlier : KeepsRecords first middle)
    (later : KeepsRecords middle last) : KeepsRecords first last := by
  intro uid record stored
  rcases earlier uid record stored with ⟨flag, kept⟩
  rcases later uid _ kept with ⟨last, final⟩
  exact ⟨last, final⟩

theorem EntersAll.keepsRecords (entered : EntersAll before entries after) : KeepsRecords before after := by
  induction entered with
  | nil state => exact .refl state
  | @cons _ _ _ entry _ first _ ih =>
    refine KeepsRecords.trans (fun uid record stored => ⟨record.deprecated, ?_⟩) ih
    have apart : uid ≠ entry.record.uid := by
      rintro rfl
      rw [first.free] at stored
      cases stored
    rw [first.schemas, update_of_ne apart]
    exact stored

theorem step_keepsRecords : Yields (step crypto before (env, call)) (KeepsRecords before) := by
  intro after success
  by_cases registers : call.registers = true
  · exact (step_enters registers after success).keepsRecords
  · rw [Bool.not_eq_true] at registers
    intro uid record stored
    rcases (step_onlyDeprecates registers after success).schemas uid with ⟨flag, kept⟩
    rw [stored] at kept
    exact ⟨flag, kept⟩

theorem keepsRecords_run (crypto : Crypto) (state : State) (calls : List (Env × Call)) :
    KeepsRecords state (run (step crypto) state calls) := run_related KeepsRecords ⟨.refl, .trans⟩
    (fun _ _ next _ success => step_keepsRecords next success) (admissible_true state calls)

/-! ## The walk -/

/-- A scan passes over consecutive entries, at least one if there is one and the page has
room. -/
theorem scanSchemas_spans (state : State) (limit budget : Nat) {current : Nat}
    (schemas : List SchemaRecord) (numbered : ∀ number, index number = uids[number]?)
    (inside : current <= uids.length) :
    ∃ span, (scanSchemas state index uids.length limit budget current schemas).2 = current + span ∧
      current + span <= uids.length ∧ (scanSchemas state index uids.length limit budget current schemas).1 =
        schemas ++ ((uids.drop current).take span).filterMap (getSchema state) ∧
      (0 < budget -> current < uids.length -> schemas.length < limit -> 0 < span) := by
  induction budget generalizing current schemas with
  | zero => exact ⟨0, rfl, inside, by simp [scanSchemas], fun none => absurd none (lt_irrefl 0)⟩
  | succ budget ih =>
    rw [scanSchemas]
    split
    · rename_i more
      rcases more with ⟨within, -⟩
      have advanced : current + 1 <= uids.length := within
      rcases ih (schemas ++ ((index current).bind (getSchema state)).toList) advanced with
        ⟨span, reached, covered, found, -⟩
      refine ⟨span + 1, by omega, by omega, ?_, fun _ _ _ => Nat.succ_pos span⟩
      rw [found, numbered, List.getElem?_eq_getElem within, drop_eq_getElem_cons within,
        take_succ_cons, filterMap_cons, Option.bind_some, append_assoc]
      cases getSchema state uids[current] <;> rfl
    · rename_i ended
      refine ⟨0, rfl, inside, by simp, fun _ within room => ?_⟩
      exact absurd ⟨within, room⟩ ended

/-- What `get_schemas_paginated` returns, as a page and as the next cursor. -/
def SchemaPage (state : State) (cursor limit : Nat) (page : List SchemaRecord) (next : Nat) : Prop :=
  getSchemasPaginated state cursor limit = (page, next)

/-- What `get_schemas_by_category` returns, as a page and as the next cursor. -/
def CategoryPage (state : State) (category : Bytes) (cursor limit : Nat)
    (page : List SchemaRecord) (next : Nat) : Prop :=
  getSchemasByCategory state category cursor limit = .ok (page, next)

/-- The page that both readers return. -/
def pageOf (state : State) (index : Nat -> Option UID) (count cursor limit : Nat) : List SchemaRecord × Nat :=
  if limit = 0 ∨ count <= cursor then ([], min cursor count)
  else scanSchemas state index count limit maxScanBudget cursor []

theorem getSchemasPaginated_eq (state : State) (cursor limit : Nat) :
    getSchemasPaginated state cursor limit = pageOf state state.index (state.count.getD 0) cursor limit := by
  simp only [getSchemasPaginated, pageOf, Nat.min_def]
  split
  · rw [Prod.mk.injEq]
    refine ⟨rfl, ?_⟩
    split <;> split <;> omega
  · rfl

theorem getSchemasByCategory_eq {category : Bytes} (valid : validateCategory category = .ok ())
    (state : State) (cursor limit : Nat) : getSchemasByCategory state category cursor limit =
      .ok (pageOf state (state.categoryIndex category) ((state.categoryCount category).getD 0) cursor limit) := by
  rw [getSchemasByCategory, valid, pageOf]
  dsimp only [bind, Except.bind]
  split <;> rfl

theorem Numbers.enumerates {state : State} {count : Option Nat}
    (numbers : Numbers index count (uidsOf entries)) {answer : Nat -> Nat -> List SchemaRecord -> Nat -> Prop}
    (answers : ∀ cursor limit page next, answer cursor limit page next ↔
      pageOf state index (count.getD 0) cursor limit = (page, next)) :
    Enumerates (untilTotal (count.getD 0) answer) 0 (activeAmong state entries) := by
  rw [activeAmong_eq]
  simp only [numbers.count] at answers ⊢
  refine enumerates_untilTotal ?_ fun cursor limit => ⟨_, _, (answers cursor limit _ _).mpr rfl⟩
  intro cursor limit found reached inside positive answered
  have page := (answers cursor limit found reached).mp answered
  unfold pageOf at page
  split at page
  · have ended : cursor = (uidsOf entries).length := by omega
    cases page
    exact ⟨0, by omega, by omega, by simp, by omega⟩
  · rename_i more
    rcases scanSchemas_spans state limit maxScanBudget [] numbers.index inside with
      ⟨span, position, within, collected, moves⟩
    rw [page] at position collected
    subst position
    refine ⟨span, rfl, within, collected, fun before => moves (by decide) before positive⟩

/-! ## Main result -/

/-- The registry lists the schemas of the run. -/
structure EnumeratesFaithfully (crypto : Crypto) (calls : List (Env × Call)) (state : State) :
    Prop where
  derived : ∀ uid record, state.schemas uid = some record ->
    record.uid = uid ∧ uid = schemaUid crypto record.schema record.resolver record.revocable
  immutable : ∀ later, KeepsRecords state (run (step crypto) state later)
  registered : ∀ uid, state.schemas uid ≠ none ↔ uid ∈ uidsOf (registered crypto calls)
  once : (uidsOf (Registry.registered crypto calls)).Nodup
  schemas : Enumerates (untilTotal (state.count.getD 0) (SchemaPage state)) 0
    (activeAmong state (Registry.registered crypto calls))
  /-- Schemas are only in categories whose names the reader accepts. -/
  named : ∀ entry ∈ Registry.registered crypto calls, ∀ name,
    entry.category = some name -> validateCategory name = .ok ()
  categories : ∀ name, validateCategory name = .ok () ->
    Enumerates (untilTotal ((state.categoryCount name).getD 0) (CategoryPage state name)) 0
      (activeAmong state (inCategory name (Registry.registered crypto calls)))

/-- After every run, the walks over the registry return what was registered, each schema once and in
order, whatever positive limits they use. -/
theorem registry_enumerates (crypto : Crypto) (calls : List (Env × Call)) :
    EnumeratesFaithfully crypto calls (run (step crypto) deployed calls) := by
  have enumerated := enumerated_run crypto calls
  constructor
  · intro uid record stored
    have present : (run (step crypto) deployed calls).schemas uid ≠ none := by
      rw [stored]
      exact Option.some_ne_none record
    rcases List.mem_map.mp (enumerated.complete uid present) with ⟨entry, member, rfl⟩
    rcases enumerated.recorded entry member with ⟨flag, kept⟩
    cases stored.symm.trans kept
    exact ⟨rfl, enumerated.derived entry member⟩
  · exact keepsRecords_run crypto _
  · refine fun uid => ⟨enumerated.complete uid, fun member => ?_⟩
    rcases List.mem_map.mp member with ⟨entry, entered, rfl⟩
    rcases enumerated.recorded entry entered with ⟨flag, kept⟩
    rw [kept]
    exact Option.some_ne_none _
  · exact enumerated.distinct
  · refine enumerated.schemas.enumerates fun cursor limit page next => ?_
    rw [SchemaPage, getSchemasPaginated_eq]
  · exact enumerated.named
  · intro name valid
    refine (enumerated.categories name).enumerates fun cursor limit page next => ?_
    rw [CategoryPage, getSchemasByCategory_eq valid, Except.ok.injEq]

end SorobanSas.Registry
