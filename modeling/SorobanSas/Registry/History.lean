import SorobanSas.Registry.Lineage
import SorobanSas.Common.SchemaFields

namespace SorobanSas.Registry

open Library SchemaSyntax List

/-!
# The history of a derived schema

`register_with_predecessor` links a schema to the one that it extends.  What it compares is
bytes: the new definition starts with the old one, and a comma follows.  Since both are accepted
definitions, the fields of the old one are then the first fields of the new one, and along the
links the whole history is ordered by this relation.

As with parents, the links form a forest, so `schema_history` comes to an end without a repeat.
-/

variable {crypto : Crypto} {env : Env} {before after : State} {entry : Registration}
  {entries : List Registration}

/-- The fields of the first schema are those of the second and at least one more. -/
def FieldsExtend (state : State) (newer older : UID) : Prop :=
  ∃ new old more, state.schemas newer = some new ∧ state.schemas older = some old ∧ more ≠ [] ∧
    schemaFields new.schema = schemaFields old.schema ++ more

theorem FieldsExtend.trans {state : State} {newer middle older : UID}
    (first : FieldsExtend state newer middle) (second : FieldsExtend state middle older) :
    FieldsExtend state newer older := by
  rcases first with ⟨new, between, more, stored, linked, nonempty, extended⟩
  rcases second with ⟨again, old, others, relinked, kept, -, earlier⟩
  cases linked.symm.trans relinked
  refine ⟨new, old, others ++ more, stored, kept, ?_, ?_⟩
  · exact append_ne_nil_of_right_ne_nil others nonempty
  · rw [extended, earlier, append_assoc]

theorem FieldsExtend.kept {newer older : UID} (extends_ : FieldsExtend before newer older)
    (kept : KeepsRecords before after) : FieldsExtend after newer older := by
  rcases extends_ with ⟨new, old, more, stored, linked, nonempty, extended⟩
  rcases kept newer new stored with ⟨flag, stored⟩
  rcases kept older old linked with ⟨other, linked⟩
  exact ⟨_, _, more, stored, linked, nonempty, extended⟩

theorem isAppendOnlySchema_eq_true {predecessor successor : Bytes}
    (compatible : isAppendOnlySchema predecessor successor = true) :
    ∃ rest, successor = predecessor ++ comma :: rest := by
  unfold isAppendOnlySchema at compatible
  split at compatible
  · cases compatible
  · rw [Bool.and_eq_true, decide_eq_true_eq, decide_eq_true_eq] at compatible
    rcases compatible with ⟨same, stops⟩
    rcases List.getElem?_eq_some_iff.mp stops with ⟨inside, stops⟩
    refine ⟨successor.drop (predecessor.length + 1), ?_⟩
    calc
      successor = successor.take predecessor.length ++ successor.drop predecessor.length := (take_append_drop _ _).symm
      _ = predecessor ++ comma :: successor.drop (predecessor.length + 1) := by
        rw [same, drop_eq_getElem_cons inside, stops]

/-! ## The links of a run -/

theorem schemaHistory_eq {state : State} {uid : UID} {path : List UID}
    (ascent : Ascent state.predecessor uid path) (present : state.schemas uid ≠ none)
    (inside : ∀ above ∈ path, state.schemas above ≠ none) (fuel : Nat)
    (seen : List UID) (enough : path.length < fuel) (room : seen.length + path.length < maxSchemaHistoryDepth) :
    schemaHistory state fuel uid seen = .ok (seen ++ uid :: path) := by
  induction ascent generalizing fuel seen with
  | root ended =>
    rcases Nat.exists_eq_succ_of_ne_zero (Nat.ne_of_gt enough) with ⟨fuel, rfl⟩
    simp only [schemaHistory, bind_eq_ok, require_eq_ok, exists_unit, ended]
    exact ⟨room, present, rfl⟩
  | @link uid above rest linked _ ih =>
    rcases Nat.exists_eq_succ_of_ne_zero (Nat.ne_of_gt (Nat.zero_lt_of_lt enough)) with ⟨fuel, rfl⟩
    rw [length_cons] at room enough
    have further := ih (inside above mem_cons_self)
      (fun upper member => inside upper (mem_cons_of_mem _ member)) fuel (seen ++ [uid])
    simp only [schemaHistory, bind_eq_ok, require_eq_ok, exists_unit, linked]
    refine ⟨by omega, present, ?_⟩
    rw [further (by omega) (by simp; omega), append_assoc, singleton_append]

/-- The links of the derived schemas. -/
structure State.Derivations (state : State) : Prop where
  wellFormed : ∀ uid record, state.schemas uid = some record -> validateSchemaSyntax record.schema = .ok ()
  forest : Forest state.predecessor (fun uid => state.schemas uid ≠ none) (maxSchemaHistoryDepth - 1)
  links : ∀ newer older, state.predecessor newer = some older -> FieldsExtend state newer older

/-- A predecessor whose history was measured has room for another link below it. -/
theorem Derived.room {record : SchemaRecord} {predecessorUid : UID}
    (derivations : before.Derivations) (derived : Derived before record predecessorUid after) :
    before.schemas predecessorUid ≠ none ∧ ∀ path, Ascent before.predecessor predecessorUid path ->
        path.length < maxSchemaHistoryDepth - 1 := by
  rcases derived.appended with ⟨old, stored, -⟩
  rcases derived.bounded with ⟨lineage, traced, bounded⟩
  have present : before.schemas predecessorUid ≠ none := by
    rw [stored]
    exact Option.some_ne_none old
  refine ⟨present, fun path ascent => ?_⟩
  rcases derivations.forest.ascends predecessorUid present with ⟨known, ascends, inside, short⟩
  rw [ascent.unique ascends]
  have depth : 0 < maxSchemaHistoryDepth := by decide
  rw [schemaHistory_eq ascends present inside _ _ (by omega) (by simp; omega)] at traced
  have same : predecessorUid :: known = lineage := Except.ok.inj traced
  rw [← same, length_cons] at bounded
  omega

/-- The new link, or none, at the UID that was free. -/
theorem Enters.predecessor (enters : Enters before entry after) (derivations : before.Derivations) :
    after.predecessor = update before.predecessor entry.record.uid entry.predecessor := by
  cases link : entry.predecessor with
  | none =>
    have free := derivations.forest.unlinked entry.record.uid (not_not.mpr enters.free)
    rw [enters.underived link, ← free, update_eq_self]
  | some predecessorUid => exact (enters.derived predecessorUid link).link

theorem Enters.derivations (enters : Enters before entry after) (derivations : before.Derivations) :
    after.Derivations := by
  have kept : KeepsRecords before after := enters.all.keepsRecords
  have predecessor := enters.predecessor derivations
  constructor
  · intro uid record stored
    rw [enters.schemas] at stored
    rcases update_eq.mp stored with ⟨-, ⟨⟩⟩ | ⟨-, stored⟩
    · exact enters.wellFormed
    · exact derivations.wellFormed uid record stored
  · rw [predecessor, enters.present]
    refine derivations.forest.insert (not_not.mpr enters.free) fun predecessorUid link => ?_
    exact (enters.derived predecessorUid link).room derivations
  · intro newer older linked
    rw [predecessor] at linked
    by_cases same : newer = entry.record.uid
    · rw [same, update_self] at linked
      rw [same]
      rcases (enters.derived older linked).appended with ⟨old, stored, compatible⟩
      rcases isAppendOnlySchema_eq_true compatible with ⟨rest, appended⟩
      rcases schemaFields_append (derivations.wellFormed older old stored)
        (appended ▸ enters.lexical) (appended ▸ enters.wellFormed) with ⟨more, nonempty, extended⟩
      rcases kept older old stored with ⟨flag, later⟩
      refine ⟨entry.record, _, more, ?_, later, nonempty, ?_⟩
      · rw [enters.schemas, update_self]
      · rw [appended, extended]
    · rw [update_of_ne same] at linked
      exact (derivations.links newer older linked).kept kept

theorem OnlyDeprecates.derivations (only : OnlyDeprecates before after)
    (kept : KeepsRecords before after) (derivations : before.Derivations) : after.Derivations := by
  constructor
  · intro uid record stored
    rcases only.schemas uid with ⟨flag, same⟩
    rw [stored] at same
    rcases Option.map_eq_some_iff.mp same.symm with ⟨earlier, found, rfl⟩
    exact derivations.wellFormed uid earlier found
  · rw [only.predecessor, only.present]
    exact derivations.forest
  · intro newer older linked
    rw [only.predecessor] at linked
    exact (derivations.links newer older linked).kept kept

/-- Every schema of the run is linked as it was registered. -/
structure Linked (entries : List Registration) (state : State) : Prop where
  derivations : state.Derivations
  stored : ∀ entry ∈ entries, state.schemas entry.record.uid ≠ none
  predecessor : ∀ entry, entry ∈ entries -> state.predecessor entry.record.uid = entry.predecessor

theorem Linked.enters (linked : Linked entries before) (enters : Enters before entry after) :
    Linked (entries ++ [entry]) after := by
  refine ⟨enters.derivations linked.derivations, fun other member => ?_, fun other member => ?_⟩
  · have present := congrFun enters.present other.record.uid
    rw [present]
    rcases List.mem_append.mp member with earlier | now
    · exact .inr (linked.stored other earlier)
    · exact .inl (congrArg (·.record.uid) (List.mem_singleton.mp now))
  · rw [enters.predecessor linked.derivations]
    rcases List.mem_append.mp member with earlier | now
    · have apart : other.record.uid ≠ entry.record.uid := by
        intro same
        exact linked.stored other earlier (same ▸ enters.free)
      rw [update_of_ne apart]
      exact linked.predecessor other earlier
    · rw [List.mem_singleton.mp now, update_self]

theorem Linked.entersAll {added : List Registration} (linked : Linked entries before)
    (entered : EntersAll before added after) : Linked (entries ++ added) after := by
  induction entered generalizing entries with
  | nil state =>
    rw [append_nil]
    exact linked
  | cons first _ ih =>
    have all := ih (linked.enters first)
    rwa [append_assoc] at all

theorem linked_run (crypto : Crypto) (calls : List (Env × Call)) :
    Linked (registered crypto calls) (run (step crypto) deployed calls) := by
  refine effects_invariant ?_ ?_ calls
  · rintro past state ⟨env, call⟩ next linked success
    by_cases registers : call.registers = true
    · exact linked.entersAll (step_enters registers next success)
    · rw [Bool.not_eq_true] at registers
      have only := step_onlyDeprecates registers next success
      rw [registrations_of_registers registers, append_nil]
      refine ⟨only.derivations (step_keepsRecords next success) linked.derivations, ?_, ?_⟩
      · intro entry member
        have present := congrFun only.present entry.record.uid
        rw [present]
        exact linked.stored entry member
      · rw [only.predecessor]
        exact linked.predecessor
  · refine ⟨⟨?_, ⟨fun _ _ => rfl, fun uid present => absurd rfl present⟩, ?_⟩, ?_, ?_⟩
    · rintro uid record ⟨⟩
    · rintro newer older ⟨⟩
    · rintro entry ⟨⟩
    · rintro entry ⟨⟩

/-! ## Main result -/

/-- The history of a schema of the run: its UID, its predecessor as it was registered, and so
on.  Data that fit the fields of an older schema can be read by position with those of every
newer one. -/
structure HistoryExtends (state : State) (entry : Registration) (history : List UID) : Prop where
  reader : schemaHistory state (maxSchemaHistoryDepth + 1) entry.record.uid [] = .ok history
  predecessor : state.predecessor entry.record.uid = entry.predecessor
  path : ∃ older, history = entry.record.uid :: older ∧ Ascent state.predecessor entry.record.uid older
  bounded : history.length <= maxSchemaHistoryDepth
  once : history.Nodup
  fields : history.Pairwise (FieldsExtend state)

/-- After every run, for every schema that it has registered, with a predecessor or without. -/
theorem history_extends (crypto : Crypto) (calls : List (Env × Call)) (entry : Registration)
    (member : entry ∈ registered crypto calls) :
    ∃ history, HistoryExtends (run (step crypto) deployed calls) entry history := by
  have linked := linked_run crypto calls
  have present := linked.stored entry member
  rcases linked.derivations.forest.ascends _ present with ⟨path, ascent, inside, short⟩
  have depth : 0 < maxSchemaHistoryDepth := by decide
  refine ⟨entry.record.uid :: path, ?_, linked.predecessor entry member, ⟨path, rfl, ascent⟩, ?_, ascent.nodup, ?_⟩
  · exact schemaHistory_eq ascent present inside _ _ (by omega) (by simp; omega)
  · rw [length_cons]
    omega
  · exact ascent.pairwise (fun _ _ _ => FieldsExtend.trans) linked.derivations.links

/-- Account 2 derives a schema with one more field. -/
def okMigrated : List (Env × Call) :=
  okRegistered ++ [calledBy 2 (.registerWithPredecessor (.accountOfNat 2)
    (ascii "bool ok,u32 age") (.contract 9) true okSchemaUid)]

def okDerivedRegistration : Registration :=
  { Registration.plain okDerivedCrypto (ascii "bool ok,u32 age") (.contract 9) true none with
    predecessor := some okSchemaUid }

theorem history_extends_migrated : okDerivedRegistration ∈ registered okDerivedCrypto okMigrated ∧
      ∃ history, HistoryExtends (run (step okDerivedCrypto) deployed okMigrated) okDerivedRegistration history := by
  have member : okDerivedRegistration ∈ registered okDerivedCrypto okMigrated := by decide
  exact ⟨member, history_extends okDerivedCrypto okMigrated okDerivedRegistration member⟩

end SorobanSas.Registry
