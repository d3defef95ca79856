import SorobanSas.Registry.Enumeration
import SorobanSas.Library.Ascent

namespace SorobanSas.Registry

open Library List

/-!
# The lineage of a schema

A schema may name a parent when it is registered.  Registration follows the parent links to
the root once, to bound their number; `get_schema_lineage` follows them with a loop of its own
and another bound, and neither checks for cycles.

None is needed.  A parent has to be registered, and the UID of the new schema must be free, so
the parent links of a run form a forest.  That different schemas have different UIDs is not
used: a registration whose UID is taken is refused.
-/

variable {crypto : Crypto} {env : Env} {before after : State} {state : State} {uid : UID} {path : List UID}
  {entry : Registration}

/-! ## The two walks -/

def parentOf (state : State) (uid : UID) : Option UID := (state.schemas uid).bind (·.parentSchemaUid)

def lineageRootLoop (state : State) : Nat -> UID -> Nat -> Except Trap (UID × Nat)
  | 0, _, _ => .error (.contract .limitExceeded)
  | fuel + 1, current, hops =>
    match parentOf state current with
    | some parent => lineageRootLoop state fuel parent (hops + 1)
    | none => .ok (current, hops)

def lineageRoot (state : State) (uid : UID) : Except Trap (UID × Nat) :=
  lineageRootLoop state (maxSchemaLineageDepth + 1) uid 0

structure SchemaLineage where
  schemaUid : UID
  parent : Option UID
  root : UID
  depth : Nat
  ancestors : List UID
  deriving DecidableEq

/-- The loop of `get_schema_lineage`, with the number of ancestors there is still room for. -/
def collectAncestors (state : State) : Nat -> Option UID -> List UID -> UID -> Except Trap (List UID × UID)
  | _, none, ancestors, root => .ok (ancestors, root)
  | 0, some _, _, _ => .error (.contract .limitExceeded)
  | room + 1, some ancestor, ancestors, _ =>
    collectAncestors state room (parentOf state ancestor) (ancestors ++ [ancestor]) ancestor

def getSchemaLineage (state : State) (uid : UID) : Except Trap SchemaLineage := do
  let record <- expect (state.schemas uid) (.contract .schemaNotFound)
  let (ancestors, root) <- collectAncestors state maxSchemaLineageDepth record.parentSchemaUid []
    uid
  return ⟨uid, record.parentSchemaUid, root, ancestors.length, ancestors⟩

theorem lineageDepth_eq (state : State) (fuel : Nat) (uid : UID) (hops : Nat) :
    lineageDepth state fuel uid hops = (lineageRootLoop state fuel uid hops).map Prod.snd := by
  induction fuel generalizing uid hops with
  | zero => rfl
  | succ fuel ih =>
    rw [lineageDepth, lineageRootLoop, parentOf]
    cases (state.schemas uid).bind (·.parentSchemaUid) with
    | none => rfl
    | some parent => exact ih parent (hops + 1)

/-- The last item of an ascent. -/
def rootOf (uid : UID) (path : List UID) : UID := path.getLast?.getD uid

theorem rootOf_cons (uid above : UID) (rest : List UID) : rootOf uid (above :: rest) = rootOf above rest := by
  rw [rootOf, rootOf, List.getLast?_cons, Option.getD_some]

theorem lineageRootLoop_eq (ascent : Ascent (parentOf state) uid path) {fuel : Nat}
    (enough : path.length < fuel) (hops : Nat) :
    lineageRootLoop state fuel uid hops = .ok (rootOf uid path, hops + path.length) := by
  induction ascent generalizing fuel hops with
  | root ended =>
    rcases Nat.exists_eq_succ_of_ne_zero (Nat.ne_of_gt enough) with ⟨fuel, rfl⟩
    rw [lineageRootLoop, ended]
    rfl
  | @link _ above rest linked _ ih =>
    rcases Nat.exists_eq_succ_of_ne_zero (Nat.ne_of_gt (Nat.zero_lt_of_lt enough)) with ⟨fuel, rfl⟩
    rw [lineageRootLoop, linked, rootOf_cons, length_cons]
    dsimp only
    rw [ih (Nat.lt_of_succ_lt_succ enough), Nat.add_right_comm, Nat.add_assoc]

theorem collectAncestors_eq (ascent : Ascent (parentOf state) uid path) {room : Nat}
    (enough : path.length <= room) (ancestors : List UID) :
    collectAncestors state room (parentOf state uid) ancestors uid = .ok (ancestors ++ path, rootOf uid path) := by
  induction ascent generalizing room ancestors with
  | root ended =>
    rw [ended, collectAncestors, append_nil]
    rfl
  | @link _ above rest linked _ ih =>
    rcases Nat.exists_eq_succ_of_ne_zero (Nat.ne_of_gt (Nat.zero_lt_of_lt enough)) with ⟨room, rfl⟩
    rw [linked, collectAncestors, ih (Nat.le_of_succ_le_succ enough), rootOf_cons, append_assoc, singleton_append]

theorem getSchemaLineage_eq (present : state.schemas uid ≠ none) (ascent : Ascent (parentOf state) uid path)
    (short : path.length <= maxSchemaLineageDepth) :
    getSchemaLineage state uid = .ok ⟨uid, parentOf state uid, rootOf uid path, path.length, path⟩ := by
  rcases Option.ne_none_iff_exists'.mp present with ⟨record, stored⟩
  have parent : record.parentSchemaUid = parentOf state uid := by rw [parentOf, stored, Option.bind_some]
  have collected := collectAncestors_eq ascent short []
  rw [nil_append, ← parent] at collected
  simp only [getSchemaLineage, eq_ok]
  refine ⟨record, stored, (path, rootOf uid path), collected, ?_⟩
  rw [parent]

/-! ## The forest of a run -/

/-- The parent links of the registered schemas. -/
def State.Lineage (state : State) : Prop :=
  Forest (parentOf state) (fun uid => state.schemas uid ≠ none) maxSchemaLineageDepth

theorem validateParentSchema_room {owner : Address} {parent : UID} (lineage : before.Lineage)
    (valid : validateParentSchema before owner parent = .ok ()) : before.schemas parent ≠ none ∧
      ∀ path, Ascent (parentOf before) parent path -> path.length < maxSchemaLineageDepth := by
  simp only [validateParentSchema, eq_ok] at valid
  rcases valid with ⟨present, -, depth, traced, room⟩
  refine ⟨present, fun path ascent => ?_⟩
  rcases lineage.ascends parent present with ⟨known, ascends, -, short⟩
  rw [ascent.unique ascends]
  rw [lineageDepth_eq, lineageRootLoop_eq ascends (Nat.lt_succ_of_le short)] at traced
  have same : 0 + known.length = depth := Except.ok.inj traced
  omega

theorem Enters.parentOf (enters : Enters before entry after) : Registry.parentOf after =
      update (Registry.parentOf before) entry.record.uid entry.record.parentSchemaUid := by
  funext uid
  rw [Registry.parentOf, enters.schemas]
  by_cases same : uid = entry.record.uid
  · rw [same, update_self, update_self, Option.bind_some]
  · rw [update_of_ne same, update_of_ne same, Registry.parentOf]

theorem Enters.present (enters : Enters before entry after) :
    (fun uid => after.schemas uid ≠ none) = fun uid => uid = entry.record.uid ∨ before.schemas uid ≠ none := by
  funext uid
  rw [enters.schemas]
  by_cases same : uid = entry.record.uid
  · simp [same]
  · simp [same]

theorem Enters.lineage (enters : Enters before entry after) (lineage : before.Lineage) : after.Lineage := by
  rw [State.Lineage, enters.parentOf, enters.present]
  refine Forest.insert lineage (not_not.mpr enters.free) fun parent named => ?_
  rcases enters.parent parent named with ⟨owner, valid⟩
  exact validateParentSchema_room lineage valid

theorem EntersAll.lineage {entries : List Registration} (entered : EntersAll before entries after)
    (lineage : before.Lineage) : after.Lineage := by
  induction entered with
  | nil state => exact lineage
  | cons first _ ih => exact ih (first.lineage lineage)

theorem OnlyDeprecates.parentOf (only : OnlyDeprecates before after) :
    Registry.parentOf after = Registry.parentOf before := by
  funext uid
  rcases only.schemas uid with ⟨flag, kept⟩
  rw [Registry.parentOf, Registry.parentOf, kept]
  cases before.schemas uid <;> rfl

theorem OnlyDeprecates.present (only : OnlyDeprecates before after) :
    (fun uid => after.schemas uid ≠ none) = fun uid => before.schemas uid ≠ none := by
  funext uid
  rcases only.schemas uid with ⟨flag, kept⟩
  rw [kept]
  cases before.schemas uid <;> simp

theorem lineage_run (crypto : Crypto) (calls : List (Env × Call)) : (run (step crypto) deployed calls).Lineage := by
  refine run_invariant (fun state input next lineage _ success => ?_) ?_ (admissible_true deployed calls)
  · rcases input with ⟨env, call⟩
    by_cases registers : call.registers = true
    · exact (step_enters registers next success).lineage lineage
    · rw [Bool.not_eq_true] at registers
      have only := step_onlyDeprecates registers next success
      rw [State.Lineage, only.parentOf, only.present]
      exact lineage
  · exact ⟨fun _ _ => rfl, fun uid present => absurd rfl present⟩

/-- Later calls do not change the ascent of a registered schema. -/
theorem KeepsRecords.parentOf (kept : KeepsRecords before after) (present : before.schemas uid ≠ none) :
    Registry.parentOf after uid = Registry.parentOf before uid := by
  rcases Option.ne_none_iff_exists'.mp present with ⟨record, stored⟩
  rcases kept uid record stored with ⟨flag, later⟩
  rw [Registry.parentOf, Registry.parentOf, stored, later]
  rfl

/-! ## Main result -/

/-- The lineage of a schema in a state and ever after. -/
structure LineageExact (crypto : Crypto) (state : State) (uid : UID) (ancestors : List UID) :
    Prop where
  path : Ascent (parentOf state) uid ancestors
  stored : ∀ ancestor ∈ ancestors, state.schemas ancestor ≠ none
  once : (uid :: ancestors).Nodup
  bounded : ancestors.length <= maxSchemaLineageDepth
  reader : getSchemaLineage state uid =
    .ok ⟨uid, parentOf state uid, rootOf uid ancestors, ancestors.length, ancestors⟩
  root : lineageRoot state uid = .ok (rootOf uid ancestors, ancestors.length)
  lasting : ∀ later, Ascent (parentOf (run (step crypto) state later)) uid ancestors

/-- After every run, and for every registered schema. -/
theorem lineage_exact (crypto : Crypto) (calls : List (Env × Call)) (uid : UID)
    (present : (run (step crypto) deployed calls).schemas uid ≠ none) :
    ∃ ancestors, LineageExact crypto (run (step crypto) deployed calls) uid ancestors := by
  rcases (lineage_run crypto calls).ascends uid present with ⟨path, ascent, inside, short⟩
  refine ⟨path, ascent, inside, ascent.nodup, short, getSchemaLineage_eq present ascent short, ?_, fun later => ?_⟩
  · rw [lineageRoot, lineageRootLoop_eq ascent (Nat.lt_succ_of_le short), Nat.zero_add]
  · refine ascent.congr fun above member => ?_
    refine (keepsRecords_run crypto _ later).parentOf ?_
    rcases List.mem_cons.mp member with rfl | further
    · exact present
    · exact inside above further

/-- The UID of the schema with one more field. -/
def okDerivedUid : UID := ⟨0x83ab95028eec94d0e463372add01dec17e070a222bad6c50714094974cf24882#256⟩

def okDerivedCrypto : Crypto :=
  .ofTable [(Xdr.scString (ascii "bool ok") ++ Xdr.scAddress (.contract 9) ++ [1], okSchemaUid.hash),
    (Xdr.scString (ascii "bool ok,u32 age") ++ Xdr.scAddress (.contract 9) ++ [1], okDerivedUid.hash)] []

/-- Account 2 registers a second schema below the first. -/
def okSuperseded : List (Env × Call) :=
  okRegistered ++ [calledBy 2 (.registerWithParent (.accountOfNat 2) (ascii "bool ok,u32 age")
    (.contract 9) true (some okSchemaUid))]

theorem lineage_exact_superseded :
    let state := run (step okDerivedCrypto) deployed okSuperseded
    parentOf state okDerivedUid = some okSchemaUid ∧
      ∃ ancestors, LineageExact okDerivedCrypto state okDerivedUid ancestors :=
  ⟨by decide, lineage_exact okDerivedCrypto okSuperseded okDerivedUid (by decide)⟩

end SorobanSas.Registry
