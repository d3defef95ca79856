import SorobanSas.Indexer.Membership
import SorobanSas.Library.Paging

namespace SorobanSas.Indexer

open Library List

/-!
# Readers at the other chunk tiers

The capacity in force decides where the write path puts a UID of a schema, and where the
complete and the paginated readers look for one.  Two parts of the contract do not use it:
the walk backwards looks for chunks of `MAX_CHUNK_SIZE`, and the lists by expiration class
are written in such chunks.  At the tiers where the capacity is smaller, the walk backwards
over a schema and the paginated reader of a class look in the wrong chunk as soon as a list
is longer than the capacity.

The theorem at the end says for which lists all readers agree, in every run whose tier is
set before the first UID is indexed.
-/

/-! ## The readers -/

def collectPage (state : State) (total cursor limit : Nat) (getChunk : Row) : Except Trap (List UID) :=
  if limit = 0 ∨ total <= cursor then .ok []
  else
    let stop := min total (saturatingAdd cursor limit)
    collectLoop (chunkCapacity state) stop getChunk (fun _ => true) (stop - cursor) cursor []

/-- A walk backwards that counts towards the limit of queries. -/
def meteredReverse (env : Env) (counter : QueryCounter) (page : ReversePage) :
    Except Trap (ReversePage × QueryCounter) := do
  let counted <- checkQueryLimit env counter
  return (page, counted)

section Readers

variable (env : Env) (counter : QueryCounter) (state : State)

def getAttsByExpirationPaginated (expirationStatus : ExpirationStatus) (cursor limit : Nat) :
    Except Trap (List UID × QueryCounter) :=
  metered env counter (collectPage state (state.expirationTotal expirationStatus) cursor limit
    (state.expirationChunks expirationStatus))

def getAttsBySchemaReverse (schemaUid : UID) (cursor : Option Nat) (limit : Nat) :
    Except Trap (ReversePage × QueryCounter) :=
  meteredReverse env counter (collectReversePage state (state.schemaTotal schemaUid) cursor limit
    true (state.schemaChunks schemaUid))

def getAttsBySchemaRecent (schemaUid : UID) (limit : Nat) : Except Trap (List UID × QueryCounter) :=
  metered env counter (.ok (collectReversePage state (state.schemaTotal schemaUid) none limit true
    (state.schemaChunks schemaUid)).uids)

end Readers

/-! ## Reading a row with a layout -/

variable {total index : Nat}

section Layouts

variable {capacity : Nat} {items : List UID} {row : Row}

/-- A page is a window of the list. -/
theorem collectPage_layout {state : State} (layout : Layout (chunkCapacity state) 1 items row)
    (counted : total = items.length) (bounded : total < 2 ^ 32) (cursor limit : Nat) :
    collectPage state total cursor limit row = .ok ((items.drop cursor).take limit) := by
  unfold collectPage
  split
  · rename_i empty
    rcases empty with none | past
    · rw [none, take_zero]
    · rw [drop_eq_nil_of_le (by omega), take_nil]
  · have positive := layout.capacity_pos
    rw [collectLoop_layout layout (by omega) (Nat.le_refl _) (by omega)]
    simp only [nil_append, filter_true, drop_take, Except.ok.injEq]
    rw [take_eq_take_iff, length_drop, saturatingAdd]
    omega

theorem pageLoop_layout (layout : Layout capacity 1 items row) {limit : Nat} {fuel : Nat}
    (enough : items.length - index <= fuel) {out : List UID} (room : out.length < limit) :
    pageLoop capacity items.length limit row (fun _ => true) fuel index out =
      .ok (out ++ (items.drop index).take (limit - out.length)) := by
  induction fuel generalizing index out with
  | zero => rw [pageLoop, drop_eq_nil_of_le (by omega), take_nil, append_nil]
  | succ fuel ih =>
    rw [pageLoop]
    by_cases inside : index < items.length
    · rcases layout.entry inside with ⟨chunk, stored, found⟩
      have wanted : limit - out.length = (limit - out.length - 1) + 1 := by omega
      simp only [inside, room, and_self, if_true, stored, found]
      rw [drop_eq_getElem_cons inside, wanted, take_succ_cons]
      split
      · have enoughTaken : limit - out.length - 1 = 0 := by omega
        rw [enoughTaken, take_zero]
      · have more : (out ++ [items[index]]).length < limit := by
          rw [length_append, length_singleton]
          omega
        rw [ih (by omega) more, append_assoc, length_append, length_singleton, Nat.sub_sub]
        rfl
    · rw [if_neg (fun both => inside both.1), drop_eq_nil_of_le (by omega), take_nil, append_nil]

theorem pageFiltered_layout {state : State} (layout : Layout capacity 1 items row)
    (counted : total = items.length) (cursor limit : Nat) :
    pageFiltered state capacity total row cursor limit true = .ok ((items.drop cursor).take limit) := by
  subst counted
  unfold pageFiltered
  split
  · rename_i none
    rw [none, take_zero]
  · split
    · rw [drop_eq_nil_of_le (by omega), take_nil]
    · exact pageLoop_layout layout (Nat.le_refl _) (by simp; omega)

/-- The walk backwards takes the newest entries first, and stops where the page is full. -/
theorem reverseLoop_layout (layout : Layout maxChunkSize 1 items row) {limit : Nat}
    (inside : index < items.length) (out : List UID) : reverseLoop limit row (fun _ => true) index out =
      ⟨out ++ (items.take (index + 1)).reverse.take (limit - out.length),
        if limit - out.length <= index then some (index - (limit - out.length)) else none⟩ := by
  induction index generalizing out with
  | zero =>
    rcases layout.entry inside with ⟨chunk, stored, found⟩
    rw [reverseLoop, reverseTurn]
    by_cases room : out.length < limit
    · have wanted : limit - out.length = (limit - out.length - 1) + 1 := by omega
      simp only [room, if_true, stored, found]
      rw [if_neg (by omega), take_add_one, List.getElem?_eq_getElem inside, wanted]
      simp
    · have full : limit - out.length = 0 := by omega
      simp [room, full]
  | succ index ih =>
    rcases layout.entry inside with ⟨chunk, stored, found⟩
    rw [reverseLoop, reverseTurn]
    by_cases room : out.length < limit
    · have wanted : limit - out.length = (limit - (out ++ [items[index + 1]]).length) + 1 := by
        rw [length_append, length_singleton]
        omega
      have newest : (items.take (index + 1 + 1)).reverse = items[index + 1] :: (items.take (index + 1)).reverse := by
        rw [take_succ_eq_append_getElem inside, reverse_append]
        rfl
      simp only [room, if_true, stored, found]
      rw [ih (by omega), newest, wanted, take_succ_cons, append_assoc]
      simp
    · have full : limit - out.length = 0 := by omega
      simp [room, full]

/-- A page of the walk backwards, from the newest entry or from a position of the list. -/
theorem collectReversePage_layout {state : State} (layout : Layout maxChunkSize 1 items row)
    (counted : total = items.length) {limit : Nat} (positive : 0 < limit) {cursor : Option Nat}
    (valid : ∀ position, cursor = some position -> position < items.length) :
    collectReversePage state total cursor limit true row =
      let rest := items.take (cursor.elim items.length (· + 1))
      ⟨rest.reverse.take limit,
        if limit < rest.length then some (rest.length - 1 - limit) else none⟩ := by
  subst counted
  unfold collectReversePage
  by_cases empty : items.length = 0
  · rw [if_pos (.inl empty), eq_nil_of_length_eq_zero empty]
    simp
  · rw [if_neg (by omega)]
    have start : cursor.getD (items.length - 1) < items.length := by
      cases cursor with
      | none => exact Nat.sub_one_lt empty
      | some position => exact valid position rfl
    have rest : cursor.elim items.length (· + 1) = cursor.getD (items.length - 1) + 1 := by
      cases cursor with
      | none => simp only [Option.elim_none, Option.getD_none]; omega
      | some position => rfl
    have length : (items.take (cursor.getD (items.length - 1) + 1)).length = cursor.getD (items.length - 1) + 1 := by
      rw [length_take]
      omega
    simp only [Nat.not_le.mpr start, if_false, Bool.true_or, rest, length]
    rw [reverseLoop_layout layout start]
    simp only [nil_append, length_nil, Nat.sub_zero, Nat.lt_succ_iff, Nat.add_one_sub_one]

end Layouts

/-! ## What the readers answer -/

/-- An answer of `get_atts_by_schema_reverse`, in some ledger. -/
def SchemaReverse (state : State) (schemaUid : UID) (cursor : Option Nat) (limit : Nat)
    (page : List UID) (next : Option (Option Nat)) : Prop := ∃ env counter counted answer,
    getAttsBySchemaReverse env counter state schemaUid cursor limit = .ok (answer, counted) ∧
      page = answer.uids ∧ next = answer.nextCursor.map some

variable (state : State) (expirationStatus : ExpirationStatus) (cursor limit : Nat) (page : List UID)

def ExpirationPage : Prop :=
  ∃ env counter counted, getAttsByExpirationPaginated env counter state expirationStatus cursor limit =
      .ok (page, counted)

/-- An answer of `get_expiration_page_filtered` with `include_revoked`. -/
def ExpirationFilteredPage : Prop :=
  ∃ env counter counted, getExpirationPageFiltered env counter state expirationStatus cursor limit true =
      .ok (page, counted)

/-- All readers of a schema return this list, forwards or backwards. -/
structure SchemaReadersAgree (state : State) (schemaUid : UID) (uids : List UID) : Prop where
  complete : getAttestationsBySchema state schemaUid = .ok uids
  reverse : Enumerates (SchemaReverse state schemaUid) none uids.reverse
  recent : ∀ env counter limit, getAttsBySchemaRecent env counter state schemaUid limit =
    metered env counter (.ok (uids.reverse.take limit))

/-- All readers of an expiration class return this list. -/
structure ExpirationReadersAgree (state : State) (expirationStatus : ExpirationStatus)
    (uids : List UID) : Prop where
  complete : getAttestationsByExpiration state expirationStatus = .ok uids
  paginated : Enumerates (fromOffset (getCountByExpiration state expirationStatus)
    (ExpirationPage state expirationStatus)) 0 uids
  filtered : Enumerates (fromOffset (getCountByExpiration state expirationStatus)
    (ExpirationFilteredPage state expirationStatus)) 0 uids

theorem checkQueryLimit_fresh (env : Env) : checkQueryLimit env ⟨none, none⟩ = .ok ⟨some env.sequence, some 1⟩ := by
  simp [checkQueryLimit, require, maxQueriesPerBlock, saturatingAdd]

theorem schemaReverse_fresh (state : State) (schemaUid : UID) (cursor : Option Nat) (limit : Nat) :
    getAttsBySchemaReverse sasCall ⟨none, none⟩ state schemaUid cursor limit =
      .ok (collectReversePage state (state.schemaTotal schemaUid) cursor limit true
        (state.schemaChunks schemaUid), ⟨some sasCall.sequence, some 1⟩) := by
  rw [getAttsBySchemaReverse, meteredReverse, checkQueryLimit_fresh]
  rfl

/-- A reader that returns windows of the list enumerates it, in any ledger with room for
queries. -/
theorem enumerates_metered {read : Nat -> Nat -> Except Trap (List UID)} {items : List UID}
    (windows : ∀ cursor limit, read cursor limit = .ok ((items.drop cursor).take limit)) :
    Enumerates (fromOffset items.length fun cursor limit page =>
      ∃ env counter counted, metered env counter (read cursor limit) = .ok (page, counted)) 0 items := by
  apply enumerates_fromOffset
  · rintro cursor limit page ⟨env, counter, counted, answered⟩
    exact (Except.ok.inj ((windows cursor limit).symm.trans (metered_ok answered))).symm
  · intro cursor limit
    exact ⟨_, sasCall, ⟨none, none⟩, _, metered_of_ok (checkQueryLimit_fresh sasCall) (windows cursor limit)⟩

/-- A page of the walk backwards leaves the entries below its next cursor. -/
theorem reverse_advances (items : List UID) {limit : Nat} (positive : 0 < limit)
    {cursor : Option Nat} (valid : ∀ position, cursor = some position -> position < items.length) :
    let rest := items.take (cursor.elim items.length (· + 1))
    Advances (fun cursor : Option Nat => (items.take (cursor.elim items.length (· + 1))).reverse)
      (fun cursor => ∀ position, cursor = some position -> position < items.length)
      (fun cursor => cursor.elim items.length (· + 1)) cursor (rest.reverse.take limit)
      ((if limit < rest.length then some (rest.length - 1 - limit) else none).map some) := by
  intro rest
  have length : rest.length = cursor.elim items.length (· + 1) := by
    rw [length_take]
    apply Nat.min_eq_left
    cases cursor with
    | none => exact Nat.le_refl _
    | some position => exact valid position rfl
  have inside : rest.length <= items.length := length_take_le' _ _
  constructor
  · intro ended
    have covered : rest.length <= limit := by
      by_contra longer
      rw [if_pos (by omega)] at ended
      cases ended
    exact take_of_length_le (by rw [length_reverse]; exact covered)
  · intro later continued
    split at continued
    · rename_i longer
      cases continued
      have below : rest.length - 1 - limit + 1 = rest.length - limit := by omega
      refine ⟨?_, ?_, ?_⟩
      · intro position same
        cases same
        omega
      · simp only [Option.elim_some]
        omega
      · have remaining : items.take (rest.length - limit) = rest.take (rest.length - limit) := by
          rw [take_take, Nat.min_eq_left (by omega)]
        simp only [Option.elim_some]
        rw [below, remaining, ← drop_reverse, take_append_drop]
    · cases continued

section Agreement

variable {state : State} {items : List UID} {row : Row} {chunk : List UID}

theorem schemaReadersAgree_of_layout {schemaUid : UID} (counted : state.schemaTotal schemaUid = items.length)
    (written : Layout (chunkCapacity state) 1 items (state.schemaChunks schemaUid))
    (walked : Layout maxChunkSize 1 items (state.schemaChunks schemaUid)) :
    SchemaReadersAgree state schemaUid items where
  complete := collectFiltered_layout written counted
  reverse := by
    have all : items.reverse = (items.take ((none : Option Nat).elim items.length (· + 1))).reverse := by
      simp
    rw [all]
    refine enumerates_of_advances (fun cursor => (items.take (cursor.elim items.length (· + 1))).reverse)
      (fun cursor => ∀ position, cursor = some position -> position < items.length)
      (fun cursor => cursor.elim items.length (· + 1)) ?_ ?_ (by simp)
    · rintro cursor limit page next valid positive ⟨env, counter, counts, answer, answered, rfl, rfl⟩
      simp only [getAttsBySchemaReverse, meteredReverse, eq_ok, Prod.mk.injEq] at answered
      rcases answered with ⟨-, -, rfl, -⟩
      rw [collectReversePage_layout walked counted positive valid]
      exact reverse_advances items positive valid
    · intro cursor limit valid positive
      exact ⟨_, _, sasCall, ⟨none, none⟩, _, _, schemaReverse_fresh state schemaUid cursor limit, rfl, rfl⟩
  recent := by
    intro env counter limit
    rw [getAttsBySchemaRecent]
    by_cases positive : 0 < limit
    · rw [collectReversePage_layout walked counted positive (by simp)]
      simp
    · have none : limit = 0 := by omega
      simp [none, collectReversePage]

theorem expirationReadersAgree_of_layout {expirationStatus : ExpirationStatus}
    (counted : state.expirationTotal expirationStatus = items.length) (bounded : items.length < 2 ^ 32)
    (read : Layout (chunkCapacity state) 1 items (state.expirationChunks expirationStatus))
    (written : Layout maxChunkSize 1 items (state.expirationChunks expirationStatus)) :
    ExpirationReadersAgree state expirationStatus items where
  complete := collectFiltered_layout read counted
  paginated := by
    rw [getCountByExpiration, counted]
    exact enumerates_metered (collectPage_layout read counted (counted ▸ bounded))
  filtered := by
    rw [getCountByExpiration, counted]
    exact enumerates_metered (pageFiltered_layout written counted)

/-! ### Where they do not agree -/

/-- One turn of the walk backwards takes at most one entry. -/
theorem reverseTurn_length {limit room : Nat} {keep : UID -> Bool} {rest : List UID -> ReversePage}
    (others : ∀ out, (rest out).uids.length <= out.length + room) (out : List UID) :
    (reverseTurn limit row keep index rest out).uids.length <= out.length + (room + 1) := by
  unfold reverseTurn
  split
  · split
    · exact Nat.le_add_right _ _
    · split
      · exact Nat.le_add_right _ _
      · rename_i uid _
        have taken : (if keep uid then out ++ [uid] else out).length <= out.length + 1 := by split <;> simp
        have := others (if keep uid then out ++ [uid] else out)
        omega
  · exact Nat.le_add_right _ _

/-- The walk backwards ends at a position that it does not find. -/
theorem reverseTurn_missing {limit : Nat} {keep : UID -> Bool}
    (stored : row (index / maxChunkSize) = some chunk) (missing : chunk.length <= index % maxChunkSize)
    (rest : List UID -> ReversePage) (out : List UID) : (reverseTurn limit row keep index rest out).uids = out := by
  unfold reverseTurn
  rw [stored]
  simp only [List.getElem?_eq_none missing]
  split <;> rfl

/-- The walk backwards goes no further than a first chunk that is shorter than it expects. -/
theorem reverseLoop_short (limit : Nat) (keep : UID -> Bool) (stored : row 0 = some chunk)
    (short : chunk.length < maxChunkSize) (beyond : chunk.length <= index) (out : List UID) :
    (reverseLoop limit row keep index out).uids.length <= out.length + (index - chunk.length) := by
  induction index generalizing out with
  | zero =>
    rw [reverseLoop, reverseTurn_missing stored beyond]
    exact Nat.le_add_right _ _
  | succ index ih =>
    rw [reverseLoop]
    by_cases reached : chunk.length = index + 1
    · have first : (index + 1) / maxChunkSize = 0 := Nat.div_eq_of_lt (by omega)
      have place : (index + 1) % maxChunkSize = index + 1 := Nat.mod_eq_of_lt (by omega)
      rw [reverseTurn_missing (by rw [first]; exact stored) (by rw [place]; exact beyond)]
      exact Nat.le_add_right _ _
    · have one : index + 1 - chunk.length = index - chunk.length + 1 := by omega
      rw [one]
      exact reverseTurn_length (fun out => ih (by omega) out) out

/-- The newest entries of a schema whose list is longer than a capacity below
`MAX_CHUNK_SIZE` are not all found by the walk backwards. -/
theorem not_schemaReadersAgree {schemaUid : UID} (counted : state.schemaTotal schemaUid = items.length)
    (written : Layout (chunkCapacity state) 1 items (state.schemaChunks schemaUid))
    (small : chunkCapacity state < maxChunkSize) (long : chunkCapacity state < items.length) :
    ¬ SchemaReadersAgree state schemaUid items := by
  intro agree
  have first : (items.take (chunkCapacity state)).length = chunkCapacity state := by
    rw [length_take]
    omega
  have stored : state.schemaChunks schemaUid 0 = some (items.take (chunkCapacity state)) := by
    rw [written.first, Nat.mul_one]
    apply present_of_ne_nil
    rw [← length_pos_iff, first]
    exact written.capacity_pos
  have answer := agree.recent sasCall ⟨none, none⟩ items.length
  rw [getAttsBySchemaRecent, metered_of_ok (checkQueryLimit_fresh sasCall) rfl,
    metered_of_ok (checkQueryLimit_fresh sasCall) rfl, Except.ok.injEq, Prod.mk.injEq,
    take_of_length_le (by simp)] at answer
  have length := congrArg List.length answer.1
  rw [length_reverse, counted, collectReversePage, if_neg (by omega), Option.getD_none, if_neg (by omega)] at length
  have walked := reverseLoop_short items.length (fun uid => true || isActive state uid) stored
    (by omega) (Nat.le_sub_one_of_lt (first ▸ long)) []
  rw [length, first] at walked
  simp only [length_nil] at walked
  omega

theorem collectPage_first (stored : row 0 = some chunk) (full : chunkCapacity state <= chunk.length)
    (long : chunkCapacity state < total) (bounded : total < 2 ^ 32) :
    collectPage state total 0 (chunkCapacity state) row = .ok (chunk.take (chunkCapacity state)) := by
  have bounds := chunkCapacity_bounds state
  have stop : min total (saturatingAdd 0 (chunkCapacity state)) = chunkCapacity state := by
    rw [saturatingAdd]
    omega
  have turn : chunkCapacity state - 0 = chunkCapacity state - 2 + 1 + 1 := by omega
  have taken : min chunk.length (chunkCapacity state) = chunkCapacity state := by omega
  have nonempty : ¬ chunk.length <= 0 := by omega
  rw [collectPage, if_neg (by omega), stop]
  change collectLoop (chunkCapacity state) (chunkCapacity state) row (fun _ => true) (chunkCapacity state - 0) 0 [] = _
  rw [turn, collectLoop]
  simp only [Nat.lt_of_lt_of_le (by decide : 0 < 25) bounds.1, if_true, Nat.zero_div, stored,
    Nat.zero_mod, nonempty, if_false, drop_zero, Nat.sub_zero, Nat.zero_add, taken,
    nil_append, filter_true]
  rw [collectLoop, if_neg (Nat.lt_irrefl _)]

theorem collectPage_second {limit : Nat} {page : List UID} (positive : 0 < limit)
    (long : chunkCapacity state < total) (bounded : total < 2 ^ 32)
    (read : collectPage state total (chunkCapacity state) limit row = .ok page) :
    row 1 = none ∧ page = [] ∨ ∃ chunk, row 1 = some chunk ∧ (chunk ≠ [] -> page.head? = chunk.head?) := by
  have bounds := chunkCapacity_bounds state
  have place : chunkCapacity state / chunkCapacity state = 1 := Nat.div_self (by omega)
  have inside : chunkCapacity state < min total (saturatingAdd (chunkCapacity state) limit) := by
    rw [saturatingAdd]
    omega
  rw [collectPage, if_neg (by omega)] at read
  simp only at read
  rcases Nat.exists_eq_add_of_lt inside with ⟨fuel, stop⟩
  have turns : min total (saturatingAdd (chunkCapacity state) limit) - chunkCapacity state = fuel + 1 := by
    omega
  rw [turns, collectLoop, if_pos inside, place, Nat.mod_self] at read
  cases found : row 1 with
  | none =>
    rw [found] at read
    cases read
    exact .inl ⟨rfl, rfl⟩
  | some chunk =>
    refine .inr ⟨chunk, rfl, fun nonempty => ?_⟩
    rcases exists_cons_of_ne_nil nonempty with ⟨head, others, rfl⟩
    simp only [found, length_cons, drop_zero, turns, nil_append, filter_true, Nat.sub_zero] at read
    rcases collectLoop_extends read with ⟨later, rfl⟩
    rw [Nat.add_min_add_right, take_succ_cons]
    rfl

section Classes

variable {expirationStatus : ExpirationStatus}

/-- The answers of the paginated reader of a class. -/
theorem expirationPage_answer {cursor limit : Nat} {found : List UID} {next : Option Nat}
    (counted : state.expirationTotal expirationStatus = items.length)
    (answered : fromOffset (getCountByExpiration state expirationStatus)
      (ExpirationPage state expirationStatus) cursor limit found next) :
    collectPage state items.length cursor limit (state.expirationChunks expirationStatus) = .ok found ∧
      next = if cursor + found.length < items.length then some (cursor + found.length)
        else none := by
  rcases answered with ⟨⟨env, counter, counts, answered⟩, rfl⟩
  rw [getCountByExpiration, counted]
  exact ⟨counted ▸ metered_ok answered, rfl⟩

section Shallow

variable (counted : state.expirationTotal expirationStatus = items.length) (bounded : items.length < 2 ^ 32)
  (written : Layout maxChunkSize 1 items (state.expirationChunks expirationStatus))
  (small : chunkCapacity state < maxChunkSize) (long : chunkCapacity state < items.length)

include counted bounded written small long

/-- A walk that goes on at the capacity does not return the entries from there on: its first
page is empty for ever, or starts at a later entry. -/
theorem not_walk_from_capacity (distinct : items.Nodup) {limits : List Nat} (positive : ∀ limit ∈ limits, 0 < limit) :
    ¬ Walk (fromOffset (getCountByExpiration state expirationStatus)
      (ExpirationPage state expirationStatus)) (chunkCapacity state) limits (items.drop (chunkCapacity state)) := by
  intro walk
  have next : state.expirationChunks expirationStatus 1 = present ((items.drop maxChunkSize).take maxChunkSize) := by
    rw [written.slice 1 (Nat.le_refl 1), Nat.mul_one]
  by_cases second : maxChunkSize < items.length
  · have different : (items.drop (chunkCapacity state)).head? ≠ items[maxChunkSize]? := by
      rw [List.head?_drop]
      intro same
      have := (List.getElem?_inj long distinct).mp same
      omega
    rcases walk.first with ⟨limit, page, later, rest, member, answered, split⟩
    have head : ((items.drop maxChunkSize).take maxChunkSize).head? = items[maxChunkSize]? := by
      rw [List.head?_take, if_neg (by decide), List.head?_drop]
    have chunk : (items.drop maxChunkSize).take maxChunkSize ≠ [] := by
      rw [← length_pos_iff, length_take, length_drop]
      exact Nat.lt_min.mpr ⟨by decide, by omega⟩
    rw [present_of_ne_nil chunk] at next
    rcases collectPage_second (positive limit member) long bounded
      (expirationPage_answer counted answered).1 with ⟨absent, -⟩ | ⟨found, stored, starts⟩
    · cases absent.symm.trans next
    · cases stored.symm.trans next
      have shown := starts chunk
      rw [head, List.getElem?_eq_getElem second] at shown
      apply different
      rw [split, List.head?_append, shown, List.getElem?_eq_getElem second]
      rfl
  · refine walk.not_stuck fun limit page later answered => ?_
    rcases expirationPage_answer counted answered with ⟨read, rfl⟩
    have empty : page = [] := by
      by_cases positive : 0 < limit
      · rcases collectPage_second positive long bounded read with ⟨-, empty⟩ | ⟨chunk, stored, -⟩
        · exact empty
        · rw [next, drop_eq_nil_of_le (by omega), take_nil] at stored
          cases stored
      · rw [collectPage, if_pos (by omega)] at read
        exact (Except.ok.inj read).symm
    rw [empty, length_nil, Nat.add_zero, if_pos long]

theorem expirationPage_first {page : List UID} {next : Option Nat}
    (answered : fromOffset (getCountByExpiration state expirationStatus)
      (ExpirationPage state expirationStatus) 0 (chunkCapacity state) page next) :
    page = items.take (chunkCapacity state) ∧ next = some (chunkCapacity state) := by
  have length : (items.take maxChunkSize).length = min maxChunkSize items.length := length_take
  have stored : state.expirationChunks expirationStatus 0 = some (items.take maxChunkSize) := by
    rw [written.first, Nat.mul_one]
    apply present_of_ne_nil
    rw [← length_pos_iff, length]
    omega
  have window : (items.take maxChunkSize).take (chunkCapacity state) = items.take (chunkCapacity state) := by
    rw [take_take, Nat.min_eq_left (by omega)]
  have taken : (items.take (chunkCapacity state)).length = chunkCapacity state := by
    rw [length_take]
    omega
  rcases expirationPage_answer counted answered with ⟨read, rfl⟩
  rw [collectPage_first stored (by omega) long bounded, Except.ok.injEq, window] at read
  rw [← read, taken, Nat.zero_add, if_pos long]
  exact ⟨rfl, rfl⟩

/-- A class whose list is longer than a capacity below `MAX_CHUNK_SIZE` is not returned by
its pages. -/
theorem not_expirationReadersAgree (distinct : items.Nodup) :
    ¬ ExpirationReadersAgree state expirationStatus items := by
  intro agree
  have bounds := chunkCapacity_bounds state
  rcases agree.paginated.completes (fun _ => chunkCapacity state) (fun _ => by omega) with ⟨turns, found, walk⟩
  have constant : ∀ limit, limit ∈ (List.range turns).map (fun _ => chunkCapacity state) ->
      limit = chunkCapacity state := by
    simp
  have positive : ∀ limit, limit ∈ (List.range turns).map (fun _ => chunkCapacity state) -> 0 < limit := by
    intro limit member
    rw [constant limit member]
    omega
  have complete := agree.paginated.returns _ found positive walk
  have opening := @expirationPage_first state items expirationStatus counted bounded written small
    long
  generalize (List.range turns).map (fun _ => chunkCapacity state) = limits
    at walk constant positive
  cases walk with
  | last answered =>
    rw [constant _ mem_cons_self] at answered
    cases (opening answered).2
  | turn answered rest =>
    rw [constant _ mem_cons_self] at answered
    rcases opening answered with ⟨rfl, same⟩
    cases same
    nth_rewrite 2 [← take_append_drop (chunkCapacity state) items] at complete
    rw [append_cancel_left complete] at rest
    exact not_walk_from_capacity counted bounded written small long distinct
      (fun limit member => positive limit (mem_cons_of_mem _ member)) rest

end Shallow

end Classes

end Agreement

/-! ## Runs -/

/-- A tier is set only while nothing is indexed. -/
def TiersFirst (state : State) (call : Env × Call) : Prop :=
  ∀ tier, call.2 = .setChunkTier tier -> ∀ uid, state.indexed uid = none

/-- Lists by schema are cut at the capacity, lists by class at `MAX_CHUNK_SIZE`. -/
structure TieredRows (entries : History) (state : State) : Prop where
  mapped : Mapped entries state
  bounded : ∀ expirationStatus, (expirationUids expirationStatus entries).length < 2 ^ 32
  schemas : ∀ schemaUid, Layout (chunkCapacity state) 1 (schemaUids schemaUid entries) (state.schemaChunks schemaUid)
  expirations : ∀ expirationStatus, Layout maxChunkSize 1
    (expirationUids expirationStatus entries) (state.expirationChunks expirationStatus)

namespace TieredRows

variable {entries : History} {before after : State} {uid : UID} {record : IndexRecord}

theorem initial : TieredRows [] deployed where
  mapped := Mapped.initial
  bounded := by simp [expirationUids, uidsWhere]
  schemas := fun _ => Layout.empty (by decide)
  expirations := fun _ => Layout.empty (by decide)

theorem files (rows : TieredRows entries before) (fresh : before.indexed uid = none)
    (success : indexNew before uid record = .ok after) : TieredRows (entries ++ [(uid, record)]) after := by
  rcases indexNew_ok success with ⟨indexed, classed, change⟩
  have capacity : chunkCapacity after = chunkCapacity before := by
    simp only [chunkCapacity, indexed.capacity]
  constructor
  · exact rows.mapped.files fresh success
  · intro expirationStatus
    have room := change.expirationRoom
    rw [rows.mapped.expiration] at room
    rw [expirationUids_concat, length_append]
    by_cases same : expirationStatusOf record.expirationTime = expirationStatus
    · subst same
      simpa using room
    · simpa [same] using rows.bounded expirationStatus
  · intro schemaUid
    rw [indexed.schemaChunks, schemaUids_concat, capacity]
    exact layout_update record.schemaUid uid rows.mapped.counted.schema rows.schemas schemaUid
  · intro expirationStatus
    rw [classed.expirationChunks, expirationUids_concat]
    exact layout_update (expirationStatusOf record.expirationTime) uid rows.mapped.expiration
      rows.expirations expirationStatus

theorem keeps {call : Env × Call} (rows : TieredRows entries before)
    (permitted : TiersFirst before call) (idles : Idles before after call) : TieredRows entries after := by
  have kept := idles.contents
  refine ⟨rows.mapped.same kept, rows.bounded, ?_, kept.expirationChunks ▸ rows.expirations⟩
  rw [kept.schemaChunks]
  rcases idles.index with ⟨tier, tuned, -⟩ | ⟨-, same⟩
  · have empty : entries = [] := by
      cases entries with
      | nil => rfl
      | cons entry rest =>
        have known := (rows.mapped.filed entry.1 entry.2).mpr mem_cons_self
        cases (permitted tier tuned entry.1).symm.trans known
    subst empty
    intro schemaUid
    exact (rows.schemas schemaUid).resize (Nat.zero_le _)
      (Nat.lt_of_lt_of_le (by decide) (chunkCapacity_bounds after).1) (Nat.zero_le _)
  · simp only [chunkCapacity, same.capacity]
    exact rows.schemas

theorem run {calls : List (Env × Call)} (tuned : Admissible step TiersFirst deployed calls) :
    TieredRows (history deployed calls) (Library.run step deployed calls) := by
  rw [← nil_append (history _ _)]
  refine history_related ?_ initial tuned
  intro entries before call after rows permitted success
  rcases step_cases success with ⟨uid, record, files, filed⟩ | idles
  · rw [accepted_of_files success files]
    exact rows.files files.2 filed
  · rw [accepted_of_not_files idles.other, append_nil]
    exact rows.keeps permitted idles

end TieredRows

/-- In every run whose tier is set before the first UID is indexed: the readers of a schema,
and those of an expiration class, agree exactly if the capacity is `MAX_CHUNK_SIZE` or the
list is no longer than the capacity.  They then return every UID indexed under the schema or
the class once, in the order of indexing. -/
theorem readers_agree_iff (calls : List (Env × Call)) (tuned : Admissible step TiersFirst deployed calls) :
    let state := run step deployed calls
    let entries := history deployed calls
    (forall schemaUid, (schemaUids schemaUid entries).Nodup ∧
      (SchemaReadersAgree state schemaUid (schemaUids schemaUid entries) ↔ chunkCapacity state = maxChunkSize ∨
          getCountBySchema state schemaUid ≤ chunkCapacity state)) ∧
    (forall expirationStatus, (expirationUids expirationStatus entries).Nodup ∧
      (ExpirationReadersAgree state expirationStatus (expirationUids expirationStatus entries) ↔
        chunkCapacity state = maxChunkSize ∨ getCountByExpiration state expirationStatus ≤ chunkCapacity state)) := by
  intro state entries
  have rows : TieredRows entries state := TieredRows.run tuned
  have bounds : 25 ≤ chunkCapacity state ∧ chunkCapacity state ≤ maxChunkSize := chunkCapacity_bounds state
  refine ⟨fun schemaUid => ⟨rows.mapped.counted.uidsWhere_nodup _, ?_⟩,
    fun expirationStatus => ⟨rows.mapped.counted.uidsWhere_nodup _, ?_⟩⟩
  · have counted := rows.mapped.counted.schema schemaUid
    have written := rows.schemas schemaUid
    rw [getCountBySchema, counted]
    constructor
    · intro agree
      by_contra neither
      exact not_schemaReadersAgree counted written (by omega) (by omega) agree
    · intro fits
      refine schemaReadersAgree_of_layout counted written ?_
      rcases fits with same | fits
      · exact same ▸ written
      · exact written.resize fits (by decide) (by omega)
  · have counted := rows.mapped.expiration expirationStatus
    have written := rows.expirations expirationStatus
    have bounded := rows.bounded expirationStatus
    have distinct : (expirationUids expirationStatus entries).Nodup := rows.mapped.counted.uidsWhere_nodup _
    rw [getCountByExpiration, counted]
    constructor
    · intro agree
      by_contra neither
      exact not_expirationReadersAgree counted bounded written (by omega) (by omega) distinct agree
    · intro fits
      refine expirationReadersAgree_of_layout counted bounded ?_ written
      rcases fits with same | fits
      · exact same ▸ written
      · have short : (expirationUids expirationStatus entries).length ≤ maxChunkSize :=
          Nat.le_trans fits bounds.2
        exact written.resize short (by omega) fits

open Address (accountOfNat)
open UID (ofNat)

theorem indexNumber_tiersFirst (number : Nat) (state : State) : TiersFirst state (indexNumber number) := by
  intro tier isTier
  cases isTier

/-- An initialised indexer at capacity 25, with this many UIDs. -/
def smallRun (count : Nat) : List (Env × Call) :=
  [(sasCall, .init true (accountOfNat 1) (.contract 1)), (sasCall, .setChunkTier 0)] ++
    (List.range count).map (fun number => indexNumber (number + 1))

theorem smallRun_tiersFirst (count : Nat) : Admissible step TiersFirst deployed (smallRun count) := by
  refine admissible_append.mpr ⟨⟨?_, ?_, trivial⟩, admissible_of_forall ?_ _⟩
  · intro tier isTier
    cases isTier
  · intro tier _ uid
    rfl
  · intro call member state
    rcases List.mem_map.mp member with ⟨number, -, rfl⟩
    exact indexNumber_tiersFirst (number + 1) state

/-- Two UIDs fit the smallest capacity. -/
theorem readers_agree_iff_small :
    let state := run step deployed (smallRun 2)
    Admissible step TiersFirst deployed (smallRun 2) ∧ SchemaReadersAgree state (ofNat 0) [ofNat 1, ofNat 2] ∧
      ExpirationReadersAgree state .perpetual [ofNat 1, ofNat 2] := by
  intro state
  have schema : schemaUids (ofNat 0) (history deployed (smallRun 2)) = [ofNat 1, ofNat 2] := by decide
  have expiration : expirationUids .perpetual (history deployed (smallRun 2)) = [ofNat 1, ofNat 2] := by
    decide
  have agree := readers_agree_iff (smallRun 2) (smallRun_tiersFirst 2)
  refine ⟨smallRun_tiersFirst 2, ?_, ?_⟩
  · rw [← schema]
    exact (agree.1 (ofNat 0)).2.mpr (.inr (by decide))
  · rw [← expiration]
    exact (agree.2 .perpetual).2.mpr (.inr (by decide))

/-- With twenty-six UIDs at capacity 25, the walk backwards ends at once without any of them,
and the second page of the class is empty although its last UID is still to come. -/
theorem readers_disagree :
    let state := run step deployed (smallRun 26)
    let uids := (List.range 26).map (fun number => ofNat (number + 1))
    Admissible step TiersFirst deployed (smallRun 26) ∧ getAttestationsBySchema state (ofNat 0) = .ok uids ∧
      Walk (SchemaReverse state (ofNat 0)) none [26] [] ∧
      getAttsBySchemaRecent sasCall ⟨none, none⟩ state (ofNat 0) 26 = .ok ([], ⟨some 1, some 1⟩) ∧
      getAttestationsByExpiration state .perpetual = .ok uids ∧
      getAttsByExpirationPaginated sasCall ⟨none, none⟩ state .perpetual 25 25 = .ok ([], ⟨some 1, some 1⟩) := by
  intro state uids
  have ends : [] = (collectReversePage state (state.schemaTotal (ofNat 0)) none 26 true
        (state.schemaChunks (ofNat 0))).uids ∧
      none = (collectReversePage state (state.schemaTotal (ofNat 0)) none 26 true
        (state.schemaChunks (ofNat 0))).nextCursor.map some := by
    decide +kernel
  refine ⟨smallRun_tiersFirst 26, by decide +kernel, Walk.last ?_, by decide +kernel,
    by decide +kernel, by decide +kernel⟩
  exact ⟨sasCall, ⟨none, none⟩, _, _, schemaReverse_fresh state (ofNat 0) none 26, ends.1, ends.2⟩

end SorobanSas.Indexer
