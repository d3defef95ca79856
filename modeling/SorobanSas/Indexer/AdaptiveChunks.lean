import SorobanSas.Indexer.Runs

namespace SorobanSas.Indexer

open Library List

/-!
# Changing the chunk capacity

`set_chunk_tier` changes the capacity that both the write path and the read path use
to find a chunk, and leaves the stored chunks as they are.  A schema history that
spans several chunks can then no longer be found.  One that lies in its first chunk
can, and it can also be extended provided that the new capacity has room for it or
divides its length.

The theorem at the end covers every run whose capacity changes all meet that
condition.  Nothing is assumed about the calls in between.
-/

/-- The state in which a new tier can be recorded without losing a schema history:
the capacity stays what it is, or the history of every schema lies in its first chunk
and fits, or is aligned to, the new capacity. -/
def Retunable (state : State) (tier : Nat) : Prop :=
  ∀ schemaUid, adaptiveCapacityForTier tier = chunkCapacity state ∨
    ((state.schemaChunks schemaUid 0).getD []).length = state.schemaTotal schemaUid ∧
      (state.schemaTotal schemaUid <= adaptiveCapacityForTier tier ∨
        adaptiveCapacityForTier tier ∣ state.schemaTotal schemaUid)

/-- The condition on one call: if it changes the tier, the state is retunable. -/
def TunesSafely (state : State) (call : Env × Call) : Prop :=
  ∀ tier next, call.2 = .setChunkTier tier -> step state call = .ok next -> Retunable state tier

structure SchemaRows (entries : History) (state : State) : Prop where
  counted : Counted entries state
  layout : ∀ schemaUid, ∃ width, Layout (chunkCapacity state) width (schemaUids schemaUid entries)
      (state.schemaChunks schemaUid)
  small : ∀ schemaUid chunkIndex chunk,
    state.schemaChunks schemaUid chunkIndex = some chunk -> chunk.length <= maxChunkSize

theorem appendUid_small {capacity width : Nat} {items : List UID} {row : Row}
    (layout : Layout capacity width items row) (bounded : capacity <= maxChunkSize)
    (small : ∀ chunkIndex chunk, row chunkIndex = some chunk -> chunk.length <= maxChunkSize)
    (uid : UID) {chunkIndex : Nat} {chunk : List UID}
    (stored : (appendUid capacity items.length row uid).1 chunkIndex = some chunk) : chunk.length <= maxChunkSize := by
  have room := layout.room
  rw [appendUid_of_room uid room] at stored
  rcases update_eq.mp stored with ⟨rfl, ⟨⟩⟩ | ⟨-, stored⟩
  · rw [length_append, length_singleton]
    omega
  · exact small chunkIndex chunk stored

namespace SchemaRows

theorem initial : SchemaRows [] deployed where
  counted := Counted.initial
  layout := fun _ => ⟨1, Layout.empty (by decide)⟩
  small := by simp [deployed]

variable {entries : History} {before after : State}

theorem files {uid : UID} {record : IndexRecord} (rows : SchemaRows entries before)
    (fresh : before.indexed uid = none) (change : NewlyIndexed before uid record after) :
    SchemaRows (entries ++ [(uid, record)]) after := by
  have capacity : chunkCapacity after = chunkCapacity before := by
    simp only [chunkCapacity, change.capacity]
  have bounded : chunkCapacity before <= maxChunkSize := (chunkCapacity_bounds before).2
  refine ⟨rows.counted.files fresh change, fun schemaUid => ?_, fun schemaUid => ?_⟩
  · rcases rows.layout schemaUid with ⟨width, layout⟩
    refine ⟨width, ?_⟩
    rw [capacity, change.schemaChunks, schemaUids_concat]
    by_cases same : record.schemaUid = schemaUid
    · subst same
      rw [update_self, if_pos rfl, rows.counted.schema]
      exact appendUid_layout layout uid
    · rw [update_of_ne (Ne.symm same), if_neg same, append_nil]
      exact layout
  · rw [change.schemaChunks]
    by_cases same : record.schemaUid = schemaUid
    · subst same
      rcases rows.layout record.schemaUid with ⟨width, layout⟩
      rw [update_self, rows.counted.schema]
      intro chunkIndex chunk stored
      exact appendUid_small layout bounded (rows.small record.schemaUid) uid stored
    · rw [update_of_ne (Ne.symm same)]
      exact rows.small schemaUid

theorem retunes {tier : Nat} (rows : SchemaRows entries before) (safe : Retunable before tier)
    (change : after = { before with
      chunkCapacity := some (adaptiveCapacityForTier tier), chunkTier := some tier }) : SchemaRows entries after := by
  have capacity : chunkCapacity after = adaptiveCapacityForTier tier := chunkCapacity_of_tier (by rw [change])
  have positive : 0 < adaptiveCapacityForTier tier := by
    have := adaptiveCapacityForTier_bounds tier
    omega
  refine ⟨rows.counted.same (by rw [change]) (by rw [change]) (by rw [change]),
    fun schemaUid => ?_, by rw [change]; exact rows.small⟩
  rcases rows.layout schemaUid with ⟨width, layout⟩
  rw [capacity, change]
  rcases safe schemaUid with same | ⟨single, aligned⟩
  · exact ⟨width, same ▸ layout⟩
  · rw [rows.counted.schema] at single aligned
    exact layout.recut positive single aligned

theorem same (rows : SchemaRows entries before) (unchanged : SameIndex before after) : SchemaRows entries after := by
  have capacity : chunkCapacity after = chunkCapacity before := by
    simp only [chunkCapacity, unchanged.capacity]
  refine ⟨rows.counted.same unchanged.indexed unchanged.addressTotal unchanged.schemaTotal, ?_, ?_⟩
  · rw [unchanged.schemaChunks, capacity]; exact rows.layout
  · rw [unchanged.schemaChunks]; exact rows.small

theorem run {calls : List (Env × Call)} (tuned : Admissible step TunesSafely deployed calls) :
    SchemaRows (history deployed calls) (Library.run step deployed calls) := by
  rw [← nil_append (history _ _)]
  refine history_invariant ?_ ?_ ?_ initial tuned
  · intro entries before after uid record rows fresh change
    exact rows.files fresh change
  · intro entries before call tier after rows permitted isTier success change
    exact rows.retunes (permitted tier after isTier success) change
  · intro entries before after rows unchanged
    exact rows.same unchanged

end SchemaRows

/-- In every run whose capacity changes are safe, the history of every schema is
returned once and in order, it is as long as its counter says, and no chunk exceeds
`MAX_CHUNK_SIZE`. -/
theorem schema_history_exact (calls : List (Env × Call))
    (tuned : Admissible step TunesSafely deployed calls) (schemaUid : UID) :
    let state := run step deployed calls
    let indexed := schemaUids schemaUid (history deployed calls)
    getAttestationsBySchema state schemaUid = .ok indexed ∧ indexed.Nodup ∧
      indexed.length = getCountBySchema state schemaUid ∧
      forall chunkIndex chunk, state.schemaChunks schemaUid chunkIndex = some chunk ->
        chunk.length ≤ maxChunkSize := by
  intro state indexed
  have rows := SchemaRows.run tuned
  rcases rows.layout schemaUid with ⟨width, layout⟩
  have total : state.schemaTotal schemaUid = indexed.length := rows.counted.schema schemaUid
  exact ⟨collectFiltered_layout layout total, rows.counted.uidsWhere_nodup _, total.symm, rows.small schemaUid⟩

open Address (accountOfNat)
open UID (ofNat)

/-- The call that indexes UID `number` under schema `0`. -/
def indexNumber (number : Nat) : Env × Call :=
  (sasCall, .indexAttestation (ofNat number) ⟨accountOfNat 2, ofNat 0, accountOfNat 3, 0⟩)

/-- A tier recorded before the first write, and two writes. -/
def tunedRun : List (Env × Call) :=
  [(sasCall, .init true (accountOfNat 1) (.contract 1)), (sasCall, .setChunkTier 0), indexNumber 1, indexNumber 2]

theorem schema_history_exact_tuned : Admissible step TunesSafely deployed tunedRun ∧
      getAttestationsBySchema (run step deployed tunedRun) (ofNat 0) = .ok [ofNat 1, ofNat 2] := by
  have tuned : Admissible step TunesSafely deployed tunedRun := by
    refine ⟨nofun, ?_, nofun, nofun, trivial⟩
    intro tier next _ _ schemaUid
    exact .inr ⟨rfl, .inl (Nat.zero_le _)⟩
  have indexed : schemaUids (ofNat 0) (history deployed tunedRun) = [ofNat 1, ofNat 2] := by decide
  refine ⟨tuned, ?_⟩
  rw [← indexed]
  exact (schema_history_exact tunedRun tuned (ofNat 0)).1

/-- Twenty-six UIDs at capacity 25, and then the next tier. -/
def retunedRun : List (Env × Call) :=
  [(sasCall, .init true (accountOfNat 1) (.contract 1)), (sasCall, .setChunkTier 0)] ++
    (List.range 26).map (fun number => indexNumber (number + 1)) ++ [(sasCall, .setChunkTier 1)]

/-- The twenty-sixth UID is counted but no longer listed. -/
theorem schema_history_truncated :
    let state := run step deployed retunedRun
    getCountBySchema state (ofNat 0) = 26 ∧ schemaUids (ofNat 0) (history deployed retunedRun) =
        (List.range 26).map (fun number => ofNat (number + 1)) ∧ getAttestationsBySchema state (ofNat 0) =
        .ok ((List.range 25).map (fun number => ofNat (number + 1))) := by
  decide +kernel

end SorobanSas.Indexer
