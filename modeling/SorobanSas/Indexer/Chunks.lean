import SorobanSas.Library.ChunkedList
import SorobanSas.Indexer.Contract

namespace SorobanSas.Indexer

open Library List

/-!
# Reading back what the write path stored

The write path finds its chunk from the counter, the read path finds it from the
position.  This file relates both to `Layout`: appending to a row that holds a list
gives a row that holds the longer list, and reading such a row returns the list.
Rows written by two counters at once have no layout; for them only the first two
entries of chunk zero are followed.
-/

theorem chunkCapacity_bounds (state : State) : 25 <= chunkCapacity state ∧ chunkCapacity state <= 100 := by
  have bounds : capacityBounds = (25, 100) := by decide
  simp only [chunkCapacity, bounds, clamp]
  split
  · omega
  · split <;> omega

theorem adaptiveCapacityForTier_bounds (tier : Nat) :
    25 <= adaptiveCapacityForTier tier ∧ adaptiveCapacityForTier tier <= 100 := by
  match tier with
  | 0 => decide
  | 1 => decide
  | 2 => decide
  | tier + 3 => exact (by decide : 25 <= adaptiveCapacityForTier 3 ∧ adaptiveCapacityForTier 3 <= 100)

variable {state : State} {row : Row} {total : Nat} {capacity : Nat}

theorem chunkCapacity_of_tier {tier : Nat} (recorded : state.chunkCapacity = some (adaptiveCapacityForTier tier)) :
    chunkCapacity state = adaptiveCapacityForTier tier := by
  have bounds : capacityBounds = (25, 100) := by decide
  have inside := adaptiveCapacityForTier_bounds tier
  simp only [chunkCapacity, recorded, Option.getD_some, bounds, clamp]
  rw [if_neg (by omega), if_neg (by omega)]

theorem appendUid_of_room (uid : UID) (room : ((row (total / capacity)).getD []).length < capacity) :
    (appendUid capacity total row uid).1 = update row (total / capacity)
      (some ((row (total / capacity)).getD [] ++ [uid])) := by
  simp only [appendUid]
  rw [if_neg (by omega)]

variable {width : Nat} {items : List UID}

theorem appendUid_layout (layout : Layout capacity width items row) (uid : UID) :
    Layout capacity width (items ++ [uid]) (appendUid capacity items.length row uid).1 := by
  rw [appendUid_of_room uid layout.room]
  exact layout.push uid

/-- Whatever else shares the row, its first two entries stay as they were written. -/
theorem appendUid_take_two {writes : List UID} (uid : UID) (wide : 2 <= capacity)
    (counted : total <= writes.length) (agrees : ((row 0).getD []).take 2 = writes.take 2) :
    (((appendUid capacity total row uid).1 0).getD []).take 2 = (writes ++ [uid]).take 2 := by
  by_cases started : 2 <= writes.length
  · -- Chunk zero has two entries already, and appending keeps them.
    have long : 2 <= ((row 0).getD []).length := by
      have lengths := congrArg List.length agrees
      simp only [length_take] at lengths
      omega
    rw [take_append_of_le_length started, ← agrees]
    simp only [appendUid]
    split
    · dsimp only
      rw [update_of_ne (Nat.succ_ne_zero _).symm]
    · dsimp only
      by_cases zero : total / capacity = 0
      · rw [zero, update_self, Option.getD_some, take_append_of_le_length long]
      · rw [update_of_ne (Ne.symm zero)]
  · -- At most one write so far: chunk zero is exactly the writes.
    have chunk : (row 0).getD [] = writes := by
      have lengths := congrArg List.length agrees
      simp only [length_take] at lengths
      rwa [take_of_length_le (by omega), take_of_length_le (by omega)] at agrees
    have zero : total / capacity = 0 := Nat.div_eq_of_lt (by omega)
    simp only [appendUid, zero, chunk]
    rw [if_neg (by omega)]
    simp

/-! ## Reading -/

section Reading

variable {keep : UID -> Bool} {fuel : Nat}

/-- The output only grows. -/
theorem collectLoop_extends {index : Nat} {out result : List UID}
    (success : collectLoop capacity total row keep fuel index out = .ok result) : out <+: result := by
  induction fuel generalizing index out with
  | zero =>
    simp only [collectLoop, Except.ok.injEq] at success
    exact success ▸ prefix_rfl
  | succ fuel ih =>
    simp only [collectLoop] at success
    split at success
    · split at success
      · simp only [Except.ok.injEq] at success
        exact success ▸ prefix_rfl
      · split at success
        · rw [bind_eq_ok] at success
          rcases success with ⟨next, -, rest⟩
          exact ih rest
        · exact (prefix_append _ _).trans (ih success)
    · simp only [Except.ok.injEq] at success
      exact success ▸ prefix_rfl

theorem collectLoop_starts {chunk result : List UID} (entered : 0 < fuel) (nonempty : chunk ≠ [])
    (zero : row 0 = some chunk) (all : ∀ uid, keep uid = true)
    (success : collectLoop capacity total row keep fuel 0 [] = .ok result) : chunk.take total <+: result := by
  obtain ⟨fuel, rfl⟩ : ∃ rest, fuel = rest + 1 := ⟨fuel - 1, by omega⟩
  have positive : 0 < chunk.length := List.length_pos_iff.mpr nonempty
  rw [collectLoop] at success
  by_cases some_left : 0 < total
  · simp only [some_left, if_true, Nat.zero_div, Nat.zero_mod, zero, Nat.not_le.mpr positive,
      if_false, drop_zero, Nat.sub_zero, nil_append] at success
    have start := collectLoop_extends success
    rw [List.filter_eq_self.mpr (fun uid _ => all uid)] at start
    by_cases long : total <= chunk.length
    · rwa [Nat.min_eq_right long] at start
    · rw [Nat.min_eq_left (by omega), take_length] at start
      rwa [take_of_length_le (by omega)]
  · have none_left : total = 0 := by omega
    simp [none_left]

/-- Reading from a reachable position of a row with a layout returns the list from there up
to the end of the read, filtered. -/
theorem collectLoop_layout (layout : Layout capacity width items row) (counted : total <= items.length)
    {index : Nat} (enough : total - index <= fuel)
    (reachable : index < total -> index < capacity ∨ capacity * width <= index) (out : List UID) :
    collectLoop capacity total row keep fuel index out = .ok (out ++ ((items.take total).drop index).filter keep) := by
  have length : (items.take total).length = total := by
    rw [length_take]
    omega
  induction fuel generalizing index out with
  | zero => rw [collectLoop, drop_eq_nil_of_le (by omega)]; simp
  | succ fuel ih =>
    rw [collectLoop]
    by_cases inside : index < total
    · obtain ⟨chunk, count, found, windowed, positive, boundary⟩ :=
        layout.window (Nat.lt_of_lt_of_le inside counted) (reachable inside)
      have available : chunk.length - index % capacity = min count (items.length - index) := by
        have lengths := congrArg List.length windowed
        simpa using lengths
      have nonempty : ¬ chunk.length <= index % capacity := by omega
      -- The window is consumed as far as the read goes, so the next position starts a chunk or
      -- ends the read.
      have consumed : ((chunk.drop (index % capacity)).take (min (chunk.length - index % capacity) (total - index))) =
            ((items.take total).drop index).take (min count (total - index)) := by
        rw [available, windowed, take_take, drop_take, take_take]
        congr 1
        omega
      have advanced : min (chunk.length - index % capacity) (total - index) = min count (total - index) := by
        omega
      simp only [inside, if_true, found, nonempty, if_false, consumed]
      rw [advanced, ih (by omega) (by omega)]
      rw [append_assoc, ← filter_append, ← drop_drop, take_append_drop]
    · rw [if_neg inside, drop_eq_nil_of_le (by omega)]
      simp

end Reading

/-- Reading a row with a layout returns the list it holds, without the inactive UIDs if they
are not asked for. -/
theorem collectFiltered_layout_filter (layout : Layout (chunkCapacity state) width items row)
    (counted : total = items.length) (includeRevoked : Bool) : collectFiltered state total row includeRevoked =
      .ok (items.filter fun uid => includeRevoked || isActive state uid) := by
  have start : 0 < chunkCapacity state ∨ chunkCapacity state * width <= 0 := .inl layout.capacity_pos
  rw [collectFiltered, collectLoop_layout layout (Nat.le_of_eq counted) (Nat.sub_le total 0) (fun _ => start), counted]
  simp

theorem collectFiltered_layout (layout : Layout (chunkCapacity state) width items row)
    (counted : total = items.length) : collectFiltered state total row true = .ok items := by
  rw [collectFiltered_layout_filter layout counted]
  simp

/-- Nothing counted, nothing read. -/
theorem collectFiltered_zero (state : State) (row : Row) (includeRevoked : Bool) :
    collectFiltered state 0 row includeRevoked = .ok [] := rfl

theorem collectFiltered_first {chunk : List UID} (zero : row 0 = some chunk) (positive : 0 < total)
    (fits : total <= chunk.length) : collectFiltered state total row true = .ok (chunk.take total) := by
  obtain ⟨rest, rfl⟩ : ∃ rest, total = rest + 1 := ⟨total - 1, by omega⟩
  have capacityPos : 0 < chunkCapacity state := by
    have := chunkCapacity_bounds state
    omega
  rw [collectFiltered, collectLoop]
  simp only [positive, if_true, Nat.zero_div, Nat.zero_mod, zero, drop_zero, Nat.sub_zero,
    Nat.min_eq_right fits, nil_append, Bool.true_or, filter_true, Nat.zero_add]
  rw [if_neg (by omega)]
  cases rest with
  | zero => rfl
  | succ rest => simp only [collectLoop, lt_irrefl, if_false]

end SorobanSas.Indexer
