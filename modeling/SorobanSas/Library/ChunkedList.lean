import Mathlib.Data.List.Basic

namespace SorobanSas.Library

open List

/-!
# Lists stored in numbered chunks

An append-only list may be kept as a row of numbered chunks of bounded size.
The usual layout puts the items `capacity * j` up to `capacity * (j + 1)` in
chunk `j`.  When the capacity shrinks while everything is still in chunk zero,
that chunk is wider than the others, and the chunk numbers it covers stay
unused.  `Layout` describes both: the first chunk is `width` capacities wide,
the usual case being `width = 1`.

An empty chunk is never stored, so an absent entry and an empty slice are the
same thing.
-/

variable {α : Type*} {position : Nat} {items : List α}

/-- The stored form of a chunk. -/
def present : List α -> Option (List α)
  | [] => none
  | items => some items

@[simp] theorem present_getD (items : List α) : (present items).getD [] = items := by
  cases items <;> rfl

theorem present_of_ne_nil (nonempty : items ≠ []) : present items = some items := by
  cases items with
  | nil => exact absurd rfl nonempty
  | cons head tail => rfl

/-- `row` holds exactly `items`, in order. -/
structure Layout (capacity width : Nat) (items : List α) (row : Nat -> Option (List α)) : Prop where
  capacity_pos : 0 < capacity
  width_pos : 0 < width
  /-- A wide first chunk is full. -/
  full : width = 1 ∨ capacity * width <= items.length
  first : row 0 = present (items.take (capacity * width))
  skipped : ∀ index, 0 < index -> index < width -> row index = none
  slice : ∀ index, width <= index -> row index = present ((items.drop (capacity * index)).take capacity)

namespace Layout

variable {capacity width : Nat} {row : Nat -> Option (List α)}

/-- The empty row holds the empty list at every capacity. -/
theorem empty (positive : 0 < capacity) : Layout capacity 1 ([] : List α) (fun _ => none) where
  capacity_pos := positive
  width_pos := Nat.one_pos
  full := .inl rfl
  first := by simp [present]
  skipped := by intros; rfl
  slice := by intros; simp [present]

/-- The chunk that the next item goes to, and what it holds already.  Either
everything fits the first chunk or the first chunk is full. -/
theorem tail (layout : Layout capacity width items row) :
    (items.length < capacity ∧ width = 1 ∧ row 0 = present items) ∨
      (capacity * width <= items.length ∧ width <= items.length / capacity ∧ row (items.length / capacity) =
          present (items.drop (capacity * (items.length / capacity)))) := by
  have positive := layout.capacity_pos
  by_cases fits : items.length < capacity
  · have single : width = 1 := by
      rcases layout.full with single | filled
      · exact single
      · have := Nat.le_mul_of_pos_right capacity layout.width_pos
        omega
    refine .inl ⟨fits, single, ?_⟩
    rw [layout.first, single, Nat.mul_one, take_of_length_le (Nat.le_of_lt fits)]
  · have filled : capacity * width <= items.length := by
      rcases layout.full with single | filled
      · rw [single]; omega
      · exact filled
    have beyond : width <= items.length / capacity := by
      rw [Nat.le_div_iff_mul_le positive, Nat.mul_comm]
      exact filled
    refine .inr ⟨filled, beyond, ?_⟩
    rw [layout.slice _ beyond, take_of_length_le]
    rw [length_drop]
    have := Nat.div_add_mod items.length capacity
    have := Nat.mod_lt items.length positive
    omega

/-- The chunk the next item goes to always has room. -/
theorem room (layout : Layout capacity width items row) :
    ((row (items.length / capacity)).getD []).length < capacity := by
  rcases layout.tail with ⟨fits, -, zero⟩ | ⟨-, -, last⟩
  · rw [Nat.div_eq_of_lt fits, zero, present_getD]
    exact fits
  · rw [last, present_getD, length_drop]
    have := Nat.div_add_mod items.length capacity
    have := Nat.mod_lt items.length layout.capacity_pos
    omega

/-- Adding an item to the chunk numbered `length / capacity` appends it. -/
theorem push (layout : Layout capacity width items row) (item : α) : Layout capacity width (items ++ [item])
      (Function.update row (items.length / capacity) (some ((row (items.length / capacity)).getD [] ++ [item]))) := by
  have positive := layout.capacity_pos
  have stored (chunk : List α) : present (chunk ++ [item]) = some (chunk ++ [item]) := present_of_ne_nil (by simp)
  rcases layout.tail with ⟨fits, rfl, zero⟩ | ⟨filled, beyond, last⟩
  · -- Everything is in chunk zero, and stays there.
    rw [Nat.div_eq_of_lt fits, zero, present_getD]
    refine ⟨positive, Nat.one_pos, .inl rfl, ?_, ?_, ?_⟩
    · rw [Function.update_self, take_of_length_le (by simp; omega), stored]
    · intro index lower upper
      omega
    · intro index lower
      have away : (items ++ [item]).length <= capacity * index := by
        have := Nat.le_mul_of_pos_right capacity lower
        simp
        omega
      have before : items.length <= capacity * index := by simp at away; omega
      rw [Function.update_of_ne (by omega), layout.slice index lower, drop_eq_nil_of_le away, drop_eq_nil_of_le before]
  · -- The first chunk is full, and the item goes to the last slice.
    have split := Nat.div_add_mod items.length capacity
    have remainder := Nat.mod_lt items.length positive
    have widthPos := layout.width_pos
    rw [last, present_getD]
    refine ⟨positive, widthPos, .inr (by simp; omega), ?_, ?_, ?_⟩
    · rw [Function.update_of_ne (by omega), layout.first, take_append_of_le_length filled]
    · intro index lower upper
      rw [Function.update_of_ne (by omega), layout.skipped index lower upper]
    · intro index lower
      rcases Nat.lt_trichotomy index (items.length / capacity) with below | same | above
      · have bound : capacity * index + capacity <= capacity * (items.length / capacity) := by
          rw [← Nat.mul_succ]
          exact Nat.mul_le_mul_left capacity below
        rw [Function.update_of_ne (by omega), layout.slice index lower,
          drop_append_of_le_length (by omega), take_append_of_le_length]
        rw [length_drop]
        omega
      · subst same
        rw [Function.update_self, drop_append_of_le_length (by omega), take_of_length_le, stored]
        simp
        omega
      · have bound : capacity * (items.length / capacity) + capacity <= capacity * index := by
          rw [← Nat.mul_succ]
          exact Nat.mul_le_mul_left capacity above
        rw [Function.update_of_ne (by omega), layout.slice index lower,
          drop_eq_nil_of_le (by omega), drop_eq_nil_of_le (by simp; omega)]

/-- What a reader finds at a position it can reach: a nonempty window of the
list that ends with the list, or at the start of a later chunk. -/
theorem window (layout : Layout capacity width items row) (inside : position < items.length)
    (reachable : position < capacity ∨ capacity * width <= position) :
    ∃ chunk count, row (position / capacity) = some chunk ∧
      chunk.drop (position % capacity) = (items.drop position).take count ∧
      0 < count ∧ capacity * width <= position + count := by
  have positive := layout.capacity_pos
  have widthPos := layout.width_pos
  have wide : capacity <= capacity * width := Nat.le_mul_of_pos_right capacity widthPos
  rcases reachable with early | late
  · refine ⟨items.take (capacity * width), capacity * width - position, ?_, ?_, ?_, ?_⟩
    · rw [Nat.div_eq_of_lt early, layout.first]
      apply present_of_ne_nil
      rw [← length_pos_iff, length_take]
      omega
    · rw [Nat.mod_eq_of_lt early, drop_take]
    · omega
    · omega
  · have split := Nat.div_add_mod position capacity
    have remainder := Nat.mod_lt position positive
    have beyond : width <= position / capacity := by
      rw [Nat.le_div_iff_mul_le positive, Nat.mul_comm]
      exact late
    refine ⟨(items.drop (capacity * (position / capacity))).take capacity,
      capacity - position % capacity, ?_, ?_, ?_, ?_⟩
    · rw [layout.slice _ beyond]
      apply present_of_ne_nil
      rw [← length_pos_iff, length_take, length_drop]
      omega
    · rw [drop_take, drop_drop, split]
    · omega
    · omega

/-- A list that lies in the first chunk can be read at every capacity, and can
be extended at the new one when it fits it or is a multiple of it. -/
theorem recut (layout : Layout capacity width items row) {other : Nat} (positive : 0 < other)
    (single : ((row 0).getD []).length = items.length) (aligned : items.length <= other ∨ other ∣ items.length) :
    ∃ newWidth, Layout other newWidth items row := by
  have inside : items.length <= capacity * width := by
    rw [layout.first, present_getD, length_take] at single
    omega
  have zero : row 0 = present items := by rw [layout.first, take_of_length_le inside]
  have vacant (index : Nat) (lower : 0 < index) : row index = none := by
    by_cases covered : index < width
    · exact layout.skipped index lower covered
    · have bound : capacity * width <= capacity * index :=
        Nat.mul_le_mul_left capacity (by omega)
      rw [layout.slice index (by omega), drop_eq_nil_of_le (by omega), take_nil]
      rfl
  have outside {newWidth index : Nat} (covered : items.length <= other * newWidth)
      (lower : newWidth <= index) : items.drop (other * index) = [] := by
    have bound : other * newWidth <= other * index := Nat.mul_le_mul_left other lower
    exact drop_eq_nil_of_le (by omega)
  by_cases fits : items.length <= other
  · refine ⟨1, positive, Nat.one_pos, .inl rfl, ?_, fun index lower _ => vacant index lower, ?_⟩
    · rw [zero, Nat.mul_one, take_of_length_le fits]
    · intro index lower
      rw [outside (by omega) lower, take_nil, vacant index lower]
      rfl
  · rcases aligned.resolve_left fits with ⟨newWidth, multiple⟩
    have widthPos : 0 < newWidth := by
      rcases Nat.eq_zero_or_pos newWidth with vanishes | nonzero
      · rw [vanishes] at multiple; omega
      · exact nonzero
    refine ⟨newWidth, positive, widthPos, .inr (Nat.le_of_eq multiple.symm), ?_,
      fun index lower _ => vacant index lower, ?_⟩
    · rw [zero, take_of_length_le (Nat.le_of_eq multiple)]
    · intro index lower
      rw [outside (Nat.le_of_eq multiple) lower, take_nil, vacant index (by omega)]
      rfl

/-- A list that fits its first chunk is laid out at every capacity it fits. -/
theorem resize (layout : Layout capacity 1 items row) (fits : items.length <= capacity) {other : Nat}
    (positive : 0 < other) (fitsOther : items.length <= other) : Layout other 1 items row where
  capacity_pos := positive
  width_pos := Nat.one_pos
  full := .inl rfl
  first := by
    rw [layout.first, take_of_length_le (by omega), take_of_length_le (by omega)]
  skipped := by
    intro index lower upper
    omega
  slice := by
    intro index lower
    have beyond (size : Nat) (covers : items.length <= size) : items.drop (size * index) = [] := by
      have := Nat.le_mul_of_pos_right size lower
      exact drop_eq_nil_of_le (by omega)
    rw [layout.slice index lower, beyond capacity fits, beyond other fitsOther, take_nil, take_nil]

end Layout

/-! ## Consecutive full chunks -/

/-- The items lie in consecutive chunks of exactly `capacity` entries, the last one possibly
shorter.  Nothing is said about the chunk numbers past the last one. -/
structure Chunked (capacity : Nat) (items : List α) (row : Nat -> Option (List α)) : Prop where
  capacity_pos : 0 < capacity
  slice : ∀ index, capacity * index < items.length -> row index = some ((items.drop (capacity * index)).take capacity)

namespace Chunked

variable {capacity : Nat} {row : Nat -> Option (List α)}

/-- The chunk of a position holds the items from there up to the end of the chunk. -/
theorem window (chunked : Chunked capacity items row) (inside : position < items.length) :
    ∃ chunk, row (position / capacity) = some chunk ∧ chunk.drop (position % capacity) =
        (items.drop position).take (capacity - position % capacity) := by
  have split := Nat.div_add_mod position capacity
  refine ⟨_, chunked.slice (position / capacity) (by omega), ?_⟩
  rw [drop_take, drop_drop, split]

/-- Every position is found in its chunk. -/
theorem entry (chunked : Chunked capacity items row) (inside : position < items.length) :
    ∃ chunk, row (position / capacity) = some chunk ∧ chunk[position % capacity]? = some items[position] := by
  rcases chunked.window inside with ⟨chunk, stored, windowed⟩
  have room : 0 < capacity - position % capacity := Nat.sub_pos_of_lt (Nat.mod_lt position chunked.capacity_pos)
  have head := congrArg (fun rest => rest[0]?) windowed
  simp only [List.getElem?_drop, Nat.add_zero, List.getElem?_take, room, if_true] at head
  exact ⟨chunk, stored, head.trans (List.getElem?_eq_getElem inside)⟩

end Chunked

namespace Layout

variable {capacity : Nat} {row : Nat -> Option (List α)}

/-- A layout whose first chunk is not wider than the others. -/
theorem chunked (layout : Layout capacity 1 items row) : Chunked capacity items row where
  capacity_pos := layout.capacity_pos
  slice := by
    intro index inside
    have positive := layout.capacity_pos
    have nonempty : (items.drop (capacity * index)).take capacity ≠ [] := by
      rw [← length_pos_iff, length_take, length_drop]
      omega
    cases index with
    | zero =>
      rw [layout.first, Nat.mul_one, Nat.mul_zero, drop_zero]
      exact present_of_ne_nil nonempty
    | succ index => rw [layout.slice _ (Nat.succ_pos index), present_of_ne_nil nonempty]

/-- Every position is found in its chunk. -/
theorem entry (layout : Layout capacity 1 items row) (inside : position < items.length) :
    ∃ chunk, row (position / capacity) = some chunk ∧ chunk[position % capacity]? = some items[position] :=
  layout.chunked.entry inside

end Layout

end SorobanSas.Library
