import Mathlib.Data.List.Basic

namespace SorobanSas.Library

open List

/-!
# Reading a list page by page

A paged reader answers a cursor and a limit with a page and, unless it has come to the end,
with the cursor for the next page.  Readers may depend on more than the two arguments, so a
reader is a relation here: what it can answer.

A walk follows the cursors until there is no next one.  Two things are asked of the walks
with positive limits: whatever limits are chosen, some number of calls completes a walk, and
every complete walk returns the same list.  Pages may be shorter than the limit, or empty,
before the end.
-/

variable {κ α : Type*} {cursor : κ} {limits : List Nat} {found : List α}

/-- The calls that are made with these limits follow one another and come to the end, and
these are their pages put together. -/
inductive Walk (read : κ -> Nat -> List α -> Option κ -> Prop) : κ -> List Nat -> List α -> Prop
  | last {cursor : κ} {limit : Nat} {page : List α} :
      read cursor limit page none -> Walk read cursor [limit] page
  | turn {cursor next : κ} {limit : Nat} {page : List α} {limits : List Nat} {rest : List α} :
      read cursor limit page (some next) -> Walk read next limits rest ->
      Walk read cursor (limit :: limits) (page ++ rest)

/-- Walks with positive limits come to the end, and return exactly the items. -/
structure Enumerates (read : κ -> Nat -> List α -> Option κ -> Prop) (start : κ) (items : List α) : Prop where
  returns : ∀ limits found, (∀ limit ∈ limits, 0 < limit) -> Walk read start limits found -> found = items
  completes : ∀ limits : Nat -> Nat, (∀ turn, 0 < limits turn) ->
    ∃ turns found, Walk read start ((List.range turns).map limits) found

variable {read : κ -> Nat -> List α -> Option κ -> Prop}

/-- One answer of a reader that has still to return the remaining items: all of them, or
some of them and a cursor at which the others remain. -/
structure Advances (remaining : κ -> List α) (valid : κ -> Prop) (rank : κ -> Nat) (cursor : κ)
    (page : List α) (next : Option κ) : Prop where
  ends : next = none -> page = remaining cursor
  continues : ∀ later, next = some later ->
    valid later ∧ rank later < rank cursor ∧ page ++ remaining later = remaining cursor

section Advancing

variable {remaining : κ -> List α} {valid : κ -> Prop} {rank : κ -> Nat}

variable (advances : ∀ cursor limit page next, valid cursor -> 0 < limit ->
    read cursor limit page next -> Advances remaining valid rank cursor page next)
  (answers : ∀ cursor limit, valid cursor -> 0 < limit -> ∃ page next, read cursor limit page next)

include advances

theorem Walk.eq_remaining (walk : Walk read cursor limits found) (permitted : valid cursor)
    (positive : ∀ limit ∈ limits, 0 < limit) : found = remaining cursor := by
  induction walk with
  | last answered => exact (advances _ _ _ _ permitted (positive _ mem_cons_self) answered).ends rfl
  | turn answered _ ih =>
    rcases (advances _ _ _ _ permitted (positive _ mem_cons_self) answered).continues _ rfl
      with ⟨later, -, split⟩
    rw [ih later (fun limit member => positive limit (mem_cons_of_mem _ member)), split]

include answers

theorem walk_of_limits (permitted : valid cursor) {limits : Nat -> Nat} (positive : ∀ turn, 0 < limits turn) :
    ∃ turns found, Walk read cursor ((List.range turns).map limits) found := by
  induction bound : rank cursor using Nat.strongRecOn generalizing cursor limits with
  | ind bound ih =>
    subst bound
    rcases answers cursor (limits 0) permitted (positive 0) with ⟨page, next, answered⟩
    have advance := advances cursor (limits 0) page next permitted (positive 0) answered
    cases next with
    | none => exact ⟨1, page, Walk.last answered⟩
    | some later =>
      rcases advance.continues later rfl with ⟨still, lower, -⟩
      rcases ih (rank later) lower still (fun turn => positive (turn + 1)) rfl with ⟨turns, found, walk⟩
      refine ⟨turns + 1, page ++ found, ?_⟩
      rw [range_succ_eq_map, map_cons, map_map]
      exact Walk.turn answered walk

variable (remaining valid rank)

/-- A reader that answers every valid cursor, and advances with every answer, enumerates
what remains at the start. -/
theorem enumerates_of_advances {start : κ} (permitted : valid start) : Enumerates read start (remaining start) where
  returns := fun _ _ positive walk => walk.eq_remaining advances permitted positive
  completes := fun _ positive => walk_of_limits advances answers permitted positive

end Advancing

/-- A walk starts with an answer at its cursor. -/
theorem Walk.first (walk : Walk read cursor limits found) :
    ∃ limit page next rest, limit ∈ limits ∧ read cursor limit page next ∧ found = page ++ rest := by
  cases walk with
  | last answered => exact ⟨_, _, _, [], mem_cons_self, answered, by simp⟩
  | turn answered => exact ⟨_, _, _, _, mem_cons_self, answered, rfl⟩

/-- A cursor that leads only to itself is on no walk. -/
theorem Walk.not_stuck (walk : Walk read cursor limits found)
    (stuck : ∀ limit page next, read cursor limit page next -> next = some cursor) : False := by
  induction walk with
  | last answered => cases stuck _ _ _ answered
  | turn answered _ ih =>
    cases stuck _ _ _ answered
    exact ih stuck

/-! ## Cursors that are positions -/

/-- The next page starts where this one ended, until the total is reached. -/
def fromOffset (total : Nat) (page : Nat -> Nat -> List α -> Prop) (cursor limit : Nat)
    (found : List α) (next : Option Nat) : Prop :=
  page cursor limit found ∧ next = if cursor + found.length < total then some (cursor + found.length) else none

/-- Windows of a list, read one after the other, are the list. -/
theorem enumerates_fromOffset {page : Nat -> Nat -> List α -> Prop} {items : List α}
    (exact : ∀ cursor limit found, page cursor limit found -> found = (items.drop cursor).take limit)
    (answers : ∀ cursor limit, ∃ found, page cursor limit found) :
    Enumerates (fromOffset items.length page) 0 items := by
  refine enumerates_of_advances (fun cursor => items.drop cursor) (fun _ => True)
    (fun cursor => items.length - cursor) ?_ ?_ trivial
  · rintro cursor limit found next - positive ⟨read, rfl⟩
    have window := exact cursor limit found read
    have length : found.length = min limit (items.length - cursor) := by
      rw [window, length_take, length_drop]
    refine ⟨fun ended => ?_, fun later continued => ?_⟩
    · have covered : items.length <= cursor + found.length := by
        by_contra short
        rw [if_pos (by omega)] at ended
        cases ended
      rw [window]
      apply take_of_length_le
      rw [length_drop]
      omega
    · split at continued
      · cases continued
        refine ⟨trivial, by omega, ?_⟩
        have consumed : limit = found.length := by omega
        rw [← drop_drop, ← consumed, window, take_append_drop]
      · cases continued
  · rintro cursor limit - -
    rcases answers cursor limit with ⟨found, read⟩
    exact ⟨found, _, read, rfl⟩

/-- The reader returns the position it has come to, until that is the total. -/
def untilTotal (total : Nat) (answer : Nat -> Nat -> List α -> Nat -> Prop) (cursor limit : Nat)
    (found : List α) (next : Option Nat) : Prop :=
  ∃ reached, answer cursor limit found reached ∧ next = if reached = total then none else some reached

/-- A reader that passes over a positive number of entries, and returns those it selects,
enumerates the selected entries. -/
theorem enumerates_untilTotal {β : Type*} {answer : Nat -> Nat -> List α -> Nat -> Prop}
    {entries : List β} {select : β -> Option α}
    (spans : ∀ cursor limit found reached, cursor <= entries.length -> 0 < limit ->
      answer cursor limit found reached -> ∃ span, reached = cursor + span ∧
        reached <= entries.length ∧ found = ((entries.drop cursor).take span).filterMap select ∧
        (cursor < entries.length -> 0 < span))
    (answers : ∀ cursor limit, ∃ found reached, answer cursor limit found reached) :
    Enumerates (untilTotal entries.length answer) 0 (entries.filterMap select) := by
  refine enumerates_of_advances (fun cursor => (entries.drop cursor).filterMap select)
    (fun cursor => cursor <= entries.length) (fun cursor => entries.length - cursor) ?_ ?_
    (Nat.zero_le _)
  · rintro cursor limit found next inside positive ⟨reached, answered, rfl⟩
    rcases spans cursor limit found reached inside positive answered with ⟨span, rfl, within, rfl, moves⟩
    refine ⟨fun ended => ?_, fun later continued => ?_⟩
    · have covered : cursor + span = entries.length := by
        by_contra short
        rw [if_neg short] at ended
        cases ended
      rw [take_of_length_le (by rw [length_drop]; omega)]
    · split at continued
      · cases continued
      · rename_i short
        cases continued
        have moved := moves (by omega)
        refine ⟨within, by omega, ?_⟩
        rw [← filterMap_append, ← drop_drop, take_append_drop]
  · rintro cursor limit - -
    rcases answers cursor limit with ⟨found, reached, answered⟩
    exact ⟨found, _, reached, answered, rfl⟩

end SorobanSas.Library
