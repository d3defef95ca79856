import Mathlib.Data.Finset.Card

namespace SorobanSas.Library

open List

/-!
# Sweeping a list

A sweep visits the items of a list in turn and treats each one that is due, counting how many it has
treated.  Treating an item settles it and leaves all others as they are, so an item that is listed
twice is treated once, and the count is the number of distinct items that were due at the start.
-/

universe u v w

/-- Items that can be due in a state, and what is done about one. -/
structure Sweep (σ : Type u) (ι : Type v) where
  due : σ -> ι -> Bool
  treat : σ -> ι -> σ
  settles : ∀ state item, due state item = true -> ∀ other,
    due (treat state item) other = true <-> due state other = true ∧ other ≠ item

namespace Sweep

variable {σ : Type u} {ι : Type v} {ν : Type w} (sweep : Sweep σ ι) {progress : Nat × σ} {items : List ι}

/-- One visit, with the number of items treated so far. -/
def visit (progress : Nat × σ) (item : ι) : Nat × σ :=
  if sweep.due progress.2 item then (progress.1 + 1, sweep.treat progress.2 item) else progress

def run (progress : Nat × σ) (items : List ι) : Nat × σ := items.foldl sweep.visit progress

theorem visit_of_due {item : ι} (due : sweep.due progress.2 item = true) :
    sweep.visit progress item = (progress.1 + 1, sweep.treat progress.2 item) := by
  rw [visit, if_pos due]

theorem visit_of_not_due {item : ι} (settled : ¬ sweep.due progress.2 item = true) :
    sweep.visit progress item = progress := by
  rw [visit, if_neg settled]

theorem due_visit (progress : Nat × σ) (item other : ι) : sweep.due (sweep.visit progress item).2 other = true <->
      sweep.due progress.2 other = true ∧ other ≠ item := by
  by_cases due : sweep.due progress.2 item = true
  · rw [sweep.visit_of_due due]
    exact sweep.settles progress.2 item due other
  · rw [sweep.visit_of_not_due due]
    constructor
    · intro other_due
      refine ⟨other_due, ?_⟩
      rintro rfl
      exact due other_due
    · exact And.left

/-- What is due after a sweep was due before it and not listed. -/
theorem due_run (progress : Nat × σ) (items : List ι) (other : ι) :
    sweep.due (sweep.run progress items).2 other = true <-> sweep.due progress.2 other = true ∧ other ∉ items := by
  induction items generalizing progress with
  | nil => simp [run]
  | cons item rest ih =>
    have continued := ih (sweep.visit progress item)
    rw [due_visit] at continued
    rw [run, foldl_cons, ← run, continued, mem_cons, not_or, and_assoc]

/-- A list with nothing due changes nothing. -/
theorem run_of_settled (settled : ∀ item ∈ items, ¬ sweep.due progress.2 item = true) :
    sweep.run progress items = progress := by
  induction items with
  | nil => rfl
  | cons item rest ih =>
    rw [run, foldl_cons, sweep.visit_of_not_due (settled item mem_cons_self), ← run]
    exact ih fun other member => settled other (mem_cons_of_mem _ member)

/-- What treating an item keeps, a sweep keeps. -/
theorem run_kept (view : σ -> ν) (kept : ∀ state item, sweep.due state item = true ->
      view (sweep.treat state item) = view state) (progress : Nat × σ) (items : List ι) :
    view (sweep.run progress items).2 = view progress.2 := by
  induction items generalizing progress with
  | nil => rfl
  | cons item rest ih =>
    rw [run, foldl_cons, ← run, ih]
    by_cases due : sweep.due progress.2 item = true
    · rw [sweep.visit_of_due due]
      exact kept progress.2 item due
    · rw [sweep.visit_of_not_due due]

/-- The number of distinct listed items that were due. -/
theorem count_run [DecidableEq ι] (progress : Nat × σ) (items : List ι) : (sweep.run progress items).1 =
      progress.1 + (items.toFinset.filter fun item => sweep.due progress.2 item = true).card := by
  induction items generalizing progress with
  | nil => rfl
  | cons item rest ih =>
    have later : (rest.toFinset.filter fun other => sweep.due (sweep.visit progress item).2 other = true) =
        (rest.toFinset.filter fun other => sweep.due progress.2 other = true).erase item := by
      ext other
      simp only [Finset.mem_filter, Finset.mem_erase, due_visit]
      tauto
    rw [run, foldl_cons, ← run, ih, later, toFinset_cons]
    by_cases due : sweep.due progress.2 item = true
    · have counted : (insert item (rest.toFinset.filter fun other => sweep.due progress.2 other = true)).card =
          ((rest.toFinset.filter fun other => sweep.due progress.2 other = true).erase item).card + 1 := by
        rw [← Finset.erase_insert_eq_erase, Finset.card_erase_add_one (Finset.mem_insert_self item _)]
      rw [Finset.filter_insert, if_pos due, sweep.visit_of_due due, counted]
      dsimp only
      omega
    · have absent : item ∉ rest.toFinset.filter fun other => sweep.due progress.2 other = true :=
        fun member => due (Finset.mem_filter.mp member).2
      rw [Finset.filter_insert, if_neg due, sweep.visit_of_not_due due, Finset.erase_eq_of_notMem absent]

section Views

variable (view : σ -> ι -> ν) (apart : ∀ state item, sweep.due state item = true -> ∀ other, other ≠ item ->
    view (sweep.treat state item) other = view state other) {other : ι}

include apart

theorem view_visit (progress : Nat × σ) {item : ι} (untreated : other ≠ item ∨ ¬ sweep.due progress.2 other = true) :
    view (sweep.visit progress item).2 other = view progress.2 other := by
  by_cases due : sweep.due progress.2 item = true
  · rw [sweep.visit_of_due due]
    refine apart progress.2 item due other ?_
    rcases untreated with different | settled
    · exact different
    · rintro rfl
      exact settled due
  · rw [sweep.visit_of_not_due due]

/-- What is not listed or not due looks as before. -/
theorem view_run_of_untreated (progress : Nat × σ) (untreated : other ∉ items ∨ ¬ sweep.due progress.2 other = true) :
    view (sweep.run progress items).2 other = view progress.2 other := by
  induction items generalizing progress with
  | nil => rfl
  | cons item rest ih =>
    have later : other ∉ rest ∨ ¬ sweep.due (sweep.visit progress item).2 other = true := by
      rcases untreated with unlisted | settled
      · exact .inl fun member => unlisted (mem_cons_of_mem _ member)
      · refine .inr fun due => settled ?_
        exact ((sweep.due_visit progress item other).mp due).1
    have now : other ≠ item ∨ ¬ sweep.due progress.2 other = true := by
      rcases untreated with unlisted | settled
      · refine .inl ?_
        rintro rfl
        exact unlisted mem_cons_self
      · exact .inr settled
    rw [run, foldl_cons, ← run, ih _ later, sweep.view_visit view apart progress now]

/-- A listed item that is due looks as if it had been treated alone. -/
theorem view_run_of_due (progress : Nat × σ) (listed : other ∈ items) (due : sweep.due progress.2 other = true) :
    ∃ state, sweep.due state other = true ∧ view state other = view progress.2 other ∧
      view (sweep.run progress items).2 other = view (sweep.treat state other) other := by
  induction items generalizing progress with
  | nil => cases listed
  | cons item rest ih =>
    rw [run, foldl_cons, ← run]
    by_cases same : other = item
    · subst same
      refine ⟨progress.2, due, rfl, ?_⟩
      have settled : ¬ sweep.due (sweep.visit progress other).2 other = true := by
        intro again
        exact ((sweep.due_visit progress other other).mp again).2 rfl
      rw [sweep.view_run_of_untreated view apart _ (.inr settled), sweep.visit_of_due due]
    · have still : sweep.due (sweep.visit progress item).2 other = true :=
        (sweep.due_visit progress item other).mpr ⟨due, same⟩
      have later : other ∈ rest := by
        rcases List.mem_cons.mp listed with first | later
        · exact absurd first same
        · exact later
      rcases ih _ later still with ⟨state, dueThere, looks, result⟩
      exact ⟨state, dueThere, looks.trans (sweep.view_visit view apart progress (.inl same)), result⟩

end Views

end Sweep

end SorobanSas.Library
