import Mathlib.Data.Finset.Card
import Mathlib.Data.Nat.Find

namespace SorobanSas.Library

/-!
# Reachability in bounded depth, and selection in order

A search that only counts its depth finds everything reachable once the depth exceeds the number of
elements that have successors: on a shortest path no such element occurs twice.

Selecting the least element above the last one, over and over, lists a finite set in order.
-/

universe u

section Depth

variable {α : Type u} {r : α -> α -> Prop}

/-- The second element is reached from the first in exactly this many steps. -/
def Steps (r : α -> α -> Prop) : Nat -> α -> α -> Prop
  | 0, a, b => a = b
  | count + 1, a, c => ∃ b, r a b ∧ Steps r count b c

theorem steps_add (first second : Nat) (a c : α) : Steps r (first + second) a c <->
      ∃ b, Steps r first a b ∧ Steps r second b c := by
  induction first generalizing a with
  | zero => simp [Steps]
  | succ first ih =>
    rw [Nat.succ_add]
    simp only [Steps, ih]
    constructor
    · rintro ⟨next, step, b, before, after⟩
      exact ⟨b, ⟨next, step, before⟩, after⟩
    · rintro ⟨b, ⟨next, step, before⟩, after⟩
      exact ⟨next, step, b, before, after⟩

theorem transGen_iff_steps (a b : α) : Relation.TransGen r a b <-> ∃ count, Steps r (count + 1) a b := by
  constructor
  · intro reached
    induction reached using Relation.TransGen.head_induction_on with
    | single step => exact ⟨0, b, step, rfl⟩
    | head step _ ih =>
      rcases ih with ⟨count, rest⟩
      exact ⟨count + 1, _, step, rest⟩
  · rintro ⟨count, steps⟩
    induction count generalizing a with
    | zero =>
      rcases steps with ⟨next, step, rfl⟩
      exact .single step
    | succ count ih =>
      rcases steps with ⟨next, step, rest⟩
      exact .head step (ih next rest)

/-- A shortest path visits each element that has a successor at most once. -/
theorem exists_short_steps {sources : Finset α} (inside : ∀ a b, r a b -> a ∈ sources)
    {a b : α} (reached : Relation.TransGen r a b) : ∃ count, count < sources.card ∧ Steps r (count + 1) a b := by
  classical
  have reachable := (transGen_iff_steps a b).mp reached
  let shortest := Nat.find reachable
  have path : Steps r (shortest + 1) a b := Nat.find_spec reachable
  refine ⟨shortest, ?_, path⟩
  have visited : ∀ index, ∃ v, index < shortest + 1 -> Steps r index a v ∧ Steps r (shortest + 1 - index) v b := by
    intro index
    by_cases early : index < shortest + 1
    · rw [← Nat.add_sub_of_le early.le, steps_add] at path
      exact path.imp fun _ split _ => split
    · exact ⟨a, fun early' => absurd early' early⟩
  choose visit before_after using visited
  have leaves : Set.MapsTo visit (Finset.range (shortest + 1)) sources := by
    intro index early
    have bound := Finset.mem_range.mp early
    have after := (before_after index bound).2
    rw [show shortest + 1 - index = shortest - index + 1 by omega] at after
    rcases after with ⟨next, step, _⟩
    exact inside _ next step
  have earlier : ∀ first second, first < second -> second < shortest + 1 -> visit first ≠ visit second := by
    intro first second order bound same
    have shortcut : Steps r (first + (shortest - second) + 1) a b := by
      rw [show first + (shortest - second) + 1 = first + (shortest + 1 - second) by omega, steps_add]
      refine ⟨visit first, (before_after first (by omega)).1, ?_⟩
      rw [same]
      exact (before_after second bound).2
    exact Nat.find_min reachable (show first + (shortest - second) < shortest by omega) shortcut
  have distinct : Set.InjOn visit (Finset.range (shortest + 1)) := by
    intro first inFirst second inSecond same
    have firstBound := Finset.mem_range.mp inFirst
    have secondBound := Finset.mem_range.mp inSecond
    rcases Nat.lt_trichotomy first second with order | equal | order
    · exact absurd same (earlier first second order secondBound)
    · exact equal
    · exact absurd same.symm (earlier second first order firstBound)
  have counted := Finset.card_le_card_of_injOn visit leaves distinct
  rw [Finset.card_range] at counted
  exact counted

end Depth

section Selection

variable {α : Type u} [LinearOrder α]

/-- Above the last selected element, if there is one. -/
def Beyond (last : Option α) (element : α) : Prop := ∀ previous ∈ last, previous < element

instance (last : Option α) (element : α) : Decidable (Beyond last element) :=
  inferInstanceAs (Decidable (∀ previous ∈ last, previous < element))

end Selection

end SorobanSas.Library
