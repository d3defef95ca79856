import Mathlib.Data.List.Basic

namespace SorobanSas.Library

open List

/-!
# Following links to a root

Each item has at most one link, to another item.  The ascent of an item is the list of the
items that its link leads to, the link of that one, and so on until there is none.  An item
has at most one ascent, and no item occurs twice in it.

A forest is built by adding items one at a time, each linked to an item that is there already
or to none.  Then every item has an ascent, and what is added later does not change it.
-/

variable {α : Type*} {next : α -> Option α}

/-- The links from an item, followed to the end, lead through these items. -/
inductive Ascent (next : α -> Option α) : α -> List α -> Prop
  | root {item : α} : next item = none -> Ascent next item []
  | link {item above : α} {rest : List α} :
      next item = some above -> Ascent next above rest -> Ascent next item (above :: rest)

namespace Ascent

variable {item : α} {path : List α}

theorem unique {other : List α} (first : Ascent next item path) (second : Ascent next item other) : path = other := by
  induction first generalizing other with
  | root ended =>
    cases second with
    | root => rfl
    | link linked => cases ended.symm.trans linked
  | link linked _ ih =>
    cases second with
    | root ended => cases ended.symm.trans linked
    | link also rest =>
      cases linked.symm.trans also
      rw [ih rest]

/-- Every item on the way has a shorter ascent. -/
theorem of_mem (ascent : Ascent next item path) {above : α} (member : above ∈ path) :
    ∃ rest, Ascent next above rest ∧ rest.length < path.length := by
  induction ascent with
  | root => cases member
  | link _ rest ih =>
    rcases List.mem_cons.mp member with rfl | further
    · exact ⟨_, rest, Nat.lt_succ_self _⟩
    · rcases ih further with ⟨remaining, ascends, shorter⟩
      exact ⟨remaining, ascends, Nat.lt_succ_of_lt shorter⟩

theorem nodup (ascent : Ascent next item path) : (item :: path).Nodup := by
  induction ascent with
  | root => exact pairwise_singleton _ _
  | @link item above rest linked ascends ih =>
    refine List.nodup_cons.mpr ⟨fun again => ?_, ih⟩
    rcases (Ascent.link linked ascends).of_mem again with ⟨remaining, also, shorter⟩
    rw [also.unique (.link linked ascends)] at shorter
    exact Nat.lt_irrefl _ shorter

/-- Only the links of the items on the way matter. -/
theorem congr {later : α -> Option α} (ascent : Ascent next item path)
    (same : ∀ above ∈ item :: path, later above = next above) : Ascent later item path := by
  induction ascent with
  | root ended => exact .root ((same _ mem_cons_self).trans ended)
  | link linked _ ih =>
    exact .link ((same _ mem_cons_self).trans linked) (ih fun above member => same above (mem_cons_of_mem _ member))

/-- A transitive relation that holds along every link holds along the whole way. -/
theorem pairwise {related : α -> α -> Prop}
    (transitive : ∀ first second third, related first second -> related second third -> related first third)
    (links : ∀ lower upper, next lower = some upper -> related lower upper)
    (ascent : Ascent next item path) : (item :: path).Pairwise related := by
  induction ascent with
  | root => exact pairwise_singleton _ _
  | @link item above rest linked _ ih =>
    refine List.pairwise_cons.mpr ⟨fun upper member => ?_, ih⟩
    have step := links item above linked
    rcases List.mem_cons.mp member with rfl | further
    · exact step
    · exact transitive item above upper step (rel_of_pairwise_cons ih further)

end Ascent

/-! ## Forests -/

/-- Every present item has an ascent of bounded length through present items, and no other
item has a link. -/
structure Forest (next : α -> Option α) (present : α -> Prop) (bound : Nat) : Prop where
  unlinked : ∀ item, ¬ present item -> next item = none
  ascends : ∀ item, present item -> ∃ path, Ascent next item path ∧
    (∀ above ∈ path, present above) ∧ path.length <= bound

section Growing

variable [DecidableEq α] {present : α -> Prop} {bound : Nat} {fresh : α} {link : Option α}

/-- A new item is on no way. -/
theorem Ascent.insert {item : α} {path : List α} (ascent : Ascent next item path)
    (inside : present item) (above : ∀ above ∈ path, present above)
    (new : ¬ present fresh) : Ascent (Function.update next fresh link) item path := by
  refine ascent.congr fun upper member => Function.update_of_ne ?_ _ _
  rintro rfl
  rcases List.mem_cons.mp member with rfl | further
  · exact new inside
  · exact new (above upper further)

theorem Forest.insert (forest : Forest next present bound) (new : ¬ present fresh)
    (room : ∀ target, link = some target -> present target ∧ ∀ path, Ascent next target path -> path.length < bound) :
    Forest (Function.update next fresh link) (fun item => item = fresh ∨ present item) bound := by
  constructor
  · intro item absent
    rw [not_or] at absent
    rw [Function.update_of_ne absent.1]
    exact forest.unlinked item absent.2
  · rintro item (rfl | inside)
    · cases target : link with
      | none =>
        refine ⟨[], .root (Function.update_self _ _ _), ?_, Nat.zero_le _⟩
        rintro above ⟨⟩
      | some above =>
        rcases room above target with ⟨inside, short⟩
        rcases forest.ascends above inside with ⟨path, ascent, within, -⟩
        refine ⟨above :: path, .link (Function.update_self _ _ _) ?_, ?_, short path ascent⟩
        · exact ascent.insert inside within new
        · intro upper member
          rcases List.mem_cons.mp member with rfl | further
          · exact .inr inside
          · exact .inr (within upper further)
    · rcases forest.ascends item inside with ⟨path, ascent, within, short⟩
      exact ⟨path, ascent.insert inside within new, fun above member => .inr (within above member), short⟩

end Growing

end SorobanSas.Library
