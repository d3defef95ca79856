import Mathlib.Logic.Relation
import Mathlib.Tactic.Common

namespace SorobanSas.Library

/-!
# Graphs with a rank

A graph in which every edge leads to a node of smaller rank has no cycle, and every walk in
it comes to an end.  A node may be added to such a graph if no edge leaves it, or if no edge
reaches it.
-/

open Relation (ReflTransGen TransGen)

universe u

variable {α : Type u} {edge : α -> α -> Prop}

/-- The rank decreases along every edge. -/
def Ranked (edge : α -> α -> Prop) : Prop :=
  ∃ rank : α -> Nat, ∀ source target, edge source target -> rank target < rank source

namespace Ranked

theorem mono {finer : α -> α -> Prop} (ranked : Ranked edge)
    (among : ∀ source target, finer source target -> edge source target) : Ranked finer := by
  rcases ranked with ⟨rank, decreases⟩
  exact ⟨rank, fun source target step => decreases source target (among source target step)⟩

theorem acyclic (ranked : Ranked edge) (node : α) : ¬ TransGen edge node node := by
  rcases ranked with ⟨rank, decreases⟩
  have descends {first last : α} (walk : TransGen edge first last) : rank last < rank first := by
    induction walk with
    | single step => exact decreases _ _ step
    | tail _ step ih => exact Nat.lt_trans (decreases _ _ step) ih
  intro cycle
  exact absurd (descends cycle) (Nat.lt_irrefl _)

/-- From every node a walk leads to one that no edge leaves. -/
theorem terminates (ranked : Ranked edge) (node : α) :
    ∃ last, ReflTransGen edge node last ∧ ∀ next, ¬ edge last next := by
  rcases ranked with ⟨rank, decreases⟩
  induction measured : rank node using Nat.strongRecOn generalizing node with
  | ind bound ih =>
    by_cases leaves : ∃ next, edge node next
    · rcases leaves with ⟨next, step⟩
      have smaller : rank next < bound := measured ▸ decreases node next step
      rcases ih _ smaller next rfl with ⟨last, walk, final⟩
      exact ⟨last, .head step walk, final⟩
    · exact ⟨node, .refl, fun next step => leaves ⟨next, step⟩⟩

section Extension

variable [DecidableEq α] {wider : α -> α -> Prop} {node : α}

/-- A new node that no edge leaves gets the lowest rank. -/
theorem add_sink (ranked : Ranked edge) (silent : ∀ target, ¬ wider node target)
    (old : ∀ source target, wider source target -> target ≠ node -> edge source target) : Ranked wider := by
  rcases ranked with ⟨rank, decreases⟩
  refine ⟨fun other => if other = node then 0 else rank other + 1, ?_⟩
  intro source target step
  have distinct : source ≠ node := by
    rintro rfl
    exact silent target step
  by_cases new : target = node
  · simp [new, distinct]
  · have smaller := decreases source target (old source target step new)
    simp only [if_neg new, if_neg distinct]
    omega

/-- A new node that no edge reaches gets a rank above the one it leads to. -/
theorem add_source (ranked : Ranked edge) (unreached : ∀ source, ¬ wider source node)
    (only : ∃ next, ∀ target, wider node target -> target = next)
    (old : ∀ source target, wider source target -> source ≠ node -> edge source target) : Ranked wider := by
  rcases ranked with ⟨rank, decreases⟩
  rcases only with ⟨next, only⟩
  refine ⟨fun other => if other = node then rank next + 1 else rank other, ?_⟩
  intro source target step
  have distinct : target ≠ node := by
    rintro rfl
    exact unreached source step
  by_cases new : source = node
  · subst new
    rw [only target step] at distinct ⊢
    simp [distinct]
  · simpa [distinct, new] using decreases source target (old source target step new)

end Extension

end Ranked

end SorobanSas.Library
