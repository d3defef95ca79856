import Mathlib.Data.List.Basic
import Mathlib.Data.List.Induction
import Mathlib.Tactic.Ring

namespace SorobanSas.Library

open List

/-!
# Trees of hashes

A list of digests is combined pairwise, level by level, until one is left.  An odd last entry
moves up unchanged, so the leaves of the resulting tree do not all have the same depth.

The construction is generic in what it combines.  Applied to digests it computes a root; applied
to trees it computes the tree that the root belongs to.  Whatever respects the two ways to combine
carries one over to the other.

A proof of membership is a list of siblings.  It is climbed from the leaf up with an operation that
need not know on which side the sibling stands.  Soundness is about siblings of any kind: what the
climb hashes last has to agree with what the top of the tree hashes, so the climb below it reaches
one of the two children.
-/

universe u v w

section Levels

variable {κ : Type u} {ν : Type v} {combine : κ -> κ -> κ} {level : List κ}

/-- Combine neighbours.  An odd last entry moves up unchanged. -/
def pairUp (combine : κ -> κ -> κ) : List κ -> List κ
  | first :: second :: rest => combine first second :: pairUp combine rest
  | rest => rest

theorem length_pairUp (combine : κ -> κ -> κ) (level : List κ) :
    (pairUp combine level).length = (level.length + 1) / 2 := by
  induction level using pairUp.induct with
  | case1 first second rest ih =>
    simp only [pairUp, length_cons, ih]
    omega
  | case2 rest short =>
    rcases rest with _ | ⟨only, _ | ⟨second, rest⟩⟩
    · simp [pairUp]
    · simp [pairUp]
    · exact absurd rfl (short only second rest)

/-- What respects the two ways to combine respects a level. -/
theorem map_pairUp {join : ν -> ν -> ν} {image : κ -> ν} (respects : ∀ first second, image (combine first second) =
      join (image first) (image second)) (level : List κ) :
    (pairUp combine level).map image = pairUp join (level.map image) := by
  induction level using pairUp.induct with
  | case1 first second rest ih => simp only [pairUp, map_cons, respects, ih]
  | case2 rest short =>
    rcases rest with _ | ⟨only, _ | ⟨second, rest⟩⟩
    · rfl
    · rfl
    · exact absurd rfl (short only second rest)

/-- Combine level by level until at most one entry is left. -/
def collapse (combine : κ -> κ -> κ) (level : List κ) : Option κ :=
  if 1 < level.length then collapse combine (pairUp combine level) else level.head?
termination_by level.length
decreasing_by
  rw [length_pairUp]
  omega

theorem collapse_of_long (long : 1 < level.length) :
    collapse combine level = collapse combine (pairUp combine level) := by
  rw [collapse, if_pos long]

theorem collapse_of_short (short : ¬ 1 < level.length) : collapse combine level = level.head? := by
  rw [collapse, if_neg short]

theorem map_collapse (join : ν -> ν -> ν) {image : κ -> ν} (respects : ∀ first second, image (combine first second) =
      join (image first) (image second)) (level : List κ) :
    (collapse combine level).map image = collapse join (level.map image) := by
  induction level using collapse.induct combine with
  | case1 level long ih =>
    rw [collapse_of_long long, ih, map_pairUp respects, ← collapse_of_long]
    rwa [length_map]
  | case2 level short =>
    rw [collapse_of_short short, collapse_of_short (by rwa [length_map]), List.head?_map]

/-- What holds of a list and is kept by a level holds of the one entry that is left. -/
theorem collapse_invariant (invariant : List κ -> Prop)
    (kept : ∀ level, invariant level -> invariant (pairUp combine level)) (start : invariant level)
    {last : κ} (result : collapse combine level = some last) : invariant [last] := by
  induction level using collapse.induct combine with
  | case1 level long ih =>
    rw [collapse_of_long long] at result
    exact ih (kept level start) result
  | case2 level short =>
    rw [collapse_of_short short] at result
    rcases level with _ | ⟨only, _ | ⟨second, rest⟩⟩
    · cases result
    · cases result
      exact start
    · exact absurd (by simp) short

theorem exists_collapse (combine : κ -> κ -> κ) (nonempty : level ≠ []) :
    ∃ last, collapse combine level = some last := by
  induction level using collapse.induct combine with
  | case1 level long ih =>
    rw [collapse_of_long long]
    apply ih
    intro empty
    have length := length_pairUp combine level
    rw [empty, length_nil] at length
    omega
  | case2 level short =>
    rw [collapse_of_short short]
    rcases level with _ | ⟨only, rest⟩
    · exact absurd rfl nonempty
    · exact ⟨only, rfl⟩

end Levels

/-- A tree with values at its leaves. -/
inductive HashTree (α : Type u) where
  | leaf (value : α)
  | node (left right : HashTree α)

/-- Something that is hashed: a value, or two digests. -/
inductive HashInput (α : Type u) (κ : Type v) where
  | leaf (value : α)
  | node (first second : κ)

namespace HashTree

variable {α : Type u} {κ : Type v}

def leaves : HashTree α -> List α
  | leaf value => [value]
  | node left right => left.leaves ++ right.leaves

def depth : HashTree α -> Nat
  | leaf _ => 0
  | node left right => max left.depth right.depth + 1

/-! ## The tree of a list -/

theorem leaves_pairUp (level : List (HashTree α)) : (pairUp node level).flatMap leaves = level.flatMap leaves := by
  induction level using pairUp.induct with
  | case1 first second rest ih => simp only [pairUp, flatMap_cons, leaves, ih, append_assoc]
  | case2 rest short =>
    rcases rest with _ | ⟨only, _ | ⟨second, rest⟩⟩
    · rfl
    · rfl
    · exact absurd rfl (short only second rest)

/-- The leaves stay, in their order. -/
theorem leaves_collapse {values : List α} {tree : HashTree α}
    (built : collapse node (values.map leaf) = some tree) : tree.leaves = values := by
  have kept : [tree].flatMap leaves = (values.map leaf).flatMap leaves :=
    collapse_invariant (fun level => level.flatMap leaves = (values.map leaf).flatMap leaves)
      (fun level same => (leaves_pairUp level).trans same) rfl built
  simpa [flatMap_map, leaves] using kept

theorem depth_pairUp {bound : Nat} {level : List (HashTree α)} (shallow : ∀ tree ∈ level, tree.depth <= bound) :
    ∀ tree ∈ pairUp node level, tree.depth <= bound + 1 := by
  induction level using pairUp.induct with
  | case1 first second rest ih =>
    intro tree member
    rcases List.mem_cons.mp member with rfl | later
    · have left := shallow first (by simp)
      have right := shallow second (by simp)
      simp only [depth]
      omega
    · exact ih (fun tree later => shallow tree (by simp [later])) tree later
  | case2 rest short =>
    intro tree member
    rcases rest with _ | ⟨only, _ | ⟨second, rest⟩⟩
    · cases member
    · have bounded := shallow tree member
      omega
    · exact absurd rfl (short only second rest)

/-- Each level halves the list and adds at most one to the depth. -/
theorem depth_collapse {rounds bound : Nat} {level : List (HashTree α)} {tree : HashTree α}
    (few : level.length <= 2 ^ rounds) (shallow : ∀ tree ∈ level, tree.depth <= bound)
    (built : collapse node level = some tree) : tree.depth <= bound + rounds := by
  induction rounds generalizing level bound with
  | zero =>
    rw [collapse_of_short (by omega)] at built
    exact shallow tree (mem_of_head? built)
  | succ rounds ih =>
    by_cases long : 1 < level.length
    · rw [collapse_of_long long] at built
      have halved : (pairUp node level).length <= 2 ^ rounds := by
        rw [length_pairUp]
        rw [pow_succ] at few
        omega
      have bounded := ih halved (depth_pairUp shallow) built
      omega
    · rw [collapse_of_short long] at built
      have bounded := shallow tree (mem_of_head? built)
      omega

/-! ## Digests -/

section Digests

variable (leafHash : α -> κ) (nodeHash : κ -> κ -> κ)

/-- The digest of a tree. -/
def label : HashTree α -> κ
  | leaf value => leafHash value
  | node left right => nodeHash left.label right.label

/-- Combining digests computes the digest of the combined tree. -/
theorem label_collapse (values : List α) : (collapse node (values.map leaf)).map (label leafHash nodeHash) =
      collapse nodeHash (values.map leafHash) := by
  rw [map_collapse nodeHash (fun _ _ => rfl), map_map]
  rfl

/-- Everything that is hashed for the digest of a tree. -/
def inputs : HashTree α -> List (HashInput α κ)
  | leaf value => [.leaf value]
  | node left right =>
    .node (left.label leafHash nodeHash) (right.label leafHash nodeHash) :: (left.inputs ++ right.inputs)

end Digests

end HashTree

namespace HashInput

variable {α : Type u} {κ : Type v} (leafHash : α -> κ) (nodeHash : κ -> κ -> κ)

def hash : HashInput α κ -> κ
  | leaf value => leafHash value
  | node first second => nodeHash first second

/-- What the climb hashes is the same value as in the tree, or one of its two digests is the one
from below. -/
def Agrees : HashInput α κ -> HashInput α κ -> Prop
  | leaf known, leaf climbed => climbed = known
  | node left right, node below _ => below = left ∨ below = right
  | _, _ => False

/-- Everything that is hashed in a climb, apart from the leaf. -/
def steps (start : κ) : List κ -> List (HashInput α κ)
  | [] => []
  | sibling :: rest => .node start sibling :: steps (nodeHash start sibling) rest

/-- Everything that is hashed in a climb. -/
def climb (value : α) (siblings : List κ) : List (HashInput α κ) :=
  .leaf value :: steps nodeHash (leafHash value) siblings

theorem steps_concat (start : κ) (siblings : List κ) (last : κ) :
    (steps nodeHash start (siblings ++ [last]) : List (HashInput α κ)) =
      steps nodeHash start siblings ++ [.node (siblings.foldl nodeHash start) last] := by
  induction siblings generalizing start with
  | nil => rfl
  | cons sibling rest ih => simp only [cons_append, steps, ih, foldl_cons]

end HashInput

namespace HashTree

open HashInput (climb steps_concat)

variable {α : Type u} {κ : Type v} {leafHash : α -> κ} {nodeHash : κ -> κ -> κ}

/-- Every leaf has an opening that is no longer than the tree is deep. -/
theorem exists_opening (symmetric : ∀ first second, nodeHash first second =
      nodeHash second first) (tree : HashTree α) {value : α} (member : value ∈ tree.leaves) :
    ∃ siblings : List κ, siblings.length <= tree.depth ∧
      siblings.foldl nodeHash (leafHash value) = tree.label leafHash nodeHash := by
  induction tree with
  | leaf =>
    cases List.mem_singleton.mp member
    exact ⟨[], Nat.le_refl 0, rfl⟩
  | node left right fromLeft fromRight =>
    rcases List.mem_append.mp member with inLeft | inRight
    · rcases fromLeft inLeft with ⟨siblings, short, reaches⟩
      refine ⟨siblings ++ [right.label leafHash nodeHash], ?_, ?_⟩
      · simp only [length_append, length_singleton, depth]
        omega
      · simp only [foldl_append, foldl_cons, foldl_nil, reaches, label]
    · rcases fromRight inRight with ⟨siblings, short, reaches⟩
      refine ⟨siblings ++ [left.label leafHash nodeHash], ?_, ?_⟩
      · simp only [length_append, length_singleton, depth]
        omega
      · simp only [foldl_append, foldl_cons, foldl_nil, reaches, label]
        exact symmetric _ _

/-- A climb that ends in the digest of the tree has started from one of its leaves, whatever the
siblings are, if equal digests agree on what was hashed. -/
theorem mem_leaves_of_climb {tree : HashTree α} {value : α} {siblings : List κ}
    (binding : ∀ known, known ∈ tree.inputs leafHash nodeHash ->
      ∀ climbed, climbed ∈ climb leafHash nodeHash value siblings ->
      known.hash leafHash nodeHash = climbed.hash leafHash nodeHash -> known.Agrees climbed)
    (reached : siblings.foldl nodeHash (leafHash value) = tree.label leafHash nodeHash) : value ∈ tree.leaves := by
  -- The last sibling is combined at the top of the tree, so the induction is on the end of the list.
  induction siblings using List.reverseRecOn generalizing tree with
  | nil =>
    cases tree with
    | leaf known =>
      have same := binding (.leaf known) (by simp [inputs]) (.leaf value) (by simp [climb]) reached.symm
      exact List.mem_singleton.mpr same
    | node => exact (binding _ mem_cons_self (.leaf value) (by simp [climb]) reached.symm).elim
  | append_singleton siblings last ih =>
    rw [foldl_append] at reached
    have top : HashInput.node (siblings.foldl nodeHash (leafHash value)) last ∈
        climb leafHash nodeHash value (siblings ++ [last]) := by
      simp [climb, steps_concat]
    have below (climbed : HashInput α κ) (member : climbed ∈ climb leafHash nodeHash value siblings) :
        climbed ∈ climb leafHash nodeHash value (siblings ++ [last]) := by
      rw [climb, steps_concat, ← cons_append]
      exact mem_append_left _ member
    cases tree with
    | leaf known => exact (binding (.leaf known) (by simp [inputs]) _ top reached.symm).elim
    | node =>
      rcases binding _ mem_cons_self _ top reached.symm with onLeft | onRight
      · refine mem_append_left _ (ih ?_ onLeft)
        intro known inner climbed member
        exact binding known (mem_cons_of_mem _ (mem_append_left _ inner)) climbed (below climbed member)
      · refine mem_append_right _ (ih ?_ onRight)
        intro known inner climbed member
        exact binding known (mem_cons_of_mem _ (mem_append_right _ inner)) climbed (below climbed member)

end HashTree

end SorobanSas.Library
