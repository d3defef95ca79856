import SorobanSas.Common.Hashing
import SorobanSas.Library.Reachability
import Mathlib.Data.List.Sort
import Mathlib.Data.Nat.Digits.Defs
import Mathlib.Data.String.Basic

namespace SorobanSas.Eip712

open Library List

/-!
# EIP-712 type strings

`encode_type` writes the type of a struct and then the types of the structs it refers to.  Whether
one struct refers to another is decided by a recursion that counts its depth and keeps no visited
set, so definitions may refer to each other in a cycle.  The referenced structs are found in order
by scanning all definitions for the least name above the last one written.

A name is a Rust string.  Strings are compared by their UTF-8 bytes, which is the order of their
characters.
-/

inductive FieldType where
  | uint (bits : UInt16)
  | int (bits : UInt16)
  | bool
  | address
  | bytes
  | fixedBytes (size : UInt32)
  | str
  | struct (name : String)
  | array (element : FieldType)
  deriving DecidableEq, Repr

structure FieldDef where
  name : String
  ty : FieldType
  deriving DecidableEq, Repr

structure StructDef where
  name : String
  fields : List FieldDef
  deriving DecidableEq, Repr

namespace FieldType

/-- The struct a type refers to, through any nesting of arrays. -/
def referencedStruct : FieldType -> Option String
  | struct name => some name
  | array element => element.referencedStruct
  | _ => none

end FieldType

def findStruct (defs : List StructDef) (name : String) : Option StructDef :=
  defs.find? fun struct => struct.name = name

def references (defs : List StructDef) (source target : String) : Nat -> Bool
  | 0 => false
  | budget + 1 =>
    match findStruct defs source with
    | none => false
    | some struct =>
      struct.fields.any fun field =>
        match field.ty.referencedStruct with
        | some name => name = target || references defs name target budget
        | none => false

/-- A definition that one of the rounds writes. -/
def Listed (defs : List StructDef) (primary name : String) : Prop :=
  name ∈ defs.map StructDef.name ∧ name ≠ primary ∧ references defs primary name (defs.length + 1) = true

/-- The names a round chooses from. -/
def remaining (defs : List StructDef) (primary : String) (last : Option String) : List String :=
  (defs.map StructDef.name).filter fun name =>
    decide (name ≠ primary ∧ references defs primary name (defs.length + 1) = true ∧ Beyond last name)

variable {defs : List StructDef} {primary : String} {last : Option String} {name : String}

/-- A field of the first struct refers to the second, directly or as the element of an array. -/
def Refers (defs : List StructDef) (source target : String) : Prop :=
  ∃ struct, findStruct defs source = some struct ∧
    ∃ field, field ∈ struct.fields ∧ field.ty.referencedStruct = some target

theorem references_iff_steps (defs : List StructDef) (source target : String) (budget : Nat) :
    references defs source target budget = true <->
      ∃ count, count < budget ∧ Steps (Refers defs) (count + 1) source target := by
  induction budget generalizing source with
  | zero =>
    rw [references]
    constructor
    · intro found
      exact absurd found Bool.false_ne_true
    · rintro ⟨count, bound, _⟩
      exact absurd bound count.not_lt_zero
  | succ budget ih =>
    have unfolded : references defs source target (budget + 1) = true <->
        ∃ name, Refers defs source name ∧ (name = target ∨ references defs name target budget = true) := by
      rw [references]
      constructor
      · intro found
        split at found
        · exact absurd found Bool.false_ne_true
        · rename_i struct defined
          rcases List.any_eq_true.mp found with ⟨field, listed, matched⟩
          split at matched
          · rename_i name referenced
            rw [Bool.or_eq_true, decide_eq_true_eq] at matched
            exact ⟨name, ⟨struct, defined, field, listed, referenced⟩, matched⟩
          · exact absurd matched Bool.false_ne_true
      · rintro ⟨name, ⟨struct, defined, field, listed, referenced⟩, matched⟩
        rw [defined]
        refine List.any_eq_true.mpr ⟨field, listed, ?_⟩
        rw [referenced]
        rw [Bool.or_eq_true, decide_eq_true_eq]
        exact matched
    rw [unfolded]
    constructor
    · rintro ⟨name, refers, rfl | found⟩
      · exact ⟨0, budget.succ_pos, name, refers, rfl⟩
      · rcases (ih name).mp found with ⟨count, bound, steps⟩
        exact ⟨count + 1, Nat.succ_lt_succ bound, name, refers, steps⟩
    · rintro ⟨count, bound, name, refers, steps⟩
      refine ⟨name, refers, ?_⟩
      cases count with
      | zero => exact .inl steps
      | succ count => exact .inr ((ih name).mpr ⟨count, Nat.lt_of_succ_lt_succ bound, steps⟩)

theorem mem_names_iff (defs : List StructDef) (name : String) :
    name ∈ defs.map StructDef.name <-> (findStruct defs name).isSome = true := by
  rw [findStruct, List.find?_isSome, mem_map]
  simp only [decide_eq_true_eq]

/-- The depth that `encode_type` allows is enough for every chain of references. -/
theorem references_iff_reachable (defs : List StructDef) (source target : String) :
    references defs source target (defs.length + 1) = true <-> Relation.TransGen (Refers defs) source target := by
  rw [references_iff_steps]
  constructor
  · rintro ⟨count, _, steps⟩
    exact (transGen_iff_steps source target).mpr ⟨count, steps⟩
  · intro reached
    have inside : ∀ a b, Refers defs a b -> a ∈ (defs.map StructDef.name).toFinset := by
      rintro a b ⟨struct, defined, _⟩
      rw [mem_toFinset, mem_names_iff, defined]
      rfl
    rcases exists_short_steps inside reached with ⟨count, bound, steps⟩
    have counted := toFinset_card_le (defs.map StructDef.name)
    rw [length_map] at counted
    exact ⟨count, by omega, steps⟩

/-! ## The type string -/

theorem listed_iff (defs : List StructDef) (primary name : String) :
    Listed defs primary name <-> name ≠ primary ∧ (findStruct defs name).isSome = true ∧
      Relation.TransGen (Refers defs) primary name := by
  rw [Listed, mem_names_iff, references_iff_reachable]
  exact and_left_comm

end SorobanSas.Eip712
