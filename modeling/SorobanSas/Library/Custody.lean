import Mathlib.Algebra.Order.BigOperators.Group.Finset
import Mathlib.Algebra.BigOperators.Group.Finset.Piecewise

namespace SorobanSas.Library

/-!
# Custody

A custodian holds an amount of something and owes parts of it to any number of parties.
The holdings cover what is owed if every finite part of it can be paid at once.  The rules
below say when coverage survives a deposit, a payment, and a change of the holdings alone.
-/

open Finset

variable {κ : Type*}

/-- Nothing negative is owed, and whatever finite set of parties is to be paid, the
holdings suffice. -/
structure Covered (owed : κ -> Int) (held : Int) : Prop where
  nonneg : ∀ party, 0 <= owed party
  payable : ∀ parties : Finset κ, ∑ party ∈ parties, owed party <= held

namespace Covered

variable {owed : κ -> Int} {held : Int}

theorem nothing (unowed : ∀ party, owed party = 0) (solvent : 0 <= held) : Covered owed held where
  nonneg := fun party => Int.le_of_eq (unowed party).symm
  payable := by
    intro parties
    rw [sum_eq_zero fun party _ => unowed party]
    exact solvent

/-- More may be held. -/
theorem mono {more : Int} (covered : Covered owed held) (raised : held <= more) : Covered owed more :=
  ⟨covered.nonneg, fun parties => Int.le_trans (covered.payable parties) raised⟩

variable [DecidableEq κ] {party : κ} {amount entry : Int}

theorem sum_update_of_member {parties : Finset κ} (member : party ∈ parties) (entry : Int) :
    ∑ other ∈ parties, Function.update owed party entry other =
      ∑ other ∈ parties, owed other + (entry - owed party) := by
  have rest := sum_sdiff_eq_sub (singleton_subset_iff.mpr member) (f := owed)
  rw [sum_singleton] at rest
  rw [sum_update_of_mem member, rest]
  omega

/-- A deposit of which at most the whole is credited to one party. -/
theorem credit (covered : Covered owed held) (deposit : 0 <= amount) (valid : 0 <= entry)
    (bounded : entry <= owed party + amount) : Covered (Function.update owed party entry) (held + amount) where
  nonneg := (Function.forall_update_iff owed fun _ debt => 0 <= debt).mpr ⟨valid, fun other _ => covered.nonneg other⟩
  payable := by
    intro parties
    have total := covered.payable parties
    by_cases member : party ∈ parties
    · rw [sum_update_of_member member]
      omega
    · rw [sum_update_of_notMem member]
      omega

/-- One party is paid, at most what it is owed. -/
theorem debit (covered : Covered owed held) (due : amount <= owed party) :
    Covered (Function.update owed party (owed party - amount)) (held - amount) where
  nonneg := (Function.forall_update_iff owed fun _ debt => 0 <= debt).mpr
    ⟨Int.sub_nonneg_of_le due, fun other _ => covered.nonneg other⟩
  payable := by
    intro parties
    by_cases member : party ∈ parties
    · have total := covered.payable parties
      rw [sum_update_of_member member]
      omega
    · -- The others could have been paid together with this party.
      have total := covered.payable (insert party parties)
      rw [sum_insert member] at total
      rw [sum_update_of_notMem member]
      omega

end Covered

end SorobanSas.Library
