import SorobanSas.Library.Transaction

namespace SorobanSas.Library

open List

/-!
# Loops that do the same

The same items can be processed by two loops: one by one by a complete operation, or
together by a loop that leaves out what it need not do for each item.  The loops agree if they
agree on one item in every state that comes up.

There are two ways of leaving something out.  The shorter loop may run in other states, to
which those of the complete loop are lifted.  Or it may rely on a check of all items that was
made before it started; then a check in the first state has to say the same as a check in the
state in which the item's turn comes.
-/

universe u v w x

variable {ε : Type u} {α β γ : Type v} {σ τ : Type v} {ι : Type w} {body : σ -> ι -> Except ε σ}
  {invariant : σ -> Prop} {first : σ}

/-- Two computations with the same first part agree if they agree from there on. -/
theorem bind_map_congr {first : Except ε α} {next : α -> Except ε β} {lifted : α -> Except ε γ}
    {lift : β -> γ} (agrees : ∀ value, first = .ok value -> lifted value = (next value).map lift) :
    (first >>= lifted) = (first >>= next).map lift := by
  cases outcome : first with
  | error failure => rfl
  | ok value => exact agrees value outcome

/-- The lifted loop ends in the lifted state, or fails in the same way. -/
theorem foldlM_lift {lifted : τ -> ι -> Except ε τ} {lift : σ -> τ}
    (preserved : ∀ state item next, invariant state -> body state item = .ok next ->
      invariant next) (agrees : ∀ state item, invariant state ->
      lifted (lift state) item = (body state item).map lift) (items : List ι) (start : invariant first) :
    items.foldlM lifted (lift first) = (items.foldlM body first).map lift := by
  induction items generalizing first with
  | nil => rfl
  | cons item rest ih =>
    rw [foldlM_cons, foldlM_cons, agrees first item start]
    cases outcome : body first item with
    | error failure => rfl
    | ok next => exact ih (preserved first item next start outcome)

/-- A loop with items that succeeds has taken its first turn. -/
theorem foldlM_first {items : List ι} {last : σ} (nonempty : items ≠ [])
    (success : items.foldlM body first = .ok last) : ∃ item next, body first item = .ok next := by
  cases items with
  | nil => contradiction
  | cons item rest =>
    rw [foldlM_cons, bind_eq_ok] at success
    rcases success with ⟨next, turn, -⟩
    exact ⟨item, next, turn⟩

/-- A loop whose body checks each item is the loop without the checks, if the items were
checked before. -/
theorem foldlM_checked {single body : σ -> ι -> Except ε σ} {admits : σ -> ι -> Prop} {checked : ι -> Prop}
    (split : ∀ state item next, single state item = .ok next ↔ admits state item ∧ body state item = .ok next)
    (preserved : ∀ state item next, invariant state -> body state item = .ok next -> invariant next)
    (agrees : ∀ state item next, invariant state -> body state item = .ok next ->
      (admits state item ↔ checked item)) (items : List ι) {last : σ} (start : invariant first) :
    items.foldlM single first = .ok last ↔ (∀ item ∈ items, checked item) ∧ items.foldlM body first = .ok last := by
  induction items generalizing first with
  | nil => simp
  | cons item rest ih =>
    simp only [foldlM_cons, bind_eq_ok, split, forall_mem_cons]
    constructor
    · rintro ⟨next, ⟨admitted, taken⟩, remaining⟩
      rcases (ih (preserved first item next start taken)).mp remaining with ⟨others, loop⟩
      exact ⟨⟨(agrees first item next start taken).mp admitted, others⟩, next, taken, loop⟩
    · rintro ⟨⟨first', others⟩, next, taken, loop⟩
      exact ⟨next, ⟨(agrees first item next start taken).mpr first', taken⟩,
        (ih (preserved first item next start taken)).mpr ⟨others, loop⟩⟩

/-- A loop that uses up the key of each item does not succeed on a key that occurs twice. -/
theorem foldlM_nodup {κ : Type x} {key : ι -> κ} {spent : σ -> κ -> Prop}
    (fresh : ∀ state item next, body state item = .ok next -> ¬ spent state (key item))
    (spends : ∀ state item next, body state item = .ok next -> spent next (key item))
    (kept : ∀ state item next other, body state item = .ok next -> spent state other ->
      spent next other) (items : List ι) {last : σ} (success : items.foldlM body first = .ok last) :
    (items.map key).Nodup ∧ ∀ item ∈ items, ¬ spent first (key item) := by
  induction items generalizing first with
  | nil => simp
  | cons item rest ih =>
    simp only [foldlM_cons, bind_eq_ok] at success
    rcases success with ⟨next, taken, remaining⟩
    rcases ih remaining with ⟨distinct, unspent⟩
    rw [map_cons, nodup_cons, forall_mem_cons]
    refine ⟨⟨?_, distinct⟩, fresh first item next taken, fun other member used => ?_⟩
    · intro again
      rcases List.mem_map.mp again with ⟨other, member, same⟩
      exact unspent other member (same ▸ spends first item next taken)
    · exact unspent other member (kept first item next _ taken used)

end SorobanSas.Library
