import SorobanSas.Library.Transaction

namespace SorobanSas.Library

open List

/-!
# Watermarks

Numbers that may be used once each are often policed by a watermark: for every party the
largest number seen so far is kept, and only a larger one is accepted.  A party that has
used no number yet has no watermark, and its first number is free.

`Consumes` says that a list of numbers went past the watermarks in that order.  A service
whose every step consumes the numbers it accepts is protected against replay in every run,
including across parties and across steps that consume several numbers at once.
-/

universe u v w

variable {K N : Type u} [DecidableEq K] [LT N] {number : N}

/-- A number above the watermark, if there is one. -/
def Fresh (last : Option N) (number : N) : Prop := ∀ old, last = some old -> old < number

/-- The numbers become the watermarks of their parties one after the other, and each is
above the one it replaces. -/
def Consumes (before : K -> Option N) : List (K × N) -> (K -> Option N) -> Prop
  | [], after => after = before
  | (key, number) :: rest, after =>
    Fresh (before key) number ∧ Consumes (update before key (some number)) rest after

theorem Consumes.nothing (marks : K -> Option N) : Consumes marks [] marks := rfl

theorem Consumes.one {marks : K -> Option N} {key : K} (fresh : Fresh (marks key) number) :
    Consumes marks [(key, number)] (update marks key (some number)) := ⟨fresh, rfl⟩

theorem Consumes.append {before middle after : K -> Option N} {first second : List (K × N)}
    (one : Consumes before first middle) (two : Consumes middle second after) :
    Consumes before (first ++ second) after := by
  induction first generalizing before with
  | nil =>
    cases one
    exact two
  | cons mark rest ih => exact ⟨one.1, ih one.2⟩

section Order

variable [LE N] [Std.IsPreorder N] [Std.LawfulOrderLT N] {before after : K -> Option N} {marks : List (K × N)}

/-- Every number that goes past is below or at the watermark it leaves, and so is the
watermark it found. -/
theorem Consumes.reached (consumes : Consumes before marks after) :
    (∀ key old, before key = some old -> ∃ new, after key = some new ∧ old <= new) ∧
      (∀ key number, (key, number) ∈ marks -> ∃ new, after key = some new ∧ number <= new) := by
  induction marks generalizing before with
  | nil =>
    cases consumes
    constructor
    · intro key old present
      exact ⟨old, present, Std.le_refl old⟩
    · intro key number member
      cases member
  | cons mark rest ih =>
    rcases consumes with ⟨fresh, remaining⟩
    rcases ih remaining with ⟨kept, later⟩
    have replaced : ∃ new, after mark.1 = some new ∧ mark.2 <= new := kept mark.1 mark.2 (update_self ..)
    constructor
    · intro key old present
      by_cases same : key = mark.1
      · subst same
        rcases replaced with ⟨new, current, above⟩
        exact ⟨new, current, Std.le_trans (Std.le_of_lt (fresh old present)) above⟩
      · apply kept
        rw [update_of_ne same]
        exact present
    · intro key number member
      rcases List.mem_cons.mp member with rfl | further
      · exact replaced
      · exact later key number further

/-- Every number that goes past is above the watermark of its party at the start. -/
theorem Consumes.fresh (consumes : Consumes before marks after) {key : K} (member : (key, number) ∈ marks) :
    Fresh (before key) number := by
  induction marks generalizing before with
  | nil => cases member
  | cons mark rest ih =>
    rcases consumes with ⟨first, remaining⟩
    rcases List.mem_cons.mp member with rfl | further
    · exact first
    · have later := ih remaining further
      by_cases same : key = mark.1
      · subst same
        intro old present
        have above : mark.2 < number := later mark.2 (update_self ..)
        exact Std.lt_of_lt_of_le (first old present) (Std.le_of_lt above)
      · rw [update_of_ne same] at later
        exact later

/-- A party that a number belongs to ends above where it began. -/
theorem Consumes.raised (consumes : Consumes before marks after) {key : K} (member : (key, number) ∈ marks) :
    ∃ new, after key = some new ∧ Fresh (before key) new := by
  rcases consumes.reached.2 key number member with ⟨new, current, above⟩
  refine ⟨new, current, ?_⟩
  intro old present
  exact Std.lt_of_lt_of_le (consumes.fresh member old present) above

/-- No number goes past twice for the same party. -/
theorem Consumes.nodup (consumes : Consumes before marks after) : marks.Nodup := by
  induction marks generalizing before with
  | nil => exact nodup_nil
  | cons mark rest ih =>
    apply List.nodup_cons.mpr
    constructor
    · intro again
      have above : mark.2 < mark.2 := consumes.2.fresh again mark.2 (update_self ..)
      exact Std.lt_irrefl above
    · exact ih consumes.2

end Order

/-! ## Runs -/

section Runs

variable {ε : Type w} {σ ι : Type v} (step : σ -> ι -> Except ε σ)

/-- What the committed calls of a run put out, in order. -/
def emitted {κ : Type u} (output : σ -> ι -> List κ) : σ -> List ι -> List κ
  | _, [] => []
  | state, input :: rest =>
    (if (step state input).isOk then output state input else []) ++ emitted output (commit step state input) rest

variable {step} in
theorem emitted_sublist {κ : Type u} (uses bounds : σ -> ι -> List κ) (state : σ) (inputs : List ι) :
    (emitted step uses state inputs).Sublist
      (emitted step (fun state input => uses state input ++ bounds state input) state inputs) := by
  induction inputs generalizing state with
  | nil => exact List.Sublist.refl []
  | cons input rest ih =>
    apply List.Sublist.append _ (ih _)
    split
    · exact sublist_append_left _ _
    · exact List.Sublist.refl []

/-- What a run of a service keeps to whose calls use numbers, and close off all numbers up to
a bound.  `uses` and `bounds` say which ones a call does, if it commits. -/
structure ReplayProtected [LE N] (marks : σ -> K -> Option N) (uses bounds : σ -> ι -> List (K × N))
    (start : σ) (inputs : List ι) : Prop where
  ordered : ∀ earlier input later, inputs = earlier ++ input :: later ->
    (step (run step start earlier) input).isOk = true -> Consumes (marks (run step start earlier))
      (uses (run step start earlier) input ++ bounds (run step start earlier) input)
      (marks (run step start (earlier ++ [input])))
  monotone : ∀ earlier input later, inputs = earlier ++ input :: later -> ∀ key old,
    marks (run step start earlier) key = some old ->
    ∃ new, marks (run step start (earlier ++ [input])) key = some new ∧ old <= new
  raised : ∀ earlier input later, inputs = earlier ++ input :: later ->
    (step (run step start earlier) input).isOk = true -> ∀ key number,
    (key, number) ∈ uses (run step start earlier) input ∨ (key, number) ∈ bounds (run step start earlier) input ->
    ∃ new, marks (run step start (earlier ++ [input])) key = some new ∧ Fresh (marks (run step start earlier) key) new
  unique : (emitted step uses start inputs).Nodup
  closed : ∀ earlier input later, inputs = earlier ++ input :: later ->
    (step (run step start earlier) input).isOk = true -> ∀ key bound number,
    (key, bound) ∈ bounds (run step start earlier) input ->
    (key, number) ∈ emitted step uses (run step start (earlier ++ [input])) later -> bound < number

variable {step} {marks : σ -> K -> Option N} {uses bounds : σ -> ι -> List (K × N)}

section Law

variable (law : ∀ state input next, step state input = .ok next ->
  Consumes (marks state) (uses state input ++ bounds state input) (marks next))

include law

/-- A call that commits. -/
theorem consumes_of_isOk {state : σ} {input : ι} (committed : (step state input).isOk = true) :
    Consumes (marks state) (uses state input ++ bounds state input) (marks (commit step state input)) :=
  law state input _ (commit_ok committed)

/-- One call, committed or not. -/
theorem consumes_commit (state : σ) (input : ι) : Consumes (marks state)
      (if (step state input).isOk then uses state input ++ bounds state input else [])
      (marks (commit step state input)) := by
  split
  · rename_i committed
    exact consumes_of_isOk law committed
  · rename_i aborted
    cases outcome : step state input with
    | ok next => exact absurd (by rw [outcome]; rfl) aborted
    | error failure =>
      rw [commit_of_error outcome]
      exact .nothing _

/-- A whole run consumes all its numbers in order. -/
theorem consumes_run (state : σ) (inputs : List ι) : Consumes (marks state)
      (emitted step (fun state input => uses state input ++ bounds state input) state inputs)
      (marks (run step state inputs)) := by
  induction inputs generalizing state with
  | nil => exact .nothing _
  | cons input rest ih => exact (consumes_commit law state input).append (ih _)

theorem replayProtected [LE N] [Std.IsPreorder N] [Std.LawfulOrderLT N] (start : σ) (inputs : List ι) :
    ReplayProtected step marks uses bounds start inputs where
  ordered := by
    intro earlier input later _ committed
    rw [run_concat]
    exact consumes_of_isOk law committed
  monotone := by
    intro earlier input later _ key old present
    rw [run_concat]
    exact (consumes_commit law _ input).reached.1 key old present
  raised := by
    intro earlier input later _ committed key number used
    rw [run_concat]
    exact (consumes_of_isOk law committed).raised (List.mem_append.mpr used)
  unique := (consumes_run law start inputs).nodup.sublist (emitted_sublist uses bounds start inputs)
  closed := by
    intro earlier input later _ committed key bound number closes used
    have consumes := consumes_of_isOk law committed
    rcases consumes.reached.2 key bound (mem_append_right _ closes) with ⟨new, current, above⟩
    have further := consumes_run law (run step start (earlier ++ [input])) later
    have fresh : Fresh (marks (run step start (earlier ++ [input])) key) number :=
      further.fresh ((emitted_sublist uses bounds _ later).subset used)
    rw [run_concat] at fresh
    exact Std.lt_of_le_of_lt above (fresh new current)

end Law

end Runs

end SorobanSas.Library
