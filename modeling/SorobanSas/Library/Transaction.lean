import Mathlib.Data.List.Forall2
import Mathlib.Data.List.Induction

namespace SorobanSas

export Function (update update_eq_self update_eq_self_iff update_idem update_of_ne update_self)

namespace Library

open List

/-!
# Transactions and runs

A call of a contract either commits a new state or aborts, and an aborted
call leaves no trace.  The definitions here are about that pattern alone: a
fallible step is a function into `Except`, a run is a list of inputs, and an
input whose step fails is skipped.

The first part inverts a successful computation into the successes of its
parts, so that the guards of a long call can be read off without unfolding
it.  The second part turns facts about one step into facts about a whole run.
Both the conditions and the conclusions of a run may mention the state in
which each step is taken.
-/

universe u v w

variable {ε : Type u} {α β : Type v} {next : α -> Except ε β} {result : α} {failure : ε}
  {computation : Except ε α} {ι : Type w}

/-! ## Successful computations -/

/-- Abort with `failure` unless the condition holds. -/
def require (condition : Prop) [Decidable condition] (failure : ε) : Except ε Unit :=
  if condition then .ok () else .error failure

/-- The value of an optional entry, or abort with `failure` when it is absent. -/
def expect (value : Option α) (failure : ε) : Except ε α :=
  match value with
  | some entry => .ok entry
  | none => .error failure

/-- Check an optional value, if there is one. -/
def whenSome (value : Option α) (check : α -> Except ε Unit) : Except ε Unit :=
  match value with
  | some entry => check entry
  | none => .ok ()

@[simp] theorem bind_eq_ok {first : Except ε α} {result : β} :
    (first >>= next) = .ok result ↔ ∃ value, first = .ok value ∧ next value = .ok result := by
  cases first <;> simp [bind, Except.bind]

@[simp] theorem pure_eq_ok {value : α} : (pure value : Except ε α) = .ok result ↔ value = result := by
  simp [pure, Except.pure]

@[simp] theorem throw_eq_ok : (throw failure : Except ε α) = .ok result ↔ False := by
  simp [throw, throwThe, MonadExceptOf.throw]

@[simp] theorem require_eq_ok {condition : Prop} [Decidable condition] {done : Unit} :
    require condition failure = .ok done ↔ condition := by
  unfold require
  split <;> simp_all

@[simp] theorem expect_eq_ok {value : Option α} : expect value failure = .ok result ↔ value = some result := by
  cases value <;> simp [expect]

/-- A unit-valued step that always commits hides no information. -/
@[simp] theorem exists_unit {property : Unit -> Prop} : (∃ done, property done) ↔ property () :=
  ⟨fun ⟨(), holds⟩ => holds, fun holds => ⟨(), holds⟩⟩

/-- What the success of each kind of step comes to.  To `simp` these are so many rules. -/
theorem eq_ok : (∀ {ε α β : Type} {first : Except ε α} {next : α -> Except ε β} {result : β},
      (first >>= next) = .ok result ↔ ∃ value, first = .ok value ∧ next value = .ok result) ∧
    (∀ {ε α : Type} {value result : α}, (pure value : Except ε α) = .ok result ↔ value = result) ∧
    (∀ {ε α : Type} {failure : ε} {result : α}, (throw failure : Except ε α) = .ok result ↔ False) ∧
    (∀ {ε : Type} {condition : Prop} [Decidable condition] {failure : ε} {done : Unit},
      require condition failure = .ok done ↔ condition) ∧
    (∀ {ε α : Type} {value : Option α} {failure : ε} {result : α},
      expect value failure = .ok result ↔ value = some result) ∧
    ∀ {property : Unit -> Prop}, (∃ done, property done) ↔ property () :=
  ⟨bind_eq_ok, pure_eq_ok, throw_eq_ok, require_eq_ok, expect_eq_ok, exists_unit⟩

/-- What an entry is after one of them was written. -/
theorem update_eq {κ : Type w} [DecidableEq κ] {entries : κ -> α} {changed key : κ}
    {value found : α} : update entries changed value key = found <->
      key = changed ∧ value = found ∨ key ≠ changed ∧ entries key = found := by
  by_cases same : key = changed <;> simp [same]

/-- A loop succeeds if every turn does. -/
theorem forM_eq_ok {f : ι -> Except ε Unit} {items : List ι} :
    items.forM f = .ok () <-> ∀ item ∈ items, f item = .ok () := by
  induction items with
  | nil => simp
  | cons item rest ih =>
    change (f item >>= fun _ => rest.forM f) = .ok () <-> _
    simp only [bind_eq_ok, exists_unit, ih, forall_mem_cons]

theorem mapError_eq_ok {ε' : Type v} {f : ε -> ε'} :
    computation.mapError f = .ok result <-> computation = .ok result := by
  cases computation <;> simp [Except.mapError]

/-- A loop that collects results succeeds if every turn does. -/
theorem mapM_eq_ok {f : ι -> Except ε β} {items : List ι} {results : List β} : items.mapM f = .ok results <->
      items.Forall₂ (fun item result => f item = .ok result) results := by
  induction items generalizing results with
  | nil => rw [mapM_nil, pure_eq_ok, forall₂_nil_left_iff, eq_comm]
  | cons item rest ih =>
    rw [mapM_cons, forall₂_cons_left_iff]
    simp only [bind_eq_ok, pure_eq_ok, ih]
    constructor
    · rintro ⟨result, first, others, later, rfl⟩
      exact ⟨result, others, first, later, rfl⟩
    · rintro ⟨result, others, first, later, rfl⟩
      exact ⟨result, first, others, later, rfl⟩

/-- A stretch of a list, read position by position. -/
theorem mapM_range_eq_ok {items read : List β} {offset length : Nat} :
    (List.range length).mapM (fun i => expect items[offset + i]? failure) = .ok read <->
      read.length = length ∧ ∃ rest, items.drop offset = read ++ rest := by
  simp only [← List.getElem?_drop]
  induction length generalizing read with
  | zero =>
    rw [range_zero, mapM_nil, pure_eq_ok]
    constructor
    · rintro rfl
      exact ⟨rfl, _, rfl⟩
    · exact fun reads => (eq_nil_of_length_eq_zero reads.1).symm
  | succ length ih =>
    simp only [range_succ, mapM_append, mapM_cons, mapM_nil, bind_eq_ok, pure_eq_ok, expect_eq_ok, ih]
    constructor
    · rintro ⟨front, ⟨rfl, rest, split⟩, _, ⟨last, found, _, rfl, rfl⟩, rfl⟩
      rw [split, List.getElem?_append_right (Nat.le_refl _), Nat.sub_self] at found
      rcases List.getElem?_eq_some_iff.mp found with ⟨present, rfl⟩
      cases rest with
      | nil => cases present
      | cons head tail => exact ⟨by simp, tail, by simp [split]⟩
    · rintro ⟨full, rest, split⟩
      rcases eq_nil_or_concat read with rfl | ⟨front, last, rfl⟩
      · cases full
      · have shorter : front.length = length := by simpa using full
        refine ⟨front, ⟨shorter, last :: rest, by simp [split]⟩, _, ⟨last, ?_, _, rfl, rfl⟩, ?_⟩
        · simp [split, ← shorter]
        · simp

/-- What follows a stretch that was read. -/
theorem drop_past {items read rest : List β} {offset length : Nat} (full : read.length = length)
    (split : items.drop offset = read ++ rest) : items.drop (offset + length) = rest := by
  rw [← drop_drop, split, ← full, drop_left]

theorem exists_of_isOk (succeeds : computation.isOk = true) : ∃ value, computation = .ok value := by
  cases computation with
  | ok value => exact ⟨value, rfl⟩
  | error failure => cases succeeds

/-! ## Postconditions -/

/-- Whenever the computation succeeds, its value satisfies the postcondition. -/
def Yields (computation : Except ε α) (post : α -> Prop) : Prop := ∀ value, computation = .ok value -> post value

namespace Yields

variable {post : β -> Prop}

theorem pure {value : β} (holds : post value) : Yields (pure value : Except ε β) post := by
  intro result success
  exact pure_eq_ok.mp success ▸ holds

theorem throw (failure : ε) : Yields (throw failure : Except ε β) post := by
  intro result success
  exact absurd success (by simp)

/-- The second part may use that the first one succeeded. -/
theorem bind {first : Except ε α} (rest : ∀ value, first = .ok value -> Yields (next value) post) :
    Yields (first >>= next) post := by
  intro result success
  rcases bind_eq_ok.mp success with ⟨value, taken, remaining⟩
  exact rest value taken result remaining

theorem skip {first : Except ε α} (rest : ∀ {value}, Yields (next value) post) : Yields (first >>= next) post :=
  .bind fun _ _ => rest

section Skip

variable {α' γ γ' : Type v} {one : Except ε α} {two : α -> Except ε α'} {three : α -> α' -> Except ε γ}
  {four : α -> α' -> γ -> Except ε γ'}

/-- Computations in a row of which nothing is used but their values. -/
theorem skip2 {next : α -> α' -> Except ε β} (rest : ∀ {a b}, Yields (next a b) post) :
    Yields (one >>= fun a => two a >>= next a) post := .skip <| .skip rest

theorem skip3 {next : α -> α' -> γ -> Except ε β} (rest : ∀ {a b c}, Yields (next a b c) post) :
    Yields (one >>= fun a => two a >>= fun b => three a b >>= next a b) post := .skip <| .skip2 rest

theorem skip4 {next : α -> α' -> γ -> γ' -> Except ε β} (rest : ∀ {a b c d}, Yields (next a b c d) post) :
    Yields (one >>= fun a => two a >>= fun b => three a b >>= fun c => four a b c >>= next a b c) post :=
  .skip <| .skip3 rest

end Skip

theorem ite {condition : Prop} [Decidable condition] {yes no : Except ε β}
    (holds : condition -> Yields yes post) (fails : ¬ condition -> Yields no post) :
    Yields (if condition then yes else no) post := by
  by_cases decided : condition
  · rw [if_pos decided]; exact holds decided
  · rw [if_neg decided]; exact fails decided

theorem mono {weaker : β -> Prop} {computation : Except ε β} (strong : Yields computation post)
    (implies : ∀ value, post value -> weaker value) : Yields computation weaker :=
  fun value success => implies value (strong value success)

end Yields

/-! ## Loops over a list of items -/

section Loops

variable {σ : Type v}

/-- What holds across every step then holds across all of them. -/
structure Cumulative (related : σ -> σ -> Prop) : Prop where
  refl : ∀ state, related state state
  trans : ∀ {first middle last}, related first middle -> related middle last -> related first last

/-- The same for a part of the state. -/
theorem Cumulative.comap {ρ : Type w} {related : σ -> σ -> Prop} (cumulative : Cumulative related)
    (part : ρ -> σ) : Cumulative fun first last => related (part first) (part last) :=
  ⟨fun _ => cumulative.refl _, cumulative.trans⟩

/-- A loop whose turns ask something of their item, and leave that alone for all other items. -/
theorem foldlM_ready {body : σ -> ι -> Except ε σ} {turn : σ -> ι -> σ} {ready : σ -> ι -> Prop} {items : List ι}
    (each : ∀ {state item next}, body state item = .ok next ↔ ready state item ∧ turn state item = next)
    (apart : ∀ {state item other}, ready state item -> (ready (turn state item) other ↔ ready state other))
    {first last : σ} :
    items.foldlM body first = .ok last ↔ (∀ item ∈ items, ready first item) ∧ items.foldl turn first = last := by
  induction items generalizing first with
  | nil => simp only [foldlM_nil, pure_eq_ok, not_mem_nil, false_implies, implies_true, true_and, foldl_nil]
  | cons item rest ih =>
    simp only [foldlM_cons, bind_eq_ok, each, ih, forall_mem_cons, foldl_cons]
    constructor
    · rintro ⟨middle, ⟨now, rfl⟩, later, reached⟩
      exact ⟨⟨now, fun other member => (apart now).mp (later other member)⟩, reached⟩
    · rintro ⟨⟨now, later⟩, reached⟩
      exact ⟨_, ⟨now, rfl⟩, fun other member => (apart now).mpr (later other member), reached⟩

/-- A cumulative relation that each item establishes relates the first and the last state of the
whole loop. -/
theorem foldlM_related (related : σ -> σ -> Prop) (cumulative : Cumulative related)
    {body : σ -> ι -> Except ε σ} {items : List ι}
    (each : ∀ item ∈ items, ∀ state next, body state item = .ok next -> related state next)
    {first last : σ} (success : items.foldlM body first = .ok last) : related first last := by
  induction items generalizing first with
  | nil =>
    simp only [foldlM_nil, pure_eq_ok] at success
    exact success ▸ cumulative.refl first
  | cons item rest ih =>
    simp only [foldlM_cons, bind_eq_ok] at success
    rcases success with ⟨middle, taken, remaining⟩
    exact cumulative.trans (each item mem_cons_self _ _ taken)
      (ih (fun other member => each other (mem_cons_of_mem item member)) remaining)

/-- A loop that succeeds gets through every item, in the state its predecessors leave. -/
theorem foldlM_visits {body : σ -> ι -> Except ε σ} {earlier : List ι} {item : ι} {later : List ι}
    {first last : σ} (success : (earlier ++ item :: later).foldlM body first = .ok last) :
    ∃ state next, earlier.foldlM body first = .ok state ∧ body state item = .ok next := by
  simp only [foldlM_append, foldlM_cons, bind_eq_ok] at success
  rcases success with ⟨state, reached, next, taken, -⟩
  exact ⟨state, next, reached, taken⟩

/-- A property that a loop brings about is brought about by one of its items. -/
theorem foldlM_turns {body : σ -> ι -> Except ε σ} {items : List ι} {first last : σ}
    (property : σ -> Prop) (success : items.foldlM body first = .ok last)
    (before : ¬ property first) (after : property last) :
    ∃ earlier item later state next, items = earlier ++ item :: later ∧
      earlier.foldlM body first = .ok state ∧ body state item = .ok next ∧ ¬ property state ∧ property next := by
  induction items generalizing first with
  | nil =>
    cases success
    exact absurd after before
  | cons item rest ih =>
    simp only [foldlM_cons, bind_eq_ok] at success
    rcases success with ⟨next, taken, remaining⟩
    by_cases turned : property next
    · exact ⟨[], item, rest, first, next, rfl, rfl, taken, before, turned⟩
    · rcases ih remaining turned with ⟨earlier, later, tail, state, beyond, rfl, reached, step, still, holds⟩
      refine ⟨item :: earlier, later, tail, state, beyond, rfl, ?_, step, still, holds⟩
      simp only [foldlM_cons, bind_eq_ok]
      exact ⟨next, taken, reached⟩

/-- A loop that collects one result for each item, up to a limit. -/
theorem foldlM_collects {limit : Nat} {turn : Nat -> ι -> Except ε σ} {related : ι -> σ -> Prop}
    (each : ∀ count item result, count <= limit ->
      (turn count item = .ok result <-> count < limit ∧ related item result))
    {items : List ι} {start results : List σ} (room : start.length <= limit) : items.foldlM (fun results item => do
        let result <- turn results.length item
        return results ++ [result]) start = .ok results <->
      start.length + items.length <= limit ∧ ∃ added, List.Forall₂ related items added ∧ start ++ added = results := by
  induction items generalizing start with
  | nil => simp [room]
  | cons item items ih =>
    simp only [foldlM_cons, bind_eq_ok, pure_eq_ok, length_cons, forall₂_cons_left_iff]
    constructor
    · rintro ⟨_, ⟨result, taken, rfl⟩, loop⟩
      rcases (each _ item result room).mp taken with ⟨below, relation⟩
      rcases (ih (by simp; omega)).mp loop with ⟨fits, added, all, rfl⟩
      exact ⟨by grind, _, ⟨result, added, relation, all, rfl⟩, by simp⟩
    · rintro ⟨fits, _, ⟨result, added, relation, all, rfl⟩, rfl⟩
      have below : start.length < limit := by omega
      exact ⟨_, ⟨result, (each _ item result room).mpr ⟨below, relation⟩, rfl⟩,
        (ih (by simp; omega)).mpr ⟨by grind, added, all, by simp⟩⟩

end Loops

/-! ## Runs with rollback -/

section Runs

variable {σ : Type v} {state : σ} {allowed : σ -> ι -> Prop} {property : σ -> Prop} {inputs : List ι}
  {start : σ} {happens : σ -> ι -> Prop} {input : ι}

/-- The state after one call: the committed one, or the old one when the call
aborts. -/
def commit (step : σ -> ι -> Except ε σ) (state : σ) (input : ι) : σ :=
  match step state input with
  | .ok next => next
  | .error _ => state

/-- The state after a list of calls. -/
def run (step : σ -> ι -> Except ε σ) (state : σ) (inputs : List ι) : σ := inputs.foldl (commit step) state

/-- Every call of the run is made in a state where it is allowed.  Calls that
abort are included. -/
def Admissible (step : σ -> ι -> Except ε σ) (allowed : σ -> ι -> Prop) : σ -> List ι -> Prop
  | _, [] => True
  | state, input :: rest =>
    allowed state input ∧ Admissible step allowed (commit step state input) rest

variable {step : σ -> ι -> Except ε σ}

theorem commit_of_ok {next : σ} (success : step state input = .ok next) : commit step state input = next := by
  simp only [commit, success]

theorem commit_of_error (aborted : step state input = .error failure) : commit step state input = state := by
  simp only [commit, aborted]

/-- A call that does not abort commits to the state it leads to. -/
theorem commit_ok (succeeds : (step state input).isOk = true) : step state input = .ok (commit step state input) := by
  cases outcome : step state input with
  | ok next => rw [commit_of_ok outcome]
  | error failure => simp [outcome, Except.isOk, Except.toBool] at succeeds

@[simp] theorem run_nil (state : σ) : run step state [] = state := rfl

@[simp] theorem run_cons (state : σ) (input : ι) (rest : List ι) :
    run step state (input :: rest) = run step (commit step state input) rest := rfl

theorem run_append (state : σ) (first second : List ι) :
    run step state (first ++ second) = run step (run step state first) second := by
  simp only [run, foldl_append]

theorem run_concat (state : σ) (inputs : List ι) (last : ι) :
    run step state (inputs ++ [last]) = commit step (run step state inputs) last := by
  rw [run_append, run_cons, run_nil]

theorem admissible_append {first second : List ι} :
    Admissible step allowed state (first ++ second) ↔ Admissible step allowed state first ∧
        Admissible step allowed (run step state first) second := by
  induction first generalizing state with
  | nil => simp [Admissible]
  | cons input rest ih => simp [Admissible, ih, and_assoc]

/-- A condition that every input of the list meets in every state makes the run
admissible. -/
theorem admissible_of_forall (all : ∀ input ∈ inputs, ∀ state, allowed state input) (state : σ) :
    Admissible step allowed state inputs := by
  induction inputs generalizing state with
  | nil => trivial
  | cons input rest ih =>
    exact ⟨all input mem_cons_self state, ih (fun other member => all other (mem_cons_of_mem input member)) _⟩

theorem admissible_true (state : σ) (inputs : List ι) : Admissible step (fun _ _ => True) state inputs :=
  admissible_of_forall (fun _ _ _ => trivial) state

/-- One committed step carries the property over, hence so does one call. -/
theorem commit_invariant (preserved : ∀ next, step state input = .ok next -> property next)
    (start : property state) : property (commit step state input) := by
  cases outcome : step state input with
  | ok next => rw [commit_of_ok outcome]; exact preserved next outcome
  | error failure => rw [commit_of_error outcome]; exact start

/-- A property kept by every allowed step holds after every admissible run. -/
theorem run_invariant (preserved : ∀ state input next, property state -> allowed state input ->
      step state input = .ok next -> property next) (start : property state)
    (admissible : Admissible step allowed state inputs) : property (run step state inputs) := by
  induction inputs generalizing state with
  | nil => exact start
  | cons input rest ih =>
    rcases admissible with ⟨permitted, remaining⟩
    exact ih (commit_invariant (fun next => preserved state input next start permitted) start)
      remaining

/-- What follows from an invariant of the run, and from what is allowed, holds of every call
of the run. -/
theorem admissible_of_invariant {implied : σ -> ι -> Prop}
    (preserved : ∀ state input next, property state -> allowed state input ->
      step state input = .ok next -> property next)
    (implies : ∀ state input, property state -> allowed state input -> implied state input)
    (start : property state) (admissible : Admissible step allowed state inputs) :
    Admissible step implied state inputs := by
  induction inputs generalizing state with
  | nil => trivial
  | cons input rest ih =>
    rcases admissible with ⟨permitted, remaining⟩
    exact ⟨implies state input start permitted,
      ih (commit_invariant (fun next => preserved state input next start permitted) start) remaining⟩

/-- A cumulative relation established by every allowed step relates the two ends of every
admissible run. -/
theorem run_related (related : σ -> σ -> Prop) (cumulative : Cumulative related)
    (each : ∀ state input next, allowed state input -> step state input = .ok next -> related state next)
    (admissible : Admissible step allowed state inputs) : related state (run step state inputs) := by
  induction inputs generalizing state with
  | nil => exact cumulative.refl state
  | cons input rest ih =>
    rcases admissible with ⟨permitted, remaining⟩
    exact cumulative.trans (commit_invariant (fun next => each state input next permitted) (cumulative.refl state))
      (ih remaining)

/-- A property of a run and of the state it ends in: an allowed call that commits, and
a call that aborts, both extend it. -/
theorem trail_invariant {property : List ι -> σ -> Prop} (initial : property [] start)
    (committed : ∀ inputs input next, property inputs (run step start inputs) ->
      allowed (run step start inputs) input -> step (run step start inputs) input = .ok next ->
      property (inputs ++ [input]) next) (aborted : ∀ inputs input failure, property inputs (run step start inputs) ->
      step (run step start inputs) input = .error failure -> property (inputs ++ [input]) (run step start inputs))
    (admissible : Admissible step allowed start inputs) : property inputs (run step start inputs) := by
  induction inputs using List.reverseRecOn with
  | nil => exact initial
  | append_singleton inputs input ih =>
    rcases admissible_append.mp admissible with ⟨earlier, permitted, -⟩
    rw [run_concat]
    cases outcome : step (run step start inputs) input with
    | ok next =>
      rw [commit_of_ok outcome]
      exact committed inputs input next (ih earlier) permitted outcome
    | error failure =>
      rw [commit_of_error outcome]
      exact aborted inputs input failure (ih earlier) outcome

/-- At some point of the run a call with the property was made. -/
def Occurs (step : σ -> ι -> Except ε σ) (start : σ) (happens : σ -> ι -> Prop) (inputs : List ι) : Prop :=
  ∃ before input after, inputs = before ++ input :: after ∧ happens (run step start before) input

theorem not_occurs_nil : ¬ Occurs step start happens [] := by
  rintro ⟨before, input, after, split, -⟩
  cases before <;> cases split

theorem occurs_concat {last : ι} : Occurs step start happens (inputs ++ [last]) ↔
      Occurs step start happens inputs ∨ happens (run step start inputs) last := by
  constructor
  · rintro ⟨before, input, after, split, happened⟩
    rcases eq_nil_or_concat after with rfl | ⟨after, final, rfl⟩
    · rcases append_inj' split rfl with ⟨rfl, same⟩
      cases same
      exact .inr happened
    · have shorter : inputs ++ [last] = (before ++ input :: after) ++ [final] := by simpa using split
      exact .inl ⟨before, input, after, (append_inj' shorter rfl).1, happened⟩
  · rintro (⟨before, input, after, rfl, happened⟩ | happened)
    · exact ⟨before, input, after ++ [last], by simp, happened⟩
    · exact ⟨inputs, last, [], rfl, happened⟩

theorem occurs_singleton : Occurs step start happens [input] ↔ happens start input := by
  rw [← nil_append [input], occurs_concat, run_nil]
  exact or_iff_right not_occurs_nil

/-- At some point of the run a call with the first property was made, and no call made
since has the second one.  Both may look at the state in which the call was made. -/
def OccursSince (step : σ -> ι -> Except ε σ) (start : σ) (happens disturbs : σ -> ι -> Prop)
    (inputs : List ι) : Prop :=
  ∃ before input after, inputs = before ++ input :: after ∧ happens (run step start before) input ∧
    ∀ first other last, after = first ++ other :: last -> ¬ disturbs (run step start (before ++ input :: first)) other

variable {disturbs : σ -> ι -> Prop}

theorem not_occursSince_nil : ¬ OccursSince step start happens disturbs [] := by
  rintro ⟨before, event, after, split, -⟩
  cases before <;> cases split

theorem occursSince_last (now : happens (run step start inputs) input) :
    OccursSince step start happens disturbs (inputs ++ [input]) := ⟨inputs, input, [], rfl, now, by simp⟩

theorem OccursSince.extend (earlier : OccursSince step start happens disturbs inputs)
    (quiet : ¬ disturbs (run step start inputs) input) :
    OccursSince step start happens disturbs (inputs ++ [input]) := by
  rcases earlier with ⟨before, event, after, rfl, happened, undisturbed⟩
  refine ⟨before, event, after ++ [input], by simp, happened, ?_⟩
  intro first other last split
  rcases eq_nil_or_concat last with rfl | ⟨last, final, rfl⟩
  · rcases append_inj' split rfl with ⟨rfl, same⟩
    cases same
    exact quiet
  · have shorter : after = first ++ other :: last := by
      have regrouped : after ++ [input] = (first ++ other :: last) ++ [final] := by simpa using split
      exact (append_inj' regrouped rfl).1
    exact undisturbed first other last shorter

/-- The last call is such a call itself, or it does not disturb one that was made before. -/
theorem occursSince_concat :
    OccursSince step start happens disturbs (inputs ++ [input]) ↔ happens (run step start inputs) input ∨
        OccursSince step start happens disturbs inputs ∧ ¬ disturbs (run step start inputs) input := by
  constructor
  · rintro ⟨before, event, after, split, happened, undisturbed⟩
    rcases eq_nil_or_concat after with rfl | ⟨after, final, rfl⟩
    · rcases append_inj' split rfl with ⟨rfl, same⟩
      cases same
      exact .inl happened
    · have shorter : inputs ++ [input] = (before ++ event :: after) ++ [final] := by simpa using split
      rcases append_inj' shorter rfl with ⟨rfl, same⟩
      cases same
      refine .inr ⟨⟨before, event, after, rfl, happened, ?_⟩, undisturbed after input [] (by simp)⟩
      intro first other last apart
      exact undisturbed first other (last ++ [input]) (by rw [apart]; simp)
  · rintro (now | ⟨earlier, quiet⟩)
    · exact occursSince_last now
    · exact earlier.extend quiet

/-- What a call of the first kind establishes of a run, and every other call but those of the second kind
keeps, holds of the whole run. -/
theorem OccursSince.trail (property : List ι -> Prop)
    (established : ∀ inputs input, happens (run step start inputs) input -> property (inputs ++ [input]))
    (kept : ∀ inputs input, property inputs -> ¬ disturbs (run step start inputs) input -> property (inputs ++ [input]))
    (occurred : OccursSince step start happens disturbs inputs) : property inputs := by
  induction inputs using List.reverseRecOn with
  | nil => exact absurd occurred not_occursSince_nil
  | append_singleton inputs input ih =>
    rcases occursSince_concat.mp occurred with now | ⟨earlier, quiet⟩
    · exact established inputs input now
    · exact kept inputs input (ih earlier) quiet

theorem OccursSince.invariant (established : ∀ state input, happens state input -> property (commit step state input))
    (preserved : ∀ state input next, property state -> ¬ disturbs state input ->
      step state input = .ok next -> property next)
    (occurred : OccursSince step start happens disturbs inputs) : property (run step start inputs) := by
  refine occurred.trail (fun inputs => property (run step start inputs)) (fun inputs input now => ?_)
    fun inputs input earlier quiet => ?_
  · rw [run_concat]
    exact established _ input now
  · rw [run_concat]
    exact commit_invariant (fun next => preserved _ input next earlier quiet) earlier

/-! ### All effects -/

section Effects

variable {δ : Type*} {effect : ι -> List δ}

/-- The effects of the committed calls of the run, in order. -/
def effects (step : σ -> ι -> Except ε σ) (effect : ι -> List δ) : σ -> List ι -> List δ
  | _, [] => []
  | state, input :: rest =>
    (if (step state input).isOk then effect input else []) ++ effects step effect (commit step state input) rest

/-- What holds of no effects at the start, and is extended by every committed call, holds of
the effects of the run and of the state it ends in. -/
theorem effects_invariant {property : List δ -> σ -> Prop} (committed : ∀ past state input next, property past state ->
      step state input = .ok next -> property (past ++ effect input) next) (initial : property [] start)
    (inputs : List ι) : property (effects step effect start inputs) (run step start inputs) := by
  have extended (past : List δ) (state : σ) (holds : property past state) :
      property (past ++ effects step effect state inputs) (run step state inputs) := by
    induction inputs generalizing past state with
    | nil =>
      rw [effects, append_nil]
      exact holds
    | cons input rest ih =>
      rw [effects, ← append_assoc, run_cons]
      apply ih
      cases outcome : step state input with
      | ok next =>
        rw [commit_of_ok outcome]
        exact committed past state input next holds outcome
      | error failure =>
        rw [commit_of_error outcome]
        exact (append_nil past).symm ▸ holds
  exact extended [] start initial

end Effects

/-! ### The last effect -/

section LastEffect

variable {δ : Type*} {ν : Type*} {effect : ι -> Option δ}

/-- The effect of the last committed call of the run that has one. -/
def lastEffect (step : σ -> ι -> Except ε σ) (effect : ι -> Option δ) (start : σ) (inputs : List ι) : Option δ :=
  (inputs.foldl (fun reached input => (commit step reached.1 input,
    if (step reached.1 input).isOk then (effect input).or reached.2 else reached.2)) (start, none)).2

theorem lastEffect_concat (start : σ) (inputs : List ι) (input : ι) : lastEffect step effect start (inputs ++ [input]) =
      if (step (run step start inputs) input).isOk then (effect input).or (lastEffect step effect start inputs)
      else lastEffect step effect start inputs := by
  have reached (state : σ) (last : Option δ) (inputs : List ι) :
      (inputs.foldl (fun reached input => (commit step reached.1 input,
        if (step reached.1 input).isOk then (effect input).or reached.2 else reached.2))
        (state, last)).1 = run step state inputs := by
    induction inputs generalizing state last with
    | nil => rfl
    | cons input rest ih => exact ih _ _
  simp only [lastEffect, foldl_append, foldl_cons, foldl_nil, reached]

/-- The last effect is the effect of a committed call of the run. -/
theorem occurs_of_lastEffect {change : δ} (last : lastEffect step effect start inputs = some change) :
    Occurs step start (fun state input => (step state input).isOk = true ∧ effect input = some change) inputs := by
  induction inputs using List.reverseRecOn with
  | nil => cases last
  | append_singleton inputs input ih =>
    rw [lastEffect_concat] at last
    rw [occurs_concat]
    split at last
    · rename_i succeeds
      cases own : effect input with
      | none =>
        rw [own, Option.none_or] at last
        exact .inl (ih last)
      | some effect =>
        rw [own, Option.some_or] at last
        exact .inr ⟨succeeds, last⟩
    · exact .inl (ih last)

/-- A part of the state that is set by every committed call with an effect, and kept by every
other, is decided by the last effect. -/
theorem view_eq_lastEffect (view : σ -> ν) (value : Option δ -> ν) (initial : view start = value none)
    (set : ∀ state input next change, step state input = .ok next ->
      effect input = some change -> view next = value (some change))
    (kept : ∀ state input next, step state input = .ok next -> effect input = none -> view next = view state)
    (inputs : List ι) : view (run step start inputs) = value (lastEffect step effect start inputs) := by
  induction inputs using List.reverseRecOn with
  | nil => exact initial
  | append_singleton inputs input ih =>
    rw [run_concat, lastEffect_concat]
    cases outcome : step (run step start inputs) input with
    | error failure =>
      rw [commit_of_error outcome]
      exact ih
    | ok next =>
      rw [commit_of_ok outcome]
      cases change : effect input with
      | none => exact (kept _ input next outcome change).trans ih
      | some change => exact set _ input next _ outcome change

end LastEffect

end Runs

end Library
end SorobanSas
