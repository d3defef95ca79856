import SorobanSas.Library.Transaction
import Mathlib.Data.List.FinRange

namespace SorobanSas.Js
namespace Failover

open Library List

/-!
# Requests that fail over

`FailoverRpcClient` is used by many requests at a time.  Between two awaits a request runs alone,
so a run is a sequence of such stretches, in whatever order the answers of the endpoints arrive.

A request computes its candidates once, when it begins.  It goes through them as one after the other
fails, and does not look at the circuits again.  So an endpoint is spared only if its circuit was
open at the beginning.
-/

/-- `EndpointStatus`, without what only the diagnostics read. -/
structure EndpointStatus where
  failures : Nat
  circuitOpenUntil : Nat

structure Options where
  circuitBreakerThreshold : Nat
  circuitCooldownMs : Nat

/-- The circuit is closed, or the cooldown has passed. -/
def EndpointStatus.Available (status : EndpointStatus) (now : Nat) : Prop :=
  status.circuitOpenUntil = 0 ∨ status.circuitOpenUntil <= now

instance (status : EndpointStatus) (now : Nat) : Decidable (status.Available now) :=
  inferInstanceAs (Decidable (_ ∨ _))

variable {n : Nat}

/-- The endpoints, and the candidates that each request in progress has left.  The request waits for
the answer of the first of them. -/
structure State (n : Nat) where
  states : Fin n -> EndpointStatus
  calls : Nat -> List (Fin n)

/-- What the runtime does next: it starts a request, hands a request the outcome of its RPC call, or
hands the health check the outcome of a probe. -/
inductive Event (n : Nat) where
  | request (id : Nat)
  | answer (id : Nat) (ok : Bool)
  | probe (index : Fin n) (ok : Bool)

namespace State

/-- The constructor. -/
def new (n : Nat) : State n := ⟨fun _ => ⟨0, 0⟩, fun _ => []⟩

variable (state : State n) (options : Options)

def candidateOrder (now : Nat) : List (Fin n) :=
  (List.finRange n).filter fun index => (state.states index).Available now

def markSuccess (index : Fin n) : State n := { state with states := update state.states index ⟨0, 0⟩ }

def markFailure (now : Nat) (index : Fin n) : State n :=
  let failures := (state.states index).failures + 1
  let circuitOpenUntil :=
    if options.circuitBreakerThreshold <= failures then now + options.circuitCooldownMs
    else (state.states index).circuitOpenUntil
  { state with states := update state.states index ⟨failures, circuitOpenUntil⟩ }

def mark (now : Nat) (index : Fin n) (ok : Bool) : State n :=
  if ok then state.markSuccess index else state.markFailure options now index

/-- The loop of `request` goes on with these candidates: it sends to the first of them, or throws. -/
def resume (id : Nat) (order : List (Fin n)) : State n × Option (Fin n) :=
  ({ state with calls := update state.calls id order }, order.head?)

/-- One stretch of code at the given time, with the endpoint to which `request` sends in it. -/
def react (now : Nat) : Event n -> Except Unit (State n × Option (Fin n))
  | .request id => do
      require (state.calls id = []) ()
      return state.resume id (state.candidateOrder now)
  | .answer id ok =>
    match state.calls id with
    | [] => .error ()
    | index :: rest =>
      .ok ((state.mark options now index ok).resume id (if ok then [] else rest))
  | .probe index ok => .ok (state.mark options now index ok, none)

def step (input : Nat × Event n) : Except Unit (State n) := do
  let result <- state.react options input.1 input.2
  return result.1

/-- The endpoint whose RPC call or probe has ended, and how. -/
def outcome : Event n -> Option (Fin n × Bool)
  | .request _ => none
  | .answer id ok => (state.calls id).head?.map (·, ok)
  | .probe index ok => some (index, ok)

/-- The event is a failure of this endpoint that opens its circuit. -/
def Opens (index : Fin n) (event : Event n) : Prop :=
  state.outcome event = some (index, false) ∧ options.circuitBreakerThreshold <= (state.states index).failures + 1

end State

/-- Since the request began, the circuit of this endpoint was opened for longer than until `now`, and not
opened anew or closed by a success. -/
def Reopened (options : Options) (id now : Nat) (index : Fin n) : List (Nat × Event n) -> Prop :=
  OccursSince (State.step · options) (State.new n)
    (fun state input => state.Opens options index input.2 ∧ now < input.1 + options.circuitCooldownMs)
    (fun state input => state.Opens options index input.2 ∨ state.outcome input.2 = some (index, true) ∨
      input.2 = .request id)

variable {options : Options} {state : State n} {id now : Nat} {index : Fin n} {input : Nat × Event n}
  {inputs : List (Nat × Event n)}

theorem states_commit : (commit (State.step · options) state input).states = match state.outcome input.2 with
    | none => state.states
    | some (ended, ok) => (state.mark options input.1 ended ok).states := by
  rcases input with ⟨time, event⟩
  cases event with
  | request known =>
    by_cases idle : state.calls known = []
    · simp [commit, State.step, State.react, State.outcome, State.resume, require, idle]
    · simp [commit, State.step, State.react, State.outcome, require, idle]
  | answer known ok =>
    cases waiting : state.calls known with
    | nil => simp [commit, State.step, State.react, State.outcome, waiting]
    | cons first rest => simp [commit, State.step, State.react, State.outcome, State.resume, waiting]
  | probe probed ok => simp [commit, State.step, State.react, State.outcome]

/-- Only a request that begins gets candidates. -/
theorem calls_commit (other : input.2 ≠ .request id) :
    ((commit (State.step · options) state input).calls id).Sublist (state.calls id) := by
  have marked (time : Nat) (ended : Fin n) (ok : Bool) : (state.mark options time ended ok).calls = state.calls := by
    cases ok <;> rfl
  rcases input with ⟨time, event⟩
  cases event with
  | request known =>
    have apart : id ≠ known := fun same => other (congrArg _ same.symm)
    by_cases idle : state.calls known = []
    · simp [commit, State.step, State.react, State.resume, require, idle, update_of_ne apart]
    · simp [commit, State.step, State.react, require, idle]
  | answer known ok =>
    cases waiting : state.calls known with
    | nil => simp [commit, State.step, State.react, waiting]
    | cons first rest =>
      by_cases own : id = known
      · subst own
        cases ok <;> simp [commit, State.step, State.react, State.resume, update_self, waiting]
      · simp [commit, State.step, State.react, State.resume, update_of_ne own, marked, waiting]
  | probe probed ok => simp [commit, State.step, State.react, marked]

/-- What is known about a request: it has no candidate twice, and those it has are available unless their
circuit was opened since. -/
def Chosen (options : Options) (id now : Nat) (index : Fin n) (inputs : List (Nat × Event n)) : Prop :=
  let state := run (State.step · options) (State.new n) inputs
  (state.calls id).Nodup ∧
    (index ∈ state.calls id -> ((state.states index).Available now <-> ¬ Reopened options id now index inputs))

theorem chosen_request {begun : Nat} (past : begun <= now)
    (idle : (run (State.step · options) (State.new n) inputs).calls id = []) :
    Chosen options id now index (inputs ++ [(begun, .request id)]) := by
  have begins (state : State n) (idle : state.calls id = []) : commit (State.step · options) state
      (begun, .request id) = (state.resume id (state.candidateOrder begun)).1 := by
    simp [commit, State.step, State.react, require, idle]
  rw [Chosen, run_concat, begins _ idle]
  simp only [State.resume, update_self]
  refine ⟨(nodup_finRange n).filter _, fun member => ?_⟩
  have available : ((run (State.step · options) (State.new n) inputs).states index).Available begun := by
    simpa [State.candidateOrder] using member
  refine iff_of_true (available.imp_right fun cooled => cooled.trans past) fun reopened => ?_
  rcases occursSince_concat.mp reopened with ⟨⟨ended, -⟩, -⟩ | ⟨-, quiet⟩
  · cases ended
  · exact quiet (.inr (.inr rfl))

theorem Chosen.extend (chosen : Chosen options id now index inputs) (other : input.2 ≠ .request id) :
    Chosen options id now index (inputs ++ [input]) := by
  rcases chosen with ⟨distinct, known⟩
  have reopened : Reopened options id now index (inputs ++ [input]) <-> _ := occursSince_concat
  rw [Chosen, run_concat, reopened, ← Reopened]
  generalize run (State.step · options) (State.new n) inputs = state at distinct known ⊢
  have fewer : ((commit (State.step · options) state input).calls id).Sublist (state.calls id) := calls_commit other
  refine ⟨distinct.sublist fewer, fun member => ?_⟩
  have before := known (fewer.subset member)
  rw [states_commit]
  cases ended : state.outcome input.2 with
  | none => simpa [State.Opens, ended, other] using before
  | some result =>
    rcases result with ⟨endpoint, ok⟩
    by_cases own : index = endpoint
    · subst own
      cases ok with
      | true => simp [State.Opens, ended, State.mark, State.markSuccess, update_self, EndpointStatus.Available]
      | false =>
        by_cases reached : options.circuitBreakerThreshold <= (state.states index).failures + 1
        · simp [State.Opens, ended, reached, State.mark, State.markFailure, update_self, EndpointStatus.Available]
          omega
        · simpa [State.Opens, ended, reached, other, State.mark, State.markFailure, update_self,
            EndpointStatus.Available] using before
    · have unchanged : (state.mark options input.1 endpoint ok).states index = state.states index := by
        cases ok <;> exact update_of_ne own _ _
      simpa [State.Opens, ended, other, unchanged, Ne.symm own] using before

/-- A request sends first to an endpoint that is available.  Later it sends to one that was available
when it began, so this one is available exactly if its circuit has not been opened since, or has been closed
again or cooled down. -/
theorem open_circuit_spared (options : Options) (inputs : List (Nat × Event n)) (id now : Nat)
    (index : Fin n) (next : State n) :
    let state := run (State.step · options) (State.new n) inputs
    (state.react options now (.request id) = .ok (next, some index) -> (next.states index).Available now) ∧
    forall begun ok, begun ≤ now -> OccursSince (State.step · options) (State.new n)
        (fun state input => input = (begun, .request id) ∧ state.calls id = [])
        (fun _ input => input.2 = .request id) inputs ->
      state.react options now (.answer id ok) = .ok (next, some index) ->
      ((next.states index).Available now <-> ¬ Reopened options id now index inputs) := by
  intro state
  constructor
  · intro reacted
    simp only [State.react, eq_ok, State.resume, Prod.mk.injEq] at reacted
    rcases reacted with ⟨-, rfl, sent⟩
    have member := mem_of_mem_head? sent
    simpa [State.candidateOrder] using member
  · intro begun ok later occurred reacted
    have chosen : Chosen options id now index inputs := by
      refine occurred.trail (Chosen options id now index) ?_ fun _ _ => Chosen.extend
      rintro before input ⟨rfl, idle⟩
      exact chosen_request later idle
    simp only [State.react] at reacted
    split at reacted
    · cases reacted
    · rename_i first rest waiting
      rcases Prod.mk.inj (Except.ok.inj reacted) with ⟨rfl, sent⟩
      cases ok with
      | true => cases sent
      | false =>
        have member : index ∈ rest := mem_of_mem_head? sent
        rw [Chosen, waiting] at chosen
        have other : index ≠ first := fun same => (List.nodup_cons.mp chosen.1).1 (same ▸ member)
        have unchanged : (state.mark options now first false).states index = state.states index :=
          update_of_ne other _ _
        change ((state.mark options now first false).states index).Available now <-> _
        rw [unchanged]
        exact chosen.2 (mem_cons_of_mem first member)

/-- A request that finds the first of two endpoints dead sends to the second, which is available although
a probe of it has failed once. -/
theorem open_circuit_spared_two :
    ∃ next, (run (State.step · ⟨2, 30000⟩) (State.new 2) [(1, .request 0), (2, .probe 1 false)]).react ⟨2, 30000⟩ 3
        (.answer 0 false) = .ok (next, some 1) ∧ (next.states 1).Available 3 := by
  refine ⟨_, rfl, ((open_circuit_spared ⟨2, 30000⟩ [(1, .request 0), (2, .probe 1 false)] 0 3 1 _).2 1 false
    (by decide) ⟨[], _, [(2, .probe 1 false)], rfl, ⟨rfl, rfl⟩, ?_⟩ rfl).mpr ?_⟩
  · rintro (_ | ⟨_, _⟩) other last split <;> simp at split
    rcases split with ⟨rfl, -⟩
    rintro ⟨⟩
  · rintro ⟨_ | ⟨_, _ | ⟨_, _⟩⟩, input, after, split, ⟨⟨ended, reached⟩, -⟩, -⟩
    · cases split
      cases ended
    · cases split
      exact absurd reached (by decide)
    · simp at split

/-- Two requests begin while both circuits are closed.  The second finds both endpoints dead and
opens both circuits.  Then the first request moves on to the second endpoint. -/
theorem open_circuit_receives_request :
    let options : Options := ⟨1, 30000⟩
    let state := run (State.step · options) (State.new 2)
      [(1, .request 0), (1, .request 1), (2, .answer 1 false), (3, .answer 1 false)]
    ∃ next, state.react options 4 (.answer 0 false) = .ok (next, some 1) ∧ ¬ (next.states 1).Available 4 :=
  ⟨_, rfl, by decide⟩

end Failover
end SorobanSas.Js
