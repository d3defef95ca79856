import SorobanSas.Common.Types
import Mathlib.Data.Finset.Max

namespace SorobanSas.Sdk

/-!
# The sequence manager of the client library

`SequenceManager` hands out the sequence numbers for the transactions of an account.  It keeps a
counter, the numbers that are in flight and a pool of numbers that came back.  All of it is behind
one lock, so each method here is one function on the whole manager.

The node is asked for the sequence number of the account when the manager does not know it.  What
the node answers is an argument.  `reserve` asks while it holds the lock, and only for an account
that is not initialized; `sync_on_chain` asks before it takes the lock.

Numbers are `i64` in the source.  They are integers here, with the two operations that could leave
the range written out.
-/

inductive SdkError where
  | transportError (message : String)
  | simulationError (message : String)
  | contractError (code : Nat)
  | decodingError (message : String)
  | rpcError (message : String)
  | validationError (message : String)
  | archived (message : String)
  | restorationRequired (message : String) (minResourceFee transactionData : Option String)
  | submissionRejected (status : String) (errorResultXdr : Option String)
  | transactionFailed (resultXdr : String) (lastLedger : Nat)
  | settlementTimeout (hash lastStatus : String) (polls : Nat)
  | responseTooLarge (limit : Nat) (observed : Option Nat)
  | invalidInput (message : String)
  | rateLimited (retries : Nat)
  deriving DecidableEq, Repr

def i64Max : Int := 2 ^ 63 - 1

def i64Min : Int := -2 ^ 63

structure AccountState where
  onChainSequence : Option Int
  lastReserved : Int
  recycled : Finset Int
  inFlight : Finset Int
  initialized : Bool
  deriving DecidableEq

namespace AccountState

def default : AccountState where
  onChainSequence := none
  lastReserved := 0
  recycled := ∅
  inFlight := ∅
  initialized := false

/-- What `reserve` makes of an account that is not initialized. -/
def refresh (state : AccountState) (current : Int) : AccountState :=
  { state with
    onChainSequence := some current
    lastReserved := current
    recycled := ∅
    inFlight := ∅
    initialized := true }

variable (state : AccountState) {state : AccountState}

/-- The second half of `reserve`: the smallest number of the pool, or the one after the last. -/
def takeNext : Except SdkError Int × AccountState :=
  if waiting : state.recycled.Nonempty then
    let smallest := state.recycled.min' waiting
    (.ok smallest, { state with
      recycled := state.recycled.erase smallest
      inFlight := insert smallest state.inFlight })
  else if state.lastReserved + 1 <= i64Max then
    (.ok (state.lastReserved + 1), { state with
      lastReserved := state.lastReserved + 1
      inFlight := insert (state.lastReserved + 1) state.inFlight })
  else
    (.error (.validationError "account sequence overflowed i64"), state)

/-- `sync_on_chain`, with the lock taken. -/
def sync (current : Int) : AccountState :=
  { state with
    onChainSequence := some current
    initialized := true
    recycled := state.recycled.filter (current < ·)
    inFlight := state.inFlight.filter (current < ·)
    lastReserved := if state.lastReserved < current then current else state.lastReserved }

/-- `commit`, with the lock taken. -/
def commit (sequence : Int) : AccountState :=
  { state with
    inFlight := state.inFlight.erase sequence
    onChainSequence := match state.onChainSequence with
      | some onChain => some (if onChain < sequence then sequence else onChain)
      | none => some sequence }

/-- `record_failure`, with the lock taken. -/
def recordFailure (sequence : Int) : AccountState :=
  let inFlight := state.inFlight.erase sequence
  if inFlight = ∅ ∧ state.recycled = ∅ then
    { state with
      inFlight := inFlight
      initialized := false
      lastReserved := match state.onChainSequence with
        | some onChain => onChain
        | none => max i64Min (state.lastReserved - 1) }
  else
    { state with
      inFlight := inFlight
      recycled := insert sequence state.recycled }

end AccountState

/-- `SequenceManager`: what is behind the lock, by public key. -/
abbrev SequenceManager := BytesN 32 -> Option AccountState

namespace SequenceManager

variable (manager : SequenceManager) (publicKey : BytesN 32)

/-- The account, if its sequence number need not be fetched. -/
def ready : Option AccountState := (manager publicKey).filter (·.initialized)

/-- `reserve`, where the node would give this answer. -/
def reserve (answer : Except SdkError Int) : Except SdkError Int × SequenceManager :=
  match ready manager publicKey, answer with
  | some state, _ =>
    let taken := state.takeNext
    (taken.1, update manager publicKey (some taken.2))
  | none, .ok current =>
    let taken := (((manager publicKey).getD .default).refresh current).takeNext
    (taken.1, update manager publicKey (some taken.2))
  | none, .error failure => (.error failure, manager)

def syncOnChain (answer : Except SdkError Int) : Except SdkError Int × SequenceManager :=
  match answer with
  | .ok current =>
    (.ok current, update manager publicKey (some (((manager publicKey).getD .default).sync current)))
  | .error failure => (.error failure, manager)

def commit (sequence : Int) : SequenceManager := update manager publicKey ((manager publicKey).map (·.commit sequence))

def recordFailure (sequence : Int) : SequenceManager :=
  update manager publicKey ((manager publicKey).map (·.recordFailure sequence))

end SequenceManager

/-! ## What a reservation takes -/

namespace AccountState

/-- A number is taken out of the pool, or it is the one after the last. -/
inductive Takes (state : AccountState) : Int -> AccountState -> Prop where
  | pooled sequence (member : sequence ∈ state.recycled) (least : ∀ other ∈ state.recycled, sequence <= other) :
      Takes state sequence { state with
        recycled := state.recycled.erase sequence
        inFlight := insert sequence state.inFlight }
  | next (dry : state.recycled = ∅) (fits : state.lastReserved + 1 <= i64Max) :
      Takes state (state.lastReserved + 1) { state with
        lastReserved := state.lastReserved + 1
        inFlight := insert (state.lastReserved + 1) state.inFlight }

theorem takeNext_ok {next : AccountState} {sequence : Int}
    (taken : state.takeNext = (.ok sequence, next)) : Takes state sequence next := by
  unfold takeNext at taken
  split at taken
  · rename_i waiting
    cases taken
    exact .pooled _ (Finset.min'_mem _ waiting) fun other => Finset.min'_le _ other
  · rename_i dry
    split at taken
    · rename_i fits
      cases taken
      exact .next (Finset.not_nonempty_iff_eq_empty.mp dry) fits
    · cases taken

/-- A reservation that fails leaves the account as it is. -/
theorem takeNext_error {next : AccountState} {failure : SdkError}
    (refused : state.takeNext = (.error failure, next)) : next = state := by
  unfold takeNext at refused
  split at refused
  · cases refused
  · split at refused
    · cases refused
    · cases refused
      rfl

end AccountState

theorem SequenceManager.ready_eq_some {manager : SequenceManager} {publicKey : BytesN 32} :
    manager.ready publicKey = some state ↔ manager publicKey = some state ∧ state.initialized = true := by
  simp [ready, Option.filter_eq_some_iff]

theorem SequenceManager.ready_eq_none {manager : SequenceManager} {publicKey : BytesN 32} :
    manager.ready publicKey = none ↔ ∀ state, manager publicKey = some state -> state.initialized = false := by
  simp [ready, Option.filter_eq_none_iff]

/-- The account of a reservation, before the number is taken. -/
theorem SequenceManager.reserve_cases (manager : SequenceManager) (publicKey : BytesN 32)
    (answer : Except SdkError Int) : (∃ state, manager publicKey = some state ∧ state.initialized = true ∧
        manager.reserve publicKey answer = (state.takeNext.1, update manager publicKey (some state.takeNext.2))) ∨
      (manager.ready publicKey = none ∧ ∃ current, answer = .ok current ∧ manager.reserve publicKey answer =
          ((((manager publicKey).getD .default).refresh current).takeNext.1, update manager publicKey
              (some (((manager publicKey).getD .default).refresh current).takeNext.2))) ∨
      (manager.ready publicKey = none ∧ ∃ failure, answer = .error failure ∧
        manager.reserve publicKey answer = (.error failure, manager)) := by
  cases known : manager.ready publicKey with
  | some state =>
    rcases ready_eq_some.mp known with ⟨found, initialized⟩
    exact .inl ⟨state, found, initialized, by simp only [reserve, known]⟩
  | none =>
    cases answer with
    | ok current => exact .inr (.inl ⟨rfl, current, rfl, by simp only [reserve, known]⟩)
    | error failure => exact .inr (.inr ⟨rfl, failure, rfl, by simp only [reserve, known]⟩)

end SorobanSas.Sdk
