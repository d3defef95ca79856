import SorobanSas.Sdk.Sequence

namespace SorobanSas.Sdk

open Library
open SequenceManager (ready_eq_some recordFailure)

/-!
# Writes of one account

`submit_write` reserves a number, simulates, builds and signs the transaction, sends it, waits for
it to settle and reports to the sequence manager how it went.  It tries once more if the network
finds the number wrong.  Here any number of such calls run next to each other, for one account and
one manager, together with a network that takes the transactions in the order of their numbers.

Every step that takes the lock of the manager or reaches the network is an event of its own.  What
the network answers is part of the event.  It tells the truth: a transaction is accepted only with
the number after the last accepted one, and reported as settled only when it has been executed.

The purpose is that a failed write does no lasting harm: when all calls have returned and nothing
is pending, the next number should be the one that the network expects.  That fails when a call
gives up between the reservation and the submission, because the early return drops the
reservation and the number stays in flight for good.  The first part shows when the purpose is
met, the second part is a failed simulation that blocks the account.
-/

variable {other : Nat} {taken : Bool} {manager : SequenceManager} {accepted : Bool} {state : AccountState}
  {id : Nat} {sequence : Int}

/-- The statuses that `sendTransaction` reports. -/
inductive SendStatus where
  | pending | duplicate | tryAgainLater | error | failed
  deriving DecidableEq, Repr

def SendStatus.text : SendStatus -> String
  | .pending => "PENDING"
  | .duplicate => "DUPLICATE"
  | .tryAgainLater => "TRY_AGAIN_LATER"
  | .error => "ERROR"
  | .failed => "FAILED"

structure SendTransactionResult where
  status : SendStatus
  errorResultXdr : Option String
  latestLedger : Nat
  deriving DecidableEq, Repr

inductive SubmissionMode where
  | blocking | async
  deriving DecidableEq, Repr

/-- How `submit_with_policy` goes on after `sendTransaction`: it returns, or it polls. -/
inductive Sent where
  | returns (outcome : Except SdkError Unit)
  | polls

/-- The first half of `submit_with_policy`. -/
def afterSend (mode : SubmissionMode) : Except SdkError SendTransactionResult -> Sent
  | .error failure => .returns (.error failure)
  | .ok sent =>
    if sent.status = .error then
      .returns (.error (.submissionRejected sent.status.text sent.errorResultXdr))
    else if sent.status = .failed then
      .returns (.error (.transactionFailed (sent.errorResultXdr.getD "") sent.latestLedger))
    else if mode = .async then
      .returns (.ok ())
    else
      .polls

/-- Where a call of `submit_write` is.  Whether the network has accepted the transaction of the
attempt is not known to the call. -/
inductive Stage where
  /-- Before the lock is taken in `reserve`. -/
  | reserving (attempt : Nat)
  | building (attempt : Nat) (sequence : Int)
  | sending (attempt : Nat) (sequence : Int)
  | polling (attempt : Nat) (sequence : Int) (accepted : Bool)
  /-- `submit_with_policy` has returned. -/
  | reporting (attempt : Nat) (sequence : Int) (accepted : Bool) (outcome : Except SdkError Unit)

/-- A call that gets no number returns the error. -/
def Stage.reserved (attempt : Nat) : Except SdkError Int -> Option Stage
  | .ok sequence => some (.building attempt sequence)
  | .error _ => none

/-- The manager, the account on the network and the calls in progress. -/
structure System where
  manager : SequenceManager
  /-- The sequence number of the account on the chain. -/
  executed : Int
  /-- The last number that the network has accepted. -/
  accepted : Int
  calls : Nat -> Option Stage

/-- No call has been made yet, and nothing is pending. -/
def System.fresh (chain : Int) : System := ⟨fun _ => none, chain, chain, fun _ => none⟩

inductive Event where
  | start (id : Nat)
  /-- The node may fail to answer; if it answers, it gives the number on the chain. -/
  | reserve (id : Nat) (unavailable : Option SdkError)
  /-- Simulation, building and signing. -/
  | build (id : Nat) (outcome : Except SdkError Unit)
  /-- The answer may be lost, so whether the network takes the transaction is separate. -/
  | send (id : Nat) (response : Except SdkError SendTransactionResult) (taken : Bool)
  | poll (id : Nat) (outcome : Except SdkError Unit)
  | report (id : Nat)
  /-- The network executes the next accepted transaction. -/
  | execute

/-- The call that the event is about. -/
def Event.caller : Event -> Option Nat
  | .start id | .reserve id _ | .build id _ | .send id _ _ | .poll id _ | .report id => some id
  | .execute => none

/-- The event does not happen: the call is not there, or the network would not tell the truth. -/
inductive Impossible where
  | impossible

/-- What the network may answer to a transaction with this number. -/
def Truthful (system : System) (sequence : Int) (taken : Bool) : Except SdkError SendTransactionResult -> Prop
  | .error _ => taken = true -> sequence = system.accepted + 1
  | .ok sent => (taken = true ↔ sent.status = .pending) ∧ (taken = true -> sequence = system.accepted + 1) ∧
      (sent.status = .duplicate -> sequence <= system.accepted)

instance (system : System) (sequence : Int) (taken : Bool) :
    (response : Except SdkError SendTransactionResult) -> Decidable (Truthful system sequence taken response)
  | .error _ => inferInstanceAs (Decidable (_ -> _))
  | .ok _ => inferInstanceAs (Decidable (_ ∧ _))

/-- The number that the call has reserved, and whether the network has accepted it. -/
def Stage.carries : Stage -> Option (Int × Bool)
  | .reserving _ => none
  | .building _ sequence | .sending _ sequence => some (sequence, false)
  | .polling _ sequence accepted | .reporting _ sequence accepted _ => some (sequence, accepted)

def System.Has (system : System) (id : Nat) (sequence : Int) (accepted : Bool) : Prop :=
  (system.calls id).bind Stage.carries = some (sequence, accepted)

section Steps

variable (mode : SubmissionMode) (isBadSequence : Option String -> Bool) (publicKey : BytesN 32)

/-- The guard of the retry. -/
def retries (attempt : Nat) : SdkError -> Bool
  | .submissionRejected _ errorResultXdr => attempt = 0 && isBadSequence errorResultXdr
  | _ => false

namespace System

variable (system : System)

def move (id : Nat) (stage : Option Stage) : System := { system with calls := update system.calls id stage }

/-- What the node says about the account. -/
def answer : Option SdkError -> Except SdkError Int
  | some failure => .error failure
  | none => .ok system.executed

def step (system : System) : Event -> Except Impossible System
  | .start id =>
    match system.calls id with
    | none => .ok (system.move id (some (.reserving 0)))
    | some _ => .error .impossible
  | .reserve id unavailable =>
    match system.calls id with
    | some (.reserving attempt) =>
      let reserved := system.manager.reserve publicKey (system.answer unavailable)
      .ok ({ system with manager := reserved.2 }.move id (Stage.reserved attempt reserved.1))
    | _ => .error .impossible
  | .build id outcome =>
    match system.calls id, outcome with
    | some (.building attempt sequence), .ok _ =>
      .ok (system.move id (some (.sending attempt sequence)))
    -- The reservation is dropped here.
    | some (.building _ _), .error _ => .ok (system.move id none)
    | _, _ => .error .impossible
  | .send id response taken =>
    match system.calls id with
    | some (.sending attempt sequence) =>
      if Truthful system sequence taken response then
        let reached := { system with
          accepted := if taken then sequence else system.accepted }
        match afterSend mode response with
        | .returns outcome =>
          .ok (reached.move id (some (.reporting attempt sequence taken outcome)))
        | .polls => .ok (reached.move id (some (.polling attempt sequence taken)))
      else .error .impossible
    | _ => .error .impossible
  | .poll id outcome =>
    match system.calls id with
    | some (.polling attempt sequence accepted) =>
      if outcome = .ok () ∧ system.executed < sequence then .error .impossible
      else .ok (system.move id (some (.reporting attempt sequence accepted outcome)))
    | _ => .error .impossible
  | .report id =>
    match system.calls id with
    | some (.reporting _ sequence _ (.ok _)) =>
      .ok ({ system with manager := system.manager.commit publicKey sequence }.move id none)
    | some (.reporting attempt sequence _ (.error failure)) =>
      .ok ({ system with manager := system.manager.recordFailure publicKey sequence }.move id
        (if retries isBadSequence attempt failure then some (.reserving 1) else none))
    | _ => .error .impossible
  | .execute =>
    if system.executed < system.accepted then
      .ok { system with executed := system.executed + 1 }
    else .error .impossible

variable {mode isBadSequence publicKey} {system}

/-- The calls that the event is not about stay where they are. -/
theorem step_calls {event : Event} {next : System} (idle : event.caller ≠ some other)
    (success : system.step mode isBadSequence publicKey event = .ok next) : next.calls other = system.calls other := by
  have moved (id : Nat) (different : some id ≠ some other) (before : System)
      (stage : Option Stage) : (before.move id stage).calls other = before.calls other := by
    refine update_of_ne ?_ _ _
    rintro rfl
    exact different rfl
  cases event with
  | execute =>
    simp only [step] at success
    split at success
    · cases success
      rfl
    · cases success
  | start id | reserve id unavailable | poll id outcome | build id outcome | report id
  | send id response taken =>
    simp only [step] at success
    repeat' split at success
    all_goals
      cases success
      try exact moved id idle _ _

variable (system)

/-- No call is in progress, and no accepted transaction is pending. -/
structure Quiet : Prop where
  returned : ∀ id, system.calls id = none
  settled : system.executed = system.accepted

end System

/-- What keeps the numbers in step with the network.  No call fails between the reservation and
the submission.  A call is reported as successful only if the network has accepted its transaction; one
whose transaction was accepted is reported as failed only while no other number is in flight or in the
pool.  No number is reserved while a call has one that the network has accepted from another. -/
def Benign (system : System) : Event -> Prop
  | .reserve _ _ => (∀ id sequence, system.Has id sequence false -> system.accepted < sequence) ∧
      (system.manager.ready publicKey = none -> system.executed = system.accepted ∨ system.executed + 1 <= i64Max)
  | .build _ outcome => outcome = .ok ()
  | .report id => (∀ attempt sequence accepted done,
        system.calls id = some (.reporting attempt sequence accepted (.ok done)) -> accepted = true) ∧
      ∀ attempt sequence failure state, system.calls id = some (.reporting attempt sequence true (.error failure)) ->
        system.manager publicKey = some state -> state.inFlight.erase sequence = ∅ ∧ state.recycled = ∅
  | _ => True

end Steps

/-! ## The numbers in use -/

variable {stage : Option Stage}

theorem System.has_move {system : System} : (system.move id stage).Has other sequence accepted ↔
      (other = id ∧ stage.bind Stage.carries = some (sequence, accepted)) ∨
        other ≠ id ∧ system.Has other sequence accepted := by
  unfold Has move
  by_cases same : other = id
  · subst same
    simp
  · simp [same]

/-- The numbers that the network has not accepted, up to the last one reserved, are in the pool or
reserved by one call each. -/
structure Spread (has : Nat -> Int -> Bool -> Prop) (frontier : Int) (state : AccountState) :
    Prop where
  flying : ∀ sequence, sequence ∈ state.inFlight ↔ ∃ id accepted, has id sequence accepted
  ahead : frontier <= state.lastReserved
  passed : ∀ id sequence, has id sequence true -> sequence <= frontier
  covered : ∀ sequence, (sequence ∈ state.recycled ∨ ∃ id, has id sequence false) ↔
    frontier < sequence ∧ sequence <= state.lastReserved
  apart : ∀ sequence ∈ state.recycled, ∀ id accepted, ¬ has id sequence accepted

namespace Spread

variable {has has' : Nat -> Int -> Bool -> Prop} {frontier : Int} {next : AccountState}

/-- A fetched account, with nothing reserved. -/
theorem refresh (unheld : ∀ id sequence accepted, ¬ has id sequence accepted) :
    Spread has frontier (state.refresh frontier) where
  flying := by simp [AccountState.refresh, unheld]
  ahead := Int.le_refl _
  passed := fun id sequence held => absurd held (unheld id sequence true)
  covered := by
    intro sequence
    simp only [AccountState.refresh, unheld, Finset.notMem_empty, exists_const, or_self, false_iff]
    omega
  apart := fun sequence _ id accepted => unheld id sequence accepted

variable (spread : Spread has frontier state)

include spread

theorem congr (same : ∀ id sequence accepted, has' id sequence accepted ↔ has id sequence accepted) :
    Spread has' frontier state where
  flying := by simpa only [same] using spread.flying
  ahead := spread.ahead
  passed := by simpa only [same] using spread.passed
  covered := by simpa only [same] using spread.covered
  apart := by simpa only [same] using spread.apart

/-- Nobody has a number that can be taken. -/
theorem free (takes : state.Takes sequence next) (id : Nat) (accepted : Bool) : ¬ has id sequence accepted := by
  cases takes with
  | pooled _ member => exact spread.apart sequence member id accepted
  | next =>
    intro held
    have ahead := spread.ahead
    cases accepted with
    | true =>
      have passed := spread.passed id _ held
      omega
    | false =>
      have covered := (spread.covered _).mp (.inr ⟨id, held⟩)
      omega

/-- With no call in progress, the next number is the one after the last accepted one. -/
theorem takeNext (unheld : ∀ id sequence accepted, ¬ has id sequence accepted)
    (fits : frontier + 1 <= i64Max) : state.takeNext.1 = .ok (frontier + 1) := by
  have pooled (sequence : Int) : sequence ∈ state.recycled ↔ frontier < sequence ∧ sequence <= state.lastReserved := by
    rw [← spread.covered, or_iff_left]
    rintro ⟨id, held⟩
    exact unheld id sequence false held
  unfold AccountState.takeNext
  by_cases waiting : state.recycled.Nonempty
  · rw [dif_pos waiting]
    have member := (pooled _).mp (Finset.min'_mem _ waiting)
    have least := Finset.min'_le state.recycled (frontier + 1) ((pooled _).mpr (by omega))
    have same : state.recycled.min' waiting = frontier + 1 := by omega
    simp only [same]
  · have dry := mt (fun member => ⟨frontier + 1, (pooled _).mpr member⟩) waiting
    have ahead := spread.ahead
    have last : state.lastReserved = frontier := by omega
    rw [dif_neg waiting, last, if_pos fits]

theorem takes (takes : state.Takes sequence next) (joined : ∀ other number accepted, has' other number accepted ↔
      has other number accepted ∨ other = id ∧ number = sequence ∧ accepted = false) : Spread has' frontier next := by
  have flying (number : Int) : number ∈ insert sequence state.inFlight ↔
      ∃ other accepted, has' other number accepted := by
    simp only [joined, Finset.mem_insert, spread.flying]
    constructor
    · rintro (rfl | ⟨other, accepted, held⟩)
      · exact ⟨id, false, .inr ⟨rfl, rfl, rfl⟩⟩
      · exact ⟨other, accepted, .inl held⟩
    · rintro ⟨other, accepted, held | ⟨-, same, -⟩⟩
      · exact .inr ⟨other, accepted, held⟩
      · exact .inl same
  have passed (other : Nat) (number : Int) (held : has' other number true) : number <= frontier := by
    rcases (joined other number true).mp held with earlier | ⟨-, -, unaccepted⟩
    · exact spread.passed other number earlier
    · cases unaccepted
  have unaccepted (number : Int) : (∃ other, has' other number false) ↔
      (∃ other, has other number false) ∨ number = sequence := by
    simp only [joined]
    constructor
    · rintro ⟨other, held | ⟨-, same, -⟩⟩
      · exact .inl ⟨other, held⟩
      · exact .inr same
    · rintro (⟨other, held⟩ | same)
      · exact ⟨other, .inl held⟩
      · exact ⟨id, .inr ⟨rfl, same, trivial⟩⟩
  cases takes with
  | pooled _ member =>
    refine ⟨flying, spread.ahead, passed, fun number => ?_, fun number kept other accepted => ?_⟩
    · rw [unaccepted, ← spread.covered number, Finset.mem_erase]
      by_cases same : number = sequence
      · subst same
        exact iff_of_true (.inr (.inr rfl)) (.inl member)
      · simp [same]
    · rw [joined, not_or]
      exact ⟨spread.apart number (Finset.mem_of_mem_erase kept) other accepted,
        fun taken => Finset.ne_of_mem_erase kept taken.2.1⟩
  | next dry =>
    have ahead := spread.ahead
    refine ⟨flying, ?_, passed, fun number => ?_, fun number kept => ?_⟩
    · change frontier <= state.lastReserved + 1
      omega
    · have covered := spread.covered number
      rw [unaccepted, ← or_assoc, covered]
      change _ ↔ frontier < number ∧ number <= state.lastReserved + 1
      omega
    · change number ∈ state.recycled at kept
      rw [dry] at kept
      exact absurd kept (Finset.notMem_empty number)

variable (distinct : ∀ first second number one two, has first number one ->
  has second number two -> first = second)

include distinct

theorem accepts (held : has id sequence false) (expected : sequence = frontier + 1)
    (own : ∀ number accepted, has id number accepted -> number = sequence ∧ accepted = false)
    (flipped : ∀ other number accepted, has' other number accepted ↔
      (other = id ∧ number = sequence ∧ accepted = true) ∨ other ≠ id ∧ has other number accepted) :
    Spread has' sequence state := by
  have covered := (spread.covered sequence).mp (.inr ⟨id, held⟩)
  refine ⟨fun number => ?_, covered.2, ?_, fun number => ?_, ?_⟩
  · rw [spread.flying]
    simp only [flipped]
    constructor
    · rintro ⟨other, accepted, has⟩
      by_cases same : other = id
      · subst same
        exact ⟨other, true, .inl ⟨rfl, (own number accepted has).1, rfl⟩⟩
      · exact ⟨other, accepted, .inr ⟨same, has⟩⟩
    · rintro ⟨other, accepted, ⟨rfl, rfl, -⟩ | ⟨-, has⟩⟩
      · exact ⟨other, false, held⟩
      · exact ⟨other, accepted, has⟩
  · intro other number accepted
    rcases (flipped other number true).mp accepted with ⟨-, rfl, -⟩ | ⟨-, earlier⟩
    · exact Int.le_refl _
    · have passed := spread.passed other number earlier
      omega
  · have before := spread.covered number
    have unaccepted : (∃ other, has' other number false) ↔ (∃ other, has other number false) ∧ number ≠ sequence := by
      simp only [flipped, Bool.false_eq_true, and_false, false_or]
      constructor
      · rintro ⟨other, different, has⟩
        refine ⟨⟨other, has⟩, ?_⟩
        rintro rfl
        exact different (distinct other id _ _ _ has held)
      · rintro ⟨⟨other, has⟩, different⟩
        refine ⟨other, ?_, has⟩
        rintro rfl
        exact different (own number false has).1
    have pooled : number ∈ state.recycled -> number ≠ sequence := by
      rintro member rfl
      exact spread.apart _ member id false held
    rw [unaccepted]
    constructor
    · rintro (member | ⟨has, different⟩)
      · have between := before.mp (.inl member)
        have apart := pooled member
        omega
      · have between := before.mp (.inr has)
        omega
    · intro between
      rcases before.mpr (by omega) with member | has
      · exact .inl member
      · exact .inr ⟨has, by omega⟩
  · intro number member other accepted has
    rcases (flipped other number accepted).mp has with ⟨-, rfl, -⟩ | ⟨-, earlier⟩
    · exact spread.apart _ member id false held
    · exact spread.apart number member other accepted earlier

variable (rest : ∀ other number accepted, has' other number accepted ↔ other ≠ id ∧ has other number accepted)

include rest

/-- What stays in flight when a call gives its number back. -/
theorem flying_erase (held : has id sequence accepted)
    (own : ∀ number accepted, has id number accepted -> number = sequence) (number : Int) :
    number ∈ state.inFlight.erase sequence ↔ ∃ other accepted, has' other number accepted := by
  simp only [Finset.mem_erase, spread.flying, rest]
  constructor
  · rintro ⟨different, other, accepted, has⟩
    refine ⟨other, accepted, ?_, has⟩
    rintro rfl
    exact different (own number accepted has)
  · rintro ⟨other, accepted, different, has⟩
    refine ⟨?_, other, accepted, has⟩
    rintro rfl
    exact different (distinct other id _ _ _ has held)

/-- The report of a transaction that was accepted. -/
theorem commit (held : has id sequence true)
    (own : ∀ number accepted, has id number accepted -> number = sequence ∧ accepted = true) :
    Spread has' frontier (state.commit sequence) where
  flying := spread.flying_erase distinct rest held fun number accepted has => (own number accepted has).1
  ahead := spread.ahead
  passed := fun other number has => spread.passed other number ((rest _ _ _).mp has).2
  covered := by
    intro number
    have unaccepted : (∃ other, has' other number false) ↔ ∃ other, has other number false := by
      simp only [rest]
      constructor
      · rintro ⟨other, -, has⟩
        exact ⟨other, has⟩
      · rintro ⟨other, has⟩
        refine ⟨other, ?_, has⟩
        rintro rfl
        cases (own number false has).2
    rw [unaccepted]
    exact spread.covered number
  apart := fun number member other accepted has => spread.apart number member other accepted ((rest _ _ _).mp has).2

theorem recycle (held : has id sequence false)
    (own : ∀ number accepted, has id number accepted -> number = sequence ∧ accepted = false) :
    Spread has' frontier { state with
      inFlight := state.inFlight.erase sequence
      recycled := insert sequence state.recycled } where
  flying := spread.flying_erase distinct rest held fun number accepted has => (own number accepted has).1
  ahead := spread.ahead
  passed := fun other number has => spread.passed other number ((rest _ _ _).mp has).2
  covered := by
    intro number
    rw [← spread.covered number, Finset.mem_insert]
    simp only [rest]
    constructor
    · rintro ((rfl | member) | ⟨other, -, has⟩)
      · exact .inr ⟨id, held⟩
      · exact .inl member
      · exact .inr ⟨other, has⟩
    · rintro (member | ⟨other, has⟩)
      · exact .inl (.inr member)
      · by_cases same : other = id
        · subst same
          exact .inl (.inl (own number false has).1)
        · exact .inr ⟨other, same, has⟩
  apart := by
    intro number member other accepted has
    rcases (rest other number accepted).mp has with ⟨different, has⟩
    rcases Finset.mem_insert.mp member with rfl | member
    · exact different (distinct other id _ _ _ has held)
    · exact spread.apart number member other accepted has

end Spread

/-- The number that was fetched is used already, by a transaction that was pending then.  Nobody else has
a number. -/
structure Stale (has : Nat -> Int -> Bool -> Prop) (frontier : Int) (state : AccountState) (id : Nat)
    (sequence : Int) : Prop where
  used : sequence <= frontier
  flying : state.inFlight = {sequence}
  dry : state.recycled = ∅
  alone : ∀ other number accepted, has other number accepted ↔ other = id ∧ number = sequence ∧ accepted = false

/-! ## Runs -/

/-- The manager is in step with the network, but for a number that was fetched too early.  An account that
has to be fetched has no number in flight. -/
structure Balanced (publicKey : BytesN 32) (system : System) : Prop where
  behind : system.executed <= system.accepted
  distinct : ∀ first second sequence one two, system.Has first sequence one ->
    system.Has second sequence two -> first = second
  idle : system.manager.ready publicKey = none -> ∀ id sequence accepted, ¬ system.Has id sequence accepted
  active : ∀ state, system.manager.ready publicKey = some state -> Spread system.Has system.accepted state ∨
    ∃ id sequence, Stale system.Has system.accepted state id sequence

theorem System.Has.unique {system : System} {first second : Int} {one two : Bool}
    (has : system.Has id first one) (again : system.Has id second two) : first = second ∧ one = two := by
  cases Option.some.inj (has.symm.trans again)
  exact ⟨rfl, rfl⟩

open SorobanSas.Sdk.System (Has has_move step)

namespace Balanced

variable {publicKey : BytesN 32} {system : System}

theorem fresh (chain : Int) : Balanced publicKey (System.fresh chain) where
  behind := Int.le_refl _
  distinct := by
    rintro _ _ _ _ _ ⟨⟩
  idle := by
    rintro _ _ _ _ ⟨⟩
  active := by
    rintro _ ⟨⟩

theorem ready_update (initialized : state.initialized = true) :
    SequenceManager.ready (update manager publicKey (some state)) publicKey = some state := by
  rw [ready_eq_some, update_self]
  exact ⟨rfl, initialized⟩

variable {outcome : Except SdkError Unit} (balanced : Balanced publicKey system)

include balanced

/-- A call that has a number is known to the manager. -/
theorem spread (has : system.Has id sequence accepted) :
    ∃ state, system.manager publicKey = some state ∧ state.initialized = true ∧
      (Spread system.Has system.accepted state ∨
        Stale system.Has system.accepted state id sequence ∧ accepted = false) := by
  cases ready : system.manager.ready publicKey with
  | none => exact absurd has (balanced.idle ready id sequence accepted)
  | some state =>
    rcases ready_eq_some.mp ready with ⟨found, initialized⟩
    refine ⟨state, found, initialized, (balanced.active state ready).imp_right ?_⟩
    rintro ⟨holder, number, stale⟩
    rcases (stale.alone id sequence accepted).mp has with ⟨rfl, rfl, rfl⟩
    exact ⟨stale, rfl⟩

theorem move (same : stage.bind Stage.carries = (system.calls id).bind Stage.carries) :
    Balanced publicKey (system.move id stage) := by
  have has (other : Nat) (sequence : Int) (accepted : Bool) :
      (system.move id stage).Has other sequence accepted ↔ system.Has other sequence accepted := by
    rw [has_move, same]
    by_cases equal : other = id
    · subst equal
      simp [Has]
    · simp [equal]
  refine ⟨balanced.behind, ?_, ?_, ?_⟩
  · simpa only [has] using balanced.distinct
  · exact fun unready other sequence accepted held =>
      balanced.idle unready other sequence accepted ((has other sequence accepted).mp held)
  · refine fun state ready => (balanced.active state ready).imp (·.congr has) ?_
    rintro ⟨holder, sequence, stale⟩
    exact ⟨holder, sequence, { stale with alone := by simpa only [has] using stale.alone }⟩

variable {mode : SubmissionMode} {isBadSequence : Option String -> Bool} {next : System}

theorem start (success : system.step mode isBadSequence publicKey (.start id) = .ok next) :
    Balanced publicKey next := by
  simp only [step] at success
  split at success
  · rename_i idle
    cases success
    exact balanced.move (by rw [idle]; rfl)
  · cases success

theorem execute (success : system.step mode isBadSequence publicKey .execute = .ok next) : Balanced publicKey next := by
  simp only [step] at success
  split at success
  · rename_i pending
    cases success
    exact { balanced with behind := pending }
  · cases success

theorem poll (success : system.step mode isBadSequence publicKey (.poll id outcome) = .ok next) :
    Balanced publicKey next := by
  simp only [step] at success
  split at success
  · rename_i attempt sequence accepted polling
    split at success
    · cases success
    · cases success
      exact balanced.move (by rw [polling]; rfl)
  · cases success

theorem build (benign : Benign publicKey system (.build id outcome))
    (success : system.step mode isBadSequence publicKey (.build id outcome) = .ok next) : Balanced publicKey next := by
  cases benign
  simp only [step] at success
  split at success
  · rename_i attempt sequence _ building _
    cases success
    exact balanced.move (by rw [building]; rfl)
  · rename_i failed
    cases failed
  · cases success

/-- The transaction of a call reaches the network, which takes it or not. -/
theorem arrives {stage : Stage} (has : system.Has id sequence false)
    (expected : taken = true -> sequence = system.accepted + 1)
    (carries : stage.carries = some (sequence, taken)) : Balanced publicKey ({ system with
      accepted := if taken then sequence else system.accepted }.move id (some stage)) := by
  cases taken with
  | false => exact balanced.move (carries.trans has.symm)
  | true =>
    have flipped (other : Nat) (number : Int) (accepted : Bool) :
        ({ system with accepted := sequence }.move id (some stage)).Has other number accepted ↔
          (other = id ∧ number = sequence ∧ accepted = true) ∨ other ≠ id ∧ system.Has other number accepted := by
      rw [has_move, Option.bind_some, carries]
      simp [Has, eq_comm]
    refine ⟨?_, ?_, ?_, ?_⟩
    · have behind := balanced.behind
      have next := expected rfl
      change system.executed <= sequence
      omega
    · intro first second number one two held again
      have earlier (other : Nat) (verdict : Bool)
          (holds : ({ system with accepted := sequence }.move id (some stage)).Has other number
            verdict) : ∃ before, system.Has other number before := by
        rcases (flipped other number verdict).mp holds with ⟨rfl, rfl, -⟩ | ⟨-, before⟩
        · exact ⟨false, has⟩
        · exact ⟨verdict, before⟩
      rcases earlier first one held with ⟨_, before⟩
      rcases earlier second two again with ⟨_, other⟩
      exact balanced.distinct first second number _ _ before other
    · exact fun unready => absurd has (balanced.idle unready id sequence false)
    · intro state ready
      rcases balanced.active state ready with spread | ⟨holder, number, stale⟩
      · exact .inl (spread.accepts balanced.distinct has (expected rfl)
          (fun number accepted held => held.unique has) flipped)
      · -- A used number is not accepted again.
        have used := stale.used
        have next := expected rfl
        rcases (stale.alone id sequence false).mp has with ⟨-, rfl, -⟩
        omega

theorem send {response : Except SdkError SendTransactionResult}
    (success : system.step mode isBadSequence publicKey (.send id response taken) = .ok next) :
    Balanced publicKey next := by
  simp only [step] at success
  split at success
  · rename_i attempt sequence sending
    split at success
    · rename_i truthful
      have has : system.Has id sequence false := by rw [Has, sending]; rfl
      have expected : taken = true -> sequence = system.accepted + 1 := by
        cases response with
        | error failure => exact truthful
        | ok sent => exact truthful.2.1
      split at success
      · cases success
        exact balanced.arrives has expected rfl
      · cases success
        exact balanced.arrives has expected rfl
    · cases success
  · cases success

theorem gives (empty : stage.bind Stage.carries = none)
    (rest : (∀ other number accepted, (system.move id stage).Has other number accepted ↔
        other ≠ id ∧ system.Has other number accepted) ->
      (manager.ready publicKey = none -> ∀ other number accepted, ¬ (system.move id stage).Has other number accepted) ∧
      ∀ state, manager.ready publicKey = some state -> Spread (system.move id stage).Has system.accepted state) :
    Balanced publicKey ({ system with manager := manager }.move id stage) := by
  have others (other : Nat) (number : Int) (accepted : Bool) :
      (system.move id stage).Has other number accepted ↔ other ≠ id ∧ system.Has other number accepted := by
    rw [has_move, empty]
    simp
  rcases rest others with ⟨idle, active⟩
  refine ⟨balanced.behind, ?_, idle, fun state ready => .inl (active state ready)⟩
  intro first second number one two held again
  exact balanced.distinct first second number one two ((others _ _ _).mp held).2
    ((others _ _ _).mp again).2

/-- A call that succeeded reports its number as used. -/
theorem commits (has : system.Has id sequence true) : Balanced publicKey
      ({ system with manager := system.manager.commit publicKey sequence }.move id none) := by
  rcases balanced.spread has with ⟨state, found, initialized, spread | ⟨-, ⟨⟩⟩⟩
  have ready : (system.manager.commit publicKey sequence).ready publicKey = some (state.commit sequence) := by
    rw [ready_eq_some]
    exact ⟨by simp [SequenceManager.commit, found], initialized⟩
  refine balanced.gives rfl fun others => ⟨fun unready => ?_, fun committed now => ?_⟩
  · cases ready.symm.trans unready
  · cases ready.symm.trans now
    exact spread.commit balanced.distinct others has fun number accepted held => held.unique has

/-- A call that failed returns its number.  If it was the last one in flight the account is reset,
and otherwise the number must not have been accepted. -/
theorem returns (has : system.Has id sequence accepted) (empty : stage.bind Stage.carries = none)
    (benign : ∀ state, accepted = true -> system.manager publicKey = some state ->
      state.inFlight.erase sequence = ∅ ∧ state.recycled = ∅) :
    Balanced publicKey ({ system with manager := system.manager.recordFailure publicKey sequence }.move id stage) := by
  rcases balanced.spread has with ⟨state, found, initialized, known⟩
  have recorded : system.manager.recordFailure publicKey sequence publicKey =
      some (state.recordFailure sequence) := by simp [recordFailure, found]
  refine balanced.gives empty fun others => ?_
  by_cases alone : state.inFlight.erase sequence = ∅ ∧ state.recycled = ∅
  · have reset : (state.recordFailure sequence).initialized = false := by
      rw [AccountState.recordFailure, if_pos alone]
    refine ⟨fun _ other number verdict held => ?_, fun later now => ?_⟩
    · rcases known with spread | ⟨stale, -⟩
      · have flying := (spread.flying_erase balanced.distinct others has
          (fun number accepted held => (held.unique has).1) number).mpr ⟨other, verdict, held⟩
        rw [alone.1] at flying
        exact absurd flying (Finset.notMem_empty number)
      · rcases (others other number verdict).mp held with ⟨different, earlier⟩
        exact different ((stale.alone other number verdict).mp earlier).1
    · rcases ready_eq_some.mp now with ⟨found', set⟩
      cases recorded.symm.trans found'
      cases reset.symm.trans set
  · cases accepted with
    | true => exact absurd (benign state rfl found) alone
    | false =>
      have spread := known.resolve_right fun stale => alone ⟨by simp [stale.1.flying], stale.1.dry⟩
      have pooled : state.recordFailure sequence = { state with
          inFlight := state.inFlight.erase sequence
          recycled := insert sequence state.recycled } := by
        rw [AccountState.recordFailure, if_neg alone]
      have ready : (system.manager.recordFailure publicKey sequence).ready publicKey =
          some (state.recordFailure sequence) := by
        rw [ready_eq_some, pooled]
        exact ⟨pooled ▸ recorded, initialized⟩
      refine ⟨fun unready => ?_, fun later now => ?_⟩
      · cases ready.symm.trans unready
      · cases ready.symm.trans now
        rw [pooled]
        exact spread.recycle balanced.distinct others has fun number accepted held => held.unique has

theorem report (benign : Benign publicKey system (.report id))
    (success : system.step mode isBadSequence publicKey (.report id) = .ok next) : Balanced publicKey next := by
  simp only [step] at success
  split at success
  · rename_i attempt sequence accepted done reporting
    cases success
    cases benign.1 attempt sequence accepted done reporting
    apply balanced.commits
    rw [Has, reporting]
    rfl
  · rename_i attempt sequence accepted failure reporting
    cases success
    have has : system.Has id sequence accepted := by
      rw [Has, reporting]
      rfl
    have empty : (if retries isBadSequence attempt failure then some (Stage.reserving 1)
        else none).bind Stage.carries = none := by
      split <;> rfl
    refine balanced.returns has empty ?_
    rintro state rfl found
    exact benign.2 attempt sequence failure state reporting found
  · cases success

theorem takeNext {attempt : Nat} (free : (system.calls id).bind Stage.carries = none)
    (initialized : state.initialized = true) (spread : Spread system.Has system.accepted state) :
    Balanced publicKey ({ system with
        manager := update system.manager publicKey (some state.takeNext.2) }.move id
      (Stage.reserved attempt state.takeNext.1)) := by
  cases outcome : state.takeNext with
  | mk result next =>
    cases result with
    | error failure =>
      cases AccountState.takeNext_error outcome
      have adopted : Balanced publicKey { system with
          manager := update system.manager publicKey (some state) } := by
        refine ⟨balanced.behind, balanced.distinct, fun unready => ?_, fun other ready => ?_⟩
        · cases (ready_update initialized).symm.trans unready
        · cases (ready_update initialized).symm.trans ready
          exact .inl spread
      exact adopted.move free.symm
    | ok sequence =>
      have takes := AccountState.takeNext_ok outcome
      have stays : next.initialized = true := by cases takes <;> exact initialized
      have joined (other : Nat) (number : Int) (accepted : Bool) :
          (system.move id (some (.building attempt sequence))).Has other number accepted ↔
            system.Has other number accepted ∨ other = id ∧ number = sequence ∧ accepted = false := by
        rw [has_move]
        by_cases same : other = id
        · subst same
          simp [Has, free, Stage.carries, eq_comm]
        · simp [same]
      refine ⟨balanced.behind, ?_, fun unready => ?_, fun other ready => ?_⟩
      · intro first second number one two held again
        rcases (joined first number one).mp held with earlier | ⟨rfl, rfl, -⟩
        · rcases (joined second number two).mp again with other | ⟨rfl, rfl, -⟩
          · exact balanced.distinct first second number one two earlier other
          · exact absurd earlier (spread.free takes first one)
        · rcases (joined second number two).mp again with other | ⟨rfl, -, -⟩
          · exact absurd other (spread.free takes second two)
          · rfl
      · cases (ready_update stays).symm.trans unready
      · cases (ready_update stays).symm.trans ready
        exact .inl (spread.takes takes joined)

/-- The account is fetched while an accepted transaction is pending. -/
theorem fetches {attempt : Nat} (unready : system.manager.ready publicKey = none)
    (pending : system.executed ≠ system.accepted) (fits : system.executed + 1 <= i64Max) :
    Balanced publicKey ({ system with
        manager := update system.manager publicKey (some (state.refresh system.executed).takeNext.2) }.move id
      (Stage.reserved attempt (state.refresh system.executed).takeNext.1)) := by
  have taken : (state.refresh system.executed).takeNext = (.ok (system.executed + 1),
      { state.refresh system.executed with
        lastReserved := system.executed + 1, inFlight := {system.executed + 1} }) := by
    simp [AccountState.takeNext, AccountState.refresh, fits]
  have alone (other : Nat) (number : Int) (accepted : Bool) :
      (system.move id (some (.building attempt (system.executed + 1)))).Has other number accepted ↔
        other = id ∧ number = system.executed + 1 ∧ accepted = false := by
    rw [has_move, or_iff_left fun held => balanced.idle unready other number accepted held.2]
    simp [Stage.carries, eq_comm]
  have behind := balanced.behind
  rw [taken]
  refine ⟨behind, ?_, fun idle => ?_, fun after ready => .inr ⟨id, system.executed + 1, ?_⟩⟩
  · intro first second number one two held again
    exact ((alone first number one).mp held).1.trans ((alone second number two).mp again).1.symm
  · cases (ready_update rfl).symm.trans idle
  · cases (ready_update rfl).symm.trans ready
    exact ⟨by change system.executed + 1 <= system.accepted; omega, rfl, rfl, alone⟩

theorem reserve {unavailable : Option SdkError} (benign : Benign publicKey system (.reserve id unavailable))
    (success : system.step mode isBadSequence publicKey (.reserve id unavailable) = .ok next) :
    Balanced publicKey next := by
  simp only [step] at success
  split at success
  · rename_i attempt reserving
    cases success
    have free : (system.calls id).bind Stage.carries = none := by rw [reserving]; rfl
    rcases system.manager.reserve_cases publicKey (system.answer unavailable) with
      ⟨state, found, initialized, reserved⟩ | ⟨unready, current, answered, reserved⟩ |
        ⟨-, failure, -, reserved⟩
    · rw [reserved]
      refine balanced.takeNext free initialized
        ((balanced.active state (ready_eq_some.mpr ⟨found, initialized⟩)).resolve_right ?_)
      rintro ⟨holder, sequence, stale⟩
      have unused := benign.1 holder sequence ((stale.alone holder sequence false).mpr ⟨rfl, rfl, rfl⟩)
      have used := stale.used
      omega
    · rw [reserved]
      cases unavailable with
      | some failure => cases answered
      | none =>
        cases answered
        by_cases settled : system.executed = system.accepted
        · refine balanced.takeNext free rfl ?_
          rw [settled]
          exact .refresh (balanced.idle unready)
        · exact balanced.fetches unready settled ((benign.2 unready).resolve_left settled)
    · rw [reserved]
      exact balanced.move free.symm
  · cases success

theorem step {event : Event} (benign : Benign publicKey system event)
    (success : system.step mode isBadSequence publicKey event = .ok next) : Balanced publicKey next := by
  cases event with
  | start => exact balanced.start success
  | reserve => exact balanced.reserve benign success
  | build => exact balanced.build benign success
  | send => exact balanced.send success
  | poll => exact balanced.poll success
  | report => exact balanced.report benign success
  | execute => exact balanced.execute success

/-- When everything has settled, the manager gives out the number that the network expects. -/
theorem next_expected (quiet : system.Quiet) (fits : system.executed + 1 <= i64Max) :
    (system.manager.reserve publicKey (system.answer none)).1 = .ok (system.executed + 1) := by
  have unheld (id : Nat) (sequence : Int) (accepted : Bool) : ¬ system.Has id sequence accepted := by
    rw [Has, quiet.returned id]
    rintro ⟨⟩
  rcases system.manager.reserve_cases publicKey (system.answer none) with
    ⟨state, found, initialized, reserved⟩ | ⟨-, current, answered, reserved⟩ |
      ⟨-, failure, answered, -⟩
  · have spread := (balanced.active state (ready_eq_some.mpr ⟨found, initialized⟩)).resolve_right
      fun ⟨holder, sequence, stale⟩ => unheld holder sequence false ((stale.alone _ _ _).mpr ⟨rfl, rfl, rfl⟩)
    rw [← quiet.settled] at spread
    rw [reserved]
    exact spread.takeNext unheld fits
  · cases answered
    rw [reserved]
    exact (Spread.refresh unheld).takeNext unheld fits
  · cases answered

end Balanced

/-- The writes of one account, if no call fails between its reservation and its submission, none is
reported as successful without an accepted transaction or as failed after acceptance while other numbers
are in flight or in the pool, and none reserves a number while another call has one that is used: when
all calls have returned and everything accepted has been executed, the next reservation is the
number after the one on the chain. -/
theorem next_reservation_expected (mode : SubmissionMode) (isBadSequence : Option String -> Bool)
    (publicKey : BytesN 32) (chain : Int) (events : List Event)
    (benign : Admissible (System.step mode isBadSequence publicKey) (Benign publicKey) (System.fresh chain) events)
    (quiet : (run (System.step mode isBadSequence publicKey) (System.fresh chain) events).Quiet)
    (fits : (run (System.step mode isBadSequence publicKey) (System.fresh chain) events).executed + 1 ≤ i64Max) :
    let system := run (System.step mode isBadSequence publicKey) (System.fresh chain) events
    (system.manager.reserve publicKey (system.answer none)).1 = .ok (system.executed + 1) := by
  have balanced : Balanced publicKey (run (System.step mode isBadSequence publicKey) (System.fresh chain) events) :=
    run_invariant (fun _ _ _ balanced benign success => balanced.step benign success)
      (Balanced.fresh chain) benign
  exact balanced.next_expected quiet fits

/-! ### A small history

The account 1, with number 10 on the chain, and calls that wait for their transactions to
settle. -/

/-- The result that the network gives for a wrong number. -/
def okBadSequence (errorResultXdr : Option String) : Bool := errorResultXdr = some "txBadSeq"

def okRun (events : List Event) : System := run (System.step .blocking okBadSequence 1) (.fresh 10) events

/-- The transaction is accepted, and the call gives up waiting for it before it is executed. -/
def okTimeout : List Event :=
  [.start 0, .reserve 0 none, .build 0 (.ok ()), .send 0 (.ok ⟨.pending, none, 5⟩) true,
    .poll 0 (.error (.transportError "timeout")), .report 0, .execute]

theorem okTimeout_benign : Admissible (step .blocking okBadSequence 1) (Benign 1) (.fresh 10) okTimeout := by
  have stage : (okRun (okTimeout.take 5)).calls 0 =
      some (.reporting 0 11 true (.error (.transportError "timeout"))) := rfl
  refine ⟨trivial, ⟨fun id sequence has => ?_, fun _ => .inl rfl⟩, rfl, trivial, trivial, ⟨?_, ?_⟩, trivial, trivial⟩
  · -- The only call has not reserved yet.
    change (update (fun _ => none) 0 (some (Stage.reserving 0)) id).bind Stage.carries = some (sequence, false) at has
    by_cases own : id = 0
    · subst own
      cases has
    · rw [update_of_ne own] at has
      cases has
  · intro attempt sequence accepted done reporting
    cases stage.symm.trans reporting
  · intro attempt sequence failure state reporting found
    have account : (okRun (okTimeout.take 5)).manager 1 = some ⟨some 10, 11, ∅, {11}, true⟩ := rfl
    cases stage.symm.trans reporting
    cases account.symm.trans found
    decide

theorem okRun_untouched {events : List Event} (untouched : ∀ event ∈ events, event.caller ≠ some id) :
    (okRun events).calls id = none := by
  have admissible : Admissible (step .blocking okBadSequence 1)
      (fun _ event => event.caller ≠ some id) (.fresh 10) events :=
    admissible_of_forall (fun event member _ => untouched event member) _
  exact run_related (fun before after : System => after.calls id = before.calls id)
    ⟨fun _ => rfl, fun one two => two.trans one⟩
    (fun _ _ _ other success => System.step_calls other success) admissible

/-- After the transaction has been executed, the next number is the one after it. -/
theorem next_reservation_expected_timeout :
    (okRun okTimeout).executed = 11 ∧ ((okRun okTimeout).manager.reserve 1 (.ok 11)).1 = .ok 12 := by
  refine ⟨rfl, next_reservation_expected .blocking okBadSequence 1 10 okTimeout okTimeout_benign
    ⟨fun id => ?_, rfl⟩ (by decide)⟩
  by_cases zero : id = 0
  · subst zero
    rfl
  · exact okRun_untouched (by simp [okTimeout, Event.caller, Ne.symm zero])

/-- The simulation of the first call fails. -/
def okUnbuilt : List Event := [.start 0, .reserve 0 none, .build 0 (.error (.simulationError "insufficient balance"))]

/-- A further call, rejected twice because of its number. -/
def okRejected : List Event :=
  [.start 1, .reserve 1 none, .build 1 (.ok ()), .send 1 (.ok ⟨.error, some "txBadSeq", 5⟩) false,
    .report 1, .reserve 1 none, .build 1 (.ok ()), .send 1 (.ok ⟨.error, some "txBadSeq", 5⟩) false, .report 1]

/-- The failed simulation leaves the account with a number that the network does not expect, and
another write does not repair it. -/
theorem failed_build_blocks_account : ((okRun okUnbuilt).Quiet ∧ (okRun okUnbuilt).executed = 10 ∧
      ((okRun okUnbuilt).manager.reserve 1 (.ok 10)).1 = .ok 12) ∧
    (okRun (okUnbuilt ++ okRejected)).Quiet ∧ (okRun (okUnbuilt ++ okRejected)).executed = 10 ∧
      ((okRun (okUnbuilt ++ okRejected)).manager.reserve 1 (.ok 10)).1 = .ok 12 := by
  refine ⟨⟨⟨fun id => ?_, rfl⟩, rfl, by decide⟩, ⟨fun id => ?_, rfl⟩, rfl, by decide⟩
  · by_cases zero : id = 0
    · subst zero
      rfl
    · exact okRun_untouched (by simp [okUnbuilt, Event.caller, Ne.symm zero])
  · by_cases zero : id = 0
    · subst zero
      rfl
    · by_cases one : id = 1
      · subst one
        rfl
      · exact okRun_untouched
          (by simp [okUnbuilt, okRejected, Event.caller, Ne.symm zero, Ne.symm one])

end SorobanSas.Sdk
