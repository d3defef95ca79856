import SorobanSas.Sdk.Sequence

namespace SorobanSas.Sdk

open Library

/-!
# Reservations are distinct

Any number of threads reserve numbers, report what became of them, let go of them without a
report, or synchronize the manager with the chain.  Every method takes the lock once, so what the
threads do is a list of events in the order in which they take it.

A number can be in the hands of one reservation only.  The counter bounds all of them, and what
`sync_on_chain` forgets to be in flight is not above what the node said.  So as long as the node
never goes back, the counter does not go back below a number that somebody still has.
-/

variable {key : BytesN 32} {current : Int} {answer : Except SdkError Int} {sequence : Int} {id : Nat}

/-- What became of a reservation. -/
inductive Fate where
  | outstanding | committed | failed
  /-- Dropped without a report. -/
  | dropped
  deriving DecidableEq, Repr

/-- The number is in use, or may be. -/
def Fate.holds : Fate -> Bool
  | .outstanding | .dropped => true
  | .committed | .failed => false

structure SequenceReservation where
  publicKey : BytesN 32
  sequence : Int
  fate : Fate
  deriving DecidableEq

/-- The manager, with all reservations it has made and the last answer of the node for each
account, in the order in which the lock was taken. -/
structure Session where
  manager : SequenceManager
  reservations : List SequenceReservation
  known : BytesN 32 -> Option Int

def Session.fresh : Session := ⟨fun _ => none, [], fun _ => none⟩

/-- One turn with the lock.  Reservations have the numbers of their positions. -/
inductive Turn where
  | reserve (publicKey : BytesN 32) (answer : Except SdkError Int)
  | committed (id : Nat)
  | failed (id : Nat)
  | drop (id : Nat)
  | syncOnChain (publicKey : BytesN 32) (answer : Except SdkError Int)

/-- The reservation has been reported or dropped already.  Reporting consumes it, so this does not
happen. -/
inductive Gone where
  | gone

namespace Session

variable (session : Session)

/-- The answer of the node becomes known, if there is one. -/
def learn (publicKey : BytesN 32) : Except SdkError Int -> BytesN 32 -> Option Int
  | .ok current => update session.known publicKey (some current)
  | .error _ => session.known

/-- A successful reservation is added to the list. -/
def record (publicKey : BytesN 32) : Except SdkError Int -> List SequenceReservation
  | .ok sequence => session.reservations ++ [⟨publicKey, sequence, .outstanding⟩]
  | .error _ => session.reservations

/-- A reservation is reported or dropped. -/
def settle (id : Nat) (fate : Fate)
    (report : SequenceManager -> BytesN 32 -> Int -> SequenceManager) : Except Gone Session :=
  match session.reservations[id]? with
  | some reservation =>
    if reservation.fate = .outstanding then
      .ok { session with
        manager := report session.manager reservation.publicKey reservation.sequence
        reservations := session.reservations.set id { reservation with fate := fate } }
    else .error .gone
  | none => .error .gone

def turn (session : Session) : Turn -> Except Gone Session
  | .reserve publicKey answer =>
    let reserved := session.manager.reserve publicKey answer
    .ok {
      manager := reserved.2
      reservations := session.record publicKey reserved.1
      known := if session.manager.ready publicKey = none then session.learn publicKey answer
        else session.known }
  | .committed id => session.settle id .committed fun manager => manager.commit
  | .failed id => session.settle id .failed fun manager => manager.recordFailure
  | .drop id => session.settle id .dropped fun manager _ _ => manager
  | .syncOnChain publicKey answer => .ok { session with
      manager := (session.manager.syncOnChain publicKey answer).2
      known := session.learn publicKey answer }

/-- What the node answers is not less than what it has answered before. -/
def Ordered (session : Session) : Turn -> Prop
  | .reserve publicKey answer => session.manager.ready publicKey = none ->
      ∀ current earlier, answer = .ok current -> session.known publicKey = some earlier -> earlier <= current
  | .syncOnChain publicKey answer =>
    ∀ current earlier, answer = .ok current -> session.known publicKey = some earlier -> earlier <= current
  | _ => True

end Session

/-! ## One account -/

/-- The reservation is of this account and has, or may have, the number in use. -/
def Holds (reservations : List SequenceReservation) (publicKey : BytesN 32) (id : Nat) (sequence : Int) : Prop :=
  ∃ fate, reservations[id]? = some (.mk publicKey sequence fate) ∧ fate.holds = true

/-- A reservation of the account with this number has been reported as failed. -/
def Returned (reservations : List SequenceReservation) (publicKey : BytesN 32) (sequence : Int) : Prop :=
  ∃ id : Nat, reservations[id]? = some (.mk publicKey sequence .failed)

/-- What keeps the numbers of one account apart.  `held` says which reservations have which
numbers in use, `returned` which numbers have failed, and `known` is the last answer of the
node. -/
structure Sound (held : Nat -> Int -> Prop) (returned : Int -> Prop) (known : Int)
    (state : AccountState) : Prop where
  chain : ∃ chain, state.onChainSequence = some chain ∧ known <= chain ∧ chain <= state.lastReserved
  distinct : ∀ first second sequence, held first sequence -> held second sequence -> first = second
  bounded : ∀ id sequence, held id sequence -> sequence <= state.lastReserved
  tracked : ∀ id sequence, held id sequence -> sequence ∈ state.inFlight ∨ sequence <= known
  pooled : ∀ sequence ∈ state.recycled, sequence <= state.lastReserved ∧ returned sequence ∧ ∀ id, ¬ held id sequence
  idle : state.initialized = false -> state.inFlight = ∅ ∧ state.recycled = ∅

namespace Sound

variable {held : Nat -> Int -> Prop} {returned : Int -> Prop} {known : Int} {state : AccountState}
  {held' : Nat -> Int -> Prop} {returned' : Int -> Prop}

/-- An account that has just been fetched, with nothing above the answer in use. -/
theorem refresh (distinct : ∀ first second sequence, held first sequence -> held second sequence ->
      first = second) (bounded : ∀ id sequence, held id sequence -> sequence <= current) :
    Sound held returned current (state.refresh current) where
  chain := ⟨current, rfl, Int.le_refl _, Int.le_refl _⟩
  distinct := distinct
  bounded := bounded
  tracked := fun id sequence has => .inr (bounded id sequence has)
  pooled := fun sequence member => absurd member (Finset.notMem_empty sequence)
  idle := fun unset => by cases unset

variable (sound : Sound held returned known state)

include sound

/-- Nothing changes but what is said about the reservations. -/
theorem congr (same : ∀ id sequence, held' id sequence ↔ held id sequence)
    (more : ∀ sequence, returned sequence -> returned' sequence) : Sound held' returned' known state where
  chain := sound.chain
  distinct := by simpa only [same] using sound.distinct
  bounded := by simpa only [same] using sound.bounded
  tracked := by simpa only [same] using sound.tracked
  pooled := by
    intro sequence member
    rcases sound.pooled sequence member with ⟨below, back, free⟩
    exact ⟨below, more sequence back, fun id held => free id ((same id sequence).mp held)⟩
  idle := sound.idle

theorem sync (ordered : known <= current) : Sound held returned current (state.sync current) where
  chain := by
    refine ⟨current, rfl, Int.le_refl _, ?_⟩
    simp only [AccountState.sync]
    split <;> omega
  distinct := sound.distinct
  bounded := by
    intro id sequence has
    have below := sound.bounded id sequence has
    simp only [AccountState.sync]
    split <;> omega
  tracked := by
    intro id sequence has
    by_cases above : current < sequence
    · have flying := (sound.tracked id sequence has).resolve_right (by omega)
      exact .inl (Finset.mem_filter.mpr ⟨flying, above⟩)
    · exact .inr (by omega)
  pooled := by
    intro sequence member
    rcases sound.pooled sequence (Finset.mem_filter.mp member).1 with ⟨below, back, free⟩
    refine ⟨?_, back, free⟩
    simp only [AccountState.sync]
    split <;> omega
  idle := fun unset => by cases unset

theorem takes {next : AccountState} (initialized : state.initialized = true) (takes : state.Takes sequence next)
    (joined : ∀ other number, held' other number ↔ held other number ∨ other = id ∧ number = sequence) :
    Sound held' returned known next ∧ ((∃ chain, next.onChainSequence = some chain ∧ chain < sequence) ∨
        sequence ∈ state.recycled ∧ returned sequence) := by
  rcases sound.chain with ⟨chain, found, above, below⟩
  have fresh : sequence <= next.lastReserved ∧ (∀ other, ¬ held other sequence) ∧
      state.lastReserved <= next.lastReserved ∧ next.onChainSequence = some chain ∧
      next.inFlight = insert sequence state.inFlight ∧ next.initialized = true ∧
      ∀ number ∈ next.recycled, number ∈ state.recycled ∧ number ≠ sequence := by
    cases takes with
    | pooled _ member =>
      rcases sound.pooled sequence member with ⟨small, -, free⟩
      refine ⟨small, free, Int.le_refl _, found, rfl, initialized, fun number kept => ?_⟩
      exact ⟨Finset.mem_of_mem_erase kept, Finset.ne_of_mem_erase kept⟩
    | next dry =>
      refine ⟨Int.le_refl _, fun other has => ?_, ?_, found, rfl, initialized, ?_⟩
      · have bounded := sound.bounded other _ has
        omega
      · change state.lastReserved <= state.lastReserved + 1
        omega
      · intro number member
        rw [dry] at member
        exact absurd member (Finset.notMem_empty number)
  rcases fresh with ⟨small, free, grows, kept, flying, stays, pool⟩
  refine ⟨⟨⟨chain, kept, above, below.trans grows⟩, ?_, ?_, ?_, ?_, ?_⟩, ?_⟩
  · intro first second number one two
    rw [joined] at one two
    rcases one with one | ⟨rfl, rfl⟩
    · rcases two with two | ⟨rfl, rfl⟩
      · exact sound.distinct first second number one two
      · exact absurd one (free first)
    · rcases two with two | ⟨rfl, -⟩
      · exact absurd two (free second)
      · rfl
  · intro other number has
    rcases (joined other number).mp has with earlier | ⟨rfl, rfl⟩
    · exact (sound.bounded other number earlier).trans grows
    · exact small
  · intro other number has
    rw [flying]
    rcases (joined other number).mp has with earlier | ⟨rfl, rfl⟩
    · exact (sound.tracked other number earlier).imp_left Finset.mem_insert_of_mem
    · exact .inl (Finset.mem_insert_self _ _)
  · intro number member
    rcases pool number member with ⟨pooled, different⟩
    rcases sound.pooled number pooled with ⟨bounded, back, unheld⟩
    refine ⟨bounded.trans grows, back, fun other has => ?_⟩
    rcases (joined other number).mp has with earlier | ⟨-, same⟩
    · exact unheld other earlier
    · exact different same
  · intro unset
    cases stays.symm.trans unset
  · cases takes with
    | pooled _ member => exact .inr ⟨member, (sound.pooled sequence member).2.1⟩
    | next => exact .inl ⟨chain, kept, by omega⟩

/-- A reported number is in use no more. -/
theorem others (has : held id sequence)
    (rest : ∀ other number, held' other number ↔ held other number ∧ other ≠ id) {other : Nat}
    {number : Int} (still : held' other number) : held other number ∧ number ≠ sequence := by
  rcases (rest other number).mp still with ⟨holds, different⟩
  refine ⟨holds, ?_⟩
  rintro rfl
  exact different (sound.distinct other id _ holds has)

theorem commit (has : held id sequence) (rest : ∀ other number, held' other number ↔ held other number ∧ other ≠ id) :
    Sound held' returned known (state.commit sequence) where
  chain := by
    rcases sound.chain with ⟨chain, found, above, below⟩
    have bounded := sound.bounded id sequence has
    refine ⟨if chain < sequence then sequence else chain, ?_, ?_, ?_⟩
    · simp only [AccountState.commit, found]
    · split <;> omega
    · change _ <= state.lastReserved
      split <;> omega
  distinct := fun first second number one two =>
    sound.distinct first second number ((rest _ _).mp one).1 ((rest _ _).mp two).1
  bounded := fun other number has => sound.bounded other number ((rest _ _).mp has).1
  tracked := by
    intro other number still
    rcases sound.others has rest still with ⟨holds, different⟩
    exact (sound.tracked other number holds).imp_left fun flying => Finset.mem_erase.mpr ⟨different, flying⟩
  pooled := by
    intro number member
    rcases sound.pooled number member with ⟨bounded, back, free⟩
    exact ⟨bounded, back, fun other has => free other ((rest _ _).mp has).1⟩
  idle := by
    intro unset
    rcases sound.idle unset with ⟨flying, pool⟩
    exact ⟨by simp [AccountState.commit, flying], pool⟩

theorem recordFailure (has : held id sequence)
    (rest : ∀ other number, held' other number ↔ held other number ∧ other ≠ id)
    (more : ∀ number, returned number -> returned' number) (back : returned' sequence) :
    Sound held' returned' known (state.recordFailure sequence) := by
  have elsewhere {other : Nat} {number : Int} (still : held' other number) :
      held other number ∧ (number ∈ state.inFlight.erase sequence ∨ number <= known) := by
    rcases sound.others has rest still with ⟨holds, different⟩
    exact ⟨holds, (sound.tracked other number holds).imp_left fun flying => Finset.mem_erase.mpr ⟨different, flying⟩⟩
  have distinct : ∀ first second number, held' first number -> held' second number ->
      first = second := fun first second number one two =>
    sound.distinct first second number ((rest _ _).mp one).1 ((rest _ _).mp two).1
  rcases sound.chain with ⟨chain, found, above, below⟩
  unfold AccountState.recordFailure
  by_cases alone : state.inFlight.erase sequence = ∅ ∧ state.recycled = ∅
  · -- Whatever else is held has been passed by the chain.
    rw [if_pos alone]
    simp only [found]
    refine ⟨⟨chain, rfl, above, Int.le_refl _⟩, distinct, ?_, ?_, ?_, fun _ => alone⟩
    · intro other number still
      have passed := (elsewhere still).2.resolve_left (by simp [alone.1])
      exact passed.trans above
    · exact fun other number still => (elsewhere still).2
    · intro number member
      change number ∈ state.recycled at member
      rw [alone.2] at member
      exact absurd member (Finset.notMem_empty number)
  · rw [if_neg alone]
    refine ⟨⟨chain, found, above, below⟩, distinct, ?_, ?_, ?_, ?_⟩
    · exact fun other number still => sound.bounded other number (elsewhere still).1
    · exact fun other number still => (elsewhere still).2
    · intro number member
      rcases Finset.mem_insert.mp member with rfl | member
      · exact ⟨sound.bounded id number has, back, fun other still => (sound.others has rest still).2 rfl⟩
      · rcases sound.pooled number member with ⟨bounded, earlier, free⟩
        exact ⟨bounded, more number earlier, fun other still => free other (elsewhere still).1⟩
    · intro unset
      have empty := sound.idle unset
      exact absurd ⟨by simp [empty.1], empty.2⟩ alone

end Sound

/-! ## All accounts -/

section Lists

variable {reservations : List SequenceReservation} {publicKey : BytesN 32} {reservation : SequenceReservation}

theorem holds_concat {taken : Int} : Holds (reservations ++ [⟨key, taken, .outstanding⟩]) publicKey id sequence ↔
      Holds reservations publicKey id sequence ∨ id = reservations.length ∧ key = publicKey ∧ taken = sequence := by
  unfold Holds
  rcases Nat.lt_trichotomy id reservations.length with before | same | after
  · rw [List.getElem?_append_left before]
    simp [Nat.ne_of_lt before]
  · subst same
    simp [Fate.holds]
  · have beyond : (reservations ++ [SequenceReservation.mk key taken .outstanding]).length <= id := by
      simpa using Nat.succ_le_of_lt after
    rw [List.getElem?_eq_none beyond, List.getElem?_eq_none (Nat.le_of_lt after)]
    simp [Nat.ne_of_gt after]

theorem returned_concat (returned : Returned reservations publicKey sequence) :
    Returned (reservations ++ [reservation]) publicKey sequence := by
  rcases returned with ⟨id, found⟩
  exact ⟨id, List.getElem?_append_left (List.getElem?_eq_some_iff.mp found).1 ▸ found⟩

variable {target : Nat} {fate : Fate}

theorem holds_set (found : reservations[target]? = some reservation) :
    Holds (reservations.set target { reservation with fate := fate }) publicKey id sequence ↔
      (Holds reservations publicKey id sequence ∧ id ≠ target) ∨
        id = target ∧ reservation.publicKey = publicKey ∧ reservation.sequence = sequence ∧ fate.holds = true := by
  unfold Holds
  have inside := (List.getElem?_eq_some_iff.mp found).1
  by_cases same : id = target
  · subst same
    rw [List.getElem?_set_self inside]
    constructor
    · rintro ⟨_, equal, holds⟩
      cases equal
      exact .inr ⟨rfl, rfl, rfl, holds⟩
    · rintro (⟨-, different⟩ | ⟨-, rfl, rfl, holds⟩)
      · exact absurd rfl different
      · exact ⟨fate, rfl, holds⟩
  · rw [List.getElem?_set_ne (Ne.symm same)]
    simp [same]

/-- A reservation that is reported was outstanding, so it was not among the failed ones. -/
theorem returned_set (found : reservations[target]? = some reservation)
    (outstanding : reservation.fate = .outstanding) (returned : Returned reservations publicKey sequence) :
    Returned (reservations.set target { reservation with fate := fate }) publicKey sequence := by
  rcases returned with ⟨id, failed⟩
  refine ⟨id, ?_⟩
  rw [List.getElem?_set_ne, failed]
  rintro rfl
  cases found.symm.trans failed
  cases outstanding

end Lists

/-- The account is sound, or the manager has never heard of it. -/
inductive Kept (session : Session) (publicKey : BytesN 32) : Prop where
  | unknown (absent : session.manager publicKey = none) (unasked : session.known publicKey = none)
      (unheld : ∀ id sequence, ¬ Holds session.reservations publicKey id sequence)
  | account (state : AccountState) (known : Int) (found : session.manager publicKey = some state)
      (answered : session.known publicKey = some known) (sound : Sound (Holds session.reservations publicKey)
        (Returned session.reservations publicKey) known state)

variable {next : Session}

namespace Kept

variable {session : Session} {publicKey : BytesN 32} (kept : Kept session publicKey)

include kept

theorem sound_of_holds (has : Holds session.reservations publicKey id sequence) :
    ∃ state known, session.manager publicKey = some state ∧ session.known publicKey = some known ∧
      Sound (Holds session.reservations publicKey) (Returned session.reservations publicKey) known state := by
  cases kept with
  | unknown absent unasked unheld => exact absurd has (unheld id sequence)
  | account state known found answered sound => exact ⟨state, known, found, answered, sound⟩

/-- A turn for another account. -/
theorem elsewhere (manager : next.manager publicKey = session.manager publicKey)
    (known : next.known publicKey = session.known publicKey)
    (holds : ∀ id sequence, Holds next.reservations publicKey id sequence ↔
      Holds session.reservations publicKey id sequence)
    (returned : ∀ sequence, Returned session.reservations publicKey sequence ->
      Returned next.reservations publicKey sequence) : Kept next publicKey := by
  cases kept with
  | unknown absent unasked unheld =>
    exact .unknown (manager.trans absent) (known.trans unasked)
      fun id sequence has => unheld id sequence ((holds id sequence).mp has)
  | account state answer found answered sound =>
    exact .account state answer (manager.trans found) (known.trans answered) (sound.congr holds returned)

theorem distinct {first second : Nat} (one : Holds session.reservations publicKey first sequence)
    (two : Holds session.reservations publicKey second sequence) : first = second := by
  rcases kept.sound_of_holds one with ⟨_, _, -, -, sound⟩
  exact sound.distinct first second sequence one two

/-- What is in use when the account has to be fetched is not above the answer. -/
theorem passed (unready : session.manager.ready publicKey = none)
    (ordered : ∀ earlier, session.known publicKey = some earlier ->
      earlier <= current) (has : Holds session.reservations publicKey id sequence) : sequence <= current := by
  rcases kept.sound_of_holds has with ⟨state, known, found, answered, sound⟩
  have idle := sound.idle (SequenceManager.ready_eq_none.mp unready state found)
  have below := (sound.tracked id sequence has).resolve_left (by simp [idle.1])
  exact below.trans (ordered known answered)

end Kept

/-! ## Turns -/

/-- Why a number may be handed out: the chain has not got to it, or it failed before and was in
the pool. -/
def Justified (session : Session) (publicKey : BytesN 32) (answer : Except SdkError Int) (sequence : Int) : Prop :=
  (∃ state chain, (session.manager.reserve publicKey answer).2 publicKey = some state ∧
      state.onChainSequence = some chain ∧ chain < sequence) ∨
    ∃ state, session.manager publicKey = some state ∧ sequence ∈ state.recycled ∧
      Returned session.reservations publicKey sequence

section Reserve

variable {session : Session} {publicKey : BytesN 32} {known : Int} {state : AccountState}
  {outcome : Except SdkError Int}

theorem returned_record (returned : Returned session.reservations key sequence) :
    Returned (session.record publicKey outcome) key sequence := by
  cases outcome with
  | ok taken => exact returned_concat returned
  | error failure => exact returned

theorem holds_record (different : key ≠ publicKey) (id : Nat) (sequence : Int) :
    Holds (session.record publicKey outcome) key id sequence ↔ Holds session.reservations key id sequence := by
  cases outcome with
  | ok taken =>
    rw [Session.record, holds_concat, or_iff_left]
    rintro ⟨-, same, -⟩
    exact different same.symm
  | error failure => exact Iff.rfl

/-- The number that an initialized account gives out, and what is left of the account. -/
theorem Sound.takeNext (sound : Sound (Holds session.reservations publicKey)
      (Returned session.reservations publicKey) known state) (initialized : state.initialized = true) :
    Sound (Holds (session.record publicKey state.takeNext.1) publicKey)
        (Returned (session.record publicKey state.takeNext.1) publicKey) known state.takeNext.2 ∧
      ∀ sequence, state.takeNext.1 = .ok sequence ->
        (∃ chain, state.takeNext.2.onChainSequence = some chain ∧ chain < sequence) ∨
          sequence ∈ state.recycled ∧ Returned session.reservations publicKey sequence := by
  cases outcome : state.takeNext with
  | mk result next =>
    cases result with
    | ok taken =>
      have joined (other : Nat) (number : Int) : Holds (session.record publicKey (.ok taken)) publicKey other number ↔
            Holds session.reservations publicKey other number ∨
              other = session.reservations.length ∧ number = taken := by
        rw [Session.record, holds_concat]
        simp [eq_comm]
      rcases sound.takes initialized (AccountState.takeNext_ok outcome) joined with ⟨kept, justified⟩
      refine ⟨kept.congr (fun _ _ => Iff.rfl) fun _ => returned_record, ?_⟩
      rintro sequence ⟨⟩
      exact justified
    | error failure =>
      cases AccountState.takeNext_error outcome
      refine ⟨sound.congr (fun _ _ => Iff.rfl) fun _ => returned_record, ?_⟩
      rintro sequence ⟨⟩

theorem Kept.reserve (kept : Kept session publicKey) (ordered : session.Ordered (.reserve publicKey answer))
    (success : session.turn (.reserve publicKey answer) = .ok next) :
    Kept next publicKey ∧ ∀ sequence, (session.manager.reserve publicKey answer).1 = .ok sequence ->
        Justified session publicKey answer sequence := by
  cases success
  rcases session.manager.reserve_cases publicKey answer with
    ⟨state, found, initialized, reserved⟩ | ⟨unready, current, rfl, reserved⟩ |
      ⟨unready, failure, rfl, reserved⟩
  · have ready : session.manager.ready publicKey = some state :=
      SequenceManager.ready_eq_some.mpr ⟨found, initialized⟩
    cases kept with
    | unknown absent => cases absent.symm.trans found
    | account state' known found' answered sound =>
      cases found.symm.trans found'
      rcases sound.takeNext initialized with ⟨after, justified⟩
      refine ⟨?_, fun sequence taken => ?_⟩
      · refine .account state.takeNext.2 known ?_ ?_ ?_
        · simp [reserved]
        · simp [ready, answered]
        · simpa only [reserved] using after
      · rw [reserved] at taken
        rcases justified sequence taken with ⟨chain, shown, above⟩ | ⟨member, back⟩
        · exact .inl ⟨_, chain, by simp [reserved], shown, above⟩
        · exact .inr ⟨state, found, member, back⟩
  · have sound : Sound (Holds session.reservations publicKey) (Returned session.reservations publicKey) current
        (((session.manager publicKey).getD .default).refresh current) :=
      .refresh (fun _ _ _ => kept.distinct) fun _ _ =>
        kept.passed unready fun earlier => ordered unready current earlier rfl
    rcases sound.takeNext rfl with ⟨after, justified⟩
    refine ⟨?_, fun sequence taken => ?_⟩
    · refine .account (((session.manager publicKey).getD .default).refresh current).takeNext.2
        current ?_ ?_ ?_
      · simp [reserved]
      · simp [unready, Session.learn]
      · simpa only [reserved] using after
    · rw [reserved] at taken
      rcases justified sequence taken with ⟨chain, shown, above⟩ | ⟨member, -⟩
      · exact .inl ⟨_, chain, by simp [reserved], shown, above⟩
      · exact absurd member (Finset.notMem_empty sequence)
  · refine ⟨kept.elsewhere ?_ ?_ (fun _ _ => ?_) fun _ => ?_, ?_⟩
    · simp [reserved]
    · simp [Session.learn]
    · simp [reserved, Session.record]
    · exact fun back => by simpa [reserved, Session.record] using back
    · intro sequence taken
      rw [reserved] at taken
      cases taken

end Reserve

section Turns

variable {session : Session} {publicKey : BytesN 32} {fate : Fate}

theorem Kept.sync (kept : Kept session publicKey) (ordered : session.Ordered (.syncOnChain publicKey answer))
    (success : session.turn (.syncOnChain publicKey answer) = .ok next) : Kept next publicKey := by
  cases success
  cases answer with
  | error failure => exact kept.elsewhere rfl rfl (fun _ _ => Iff.rfl) fun _ => id
  | ok current =>
    cases kept with
    | unknown absent unasked unheld =>
      refine .account (AccountState.default.sync current) current ?_ ?_ ?_
      · simp [SequenceManager.syncOnChain, absent]
      · simp [Session.learn]
      · refine ⟨⟨current, rfl, Int.le_refl _, ?_⟩, ?_, ?_, ?_, ?_, ?_⟩
        · change current <= if 0 < current then current else 0
          by_cases positive : 0 < current
          · rw [if_pos positive]
          · rw [if_neg positive]
            exact Int.not_lt.mp positive
        · exact fun first _ sequence has => absurd has (unheld first sequence)
        · exact fun id sequence has => absurd has (unheld id sequence)
        · exact fun id sequence has => absurd has (unheld id sequence)
        · exact fun sequence member => absurd member (by simp [AccountState.sync, AccountState.default])
        · exact fun unset => by cases unset
    | account state known found answered sound =>
      refine .account (state.sync current) current ?_ ?_ (sound.sync (ordered current known rfl answered))
      · simp [SequenceManager.syncOnChain, found]
      · simp [Session.learn]

theorem settle_ok {report : SequenceManager -> BytesN 32 -> Int -> SequenceManager}
    (success : session.settle id fate report = .ok next) :
    ∃ publicKey sequence, session.reservations[id]? = some (.mk publicKey sequence .outstanding) ∧ next = { session with
        manager := report session.manager publicKey sequence
        reservations := session.reservations.set id (.mk publicKey sequence fate) } := by
  unfold Session.settle at success
  split at success
  · rename_i reservation found
    split at success
    · rename_i outstanding
      rcases reservation with ⟨publicKey, sequence, _⟩
      cases outstanding
      cases success
      exact ⟨publicKey, sequence, found, rfl⟩
    · cases success
  · cases success

/-- A report concerns the account of the reservation only. -/
theorem settled_elsewhere {manager : SequenceManager} (kept : Kept session publicKey)
    (found : session.reservations[id]? = some (.mk key sequence .outstanding)) (different : publicKey ≠ key)
    (same : manager publicKey = session.manager publicKey) : Kept { session with
      manager := manager
      reservations := session.reservations.set id (.mk key sequence fate) } publicKey := by
  refine kept.elsewhere same rfl (fun other number => ?_) fun number => returned_set found rfl
  rw [holds_set found]
  constructor
  · rintro (⟨holds, -⟩ | ⟨-, equal, -⟩)
    · exact holds
    · exact absurd equal.symm different
  · intro holds
    refine .inl ⟨holds, ?_⟩
    rintro rfl
    rcases holds with ⟨_, again, -⟩
    cases found.symm.trans again
    exact different rfl

theorem holds_reported (found : session.reservations[id]? = some (.mk publicKey sequence .outstanding))
    (ended : fate.holds = false) (other : Nat) (number : Int) :
    Holds (session.reservations.set id (.mk publicKey sequence fate)) publicKey other number ↔
      Holds session.reservations publicKey other number ∧ other ≠ id := by
  rw [holds_set found, or_iff_left]
  rintro ⟨-, -, -, holds⟩
  cases ended.symm.trans holds

theorem holds_dropped (found : session.reservations[id]? = some (.mk key sequence .outstanding))
    (other : Nat) (number : Int) :
    Holds (session.reservations.set id (.mk key sequence .dropped)) publicKey other number ↔
      Holds session.reservations publicKey other number := by
  rw [holds_set found]
  constructor
  · rintro (⟨holds, -⟩ | ⟨rfl, rfl, rfl, -⟩)
    · exact holds
    · exact ⟨_, found, rfl⟩
  · intro holds
    by_cases same : other = id
    · subst same
      rcases holds with ⟨_, again, -⟩
      cases found.symm.trans again
      exact .inr ⟨rfl, rfl, rfl, rfl⟩
    · exact .inl ⟨holds, same⟩

theorem turn_kept {turn : Turn} (kept : ∀ publicKey, Kept session publicKey)
    (ordered : session.Ordered turn) (success : session.turn turn = .ok next)
    (publicKey : BytesN 32) : Kept next publicKey := by
  cases turn with
  | reserve key answer =>
    by_cases same : publicKey = key
    · subst same
      exact ((kept publicKey).reserve ordered success).1
    · cases success
      refine (kept publicKey).elsewhere ?_ ?_ (holds_record same) fun _ => returned_record
      · rcases session.manager.reserve_cases key answer with
          ⟨_, -, -, reserved⟩ | ⟨-, _, -, reserved⟩ | ⟨-, _, -, reserved⟩
        all_goals simp [reserved, same]
      · cases answer <;> simp [Session.learn, same, ite_apply]
  | syncOnChain key answer =>
    by_cases same : publicKey = key
    · subst same
      exact (kept publicKey).sync ordered success
    · cases success
      refine (kept publicKey).elsewhere ?_ ?_ (fun _ _ => Iff.rfl) fun _ => id
      all_goals cases answer <;> simp [SequenceManager.syncOnChain, Session.learn, same]
  | committed id =>
    rcases settle_ok success with ⟨key, sequence, found, rfl⟩
    by_cases same : publicKey = key
    · subst same
      have has : Holds session.reservations publicKey id sequence := ⟨_, found, rfl⟩
      rcases (kept publicKey).sound_of_holds has with ⟨state, known, exists_, answered, sound⟩
      refine .account (state.commit sequence) known ?_ answered ?_
      · simp [SequenceManager.commit, exists_]
      · exact (sound.commit has (holds_reported found rfl)).congr (fun _ _ => Iff.rfl)
          fun _ => returned_set found rfl
    · exact settled_elsewhere (kept publicKey) found same (by simp [SequenceManager.commit, same])
  | failed id =>
    rcases settle_ok success with ⟨key, sequence, found, rfl⟩
    by_cases same : publicKey = key
    · subst same
      have has : Holds session.reservations publicKey id sequence := ⟨_, found, rfl⟩
      rcases (kept publicKey).sound_of_holds has with ⟨state, known, exists_, answered, sound⟩
      refine .account (state.recordFailure sequence) known ?_ answered ?_
      · simp [SequenceManager.recordFailure, exists_]
      · refine sound.recordFailure has (holds_reported found rfl) (fun _ => returned_set found rfl) ⟨id, ?_⟩
        exact List.getElem?_set_self (List.getElem?_eq_some_iff.mp found).1
    · exact settled_elsewhere (kept publicKey) found same (by simp [SequenceManager.recordFailure, same])
  | drop id =>
    change session.settle id .dropped (fun manager _ _ => manager) = .ok next at success
    rcases settle_ok success with ⟨key, sequence, found, rfl⟩
    exact (kept publicKey).elsewhere rfl rfl (holds_dropped found) fun _ => returned_set found rfl

end Turns

def Session.Kept (session : Session) : Prop := ∀ publicKey, Sdk.Kept session publicKey

theorem run_kept {turns : List Turn} (ordered : Admissible Session.turn Session.Ordered Session.fresh turns) :
    (run Session.turn Session.fresh turns).Kept := by
  refine run_invariant (fun _ _ _ => turn_kept) (fun publicKey => ?_) ordered
  refine .unknown rfl rfl ?_
  rintro id sequence ⟨_, found, -⟩
  cases found

/-- In every interleaving, if what the node answers does not go back: two reservations of one
account that are outstanding or were dropped have different numbers, and a number that is handed
out is above the chain sequence that the manager knows then, or it failed before and was in the
pool. -/
theorem reservations_distinct (turns : List Turn)
    (ordered : Admissible Session.turn Session.Ordered Session.fresh turns) :
    let session := run Session.turn Session.fresh turns
    (forall publicKey first second sequence, Holds session.reservations publicKey first sequence ->
      Holds session.reservations publicKey second sequence -> first = second) ∧
    forall publicKey answer sequence, session.Ordered (.reserve publicKey answer) ->
      (session.manager.reserve publicKey answer).1 = .ok sequence -> Justified session publicKey answer sequence := by
  have kept := run_kept ordered
  refine ⟨fun publicKey _ _ _ => (kept publicKey).distinct, ?_⟩
  intro publicKey answer sequence next taken
  exact ((kept publicKey).reserve next rfl).2 sequence taken

/-- Two numbers are reserved, the first one fails and is handed out again, the second one is
dropped, and the manager then hears that the chain has got past both. -/
def okTurns : List Turn :=
  [.reserve 1 (.ok 10), .reserve 1 (.ok 10), .failed 0, .drop 1, .reserve 1 (.ok 10), .syncOnChain 1 (.ok 12)]

theorem okTurns_ordered : Admissible Session.turn Session.Ordered Session.fresh okTurns := by
  refine ⟨?_, fun unready => ?_, trivial, trivial, fun unready => ?_, ?_, trivial⟩
  · intro _ current earlier _ known
    cases known
  · exact absurd unready (by decide)
  · exact absurd unready (by decide)
  · rintro current earlier ⟨⟩ known
    have last : (commit Session.turn (commit Session.turn (commit Session.turn
        (commit Session.turn (commit Session.turn Session.fresh (.reserve 1 (.ok 10)))
          (.reserve 1 (.ok 10))) (.failed 0)) (.drop 1)) (.reserve 1 (.ok 10))).known 1 = some 10 := by decide
    cases last.symm.trans known
    decide

theorem reservations_distinct_recycled :
    let session := run Session.turn Session.fresh okTurns
    session.reservations = [⟨1, 11, .failed⟩, ⟨1, 12, .dropped⟩, ⟨1, 11, .outstanding⟩] ∧
    (forall first second sequence, Holds session.reservations 1 first sequence ->
      Holds session.reservations 1 second sequence -> first = second) ∧
    (session.manager.reserve 1 (.ok 12)).1 = .ok 13 ∧ Justified session 1 (.ok 12) 13 := by
  intro session
  have distinct := reservations_distinct okTurns okTurns_ordered
  refine ⟨by decide, distinct.1 1, by decide, distinct.2 1 (.ok 12) 13 ?_ (by decide)⟩
  intro unready
  exact absurd unready (by decide)

end SorobanSas.Sdk
