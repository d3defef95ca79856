import SorobanSas.CrossChain.Contract

namespace SorobanSas.CrossChain

open Library

/-!
# Verdicts are ordered and fresh

Two channels write the same two entries, and nothing orders their messages but the revision
that each one carries.  Whatever the channel, a message is recorded if it is newer than the one
on file, and it replaces both entries.  So the status and the proof of a UID are those of the
last message that was accepted for it, and they can only move to higher revisions.

A positive verdict is accepted only with a validity that ends within a day.  The time at which
it was accepted therefore bounds the time until which `verify_remote` may rely on it.
-/

variable {host : Host} {context : Context} {before after : State} {uid : UID}
  {status : RemoteAttestation} {proof : Option RemoteProof} {call : Call} {payload : Bytes}

/-! ## One message -/

/-- A message and the time at which it was handed in. -/
structure Delivery where
  time : UInt64
  status : RemoteAttestation
  proof : Option RemoteProof
  deriving DecidableEq

/-- The message of a call, if it is about the UID. -/
def messageFor (host : Host) (uid : UID) (input : Context × Call) : Option Delivery :=
  input.2.payload.bind fun payload =>
    match decodeStatus payload, decodeProof host payload with
    | .ok status, .ok proof =>
      if status.uid = uid then some ⟨input.1.timestamp, status, proof⟩ else none
    | _, _ => none

/-- The last message about the UID that the run has accepted. -/
def lastAccepted (host : Host) (calls : List (Context × Call)) (uid : UID) : Option Delivery :=
  lastEffect (step host) (messageFor host uid) deployed calls

theorem judge_eq_ok : judge host context before payload = .ok (status, proof) ↔
      decodeStatus payload = .ok status ∧ decodeProof host payload = .ok proof ∧
        ¬ InvalidValidity context.timestamp status ∧
        ∀ previous, before.status status.uid = some previous -> previous.revision < status.revision := by
  simp only [judge, eq_ok, Prod.mk.injEq]
  constructor
  · rintro ⟨read, decoded, found, proved, valid, newer, rfl, rfl⟩
    refine ⟨decoded, proved, valid, fun previous stored => ?_⟩
    rw [stored, whenSome, require_eq_ok, UInt64.not_le] at newer
    exact newer
  · rintro ⟨decoded, proved, valid, newer⟩
    refine ⟨status, decoded, proof, proved, valid, ?_, rfl, rfl⟩
    cases stored : before.status status.uid with
    | none => rfl
    | some previous =>
      rw [whenSome, require_eq_ok, UInt64.not_le]
      exact newer previous stored

theorem step_records (message : call.payload = some payload) :
    Yields (step host before (context, call)) fun after => ∃ status proof event,
      judge host context before payload = .ok (status, proof) ∧ after = record before status proof event := by
  intro after success
  cases call with
  | execute =>
    cases message
    simp only [step, stateOf, execute, eq_ok] at success
    rcases success with ⟨_, ⟨trusted, -, -, -, ⟨status, proof⟩, judgement, -, rfl⟩, rfl⟩
    exact ⟨status, proof, _, judgement, rfl⟩
  | lzReceive =>
    cases message
    simp only [step, stateOf, lzReceive, eq_ok] at success
    rcases success with ⟨_, ⟨trusted, -, -, -, -, -, ⟨status, proof⟩, judgement, rfl⟩, rfl⟩
    exact ⟨status, proof, _, judgement, rfl⟩
  | _ => cases message

/-- The other calls leave the verdicts alone. -/
theorem step_configures (quiet : call.payload = none) : Yields (step host before (context, call)) fun after =>
      after.status = before.status ∧ after.proof = before.proof := by
  cases call with
  | init | setLzConfig => exact .skip3 <| .pure ⟨rfl, rfl⟩
  | _ => cases quiet

/-- An accepted message about the UID replaces both entries, with a higher revision. -/
structure Replaces (before : State) (uid : UID) (delivery : Delivery) (after : State) : Prop where
  status : after.status uid = some delivery.status
  proof : after.proof uid = delivery.proof
  newer : ∀ previous, before.status uid = some previous -> previous.revision < delivery.status.revision
  timely : ¬ InvalidValidity delivery.time delivery.status

theorem messageFor_eq (message : call.payload = some payload) (decoded : decodeStatus payload = .ok status)
    (proved : decodeProof host payload = .ok proof) : messageFor host uid (context, call) =
      if status.uid = uid then some ⟨context.timestamp, status, proof⟩ else none := by
  simp only [messageFor, message, Option.bind_some, decoded, proved]

theorem step_replaces {delivery : Delivery} (about : messageFor host uid (context, call) = some delivery) :
    Yields (step host before (context, call)) (Replaces before uid delivery) := by
  intro after success
  cases message : call.payload with
  | none =>
    rw [messageFor, message] at about
    cases about
  | some payload =>
    rcases step_records message after success with ⟨status, proof, event, judgement, rfl⟩
    rcases judge_eq_ok.mp judgement with ⟨decoded, proved, valid, newer⟩
    rw [messageFor_eq message decoded proved, Option.ite_none_right_eq_some] at about
    rcases about with ⟨rfl, same⟩
    cases same
    exact ⟨update_self _ _ _, update_self _ _ _, newer, valid⟩

theorem step_keeps_verdict (other : messageFor host uid (context, call) = none) :
    Yields (step host before (context, call)) fun after =>
      after.status uid = before.status uid ∧ after.proof uid = before.proof uid := by
  intro after success
  cases message : call.payload with
  | none =>
    rcases step_configures message after success with ⟨status, proof⟩
    rw [status, proof]
    exact ⟨rfl, rfl⟩
  | some payload =>
    rcases step_records message after success with ⟨status, proof, event, judgement, rfl⟩
    rcases judge_eq_ok.mp judgement with ⟨decoded, proved, -⟩
    rw [messageFor_eq message decoded proved] at other
    have apart : uid ≠ status.uid := by
      rintro rfl
      rw [if_pos rfl] at other
      cases other
    exact ⟨update_of_ne apart _ _, update_of_ne apart _ _⟩

/-! ## Whole runs -/

theorem verdict_after_run (host : Host) (calls : List (Context × Call)) (uid : UID) :
    ((run (step host) deployed calls).status uid, (run (step host) deployed calls).proof uid) =
      ((lastAccepted host calls uid).map (·.status), (lastAccepted host calls uid).bind (·.proof)) := by
  refine view_eq_lastEffect (fun state : State => (state.status uid, state.proof uid))
    (fun last : Option Delivery => (last.map (·.status), last.bind (·.proof))) ?_ ?_ ?_ calls
  · rfl
  · rintro state ⟨context, call⟩ next delivery success about
    have replaces := step_replaces about next success
    rw [replaces.status, replaces.proof]
    rfl
  · rintro state ⟨context, call⟩ next success other
    rcases step_keeps_verdict other next success with ⟨status, proof⟩
    rw [status, proof]

/-- The verdict is the old one, or one with a higher revision. -/
def Advances (uid : UID) (before after : State) : Prop :=
  ∀ status, before.status uid = some status -> ∃ later, after.status uid = some later ∧
    (later = status ∨ status.revision < later.revision)

theorem Advances.refl (uid : UID) (state : State) : Advances uid state state :=
  fun status stored => ⟨status, stored, .inl rfl⟩

theorem Advances.trans {first middle last : State} (earlier : Advances uid first middle)
    (later : Advances uid middle last) : Advances uid first last := by
  intro status stored
  rcases earlier status stored with ⟨between, found, order⟩
  rcases later between found with ⟨final, reached, order'⟩
  refine ⟨final, reached, ?_⟩
  rcases order with rfl | less
  · exact order'
  · rcases order' with rfl | less'
    · exact .inr less
    · exact .inr (UInt64.lt_trans less less')

theorem step_advances (uid : UID) : Yields (step host before (context, call)) (Advances uid before) := by
  intro after success status stored
  cases about : messageFor host uid (context, call) with
  | none =>
    rcases step_keeps_verdict about after success with ⟨kept, -⟩
    exact ⟨status, kept.trans stored, .inl rfl⟩
  | some delivery =>
    have replaces := step_replaces about after success
    exact ⟨delivery.status, replaces.status, .inr (replaces.newer status stored)⟩

theorem advances_run (host : Host) (uid : UID) (state : State) (calls : List (Context × Call)) :
    Advances uid state (run (step host) state calls) := run_related (Advances uid) ⟨.refl uid, .trans⟩
    (fun _ _ next _ success => step_advances uid next success) (admissible_true state calls)

/-- The last accepted message was valid when it was handed in, by one of the calls. -/
theorem lastAccepted_timely {calls : List (Context × Call)} {delivery : Delivery}
    (last : lastAccepted host calls uid = some delivery) :
    ¬ InvalidValidity delivery.time delivery.status ∧ ∃ input, input ∈ calls ∧ input.1.timestamp = delivery.time := by
  rcases occurs_of_lastEffect last with ⟨earlier, ⟨context, call⟩, later, rfl, succeeds, about⟩
  rcases exists_of_isOk succeeds with ⟨next, success⟩
  refine ⟨(step_replaces about next success).timely, (context, call), by simp, ?_⟩
  simp only [messageFor, Option.bind_eq_some_iff] at about
  rcases about with ⟨payload, -, about⟩
  split at about
  · rw [Option.ite_none_right_eq_some] at about
    rcases about with ⟨-, same⟩
    cases same
    rfl
  · cases about

/-- A valid verdict ends within the longest validity. -/
theorem validUntil_le {now : UInt64} (timely : ¬ InvalidValidity now status)
    (valid : status.valid = true) : status.validUntil.toNat <= now.toNat + maxValiditySeconds := by
  have bounded : status.validUntil.toNat <= latestValidity now := by
    by_contra late
    exact timely (.inr (.inl ⟨valid, .inr (Nat.lt_of_not_le late)⟩))
  exact bounded.trans (Nat.min_le_left _ _)

/-! ## Main result -/

/-- What is kept about a UID in the state that the run has led to. -/
structure VerdictOrdered (host : Host) (calls : List (Context × Call)) (uid : UID) (state : State) : Prop where
  status : getStatus state uid = (lastAccepted host calls uid).map (·.status)
  proof : getProof state uid = (lastAccepted host calls uid).bind (·.proof)
  /-- An accepted message about the UID has a higher revision than the one on file. -/
  increases : ∀ input next delivery, step host state input = .ok next -> messageFor host uid input = some delivery ->
    (∀ previous, getStatus state uid = some previous -> previous.revision < delivery.status.revision) ∧
    getStatus next uid = some delivery.status ∧ getProof next uid = delivery.proof
  kept : ∀ input next, step host state input = .ok next -> messageFor host uid input = none ->
    getStatus next uid = getStatus state uid ∧ getProof next uid = getProof state uid
  failed : ∀ input reason, step host state input = .error reason -> commit (step host) state input = state
  /-- What is on file is replaced by higher revisions only, in every continuation. -/
  lasting : ∀ later, Advances uid state (run (step host) state later)
  fresh : ∀ now, (∀ input ∈ calls, input.1.timestamp <= now) ->
    verifyRemote state now uid = true -> ∃ delivery, lastAccepted host calls uid = some delivery ∧
      delivery.status.valid = true ∧ delivery.time <= now ∧ now.toNat < delivery.time.toNat + maxValiditySeconds + 1

/-- After every run of calls on both channels, and for every UID. -/
theorem verdicts_ordered (host : Host) (calls : List (Context × Call)) (uid : UID) :
    VerdictOrdered host calls uid (run (step host) deployed calls) := by
  have entries := Prod.mk.inj (verdict_after_run host calls uid)
  constructor
  · exact entries.1
  · exact entries.2
  · rintro ⟨context, call⟩ next delivery success about
    have replaces := step_replaces about next success
    exact ⟨replaces.newer, replaces.status, replaces.proof⟩
  · rintro ⟨context, call⟩ next success other
    exact step_keeps_verdict other next success
  · intro input reason failure
    exact commit_of_error failure
  · exact advances_run host uid _
  · intro now past verified
    have stored := entries.1
    unfold verifyRemote getStatus at verified
    rw [stored] at verified
    cases last : lastAccepted host calls uid with
    | none =>
      rw [last] at verified
      cases verified
    | some delivery =>
      rw [last] at verified
      simp only [Option.map_some, Bool.and_eq_true, decide_eq_true_eq] at verified
      rcases verified with ⟨valid, unexpired⟩
      rcases lastAccepted_timely last with ⟨timely, input, member, time⟩
      have until_ := validUntil_le timely valid
      refine ⟨delivery, rfl, valid, time ▸ past input member, ?_⟩
      have before : now.toNat < delivery.status.validUntil.toNat := unexpired
      omega

end SorobanSas.CrossChain
