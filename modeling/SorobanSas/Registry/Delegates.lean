import SorobanSas.Registry.Deprecation
import Mathlib.Data.Set.Card

namespace SorobanSas.Registry

open Library List
open State (publish)

/-!
# Delegates and attester lists against the history of a run

A delegate of a schema is kept in a flag, in an optional expiry and in a list; an attester
of its access control list is kept in a flag and in a counter.  Six entry points maintain
them.  What the readers answer is compared here with the operations alone: for a schema and
an address only the last successful operation on that pair matters.

The counter of the access control list saturates at the largest `u32`.  Below that it is
the number of listed attesters.
-/

variable {crypto : Crypto} {env : Env} {after : State} {attester : Address} {listed : Bool}
  {expiry : Option UInt64} {call : Call} {state : State} {count : Nat}

/-! ## The readers -/

structure DelegatesStatus where
  active : List Address
  expired : List Address
  deriving DecidableEq

/-- An expiry that has passed.  Zero, like no expiry, never does. -/
def expiryPassed (now : UInt64) : Option UInt64 -> Bool
  | some expiry => expiry ≠ 0 && expiry <= now
  | none => false

/-- One turn of the loop of `get_delegates`. -/
def DelegatesStatus.add (env : Env) (state : State) (uid : UID) (status : DelegatesStatus)
    (delegate : Address) : DelegatesStatus := if state.delegates uid delegate then
    if expiryPassed env.timestamp (state.delegateExpiry uid delegate) then
      { status with expired := status.expired ++ [delegate] }
    else { status with active := status.active ++ [delegate] }
  else status

/-- `get_delegates`, also exported as `get_delegates_by_status`,
`get_active_and_expired_delegates` and `get_delegates_tuple`. -/
def getDelegates (env : Env) (state : State) (uid : UID) : DelegatesStatus :=
  match state.delegateList uid with
  | none => ⟨[], []⟩
  | some delegates => delegates.foldl (DelegatesStatus.add env state uid) ⟨[], []⟩

def getAuthorizedAttesterCount (state : State) (uid : UID) : Nat := aclCount state uid

theorem getDelegates_eq (env : Env) (state : State) (uid : UID) : getDelegates env state uid =
      let flagged := ((state.delegateList uid).getD []).filter (state.delegates uid)
      ⟨flagged.filter fun delegate => !expiryPassed env.timestamp (state.delegateExpiry uid delegate),
        flagged.filter fun delegate => expiryPassed env.timestamp (state.delegateExpiry uid delegate)⟩ := by
  have loop (delegates : List Address) (status : DelegatesStatus) :
      delegates.foldl (DelegatesStatus.add env state uid) status =
        ⟨status.active ++ (delegates.filter (state.delegates uid)).filter fun delegate =>
            !expiryPassed env.timestamp (state.delegateExpiry uid delegate),
          status.expired ++ (delegates.filter (state.delegates uid)).filter fun delegate =>
            expiryPassed env.timestamp (state.delegateExpiry uid delegate)⟩ := by
    induction delegates generalizing status with
    | nil => simp
    | cons delegate rest ih =>
      rw [foldl_cons, ih, DelegatesStatus.add]
      by_cases flagged : state.delegates uid delegate = true
      · by_cases passed : expiryPassed env.timestamp (state.delegateExpiry uid delegate) = true
        · simp [flagged, passed]
        · simp [flagged, passed]
      · simp [flagged]
  unfold getDelegates
  cases state.delegateList uid with
  | none => rfl
  | some delegates => exact loop delegates ⟨[], []⟩

theorem isDelegate_eq (env : Env) (state : State) (uid : UID) (delegate : Address) :
    isDelegate env state uid delegate = (state.delegates uid delegate &&
      !expiryPassed env.timestamp (state.delegateExpiry uid delegate)) := by
  unfold isDelegate expiryPassed
  cases state.delegateExpiry uid delegate <;> rfl

/-- What an operation does to a delegate. -/
inductive DelegateChange where
  | added (expiry : Option UInt64)
  | removed
  deriving DecidableEq

/-- The operation of a call on a schema and a delegate. -/
def Call.delegateChange (uid : UID) (delegate : Address) : Call -> Option DelegateChange
  | .addDelegate target who => if target = uid ∧ who = delegate then some (.added none) else none
  | .addDelegateWithExpiry target who expiry =>
    if target = uid ∧ who = delegate then some (.added (some expiry)) else none
  | .removeDelegate target who | .selfRevokeDelegate target who =>
    if target = uid ∧ who = delegate then some .removed else none
  | _ => none

/-- The operation of a call on a schema and an attester: whether it adds it. -/
def Call.attesterChange (uid : UID) (attester : Address) : Call -> Option Bool
  | .addAuthorizedAttester target who => if target = uid ∧ who = attester then some true else none
  | .removeAuthorizedAttester target who =>
    if target = uid ∧ who = attester then some false else none
  | _ => none

/-- The last successful operation of the run on a schema and a delegate. -/
def lastDelegateChange (crypto : Crypto) (calls : List (Env × Call)) (uid : UID)
    (delegate : Address) : Option DelegateChange :=
  lastEffect (step crypto) (fun input => input.2.delegateChange uid delegate) deployed calls

/-- The last successful operation of the run on a schema and an attester. -/
def lastAttesterChange (crypto : Crypto) (calls : List (Env × Call)) (uid : UID) (attester : Address) : Option Bool :=
  lastEffect (step crypto) (fun input => input.2.attesterChange uid attester) deployed calls

/-- The last operation lets the delegate issue at this time. -/
def Grants (now : UInt64) : Option DelegateChange -> Prop
  | some (.added none) => True
  | some (.added (some expiry)) => expiry = 0 ∨ now < expiry
  | some .removed | none => False

/-- The last operation added the delegate, whether or not it has expired. -/
def Listed : Option DelegateChange -> Prop
  | some (.added _) => True
  | some .removed | none => False

/-! ## What the six calls write -/

theorem update_pair {α β γ : Type} [DecidableEq α] [DecidableEq β] (table : α -> β -> γ)
    (first : α) (second : β) (value : γ) (row : α) (column : β) :
    update table first (update (table first) second value) row column =
      if first = row ∧ second = column then value else table row column := by
  by_cases same : first = row
  · subst same
    by_cases also : second = column
    · subst also
      simp
    · simp [also, update_of_ne (Ne.symm also)]
  · simp [same, update_of_ne (Ne.symm same)]

/-- The list of delegates of a schema, empty when there is none. -/
def delegatesOf (state : State) (uid : UID) : List Address := (state.delegateList uid).getD []

/-- An operation on a delegate: its flag and its expiry, the list of the schema, and nothing
else. -/
structure DelegateWrite (before : State) (uid : UID) (delegate : Address) (flag : Bool)
    (expiry : Option UInt64) (list : List Address) (after : State) : Prop where
  delegates : after.delegates = update before.delegates uid (update (before.delegates uid) delegate flag)
  delegateExpiry : after.delegateExpiry = update before.delegateExpiry uid
    (update (before.delegateExpiry uid) delegate expiry)
  lists : ∀ other, delegatesOf after other = if uid = other then list else delegatesOf before other
  acl : after.acl = before.acl
  aclCount : after.aclCount = before.aclCount

theorem addToDelegateList_lists (state : State) (uid : UID) (delegate : Address) :
    ∃ lists, addToDelegateList state uid delegate = { state with delegateList := lists } ∧
      ∀ other, (lists other).getD [] = if uid = other then
        (if delegate ∈ delegatesOf state uid then delegatesOf state uid
          else delegatesOf state uid ++ [delegate]) else delegatesOf state other := by
  by_cases present : delegate ∈ delegatesOf state uid
  · refine ⟨state.delegateList, if_pos present, fun other => ?_⟩
    rw [if_pos present]
    split
    · rename_i same
      rw [← same]
      rfl
    · rfl
  · refine ⟨_, if_neg present, fun other => ?_⟩
    rw [if_neg present]
    by_cases same : uid = other
    · subst same
      simp [delegatesOf]
    · simp [delegatesOf, same, update_of_ne (Ne.symm same)]

theorem removeFromDelegateList_lists (state : State) (uid : UID) (delegate : Address) :
    ∃ lists, removeFromDelegateList state uid delegate = { state with delegateList := lists } ∧
      ∀ other, (lists other).getD [] = if uid = other then
        (delegatesOf state uid).filter (· ≠ delegate) else delegatesOf state other := by
  unfold removeFromDelegateList delegatesOf
  cases found : state.delegateList uid with
  | none =>
    refine ⟨state.delegateList, rfl, fun other => ?_⟩
    split
    · rename_i same
      rw [← same, found]
      rfl
    · rfl
  | some list =>
    refine ⟨_, rfl, fun other => ?_⟩
    by_cases same : uid = other
    · subst same
      rw [update_self, if_pos rfl, Option.getD_some]
      split
      · rename_i empty
        exact (List.isEmpty_iff.mp empty).symm
      · rfl
    · rw [update_of_ne (Ne.symm same), if_neg same]

variable {before : State} {uid : UID} {delegate : Address} {last : Option DelegateChange}

theorem authorizeDelegate_writes : Yields (authorizeDelegate env before uid delegate expiry)
      (DelegateWrite before uid delegate true expiry (if delegate ∈ delegatesOf before uid then delegatesOf before uid
          else delegatesOf before uid ++ [delegate])) := by
  refine .skip <| .pure ?_
  rcases addToDelegateList_lists { before with
    delegates := update before.delegates uid (update (before.delegates uid) delegate true)
    delegateExpiry := update before.delegateExpiry uid
      (update (before.delegateExpiry uid) delegate expiry) } uid delegate with
    ⟨lists, written, listed⟩
  rw [written]
  exact ⟨rfl, rfl, listed, rfl, rfl⟩

theorem dropDelegate_writes (authorizer : Address) : DelegateWrite before uid delegate false none
      ((delegatesOf before uid).filter (· ≠ delegate)) (dropDelegate before uid delegate authorizer) := by
  rcases removeFromDelegateList_lists { before with
    delegates := update before.delegates uid (update (before.delegates uid) delegate false)
    delegateExpiry := update before.delegateExpiry uid
      (update (before.delegateExpiry uid) delegate none) } uid delegate with
    ⟨lists, written, listed⟩
  rw [dropDelegate, written]
  exact ⟨rfl, rfl, listed, rfl, rfl⟩

/-- What an operation writes for its delegate. -/
def DelegateChange.Writes (before : State) (uid : UID) (delegate : Address) (after : State) : DelegateChange -> Prop
  | .added expiry => DelegateWrite before uid delegate true expiry
      (if delegate ∈ delegatesOf before uid then delegatesOf before uid
        else delegatesOf before uid ++ [delegate]) after
  | .removed => DelegateWrite before uid delegate false none
      ((delegatesOf before uid).filter (· ≠ delegate)) after

theorem step_delegates (call : Call) : (∃ target who change, (∀ uid delegate, call.delegateChange uid delegate =
        if target = uid ∧ who = delegate then some change else none) ∧
      Yields (step crypto before (env, call)) (fun after => change.Writes before target who after)) ∨
    (∀ uid delegate, call.delegateChange uid delegate = none) ∧ Yields (step crypto before (env, call)) fun after =>
        after.delegates = before.delegates ∧ after.delegateExpiry = before.delegateExpiry ∧
          after.delegateList = before.delegateList := by
  cases call with
  | addDelegate target who =>
    exact .inl ⟨target, who, .added none, fun _ _ => rfl, authorizeDelegate_writes⟩
  | addDelegateWithExpiry target who expiry =>
    exact .inl ⟨target, who, .added (some expiry), fun _ _ => rfl, authorizeDelegate_writes⟩
  | removeDelegate target who =>
    exact .inl ⟨target, who, .removed, fun _ _ => rfl, .bind fun owner _ => .pure (dropDelegate_writes owner)⟩
  | selfRevokeDelegate target who =>
    exact .inl ⟨target, who, .removed, fun _ _ => rfl, .skip2 <| .pure (dropDelegate_writes who)⟩
  | addAuthorizedAttester | removeAuthorizedAttester =>
    exact .inr ⟨fun _ _ => rfl, .skip <| .ite (fun _ => .pure ⟨rfl, rfl, rfl⟩) fun _ => .pure ⟨rfl, rfl, rfl⟩⟩
  | _ =>
    refine .inr ⟨fun _ _ => rfl, (step_authority rfl).mono fun after same => ?_⟩
    exact ⟨congrArg Authority.delegates same, congrArg Authority.delegateExpiry same,
      congrArg Authority.delegateList same⟩

/-! ## Delegates after a run -/

/-- The flag and the expiry that an operation leaves. -/
def DelegateChange.stored : Option DelegateChange -> Bool × Option UInt64
  | some (.added expiry) => (true, expiry)
  | some .removed | none => (false, none)

open DelegateChange (stored)

theorem delegate_after_run (crypto : Crypto) (calls : List (Env × Call)) (uid : UID) (delegate : Address) :
    ((run (step crypto) deployed calls).delegates uid delegate,
        (run (step crypto) deployed calls).delegateExpiry uid delegate) =
      stored (lastDelegateChange crypto calls uid delegate) := by
  refine view_eq_lastEffect (fun state : State =>
    (state.delegates uid delegate, state.delegateExpiry uid delegate)) stored rfl
    ?_ ?_ calls
  · rintro state ⟨env, call⟩ next change success operation
    rcases step_delegates call with ⟨target, who, written, operates, writes⟩ | ⟨idle, -⟩
    · rw [operates, Option.ite_none_right_eq_some] at operation
      rcases operation with ⟨⟨rfl, rfl⟩, ⟨⟩⟩
      have write := writes next success
      cases change with
      | added expiry | removed =>
        simp only [stored, write.delegates, write.delegateExpiry, update_pair, and_self, if_true]
    · cases (idle uid delegate).symm.trans operation
  · rintro state ⟨env, call⟩ next success quiet
    rcases step_delegates call with ⟨target, who, change, operates, writes⟩ | ⟨-, kept⟩
    · have apart : ¬ (target = uid ∧ who = delegate) := by simpa [operates] using quiet
      have write := writes next success
      cases change with
      | added expiry | removed =>
        simp only [write.delegates, write.delegateExpiry, update_pair, if_neg apart]
    · rcases kept next success with ⟨delegates, expiry, -⟩
      rw [delegates, expiry]

/-- The list of a schema holds the flagged delegates, each once. -/
structure DelegateLists (state : State) : Prop where
  distinct : ∀ uid, (delegatesOf state uid).Nodup
  exact : ∀ uid delegate, delegate ∈ delegatesOf state uid ↔ state.delegates uid delegate = true

theorem DelegateLists.write {flag : Bool} {list : List Address} (lists : DelegateLists before)
    (write : DelegateWrite before uid delegate flag expiry list after) (distinct : list.Nodup)
    (members : ∀ who, who ∈ list ↔
      if delegate = who then flag = true else who ∈ delegatesOf before uid) : DelegateLists after := by
  constructor
  · intro other
    rw [write.lists]
    split
    · exact distinct
    · exact lists.distinct other
  · intro other who
    rw [write.lists, write.delegates, update_pair]
    by_cases same : uid = other
    · subst same
      rw [if_pos rfl, members]
      by_cases own : delegate = who
      · simp [own]
      · simp [own, lists.exact]
    · simp [same, lists.exact]

theorem DelegateLists.step (lists : DelegateLists before) :
    Yields (Registry.step crypto before (env, call)) DelegateLists := by
  intro after success
  rcases step_delegates call with ⟨uid, delegate, change, -, writes⟩ | ⟨-, kept⟩
  · have write := writes after success
    cases change with
    | added expiry =>
      refine lists.write write ?_ fun who => ?_
      · split
        · exact lists.distinct uid
        · rename_i absent
          rw [← concat_eq_append]
          exact List.Nodup.concat absent (lists.distinct uid)
      · by_cases own : delegate = who
        · subst own
          split <;> simp_all
        · split <;> simp [Ne.symm own]
    | removed =>
      refine lists.write write ((lists.distinct uid).filter _) fun who => ?_
      by_cases own : delegate = who
      · simp [own]
      · simp [own, Ne.symm own]
  · rcases kept after success with ⟨delegates, -, list⟩
    constructor
    · intro uid
      rw [delegatesOf, list]
      exact lists.distinct uid
    · intro uid delegate
      rw [delegatesOf, list, delegates]
      exact lists.exact uid delegate

theorem DelegateLists.run (crypto : Crypto) (calls : List (Env × Call)) :
    DelegateLists (Library.run (Registry.step crypto) deployed calls) := by
  refine run_invariant (fun state input next lists _ success => lists.step next success) ?_
    (admissible_true deployed calls)
  exact ⟨fun _ => nodup_nil, fun uid delegate => by simp [delegatesOf, deployed]⟩

theorem DelegateLists.reader (lists : DelegateLists state) (env : Env) (uid : UID) :
    getDelegates env state uid = ⟨(delegatesOf state uid).filter (isDelegate env state uid),
        (delegatesOf state uid).filter fun delegate => !isDelegate env state uid delegate⟩ := by
  have flagged (delegate : Address) (member : delegate ∈ delegatesOf state uid) :
      state.delegates uid delegate = true := (lists.exact uid delegate).mp member
  have whole : ((state.delegateList uid).getD []).filter (state.delegates uid) =
      delegatesOf state uid := List.filter_eq_self.mpr flagged
  rw [getDelegates_eq, whole, DelegatesStatus.mk.injEq]
  constructor
  · refine filter_congr fun delegate member => ?_
    rw [isDelegate_eq, flagged delegate member, Bool.true_and]
  · refine filter_congr fun delegate member => ?_
    rw [isDelegate_eq, flagged delegate member, Bool.true_and, Bool.not_not]

theorem listed_iff : (stored last).1 = true ↔ Listed last := by
  rcases last with _ | ⟨expiry⟩ | _ <;> simp [stored, Listed]

theorem grants_iff {now : UInt64} :
    ((stored last).1 && !expiryPassed now (stored last).2) = true ↔ Grants now last := by
  rcases last with _ | (_ | expiry) | _
  · simp [stored, Grants]
  · simp [stored, Grants, expiryPassed]
  · simp only [stored, Grants, expiryPassed, Bool.true_and, Bool.not_eq_true',
      Bool.and_eq_false_iff, decide_eq_false_iff_not, not_not, UInt64.not_le]
  · simp [stored, Grants]

/-! ## Attesters after a run -/

/-- An operation on an attester, of which the counter is told when the flag changes. -/
structure AttesterWrite (before : State) (uid : UID) (attester : Address) (listed : Bool)
    (after : State) : Prop where
  acl : after.acl = update before.acl uid (update (before.acl uid) attester listed)
  counts : ∀ other, aclCount after other = if uid = other ∧ before.acl uid attester ≠ listed then
      (if listed then saturatingSucc (aclCount before uid) else aclCount before uid - 1)
    else aclCount before other

theorem step_attester (operation : call.attesterChange uid attester = some listed) :
    Yields (step crypto before (env, call)) (AttesterWrite before uid attester listed) := by
  cases call with
  | addAuthorizedAttester target =>
    simp only [Call.attesterChange, Option.ite_none_right_eq_some, Option.some.injEq] at operation
    rcases operation with ⟨⟨rfl, rfl⟩, rfl⟩
    refine .skip <| .ite (fun already => .pure ?_) fun absent => .pure ?_
    · refine ⟨?_, fun other => by simp [already]⟩
      rw [← already, update_eq_self, update_eq_self]
    · refine ⟨rfl, fun other => ?_⟩
      rw [Bool.not_eq_true] at absent
      by_cases same : target = other
      · subst same
        simp [aclCount, publish, absent]
      · simp [aclCount, publish, same, update_of_ne (Ne.symm same)]
  | removeAuthorizedAttester target =>
    simp only [Call.attesterChange, Option.ite_none_right_eq_some, Option.some.injEq] at operation
    rcases operation with ⟨⟨rfl, rfl⟩, rfl⟩
    refine .skip <| .ite (fun present => .pure ?_) fun absent => .pure ?_
    · refine ⟨rfl, fun other => ?_⟩
      by_cases same : target = other
      · subst same
        by_cases last : aclCount before target - 1 = 0
        all_goals
          simp [aclCount, publish, present] at last ⊢
          simp [last]
      · simp [aclCount, publish, same, update_of_ne (Ne.symm same)]
    · rw [Bool.not_eq_true] at absent
      refine ⟨?_, fun other => by simp [absent]⟩
      rw [← absent, update_eq_self, update_eq_self]
  | _ => cases operation

theorem step_attesters (call : Call) : (∃ target who listed, (∀ uid attester, call.attesterChange uid attester =
        if target = uid ∧ who = attester then some listed else none) ∧
      (listed = true -> call = .addAuthorizedAttester target who)) ∨
    Yields (step crypto before (env, call)) fun after => after.acl = before.acl ∧ after.aclCount = before.aclCount := by
  cases call with
  | addAuthorizedAttester target who => exact .inl ⟨target, who, true, fun _ _ => rfl, fun _ => rfl⟩
  | removeAuthorizedAttester target who => exact .inl ⟨target, who, false, fun _ _ => rfl, nofun⟩
  | addDelegate target who | addDelegateWithExpiry target who =>
    exact .inr (authorizeDelegate_writes.mono fun after write => ⟨write.acl, write.aclCount⟩)
  | removeDelegate =>
    refine .inr (.bind fun owner _ => .pure ?_)
    exact ⟨(dropDelegate_writes owner).acl, (dropDelegate_writes owner).aclCount⟩
  | selfRevokeDelegate target who =>
    refine .inr (.skip2 <| .pure ?_)
    exact ⟨(dropDelegate_writes who).acl, (dropDelegate_writes who).aclCount⟩
  | _ =>
    refine .inr ((step_authority rfl).mono fun after same => ?_)
    exact ⟨congrArg Authority.acl same, congrArg Authority.aclCount same⟩

theorem attester_after_run (crypto : Crypto) (calls : List (Env × Call)) (uid : UID) (attester : Address) :
    (run (step crypto) deployed calls).acl uid attester =
      decide (lastAttesterChange crypto calls uid attester = some true) := by
  refine view_eq_lastEffect (fun state : State => state.acl uid attester)
    (fun last => decide (last = some true)) rfl ?_ ?_ calls
  · rintro state ⟨env, call⟩ next listed success operation
    rw [(step_attester operation next success).acl, update_pair, if_pos ⟨rfl, rfl⟩]
    cases listed <;> rfl
  · rintro state ⟨env, call⟩ next success quiet
    rcases step_attesters call with ⟨target, who, listed, operates, -⟩ | kept
    · have apart : ¬ (target = uid ∧ who = attester) := by simpa [operates] using quiet
      have operation := (operates target who).trans (if_pos ⟨rfl, rfl⟩)
      rw [(step_attester operation next success).acl, update_pair, if_neg apart]
    · rw [(kept next success).1]

/-- An attester is added only while the counter can still count it. -/
def CountsFurther (state : State) (input : Env × Call) : Prop :=
  ∀ uid attester, input.2 = .addAuthorizedAttester uid attester -> getAuthorizedAttesterCount state uid + 1 < 2 ^ 32

/-- The attesters on the list of a schema. -/
def attestersOf (state : State) (uid : UID) : Set Address := {attester | state.acl uid attester = true}

/-- The counter of every list is the number of its attesters. -/
def AttestersCounted (state : State) : Prop :=
  ∀ uid, (attestersOf state uid).encard = getAuthorizedAttesterCount state uid

theorem AttesterWrite.attesters (write : AttesterWrite before uid attester listed after) (other : UID) :
    attestersOf after other = if uid = other then (if listed then insert attester (attestersOf before uid)
        else attestersOf before uid \ {attester}) else attestersOf before other := by
  ext who
  simp only [attestersOf, write.acl, update_pair, Set.mem_ofPred_eq]
  by_cases same : uid = other
  · subst same
    by_cases own : attester = who
    · subst own
      cases listed <;> simp
    · cases listed <;> simp [own, Ne.symm own]
  · simp [same]

theorem AttestersCounted.step (counted : AttestersCounted before) (further : CountsFurther before (env, call)) :
    Yields (Registry.step crypto before (env, call)) AttestersCounted := by
  intro after success other
  rcases step_attesters call with ⟨uid, attester, listed, operates, adds⟩ | kept
  · have write := step_attester ((operates uid attester).trans (if_pos ⟨rfl, rfl⟩)) after success
    rw [write.attesters, getAuthorizedAttesterCount, write.counts]
    by_cases same : uid = other
    · subst same
      have total := counted uid
      rw [getAuthorizedAttesterCount] at total
      cases listed with
      | true =>
        have room := further uid attester (adds rfl)
        rw [getAuthorizedAttesterCount] at room
        by_cases present : before.acl uid attester = true
        · have member : attester ∈ attestersOf before uid := present
          simp [present, Set.insert_eq_of_mem member, total]
        · have absent : attester ∉ attestersOf before uid := present
          have next : saturatingSucc (aclCount before uid) = aclCount before uid + 1 := Nat.min_eq_left (by omega)
          simp [present, Set.encard_insert_of_notMem absent, total, next]
      | false =>
        by_cases present : before.acl uid attester = true
        · have member : attester ∈ attestersOf before uid := present
          simp [present, Set.encard_sdiff_singleton_of_mem member, total]
        · have absent : attester ∉ attestersOf before uid := present
          simp [present, Set.sdiff_singleton_eq_self absent, total]
    · rw [if_neg same, if_neg (fun both => same both.1)]
      exact counted other
  · rcases kept after success with ⟨acl, counts⟩
    rw [attestersOf, acl, getAuthorizedAttesterCount, aclCount, counts]
    exact counted other

theorem AttestersCounted.run {calls : List (Env × Call)}
    (further : Admissible (Registry.step crypto) CountsFurther deployed calls) :
    AttestersCounted (Library.run (Registry.step crypto) deployed calls) := by
  refine run_invariant (fun state input next counted permitted success =>
    counted.step permitted next success) ?_ further
  intro uid
  simp [attestersOf, deployed, getAuthorizedAttesterCount, aclCount]

/-- Every registered schema has a creator. -/
def State.Owned (state : State) : Prop := ∀ uid, state.schemas uid ≠ none -> state.creator uid ≠ none

theorem Enters.owned {entry : Registration} (enters : Enters before entry after)
    (owned : before.Owned) : after.Owned := by
  intro uid present
  rcases enters.creator with ⟨owner, creator⟩
  rw [enters.schemas] at present
  rw [creator]
  by_cases same : uid = entry.record.uid
  · rw [same, update_self]
    exact Option.some_ne_none owner
  · rw [update_of_ne same] at present ⊢
    exact owned uid present

theorem EntersAll.owned {entries : List Registration} (entered : EntersAll before entries after)
    (owned : before.Owned) : after.Owned := by
  induction entered with
  | nil state => exact owned
  | cons first _ ih => exact ih (first.owned owned)

theorem OwnershipChange.creator {after : Ownership} (change : OwnershipChange env before call after)
    {uid : UID} (owned : before.creator uid ≠ none) : after.creator uid ≠ none := by
  have moved (target : UID) (owner : Address) : update before.creator target (some owner) uid ≠ none := by
    by_cases same : uid = target
    · rw [same, update_self]
      exact Option.some_ne_none owner
    · rw [update_of_ne same]
      exact owned
  cases change <;> first | exact owned | exact moved _ _

theorem owned_run (crypto : Crypto) (calls : List (Env × Call)) : (run (step crypto) deployed calls).Owned := by
  refine run_invariant (fun state input next owned _ success => ?_)
    (fun uid present => absurd rfl present) (admissible_true deployed calls)
  rcases input with ⟨env, call⟩
  by_cases registers : call.registers = true
  · exact (step_enters registers next success).owned owned
  rw [Bool.not_eq_true] at registers
  intro uid present
  have earlier : state.schemas uid ≠ none := by
    intro absent
    rcases (step_onlyDeprecates registers next success).schemas uid with ⟨flag, kept⟩
    exact present (by rw [kept, absent, Option.map_none])
  by_cases concerns : call.concernsOwnership = true
  · exact (step_changes concerns next success).1.creator (owned uid earlier)
  · rw [Bool.not_eq_true] at concerns
    rw [(step_keeps concerns next success).creator uid earlier]
    exact owned uid earlier

/-! ## Issuing authority -/

/-- What the readers say about a schema is what the operations of the run say. -/
structure AuthorityExact (crypto : Crypto) (calls : List (Env × Call)) (uid : UID) (state : State) : Prop where
  issuers : ∀ env attester, isAuthorized env state uid attester = true ↔ state.creator uid = some attester ∨
      Grants env.timestamp (lastDelegateChange crypto calls uid attester)
  active : ∀ env delegate, delegate ∈ (getDelegates env state uid).active ↔
    Listed (lastDelegateChange crypto calls uid delegate) ∧ isDelegate env state uid delegate = true
  expired : ∀ env delegate, delegate ∈ (getDelegates env state uid).expired ↔
    Listed (lastDelegateChange crypto calls uid delegate) ∧ isDelegate env state uid delegate = false
  once : ∀ env, ((getDelegates env state uid).active ++ (getDelegates env state uid).expired).Nodup
  attesters : ∀ attester, isAttesterAuthorized state uid attester = true ↔
    lastAttesterChange crypto calls uid attester = some true
  /-- The counter is right if it never was at its end when an attester was added. -/
  count : Admissible (step crypto) CountsFurther deployed calls ->
    {attester | lastAttesterChange crypto calls uid attester = some true}.encard = getAuthorizedAttesterCount state uid
  restricted : Admissible (step crypto) CountsFurther deployed calls ->
    (isSchemaRestricted state uid = true ↔ ∃ attester, lastAttesterChange crypto calls uid attester = some true)

/-- After every run, the authorities that the registry reports of a schema without tombstone are those
that the calls have left standing. -/
theorem authority_exact (crypto : Crypto) (calls : List (Env × Call)) (uid : UID)
    (registered : (run (step crypto) deployed calls).schemas uid ≠ none)
    (live : (run (step crypto) deployed calls).deprecated uid = false) :
    AuthorityExact crypto calls uid (run (step crypto) deployed calls) := by
  have lists := DelegateLists.run crypto calls
  have owned := owned_run crypto calls uid registered
  have stored := delegate_after_run crypto calls uid
  have attesters := attester_after_run crypto calls uid
  have counted (further : Admissible (step crypto) CountsFurther deployed calls) := AttestersCounted.run further uid
  generalize run (step crypto) deployed calls = state at *
  have flag (delegate : Address) : state.delegates uid delegate = true ↔
      Listed (lastDelegateChange crypto calls uid delegate) := by
    rw [← listed_iff, ← stored delegate]
  have grants (env : Env) (delegate : Address) : isDelegate env state uid delegate = true ↔
      Grants env.timestamp (lastDelegateChange crypto calls uid delegate) := by
    rw [← grants_iff, ← stored delegate, isDelegate_eq]
  constructor
  · intro env attester
    rcases Option.ne_none_iff_exists'.mp owned with ⟨creator, owner⟩
    simp only [isAuthorized, live, owner, Bool.false_eq_true, if_false, Bool.or_eq_true,
      decide_eq_true_eq, Option.some.injEq, grants]
  · intro env delegate
    rw [lists.reader, mem_filter, lists.exact, flag]
  · intro env delegate
    rw [lists.reader, mem_filter, lists.exact, flag, Bool.not_eq_true']
  · intro env
    rw [lists.reader]
    exact (filter_append_perm _ _).nodup_iff.mpr (lists.distinct uid)
  · intro attester
    rw [isAttesterAuthorized, live, Bool.not_false, Bool.true_and, attesters, decide_eq_true_eq]
  · intro further
    have total := counted further
    simpa only [attestersOf, attesters, decide_eq_true_eq] using total
  · intro further
    have total := counted further
    simp only [attestersOf, attesters, decide_eq_true_eq, getAuthorizedAttesterCount] at total
    rw [isSchemaRestricted, decide_eq_true_eq, ← ENat.natCast_lt_natCast, ← total, ENat.natCast_zero, Set.encard_pos]
    rfl

/-- Account 2 lets account 3 issue until 200 and lists account 4 as an attester. -/
def delegatedRun : List (Env × Call) :=
  okRegistered ++ [calledBy 2 (.addDelegateWithExpiry okSchemaUid (.accountOfNat 3) 200),
    calledBy 2 (.addAuthorizedAttester okSchemaUid (.accountOfNat 4))]

theorem authority_exact_delegated :
    let state := run (step okCrypto) deployed delegatedRun
    isAuthorized (signer 9) state okSchemaUid (.accountOfNat 3) = true ∧
      isAttesterAuthorized state okSchemaUid (.accountOfNat 4) = true ∧
      AuthorityExact okCrypto delegatedRun okSchemaUid state ∧
      Admissible (step okCrypto) CountsFurther deployed delegatedRun := by
  refine ⟨by decide, by decide, authority_exact okCrypto delegatedRun okSchemaUid (by decide) (by decide), ?_⟩
  refine ⟨fun _ _ other => (by cases other), fun _ _ other => (by cases other),
    fun _ _ other => (by cases other), fun uid attester added => ?_, trivial⟩
  cases added
  decide

def listedAttesters (count : Nat) : List (Env × Call) :=
  okRegistered ++ (List.range count).map fun number =>
    calledBy 2 (.addAuthorizedAttester okSchemaUid (.accountOfNat number))

/-- What these runs lead to: the attesters are listed, and the counter is a `u32`. -/
structure AttestersListed (count : Nat) (state : State) : Prop where
  creator : state.creator okSchemaUid = some (.accountOfNat 2)
  live : state.deprecated okSchemaUid = false
  registered : state.schemas okSchemaUid ≠ none
  acl : ∀ number, number < count -> state.acl okSchemaUid (.accountOfNat number) = true
  bounded : getAuthorizedAttesterCount state okSchemaUid < 2 ^ 32

theorem AttestersListed.step_isOk (listed : AttestersListed count state) : (step okCrypto state (calledBy 2
      (.addAuthorizedAttester okSchemaUid (.accountOfNat count)))).isOk = true := by
  have signed : requireCreatorAuth (signer 2) state okSchemaUid = .ok (.accountOfNat 2) := by
    simp only [requireCreatorAuth, requireCreator, eq_ok, requireAuth_eq_ok, listed.creator]
    exact ⟨listed.registered, .accountOfNat 2, rfl, rfl, rfl⟩
  simp only [step, calledBy, addAuthorizedAttester, signed]
  by_cases already : state.acl okSchemaUid (.accountOfNat count) = true <;>
    simp [already, Except.isOk, Except.toBool]

theorem AttestersListed.next {next : State} (listed : AttestersListed count state)
    (outcome : step okCrypto state (calledBy 2
      (.addAuthorizedAttester okSchemaUid (.accountOfNat count))) = .ok next) : AttestersListed (count + 1) next := by
  have operation : (Call.addAuthorizedAttester okSchemaUid (.accountOfNat count)).attesterChange
      okSchemaUid (.accountOfNat count) = some true := if_pos ⟨rfl, rfl⟩
  have write := step_attester operation next outcome
  have records := (step_authority_records rfl next outcome).1
  constructor
  · rw [(step_keeps rfl next outcome).creator okSchemaUid listed.registered]
    exact listed.creator
  · exact (congrArg (·.deprecated okSchemaUid) records).trans listed.live
  · exact fun absent => listed.registered ((congrArg (·.schemas okSchemaUid) records).symm.trans absent)
  · intro number inside
    rw [write.acl, update_pair]
    split
    · rfl
    · rename_i apart
      refine listed.acl number (Nat.lt_of_le_of_ne (Nat.le_of_lt_succ inside) fun same => ?_)
      exact apart ⟨rfl, congrArg Address.accountOfNat same.symm⟩
  · rw [getAuthorizedAttesterCount, write.counts]
    have bounded := listed.bounded
    rw [getAuthorizedAttesterCount] at bounded
    split
    · exact Nat.lt_of_le_of_lt (Nat.min_le_right _ _) (by norm_num)
    · exact bounded

theorem attestersListed (count : Nat) :
    AttestersListed count (run (step okCrypto) deployed (listedAttesters count)) := by
  induction count with
  | zero =>
    exact ⟨by decide, by decide, by decide, fun number inside => absurd inside (Nat.not_lt_zero number), by decide⟩
  | succ count ih =>
    have more : listedAttesters (count + 1) = listedAttesters count ++
        [calledBy 2 (.addAuthorizedAttester okSchemaUid (.accountOfNat count))] := by
      simp [listedAttesters, range_succ]
    rw [more, run_concat]
    exact ih.next (commit_ok ih.step_isOk)

/-- Addresses of accounts with different numbers differ. -/
theorem accountOfNat_injOn : Set.InjOn Address.accountOfNat (Set.Iio (2 ^ 256)) := by
  intro first small second below same
  have hashes := congrArg BitVec.toNat (Address.account.inj same)
  rwa [BitVec.toNat_ofNat, BitVec.toNat_ofNat, Nat.mod_eq_of_lt small, Nat.mod_eq_of_lt below] at hashes

theorem listedAttesters_miscounted (many : 2 ^ 32 <= count) (accounts : count <= 2 ^ 256) :
    {attester | lastAttesterChange okCrypto (listedAttesters count) okSchemaUid attester = some true}.encard ≠
      getAuthorizedAttesterCount (run (step okCrypto) deployed (listedAttesters count)) okSchemaUid := by
  intro counted
  have listed := attestersListed count
  have members : Set.image Address.accountOfNat (Set.Iio count) ⊆
      {attester | lastAttesterChange okCrypto (listedAttesters count) okSchemaUid attester = some true} := by
    rintro _ ⟨number, inside, rfl⟩
    have entry := listed.acl number inside
    rwa [attester_after_run, decide_eq_true_eq] at entry
  have injective := accountOfNat_injOn.mono (Set.Iio_subset_Iio accounts)
  have total := Set.encard_le_encard members
  rw [injective.encard_image, counted, ← Finset.coe_range, Set.encard_coe_eq_coe_finsetCard,
    Finset.card_range, ENat.natCast_le_natCast] at total
  exact absurd listed.bounded (Nat.not_lt.mpr (many.trans total))

/-- After `2 ^ 32` additions the counter is short of the number of attesters. -/
theorem attesters_miscounted : (run (step okCrypto) deployed (listedAttesters (2 ^ 32))).schemas okSchemaUid ≠ none ∧
      (run (step okCrypto) deployed (listedAttesters (2 ^ 32))).deprecated okSchemaUid = false ∧
      {attester | lastAttesterChange okCrypto (listedAttesters (2 ^ 32)) okSchemaUid attester = some true}.encard ≠
        getAuthorizedAttesterCount (run (step okCrypto) deployed (listedAttesters (2 ^ 32))) okSchemaUid :=
  ⟨(attestersListed _).registered, (attestersListed _).live, listedAttesters_miscounted le_rfl (by decide)⟩

end SorobanSas.Registry
