import SorobanSas.Registry.Ownership

namespace SorobanSas.Registry

open Library

/-!
# Multi-signature ownership

An owner set with a threshold above one is meant to be the only authority that can
move the creator of its schema.  Two paths escape it.  `claim_schema_ownership` never
looks at the owner set, and `record_approval` counts the creator and the administrator
next to the members.

The pending transfer of a schema carries its own justification: every recorded approval
goes back to an authorised call that named the same new owner under the owner set still
in force.  This holds in every run.  A transfer that is finalised by members only is
therefore endorsed by as many of them as the threshold asks for.
-/

variable {crypto : Crypto} {uid : UID} {env : Env} {before after : State} {call : Call}
  {pending : PendingOwnershipTransfer} {approver : Address} {ownership : Ownership}

/-- A committed call by which `approver` authorised the transfer of the schema to
`newOwner`, made while `set` was its owner set. -/
def Endorses (crypto : Crypto) (uid : UID) (set : OwnerSet) (newOwner approver : Address)
    (state : State) (input : Env × Call) : Prop :=
  (∃ next, step crypto state input = .ok next) ∧ input.1.authorized approver = true ∧ state.owners uid = some set ∧
    (input.2 = .proposeOwnershipTransfer uid approver newOwner ∨ input.2 = .approveOwnershipTransfer uid approver ∧
        ∃ pending, state.pendingOwnership uid = some pending ∧ pending.newOwner = newOwner)

/-- A committed call that installs a new version of the owner set. -/
def Reconfigures (crypto : Crypto) (uid : UID) (state : State) (input : Env × Call) : Prop :=
  (∃ next, step crypto state input = .ok next) ∧
    ∃ authorizer owners threshold, input.2 = .configureOwnerSet uid authorizer owners threshold

/-- In the run so far `approver` endorsed the transfer, and the owner set in force then
has not been replaced since. -/
def Endorsed (crypto : Crypto) (uid : UID) (set : OwnerSet) (newOwner approver : Address)
    (calls : List (Env × Call)) : Prop :=
  OccursSince (step crypto) deployed (Endorses crypto uid set newOwner approver)
    (Reconfigures crypto uid) calls

/-! ## How the pending transfer of a schema evolves -/

/-- The origin of a pending transfer that is stored after a call. -/
inductive PendingOrigin (env : Env) (before : State) (uid : UID) (call : Call) :
    PendingOwnershipTransfer -> Prop where
  | kept {pending : PendingOwnershipTransfer} (stored : before.pendingOwnership uid = some pending)
      (same : ∀ authorizer owners threshold, call ≠ .configureOwnerSet uid authorizer owners threshold) :
      PendingOrigin env before uid call pending
  | proposed {pending : PendingOwnershipTransfer} proposer
      (isCall : call = .proposeOwnershipTransfer uid proposer pending.newOwner)
      (several : 1 < effectiveThreshold before uid) (signed : env.authorized proposer = true)
      (first : pending.approvals = [proposer]) : PendingOrigin env before uid call pending
  | approved (stored : PendingOwnershipTransfer) approver (fresh : approver ∉ stored.approvals)
      (isCall : call = .approveOwnershipTransfer uid approver) (found : before.pendingOwnership uid = some stored)
      (signed : env.authorized approver = true) : PendingOrigin env before uid call (stored.approve approver fresh)

theorem OwnershipChange.pendingOrigin (change : OwnershipChange env before call ownership)
    (stored : ownership.pendingOwnership uid = some pending) :
    PendingOrigin env before uid call pending ∧ ownership.owners uid = before.owners uid := by
  cases change with
  | transferSchemaOwnership | transferOwnership | proposeSchemaOwner | claimSchemaOwnership
  | cancelSchemaOwnershipTransfer => exact ⟨.kept stored nofun, rfl⟩
  | configureOwnerSet changed =>
    rcases update_eq.mp stored with ⟨-, ⟨⟩⟩ | ⟨other, stored⟩
    refine ⟨.kept stored ?_, update_of_ne other _ _⟩
    rintro _ _ _ ⟨⟩
    exact other rfl
  | proposeSingle changed | approveLast changed | cancelOwnershipTransfer changed =>
    rcases update_eq.mp stored with ⟨-, ⟨⟩⟩ | ⟨-, stored⟩
    exact ⟨.kept stored nofun, rfl⟩
  | propose changed proposer newOwner proposal several signed target first =>
    rcases update_eq.mp stored with ⟨rfl, ⟨⟩⟩ | ⟨-, stored⟩
    · subst target
      exact ⟨.proposed proposer rfl several signed first, rfl⟩
    · exact ⟨.kept stored nofun, rfl⟩
  | approve changed approver earlier fresh found signed =>
    rcases update_eq.mp stored with ⟨rfl, ⟨⟩⟩ | ⟨-, stored⟩
    · exact ⟨.approved earlier approver fresh rfl found signed, rfl⟩
    · exact ⟨.kept stored nofun, rfl⟩

theorem step_pendingOrigin (success : step crypto before (env, call) = .ok after)
    (stored : after.pendingOwnership uid = some pending) :
    PendingOrigin env before uid call pending ∧ after.owners uid = before.owners uid := by
  cases concerns : call.concernsOwnership with
  | true => exact (step_changes concerns after success).1.pendingOrigin stored
  | false =>
    have keeps := step_keeps concerns after success
    rw [keeps.pendingOwnership] at stored
    rw [keeps.owners]
    refine ⟨.kept stored ?_, rfl⟩
    rintro authorizer owners threshold rfl
    cases concerns

theorem OwnershipChange.owners_cases (change : OwnershipChange env before call ownership)
    (configured : ownership.owners uid ≠ none) : before.owners uid ≠ none ∨ before.schemas uid ≠ none := by
  cases change with
  | configureOwnerSet changed authorizer set present =>
    by_cases same : uid = changed
    · exact .inr (same ▸ present)
    · simp only [update_of_ne same] at configured
      exact .inl configured
  | _ => exact .inl configured

theorem step_owners_present (success : step crypto before (env, call) = .ok after)
    (present : before.owners uid ≠ none -> before.schemas uid ≠ none)
    (configured : after.owners uid ≠ none) : after.schemas uid ≠ none := by
  cases concerns : call.concernsOwnership with
  | true =>
    rcases step_changes concerns after success with ⟨change, quiet⟩
    rw [quiet.schemas]
    rcases change.owners_cases configured with earlier | now
    · exact present earlier
    · exact now
  | false =>
    have keeps := step_keeps concerns after success
    rw [keeps.owners] at configured
    exact keeps.present uid (present configured)

/-! ## Every recorded approval is justified -/

/-- The pending transfer of the schema and the run that led to it. -/
structure Justified (crypto : Crypto) (uid : UID) (calls : List (Env × Call)) (state : State) :
    Prop where
  present : state.owners uid ≠ none -> state.schemas uid ≠ none
  endorsed : ∀ pending, state.pendingOwnership uid = some pending ->
    ∃ set, state.owners uid = some set ∧ ∀ approver, approver ∈ pending.approvals ->
      Endorsed crypto uid set pending.newOwner approver calls

theorem owners_of_several (several : 1 < effectiveThreshold before uid) : ∃ set, before.owners uid = some set := by
  unfold effectiveThreshold at several
  split at several
  · exact ⟨_, by assumption⟩
  · exact absurd several (Nat.lt_irrefl 1)

namespace Justified

variable {calls : List (Env × Call)}

theorem initial : Justified crypto uid [] deployed where
  present := fun configured => absurd rfl configured
  endorsed := nofun

/-- The approvals already recorded stay justified when a call that does not replace the
owner set is added to the run. -/
theorem extend {set : OwnerSet} {newOwner : Address} {input : Env × Call}
    (earlier : Endorsed crypto uid set newOwner approver calls) (same : ∀ authorizer owners threshold,
      input.2 ≠ .configureOwnerSet uid authorizer owners threshold) :
    Endorsed crypto uid set newOwner approver (calls ++ [input]) := by
  apply OccursSince.extend earlier
  rintro ⟨-, authorizer, owners, threshold, isCall⟩
  exact same authorizer owners threshold isCall

/-- An approval that commits justifies itself, next to those recorded before. -/
theorem approve (justified : Justified crypto uid calls (run (step crypto) deployed calls))
    (success : step crypto (run (step crypto) deployed calls) (env, .approveOwnershipTransfer uid approver) = .ok after)
    (found : (run (step crypto) deployed calls).pendingOwnership uid = some pending)
    (signed : env.authorized approver = true) : ∃ set, (run (step crypto) deployed calls).owners uid = some set ∧
      ∀ other, other ∈ pending.approvals ++ [approver] -> Endorsed crypto uid set pending.newOwner other
          (calls ++ [(env, .approveOwnershipTransfer uid approver)]) := by
  rcases justified.endorsed pending found with ⟨set, inForce, endorsed⟩
  refine ⟨set, inForce, fun other member => ?_⟩
  rcases List.mem_append.mp member with recorded | last
  · exact extend (endorsed other recorded) nofun
  · rw [List.mem_singleton] at last
    subst last
    exact occursSince_last ⟨⟨after, success⟩, signed, inForce, .inr ⟨rfl, pending, found, rfl⟩⟩

theorem extended (justified : Justified crypto uid calls (run (step crypto) deployed calls))
    (success : step crypto (run (step crypto) deployed calls) (env, call) = .ok after) :
    Justified crypto uid (calls ++ [(env, call)]) after where
  present := step_owners_present success justified.present
  endorsed := by
    intro pending stored
    rcases step_pendingOrigin success stored with ⟨origin, owners⟩
    rw [owners]
    cases origin with
    | kept found same =>
      rcases justified.endorsed pending found with ⟨set, inForce, endorsed⟩
      exact ⟨set, inForce, fun approver member => extend (endorsed approver member) same⟩
    | proposed proposer isCall several signed first =>
      rcases owners_of_several several with ⟨set, inForce⟩
      refine ⟨set, inForce, fun approver member => occursSince_last ?_⟩
      rw [first, List.mem_singleton] at member
      subst member
      exact ⟨⟨after, success⟩, signed, inForce, .inl isCall⟩
    | approved earlier approver fresh isCall found signed =>
      subst isCall
      exact justified.approve success found signed

theorem after_run (calls : List (Env × Call)) : Justified crypto uid calls (run (step crypto) deployed calls) := by
  refine trail_invariant initial ?_ ?_ (admissible_true _ _)
  · rintro inputs ⟨env, call⟩ next justified - success
    exact justified.extended success
  · intro inputs input failure justified aborted
    refine ⟨justified.present, fun pending stored => ?_⟩
    rcases justified.endorsed pending stored with ⟨set, inForce, endorsed⟩
    refine ⟨set, inForce, fun approver member => OccursSince.extend (endorsed approver member) ?_⟩
    rintro ⟨⟨next, success⟩, -⟩
    rw [aborted] at success
    cases success

end Justified

/-! ## Transfers under an owner set -/

/-- The call is not a two-step claim on a schema that asks for several approvals, and an
approval completes a pending transfer that only members have approved. -/
def SignedByMembers (state : State) (input : Env × Call) : Prop :=
  match input.2 with
  | .claimSchemaOwnership uid => effectiveThreshold state uid <= 1
  | .approveOwnershipTransfer uid approver =>
    ∀ pending set, state.pendingOwnership uid = some pending -> state.owners uid = some set ->
      ∀ other ∈ pending.approvals ++ [approver], other ∈ set.owners
  | _ => True

/-- How the creator can move while several approvals are asked for. -/
inductive MovesCreator (env : Env) (before : State) (uid : UID) (newOwner : Address) : Call -> Prop where
  | claimed : MovesCreator env before uid newOwner (.claimSchemaOwnership uid)
  | approved approver (pending : PendingOwnershipTransfer) (fresh : approver ∉ pending.approvals)
      (stored : before.pendingOwnership uid = some pending) (signed : env.authorized approver = true)
      (reached : effectiveThreshold before uid <= pending.approvals.length + 1)
      (target : pending.newOwner = newOwner) :
      MovesCreator env before uid newOwner (.approveOwnershipTransfer uid approver)

theorem OwnershipChange.movesCreator (change : OwnershipChange env before call ownership)
    (several : 1 < effectiveThreshold before uid) (moved : ownership.creator uid ≠ before.creator uid) :
    ∃ newOwner, ownership.creator uid = some newOwner ∧ MovesCreator env before uid newOwner call := by
  have touched {changed : UID} {owner : Option Address}
      (moved : update before.creator changed owner uid ≠ before.creator uid) :
      changed = uid := by
    by_contra different
    exact moved (update_of_ne (Ne.symm different) _ _)
  cases change with
  | transferSchemaOwnership changed newOwner single | transferOwnership _ changed newOwner single
  | proposeSingle changed proposer newOwner single =>
    rcases touched moved with rfl
    exact absurd several (Nat.not_lt_of_le single)
  | claimSchemaOwnership changed current proposed =>
    rcases touched moved with rfl
    exact ⟨proposed, update_self _ _ _, .claimed⟩
  | approveLast changed approver pending fresh stored signed reached =>
    rcases touched moved with rfl
    exact ⟨pending.newOwner, update_self _ _ _, .approved approver pending fresh stored signed reached rfl⟩
  | _ => exact absurd rfl moved

/-- In every run, a call that moves the creator of a schema with a threshold above one and
that is signed by members completes a transfer to the new creator which at least
`threshold` distinct members have endorsed under the owner set in force. -/
theorem multisig_transfer_endorsed (crypto : Crypto) (calls : List (Env × Call))
    (input : Env × Call) (uid : UID) (set : OwnerSet) (next : State)
    (configured : (run (step crypto) deployed calls).owners uid = some set) (several : 1 < set.threshold)
    (success : step crypto (run (step crypto) deployed calls) input = .ok next)
    (moved : next.creator uid ≠ (run (step crypto) deployed calls).creator uid)
    (signed : SignedByMembers (run (step crypto) deployed calls) input) :
    ∃ (newOwner : Address) (approvers : List Address), next.creator uid = some newOwner ∧
      approvers.Nodup ∧ set.threshold ≤ approvers.length ∧ forall approver, approver ∈ approvers ->
        approver ∈ set.owners ∧ Endorsed crypto uid set newOwner approver (calls ++ [input]) := by
  rcases input with ⟨env, call⟩
  have justified : Justified crypto uid calls _ := Justified.after_run calls
  have threshold : effectiveThreshold (run (step crypto) deployed calls) uid =
      set.threshold := by simp only [effectiveThreshold, configured]
  have present : (run (step crypto) deployed calls).schemas uid ≠ none := justified.present (by simp [configured])
  cases concerns : call.concernsOwnership with
  | false => exact absurd ((step_keeps concerns next success).creator uid present) moved
  | true =>
    rcases (step_changes concerns next success).1.movesCreator (threshold ▸ several) moved
      with ⟨newOwner, owned, moves⟩
    cases moves with
    | claimed => exact absurd several (Nat.not_lt_of_le (threshold ▸ signed))
    | approved approver pending fresh stored authorized reached target =>
      rcases justified.approve success stored authorized with ⟨inForce, found, endorsed⟩
      obtain rfl : inForce = set := Option.some.inj (found.symm.trans configured)
      subst target
      refine ⟨pending.newOwner, pending.approvals ++ [approver], owned,
        (pending.approve approver fresh).distinct, ?_, fun other member =>
          ⟨signed pending _ stored configured other member, endorsed other member⟩⟩
      simpa [threshold] using reached

open Address (accountOfNat)

/-- Two of the accounts 3 and 4 own the schema. -/
def twoOfTwo : OwnerSet where
  owners := [accountOfNat 3, accountOfNat 4]
  threshold := 2
  version := 1
  valid := ⟨by decide, by decide, by decide, by decide, by decide⟩

def twoOfTwoConfigured : List (Env × Call) :=
  okRegistered ++ [calledBy 2 (.configureOwnerSet okSchemaUid (accountOfNat 2) [accountOfNat 3, accountOfNat 4] 2)]

/-- Member 3 proposes account 5, and member 4 is about to approve. -/
def memberProposal : List (Env × Call) :=
  twoOfTwoConfigured ++ [calledBy 3 (.proposeOwnershipTransfer okSchemaUid (accountOfNat 3) (accountOfNat 5))]

def memberApproval : Env × Call := calledBy 4 (.approveOwnershipTransfer okSchemaUid (accountOfNat 4))

theorem memberProposal_owners : (run (step okCrypto) deployed memberProposal).owners okSchemaUid = some twoOfTwo := by
  decide

theorem memberApproval_signed : SignedByMembers (run (step okCrypto) deployed memberProposal) memberApproval := by
  have approvals : ((run (step okCrypto) deployed memberProposal).pendingOwnership
      okSchemaUid).map (·.approvals) = some [accountOfNat 3] := rfl
  intro pending set stored inForce other member
  rw [stored, Option.map_some, Option.some.injEq] at approvals
  rw [memberProposal_owners, Option.some.injEq] at inForce
  rw [approvals] at member
  exact inForce ▸ member

theorem multisig_transfer_endorsed_twoOfTwo :
    ∃ next, step okCrypto (run (step okCrypto) deployed memberProposal) memberApproval = .ok next ∧
      ∃ (newOwner : Address) (approvers : List Address), next.creator okSchemaUid = some newOwner ∧ approvers.Nodup ∧
        twoOfTwo.threshold ≤ approvers.length ∧ forall approver, approver ∈ approvers ->
          approver ∈ twoOfTwo.owners ∧ Endorsed okCrypto okSchemaUid twoOfTwo newOwner approver
            (memberProposal ++ [memberApproval]) := ⟨_, commit_ok (by decide),
    multisig_transfer_endorsed okCrypto memberProposal memberApproval okSchemaUid twoOfTwo _
      memberProposal_owners (by decide) (commit_ok (by decide)) (by decide)
      memberApproval_signed⟩

/-- The creator, who is no member, proposes account 5 in two steps, and account 5 claims. -/
def claimedAround : List (Env × Call) :=
  [calledBy 2 (.proposeSchemaOwner okSchemaUid (accountOfNat 5)), calledBy 5 (.claimSchemaOwnership okSchemaUid)]

/-- The owner set asks for two approvals and is still in force, no call of the run is an
approval by a member, and the creator has moved to account 5. -/
theorem multisig_bypassed_by_claim :
    let before := run (step okCrypto) deployed twoOfTwoConfigured
    let state := run (step okCrypto) deployed (twoOfTwoConfigured ++ claimedAround)
    before.owners okSchemaUid = some twoOfTwo ∧ state.owners okSchemaUid = some twoOfTwo ∧
      before.creator okSchemaUid = some (accountOfNat 2) ∧ state.creator okSchemaUid = some (accountOfNat 5) ∧
      forall input, input ∈ twoOfTwoConfigured ++ claimedAround ->
        forall member, member ∈ twoOfTwo.owners -> input.1.authorized member = false := by
  decide

end SorobanSas.Registry
