import SorobanSas.Registry.Ownership

namespace SorobanSas.Registry

open Library

/-!
# The two-step transfer and its proposer

`propose_schema_owner` stores only the proposed address.  `claim_schema_ownership` then
trusts that entry, whoever the creator is by that time.  The four other ways to move a
creator leave the entry alone, so a proposal can outlive the ownership it was made under.

As long as no other path moves the creator away under a pending proposal, the entry is
bound to its proposer: the creator at the claim is the one who authorised the proposal,
and no cancellation came in between.
-/

variable {crypto : Crypto} {uid : UID} {env : Env} {before after : State} {call : Call} {ownership : Ownership}

/-- A committed proposal of `proposed`, authorised by the creator at that time. -/
def Proposes (crypto : Crypto) (uid : UID) (owner proposed : Address) (state : State) (input : Env × Call) : Prop :=
  (∃ next, step crypto state input = .ok next) ∧ input.2 = .proposeSchemaOwner uid proposed ∧
    state.creator uid = some owner ∧ input.1.authorized owner = true

/-- A committed cancellation. -/
def Cancels (crypto : Crypto) (uid : UID) (state : State) (input : Env × Call) : Prop :=
  (∃ next, step crypto state input = .ok next) ∧ input.2 = .cancelSchemaOwnershipTransfer uid

/-- Handing the schema to `newOwner` takes it from nobody while a proposal is pending. -/
def SparesProposal (state : State) (uid : UID) (newOwner : Address) : Prop :=
  state.pendingSchemaOwner uid = none ∨ state.creator uid = some newOwner

/-- If the call commits, it does not move the creator past a pending two-step proposal. -/
def KeepsProposer (crypto : Crypto) (state : State) (input : Env × Call) : Prop :=
  (∃ next, step crypto state input = .ok next) -> match input.2 with
    | .transferSchemaOwnership uid newOwner => SparesProposal state uid newOwner
    | .transferOwnership _ uid newOwner => SparesProposal state uid newOwner
    | .proposeOwnershipTransfer uid _ newOwner =>
      effectiveThreshold state uid <= 1 -> SparesProposal state uid newOwner
    | .approveOwnershipTransfer uid _ =>
      ∀ pending, state.pendingOwnership uid = some pending ->
        effectiveThreshold state uid <= pending.approvals.length + 1 -> SparesProposal state uid pending.newOwner
    | _ => True

/-- The origin of a proposal that is pending after a call. -/
inductive ProposalOrigin (env : Env) (before : State) (uid : UID) (proposed : Address) (call : Call) : Prop where
  | kept (stored : before.pendingSchemaOwner uid = some proposed)
      (standing : call ≠ .cancelSchemaOwnershipTransfer uid)
  | made (owner : Address) (isCall : call = .proposeSchemaOwner uid proposed)
      (present : before.schemas uid ≠ none) (owned : before.creator uid = some owner)
      (signed : env.authorized owner = true)

theorem OwnershipChange.proposalOrigin (change : OwnershipChange env before call ownership)
    {proposed : Address} (stored : ownership.pendingSchemaOwner uid = some proposed) :
    ProposalOrigin env before uid proposed call := by
  cases change with
  | proposeSchemaOwner changed current newOwner present owned signed =>
    rcases update_eq.mp stored with ⟨rfl, ⟨⟩⟩ | ⟨-, stored⟩
    · exact .made current rfl present owned signed
    · exact .kept stored nofun
  | claimSchemaOwnership changed =>
    rcases update_eq.mp stored with ⟨-, ⟨⟩⟩ | ⟨-, stored⟩
    exact .kept stored nofun
  | cancelSchemaOwnershipTransfer changed =>
    rcases update_eq.mp stored with ⟨-, ⟨⟩⟩ | ⟨other, stored⟩
    refine .kept stored ?_
    rintro ⟨⟩
    exact other rfl
  | _ => exact .kept stored nofun

theorem OwnershipChange.creator_kept (change : OwnershipChange env before call ownership)
    (success : ∃ next, step crypto before (env, call) = .ok next)
    (spared : KeepsProposer crypto before (env, call)) (stored : ownership.pendingSchemaOwner uid ≠ none)
    (pending : before.pendingSchemaOwner uid ≠ none) : ownership.creator uid = before.creator uid := by
  have unmoved {changed : UID} {newOwner : Address} (spares : SparesProposal before changed newOwner) :
      update before.creator changed (some newOwner) uid = before.creator uid := by
    by_cases same : uid = changed
    · subst same
      rw [update_self, spares.resolve_left pending]
    · exact update_of_ne same _ _
  cases change with
  | transferSchemaOwnership | transferOwnership => exact unmoved (spared success)
  | proposeSingle changed proposer newOwner single => exact unmoved (spared success single)
  | approveLast changed approver transfer fresh found signed reached =>
    exact unmoved (spared success transfer found reached)
  | claimSchemaOwnership changed =>
    by_cases same : uid = changed
    · simp [same] at stored
    · exact update_of_ne same _ _
  | _ => rfl

/-- A proposal moves no creator. -/
theorem OwnershipChange.creator_of_propose {proposed : Address}
    (change : OwnershipChange env before (.proposeSchemaOwner uid proposed) ownership) :
    ownership.creator = before.creator := by
  cases change
  rfl

theorem OwnershipChange.creator_of_claim (change : OwnershipChange env before (.claimSchemaOwnership uid) ownership) :
    ∃ proposed, before.pendingSchemaOwner uid = some proposed ∧ ownership.creator uid = some proposed := by
  cases change with
  | claimSchemaOwnership uid current proposed pending =>
    exact ⟨proposed, pending, update_self _ _ _⟩

/-! ## Pending proposals and their proposer -/

/-- In the run so far `owner` made the proposal and has not cancelled it since. -/
def Standing (crypto : Crypto) (uid : UID) (owner proposed : Address) (calls : List (Env × Call)) : Prop :=
  OccursSince (step crypto) deployed (Proposes crypto uid owner proposed)
    (Cancels crypto uid) calls

/-- A pending proposal belongs to an existing schema and to its present creator. -/
structure BoundToProposer (crypto : Crypto) (uid : UID) (calls : List (Env × Call)) (state : State) : Prop where
  present : state.pendingSchemaOwner uid ≠ none -> state.schemas uid ≠ none
  standing : ∀ proposed, state.pendingSchemaOwner uid = some proposed ->
    ∃ owner, state.creator uid = some owner ∧ Standing crypto uid owner proposed calls

namespace BoundToProposer

variable {calls : List (Env × Call)}

theorem initial : BoundToProposer crypto uid [] deployed where
  present := fun pending => absurd rfl pending
  standing := nofun

theorem kept (bound : BoundToProposer crypto uid calls before) {input : Env × Call}
    (keeps : KeepsOwnership before after) (quiet : ¬ Cancels crypto uid before input)
    (reached : before = run (step crypto) deployed calls) : BoundToProposer crypto uid (calls ++ [input]) after where
  present := fun pending => keeps.present uid (bound.present (keeps.pendingSchemaOwner ▸ pending))
  standing := by
    intro proposed stored
    rw [keeps.pendingSchemaOwner] at stored
    rcases bound.standing proposed stored with ⟨owner, owned, standing⟩
    refine ⟨owner, ?_, standing.extend (reached ▸ quiet)⟩
    rw [keeps.creator uid (bound.present (by simp [stored])), owned]

theorem changed (bound : BoundToProposer crypto uid calls (run (step crypto) deployed calls))
    (success : step crypto (run (step crypto) deployed calls) (env, call) = .ok after)
    (spared : KeepsProposer crypto (run (step crypto) deployed calls) (env, call))
    (concerns : call.concernsOwnership = true) : BoundToProposer crypto uid (calls ++ [(env, call)]) after := by
  rcases step_changes concerns after success with ⟨change, quiet⟩
  constructor
  · intro pending
    rw [quiet.schemas]
    rcases Option.ne_none_iff_exists'.mp pending with ⟨proposed, stored⟩
    cases change.proposalOrigin stored with
    | kept found => exact bound.present (by simp [found])
    | made owner isCall present => exact present
  · intro proposed stored
    cases change.proposalOrigin stored with
    | kept found uncancelled =>
      rcases bound.standing proposed found with ⟨owner, owned, standing⟩
      have creator : after.creator uid = _ := change.creator_kept ⟨after, success⟩ spared
        (Option.ne_none_iff_exists'.mpr ⟨proposed, stored⟩)
        (Option.ne_none_iff_exists'.mpr ⟨proposed, found⟩)
      exact ⟨owner, creator.trans owned, standing.extend fun cancels => uncancelled cancels.2⟩
    | made owner isCall present owned signed =>
      subst isCall
      refine ⟨owner, ?_, occursSince_last ⟨⟨after, success⟩, rfl, owned, signed⟩⟩
      exact (congrFun change.creator_of_propose uid).trans owned

theorem after_run (admissible : Admissible (step crypto) (KeepsProposer crypto) deployed calls) :
    BoundToProposer crypto uid calls (run (step crypto) deployed calls) := by
  refine trail_invariant initial ?_ ?_ admissible
  · rintro inputs ⟨env, call⟩ next bound spared success
    cases concerns : call.concernsOwnership with
    | true => exact bound.changed success spared concerns
    | false =>
      refine bound.kept (step_keeps concerns next success) ?_ rfl
      rintro ⟨-, rfl⟩
      cases concerns
  · intro inputs input failure bound aborted
    refine bound.kept (.refl _) ?_ rfl
    rintro ⟨⟨next, success⟩, -⟩
    rw [aborted] at success
    cases success

end BoundToProposer

/-- In every run in which no other path moves a creator past a pending proposal, a claim
hands the schema to the pending address, and the creator at that moment is the one who
authorised this proposal and has not cancelled it since. -/
theorem two_step_claim_bound (crypto : Crypto) (calls : List (Env × Call))
    (admissible : Admissible (step crypto) (KeepsProposer crypto) deployed calls)
    (env : Env) (uid : UID) (next : State) (success : step crypto (run (step crypto) deployed calls)
      (env, .claimSchemaOwnership uid) = .ok next) :
    ∃ owner proposed, (run (step crypto) deployed calls).creator uid = some owner ∧
      (run (step crypto) deployed calls).pendingSchemaOwner uid = some proposed ∧
      next.creator uid = some proposed ∧ Standing crypto uid owner proposed calls := by
  have bound : BoundToProposer crypto uid calls _ := .after_run admissible
  rcases (step_changes rfl next success).1.creator_of_claim with ⟨proposed, pending, claimed⟩
  rcases bound.standing proposed pending with ⟨owner, owned, standing⟩
  exact ⟨owner, proposed, owned, pending, claimed, standing⟩

open Address (accountOfNat)

def proposedRun : List (Env × Call) := okRegistered ++ [calledBy 2 (.proposeSchemaOwner okSchemaUid (accountOfNat 5))]

theorem two_step_claim_bound_proposed : Admissible (step okCrypto) (KeepsProposer okCrypto) deployed proposedRun ∧
      ∃ (next : State) (owner proposed : Address), step okCrypto (run (step okCrypto) deployed proposedRun)
          (signer 5, .claimSchemaOwnership okSchemaUid) = .ok next ∧ next.creator okSchemaUid = some proposed ∧
        Standing okCrypto okSchemaUid owner proposed proposedRun := by
  have admissible : Admissible (step okCrypto) (KeepsProposer okCrypto) deployed
      proposedRun := ⟨fun _ => trivial, fun _ => trivial, fun _ => trivial, trivial⟩
  obtain ⟨owner, proposed, -, -, claimed, standing⟩ :=
    two_step_claim_bound okCrypto proposedRun admissible (signer 5) okSchemaUid _
      (commit_ok rfl)
  exact ⟨admissible, _, owner, proposed, commit_ok rfl, claimed, standing⟩

/-- The schema is sold to account 6 under the pending proposal, and account 5 claims it. -/
def staleClaim : List (Env × Call) :=
  [calledBy 2 (.transferSchemaOwnership okSchemaUid (accountOfNat 6)), calledBy 5 (.claimSchemaOwnership okSchemaUid)]

/-- Account 6 is the creator when account 5 claims, has authorised no call of the run, and
loses the schema. -/
theorem two_step_claim_stale :
    let sold := run (step okCrypto) deployed (proposedRun ++ staleClaim.take 1)
    let claimed := run (step okCrypto) deployed (proposedRun ++ staleClaim)
    sold.creator okSchemaUid = some (accountOfNat 6) ∧ claimed.creator okSchemaUid = some (accountOfNat 5) ∧
      forall input, input ∈ proposedRun ++ staleClaim -> input.1.authorized (accountOfNat 6) = false := by
  decide

end SorobanSas.Registry
