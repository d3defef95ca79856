import SorobanSas.Registry.Registration

namespace SorobanSas.Registry

open Library

/-!
# What a call does to the ownership of schemas

Nine entry points read or write the creator of a schema, its owner set and the two
kinds of pending transfer.  `OwnershipChange` lists what each of them does when it
succeeds, together with the guards that were passed.  Every other entry point keeps
all of it for schemas that exist; registration only adds a schema.

The two theorems about transfers are proved from this list alone.
-/

/-- Neither the records nor the authority change. -/
structure Quiet (before after : State) : Prop where
  records : after.records = before.records
  authority : after.authority = before.authority

variable {after : State} {crypto : Crypto} {before : State}

theorem Quiet.schemas (quiet : Quiet before after) : after.schemas = before.schemas :=
  congrArg (·.schemas) quiet.records

variable (env : Env) (before : State) in
/-- The effect of a successful ownership call. -/
inductive OwnershipChange : Call -> Ownership -> Prop where
  | transferSchemaOwnership uid newOwner (single : effectiveThreshold before uid <= 1) :
      OwnershipChange (.transferSchemaOwnership uid newOwner)
        { before.ownership with creator := update before.creator uid (some newOwner) }
  | transferOwnership sender uid newOwner (single : effectiveThreshold before uid <= 1) :
      OwnershipChange (.transferOwnership sender uid newOwner)
        { before.ownership with creator := update before.creator uid (some newOwner) }
  | proposeSchemaOwner uid current newOwner (present : before.schemas uid ≠ none)
      (owned : before.creator uid = some current) (signed : env.authorized current = true) :
      OwnershipChange (.proposeSchemaOwner uid newOwner) { before.ownership with
          pendingSchemaOwner := update before.pendingSchemaOwner uid (some newOwner) }
  | claimSchemaOwnership uid current proposed (pending : before.pendingSchemaOwner uid = some proposed)
      (owned : before.creator uid = some current) :
      OwnershipChange (.claimSchemaOwnership uid) { before.ownership with
          creator := update before.creator uid (some proposed)
          pendingSchemaOwner := update before.pendingSchemaOwner uid none }
  | cancelSchemaOwnershipTransfer uid :
      OwnershipChange (.cancelSchemaOwnershipTransfer uid) { before.ownership with
          pendingSchemaOwner := update before.pendingSchemaOwner uid none }
  | configureOwnerSet uid authorizer (set : OwnerSet) (present : before.schemas uid ≠ none) :
      OwnershipChange (.configureOwnerSet uid authorizer set.owners set.threshold) { before.ownership with
          owners := update before.owners uid (some set)
          pendingOwnership := update before.pendingOwnership uid none }
  | proposeSingle uid proposer newOwner (single : effectiveThreshold before uid <= 1) :
      OwnershipChange (.proposeOwnershipTransfer uid proposer newOwner) { before.ownership with
          creator := update before.creator uid (some newOwner)
          pendingOwnership := update before.pendingOwnership uid none }
  | propose uid proposer newOwner (pending : PendingOwnershipTransfer) (several : 1 < effectiveThreshold before uid)
      (signed : env.authorized proposer = true) (target : pending.newOwner = newOwner)
      (first : pending.approvals = [proposer]) :
      OwnershipChange (.proposeOwnershipTransfer uid proposer newOwner) { before.ownership with
          pendingOwnership := update before.pendingOwnership uid (some pending) }
  | approve uid approver (pending : PendingOwnershipTransfer) (fresh : approver ∉ pending.approvals)
      (stored : before.pendingOwnership uid = some pending) (signed : env.authorized approver = true)
      (short : pending.approvals.length + 1 < effectiveThreshold before uid) :
      OwnershipChange (.approveOwnershipTransfer uid approver) { before.ownership with
          pendingOwnership := update before.pendingOwnership uid (some (pending.approve approver fresh)) }
  | approveLast uid approver (pending : PendingOwnershipTransfer) (fresh : approver ∉ pending.approvals)
      (stored : before.pendingOwnership uid = some pending) (signed : env.authorized approver = true)
      (reached : effectiveThreshold before uid <= pending.approvals.length + 1) :
      OwnershipChange (.approveOwnershipTransfer uid approver) { before.ownership with
          creator := update before.creator uid (some pending.newOwner)
          pendingOwnership := update before.pendingOwnership uid none }
  | cancelOwnershipTransfer uid canceller :
      OwnershipChange (.cancelOwnershipTransfer uid canceller) { before.ownership with
          pendingOwnership := update before.pendingOwnership uid none }

/-- The ownership of every existing schema is kept. -/
structure KeepsOwnership (before after : State) : Prop where
  owners : after.owners = before.owners
  pendingSchemaOwner : after.pendingSchemaOwner = before.pendingSchemaOwner
  pendingOwnership : after.pendingOwnership = before.pendingOwnership
  creator : ∀ uid, before.schemas uid ≠ none -> after.creator uid = before.creator uid
  present : ∀ uid, before.schemas uid ≠ none -> after.schemas uid ≠ none

namespace KeepsOwnership

theorem refl (state : State) : KeepsOwnership state state := ⟨rfl, rfl, rfl, fun _ _ => rfl, fun _ present => present⟩

theorem trans {first middle last : State} (one : KeepsOwnership first middle)
    (two : KeepsOwnership middle last) : KeepsOwnership first last :=
  ⟨two.owners.trans one.owners, two.pendingSchemaOwner.trans one.pendingSchemaOwner,
    two.pendingOwnership.trans one.pendingOwnership,
    fun uid present => (two.creator uid (one.present uid present)).trans (one.creator uid present),
    fun uid present => two.present uid (one.present uid present)⟩

/-- A call that touches neither records nor ownership. -/
theorem of_eq (ownership : after.ownership = before.ownership)
    (schemas : after.schemas = before.schemas) : KeepsOwnership before after := by
  refine ⟨?_, ?_, ?_, fun uid _ => ?_, fun uid present => schemas ▸ present⟩
  all_goals rw [ownership]

/-- Registration adds a schema whose UID was free. -/
theorem registerInternal {owner resolver : Address} {schema : Bytes} {revocable : Bool}
    {maxTtl : UInt64} {parent : Option UID} {metadata : Option Bytes} {uid : UID}
    (success : Registry.registerInternal crypto before owner schema resolver revocable maxTtl parent
      metadata = .ok (uid, after)) : KeepsOwnership before after := by
  simp only [Registry.registerInternal, bind_eq_ok, pure_eq_ok, require_eq_ok, Prod.mk.injEq]
    at success
  rcases success with ⟨-, -, -, -, -, -, -, free, -, -, count, -, -, -, rfl, rfl⟩
  have different {uid : UID} (present : before.schemas uid ≠ none) :
      uid ≠ schemaUid crypto schema resolver revocable := by
    rintro rfl
    exact present free
  refine ⟨rfl, rfl, rfl, fun uid present => ?_, fun uid present => ?_⟩
  · simp only [State.publish, update_of_ne (different present)]
  · simp only [State.publish, update_of_ne (different present)]
    exact present

/-- A variant of registration writes nothing else that matters here. -/
theorem registered {owner resolver : Address} {schema : Bytes} {revocable : Bool}
    {maxTtl : UInt64} {parent : Option UID} {metadata : Option Bytes} :
    Yields (Registry.registerInternal crypto before owner schema resolver revocable maxTtl parent
      metadata) fun result => KeepsOwnership before result.2 := fun (_, _) success => registerInternal success

end KeepsOwnership

/-- The nine entry points that can change who owns an existing schema, or who may
become its owner. -/
def Call.concernsOwnership : Call -> Bool
  | .transferSchemaOwnership .. | .transferOwnership .. | .proposeSchemaOwner ..
  | .claimSchemaOwnership .. | .cancelSchemaOwnershipTransfer .. | .configureOwnerSet ..
  | .proposeOwnershipTransfer .. | .approveOwnershipTransfer .. | .cancelOwnershipTransfer .. =>
    true
  | _ => false

/-- The entry points that only write settings, of the registry or of one schema. -/
def Call.configures : Call -> Bool
  | .init .. | .upgrade .. | .setFee .. | .clearFee | .setTreasury .. | .withdrawFees ..
  | .setSchemaQuarantine .. | .setSchemaFrostGroup .. | .clearSchemaFrostGroup ..
  | .setSchemaMerkleRoot .. | .clearSchemaMerkleRoot .. | .updateSchemaMetadata ..
  | .setCreatorRoyalty .. => true
  | _ => false

/-- The six calls that change who may issue besides the creator. -/
def Call.concernsAuthority : Call -> Bool
  | .addDelegate .. | .addDelegateWithExpiry .. | .removeDelegate .. | .selfRevokeDelegate ..
  | .addAuthorizedAttester .. | .removeAuthorizedAttester .. => true
  | _ => false

section Steps

variable {env : Env} {before : State} {call : Call}

/-- Settings are no part of what is followed. -/
theorem step_configures (configures : call.configures = true) : Yields (step crypto before (env, call)) fun after =>
      Quiet before after ∧ after.ownership = before.ownership := by
  cases call with
  | clearSchemaFrostGroup | setSchemaMerkleRoot | clearSchemaMerkleRoot =>
    exact .skip <| .pure ⟨⟨rfl, rfl⟩, rfl⟩
  | init | clearFee | setTreasury | withdrawFees | setSchemaFrostGroup =>
    exact .skip2 <| .pure ⟨⟨rfl, rfl⟩, rfl⟩
  | setFee => exact .skip3 <| .pure ⟨⟨rfl, rfl⟩, rfl⟩
  | setSchemaQuarantine | updateSchemaMetadata => exact .skip4 <| .pure ⟨⟨rfl, rfl⟩, rfl⟩
  | upgrade | setCreatorRoyalty => exact .skip3 <| .skip2 <| .pure ⟨⟨rfl, rfl⟩, rfl⟩
  | _ => cases configures

theorem requireTransferableSchema_eq_ok {uid : UID} {done : Unit} : requireTransferableSchema before uid = .ok done ↔
      before.schemas uid ≠ none ∧ before.deprecated uid = false := by
  simp [requireTransferableSchema]

theorem recordApproval_ok {uid : UID} {approver : Address} {pending : PendingOwnershipTransfer}
    (success : recordApproval before uid approver = .ok (pending, after)) :
    ∃ (stored : PendingOwnershipTransfer) (fresh : approver ∉ stored.approvals),
      before.pendingOwnership uid = some stored ∧ pending = stored.approve approver fresh ∧ Quiet before after ∧
      after.ownership = { before.ownership with
        pendingOwnership := update before.pendingOwnership uid (some pending) } := by
  simp only [recordApproval, bind_eq_ok, expect_eq_ok] at success
  rcases success with ⟨stored, found, -, -, -, -, success⟩
  split at success
  · rename_i fresh
    simp only [pure_eq_ok, Prod.mk.injEq] at success
    rcases success with ⟨rfl, rfl⟩
    exact ⟨stored, fresh, found, rfl, ⟨rfl, rfl⟩, rfl⟩
  · simp at success

theorem approveOwnershipTransfer_changes (uid : UID) (approver : Address) :
    Yields (approveOwnershipTransfer env before uid approver) fun after =>
      OwnershipChange env before (.approveOwnershipTransfer uid approver) after.ownership ∧ Quiet before after := by
  intro after success
  simp only [approveOwnershipTransfer, bind_eq_ok, requireAuth_eq_ok] at success
  rcases success with ⟨-, -, -, signed, ⟨pending, recorded⟩, approved, success⟩
  rcases recordApproval_ok approved with ⟨stored, fresh, found, rfl, quiet, ownership⟩
  have owners : recorded.owners = before.owners := by rw [ownership]
  have creator : recorded.creator = before.creator := by rw [ownership]
  have threshold : effectiveThreshold recorded uid = effectiveThreshold before uid := by
    simp only [effectiveThreshold, owners]
  have length : (stored.approve approver fresh).approvals.length = stored.approvals.length + 1 := by
    simp [PendingOwnershipTransfer.approve]
  simp only [threshold, length] at success
  split at success
  · rename_i short
    simp only [pure_eq_ok] at success
    subst success
    rw [ownership]
    exact ⟨.approve uid approver stored fresh found signed short, quiet⟩
  · rename_i reached
    simp only [eq_ok] at success
    rcases success with ⟨oldOwner, -, rfl⟩
    have change : OwnershipChange env before (.approveOwnershipTransfer uid approver) _ :=
      .approveLast uid approver stored fresh found signed (by omega)
    refine ⟨?_, quiet.records, quiet.authority⟩
    simp only [finalizeOwnershipTransfer, setCreator, State.publish, ownership, update_idem]
    exact change

/-- An ownership call that succeeds has one of the listed effects, and no other. -/
theorem step_changes (concerns : call.concernsOwnership = true) : Yields (step crypto before (env, call)) fun after =>
      OwnershipChange env before call after.ownership ∧ Quiet before after := by
  intro after success
  cases call with
  | transferSchemaOwnership uid newOwner =>
    simp only [step, transferSchemaOwnership, rejectSingleSigTransferForMultisig, bind_eq_ok,
      require_eq_ok, pure_eq_ok] at success
    rcases success with ⟨-, -, -, single, _, -, -, -, rfl⟩
    exact ⟨.transferSchemaOwnership uid newOwner single, rfl, rfl⟩
  | transferOwnership sender uid newOwner =>
    simp only [step, transferOwnership, rejectSingleSigTransferForMultisig, bind_eq_ok,
      require_eq_ok, pure_eq_ok] at success
    rcases success with ⟨-, -, _, -, -, single, -, -, rfl⟩
    exact ⟨.transferOwnership sender uid newOwner single, rfl, rfl⟩
  | proposeSchemaOwner uid newOwner =>
    simp only [step, proposeSchemaOwner, requireTransferableSchema_eq_ok, requireCreator,
      bind_eq_ok, expect_eq_ok, requireAuth_eq_ok, pure_eq_ok] at success
    rcases success with ⟨-, ⟨present, -⟩, current, owned, -, signed, -, -, rfl⟩
    exact ⟨.proposeSchemaOwner uid current newOwner present owned signed, rfl, rfl⟩
  | claimSchemaOwnership uid =>
    simp only [step, claimSchemaOwnership, requireCreator, bind_eq_ok, expect_eq_ok, pure_eq_ok] at success
    rcases success with ⟨-, -, proposed, pending, -, -, current, owned, rfl⟩
    exact ⟨.claimSchemaOwnership uid current proposed pending owned, rfl, rfl⟩
  | cancelSchemaOwnershipTransfer uid =>
    simp only [step, cancelSchemaOwnershipTransfer, bind_eq_ok, pure_eq_ok] at success
    rcases success with ⟨-, -, _, -, -, -, -, -, rfl⟩
    exact ⟨.cancelSchemaOwnershipTransfer uid, rfl, rfl⟩
  | configureOwnerSet uid authorizer owners threshold =>
    simp only [step, configureOwnerSet, requireTransferableSchema_eq_ok, bind_eq_ok, pure_eq_ok] at success
    rcases success with ⟨-, ⟨present, -⟩, -, -, -, -, ⟨valid⟩, -, rfl⟩
    exact ⟨.configureOwnerSet uid authorizer ⟨owners, threshold, _, valid⟩ present, rfl, rfl⟩
  | proposeOwnershipTransfer uid proposer newOwner =>
    simp only [step, proposeOwnershipTransfer, bind_eq_ok, requireAuth_eq_ok] at success
    rcases success with ⟨-, -, -, signed, -, -, current, -, -, -, success⟩
    split at success
    · rename_i single
      simp only [pure_eq_ok] at success
      subst success
      exact ⟨.proposeSingle uid proposer newOwner single, rfl, rfl⟩
    · rename_i several
      simp only [pure_eq_ok] at success
      subst success
      exact ⟨.propose uid proposer newOwner _ (by omega) signed rfl rfl, rfl, rfl⟩
  | approveOwnershipTransfer uid approver =>
    exact approveOwnershipTransfer_changes uid approver after success
  | cancelOwnershipTransfer uid canceller =>
    simp only [step, cancelOwnershipTransfer, bind_eq_ok, pure_eq_ok] at success
    rcases success with ⟨-, -, -, -, -, -, -, -, rfl⟩
    exact ⟨.cancelOwnershipTransfer uid canceller, rfl, rfl⟩
  | _ => simp [Call.concernsOwnership] at concerns

theorem addToDelegateList_keeps (state : State) (uid : UID) (delegate : Address) :
    (addToDelegateList state uid delegate).records = state.records ∧
      (addToDelegateList state uid delegate).ownership = state.ownership := by
  simp only [addToDelegateList]
  split <;> exact ⟨rfl, rfl⟩

theorem removeFromDelegateList_keeps (state : State) (uid : UID) (delegate : Address) :
    (removeFromDelegateList state uid delegate).records = state.records ∧
      (removeFromDelegateList state uid delegate).ownership = state.ownership := by
  unfold removeFromDelegateList
  split <;> exact ⟨rfl, rfl⟩

/-- A change of authority keeps the rest. -/
theorem step_authority_records (concerns : call.concernsAuthority = true) :
    Yields (step crypto before (env, call)) fun after =>
      after.records = before.records ∧ after.ownership = before.ownership := by
  cases call with
  | addDelegate uid delegate | addDelegateWithExpiry uid delegate =>
    exact .skip <| .pure (addToDelegateList_keeps _ uid delegate)
  | removeDelegate uid delegate =>
    exact .skip <| .pure (removeFromDelegateList_keeps _ uid delegate)
  | selfRevokeDelegate uid delegate =>
    exact .skip2 <| .pure (removeFromDelegateList_keeps _ uid delegate)
  | addAuthorizedAttester | removeAuthorizedAttester =>
    exact .skip <| .ite (fun _ => .pure ⟨rfl, rfl⟩) fun _ => .pure ⟨rfl, rfl⟩
  | _ => cases concerns

theorem registerBatchItem_keeps (item : SchemaBatchItem) :
    Yields (registerBatchItem crypto env before item) (KeepsOwnership before) :=
  .skip <| .bind fun _ success => .pure (KeepsOwnership.registered _ success)

theorem registerWithCategory_keeps (owner : Address) (schema : Bytes) (resolver : Address)
    (revocable : Bool) (category : Option Bytes) :
    Yields (registerWithCategory crypto env before owner schema resolver revocable category)
      (KeepsOwnership before) := by
  refine .skip2 <| .bind fun (uid, registered) success => ?_
  have kept : KeepsOwnership before registered := KeepsOwnership.registered _ success
  cases category with
  | none => exact .pure kept
  | some name =>
    refine .ite (fun _ => .pure kept) fun _ => ?_
    exact .skip2 <| .pure (kept.trans (.of_eq rfl rfl))

theorem step_keeps (other : call.concernsOwnership = false) :
    Yields (step crypto before (env, call)) (KeepsOwnership before) := by
  have registered {result : Except Trap (UID × State)}
      (kept : Yields result (fun value => KeepsOwnership before value.2)) :
      Yields (stateOf result) (KeepsOwnership before) := .bind fun value success => .pure (kept value success)
  by_cases configures : call.configures = true
  · exact (step_configures configures).mono fun _ kept => .of_eq kept.2 kept.1.schemas
  by_cases concerns : call.concernsAuthority = true
  · exact (step_authority_records concerns).mono fun _ kept => .of_eq kept.2 (congrArg (·.schemas) kept.1)
  cases call with
  | deprecateKey =>
    exact .skip4 <| .ite (fun _ => .pure (.refl before)) fun _ => .pure (.of_eq rfl rfl)
  | deprecateSchema sender uid =>
    refine .skip <| .bind fun record found => .skip <| .pure ?_
    refine ⟨rfl, rfl, rfl, fun _ _ => rfl, fun other present => ?_⟩
    by_cases same : other = uid
    · simp [State.publish, same]
    · simpa [State.publish, update_of_ne same] using present
  | register | registerWithParent | registerWithTtl _ _ _ _ _
  | registerWithValueAndTtl | registerSchema _ _ _ _ _
  | registerSchemaWithValue => exact registered (.skip <| KeepsOwnership.registered)
  | registerWithPolicy =>
    exact registered (.skip <| .bind fun _ success =>
      .pure ((KeepsOwnership.registered _ success).trans (.of_eq rfl rfl)))
  | registerWithRoyalty owner schema resolver revocable =>
    refine registered (.skip <| .bind fun result success => .pure ?_)
    have kept : Yields (register crypto env before owner schema resolver revocable)
        fun value => KeepsOwnership before value.2 := .skip <| KeepsOwnership.registered
    exact (kept result success).trans (.of_eq rfl rfl)
  | registerSchemasBatch =>
    refine .skip2 ?_
    intro _ _ after success
    exact foldlM_related KeepsOwnership ⟨.refl, .trans⟩
      (fun item _ _ next taken => registerBatchItem_keeps item next taken) success
  | registerWithCategory owner schema resolver revocable category =>
    exact registerWithCategory_keeps owner schema resolver revocable category
  | registerWithPredecessor =>
    exact registered (.skip4 <| .skip3 <| .skip2 <| .bind fun _ success =>
        .pure ((KeepsOwnership.registered _ success).trans (.of_eq rfl rfl)))
  | _ => simp [Call.concernsOwnership, Call.configures, Call.concernsAuthority]
      at other configures concerns

end Steps

/-- The digest of the revocable schema `bool ok` with resolver contract 9. -/
def okSchemaUid : UID := ⟨0x99ca2ea869444b39123ec18757829b1c733ae04e91ff7020d049b132c601f19c#256⟩

def okCrypto : Crypto :=
  .ofTable [(Xdr.scString (ascii "bool ok") ++ Xdr.scAddress (.contract 9) ++ [1], okSchemaUid.hash)] []

/-- A call of the registry that the account with this number signs. -/
def signer (number : Nat) : Env :=
  .signedBy [.accountOfNat number] 100 1 (.contract 7) (by simp [Address.accountOfNat])

def calledBy (number : Nat) (call : Call) : Env × Call := (signer number, call)

/-- Account 1 initialises the registry and account 2 registers the schema. -/
def okRegistered : List (Env × Call) :=
  [calledBy 1 (.init (.accountOfNat 1)), calledBy 2 (.register (.accountOfNat 2) (ascii "bool ok") (.contract 9) true)]

end SorobanSas.Registry
