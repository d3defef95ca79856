import SorobanSas.Sas.Outcomes

namespace SorobanSas.Sas

open Library List

/-!
# What the entry points leave alone

Besides the records, the state has two parts that change rarely.  The settings are what the
administrator and the creators of schemas configure.  The credentials belong to single
parties: their delegation policies, keys and nonces, and the nullifiers of proofs.

An entry point that handles records keeps both.  One that acts on a party's authority, by a
signature or a proof, keeps the settings.  One that configures keeps the credentials.  And one
that issues nothing keeps the guard, the depth and the histories of issuance.
-/

variable {W : Type} {host : Host W} {crypto : Crypto} {env : Env} {first : State}
  {issued : List UID × Ledger W} {uid : UID}

variable {ι : Type} {call : Call} {issuing : Bool} {ledger start last : Ledger W} {attestation : Attestation}
  {attester token registry authorizer destination : Address} {nonce expirationTime : UInt64}
  {items : List ι} {value : Int} {middle before after : State} {attestations : List Attestation}
  {recipients : List Address} {data : Bytes} {body : Ledger W -> ι -> Except Trap (Ledger W)} {uids : List UID}
  {issue : Ledger W -> ι -> Except Trap (UID × Ledger W)}

structure Kept (before after : State) : Prop where
  settings : after.settings = before.settings
  credentials : after.credentials = before.credentials

theorem Kept.refl (state : State) : Kept state state := ⟨rfl, rfl⟩

theorem Kept.trans {last : State} (one : Kept first middle) (two : Kept middle last) : Kept first last :=
  ⟨two.settings.trans one.settings, two.credentials.trans one.credentials⟩

theorem Frame.kept (frame : Frame before after) : Kept before after := by
  rcases frame with ⟨_, _, _, rfl⟩
  exact ⟨rfl, rfl⟩

/-! ## Issuing -/

theorem attestInternal_kept :
    Yields (attestInternal host crypto env ledger attestation) fun result => Kept ledger.sas result.2.sas :=
  fun _ success => (attestInternal_ok success).2.frame.kept

theorem attestItem_kept :
    Yields (attestItem host crypto env ledger attestation) fun result => Kept ledger.sas result.2.sas :=
  .skip2 <| attestInternal_kept

/-- What each item of a batch keeps, the batch keeps. -/
theorem items_related (related : State -> State -> Prop) (cumulative : Cumulative related)
    {start : List UID × Ledger W} (each : ∀ current item, Yields (issue current item) (fun result =>
      related current.sas result.2.sas))
    (success : collectAll issue items start = .ok issued) : related start.2.sas issued.2.sas :=
  collected_related (fun before after => related before.sas after.sas) (cumulative.comap _)
    (fun item _ current => each current item) success

/-- A batch that succeeds gets through each item, in a state with what every item keeps. -/
theorem visited_item {α : Type} (view : State -> α) {start : List UID × Ledger W}
    (each : ∀ current item, Yields (issue current item) (fun result => view result.2.sas = view current.sas))
    (success : collectAll issue items start = .ok issued) {item : ι} (member : item ∈ items) :
    ∃ current : Ledger W, view current.sas = view start.2.sas ∧ ∃ result, issue current item = .ok result := by
  rcases append_of_mem member with ⟨earlier, later, rfl⟩
  rcases foldlM_visits success with ⟨current, next, reached, taken⟩
  rcases bind_eq_ok.mp taken with ⟨result, done, -⟩
  refine ⟨current.2, ?_, result, done⟩
  exact items_related (fun before after => view after = view before)
    ⟨fun _ => rfl, fun one two => two.trans one⟩ each reached

theorem item_of_attestation_mem {nonces : List UInt64} {signatures : List (BytesN 64)} {publicKeys : List (BytesN 32)}
    (lengths : nonces.length = attestations.length ∧ signatures.length = attestations.length ∧
      publicKeys.length = attestations.length) (member : attestation ∈ attestations) :
    ∃ item, item ∈ delegatedItems attestations nonces signatures publicKeys ∧ item.attestation = attestation := by
  induction attestations generalizing nonces signatures publicKeys with
  | nil => cases member
  | cons first rest ih =>
    rcases nonces with _ | ⟨nonce, nonces⟩
    · cases lengths.1
    rcases signatures with _ | ⟨signature, signatures⟩
    · cases lengths.2.1
    rcases publicKeys with _ | ⟨publicKey, publicKeys⟩
    · cases lengths.2.2
    simp only [length_cons, Nat.add_right_cancel_iff] at lengths
    rcases List.mem_cons.mp member with rfl | later
    · exact ⟨_, mem_cons_self, rfl⟩
    · rcases ih lengths later with ⟨item, among, same⟩
      exact ⟨item, mem_cons_of_mem _ among, same⟩

/-! ## Payments, revocation, replacement and upkeep -/

theorem revokeInternal_kept : Yields (revokeInternal host env ledger uid) fun after => Kept ledger.sas after.sas :=
  fun _ success => (revokeInternal_ok success).frame.kept

/-- The second pass of a batch of revocations. -/
theorem revocations_related (related : State -> State -> Prop) (cumulative : Cumulative related)
    {revoked : Ledger W} (each : ∀ current item, Yields (body current item) (fun after =>
      related current.sas after.sas)) (success : items.foldlM body ledger = .ok revoked) :
    related ledger.sas revoked.sas :=
  foldlM_related (fun first last : Ledger W => related first.sas last.sas) (cumulative.comap _)
    (fun item _ current => each current item) success

theorem replaceInternal_kept {oldUid : UID} {newData old : Attestation} :
    Yields (replaceInternal host crypto env ledger oldUid newData old) fun result => Kept ledger.sas result.2.sas := by
  simp only [replaceInternal, replaceRecords, bind_assoc]
  exact .skip4 <| .bind fun revoked success => .bind fun issued stored =>
    .pure ((revokeInternal_kept revoked success).trans (attestInternal_kept issued stored))

theorem Part.kept (part : Part host crypto env call issuing start last)
    (manual : call.relays = false) : Kept start.sas last.sas := by
  cases part with
  | issue payload result success => exact (attestInternal_ok success).2.frame.kept
  | revoke uid after success => exact (revokeInternal_ok success).frame.kept
  | relay nonces consents nullifiers relays => cases manual.symm.trans relays
  | renew | prune | reindex | account | publish => exact ⟨rfl, rfl⟩
  | replaced | verify | transfer => exact .refl _

theorem step_kept (handles : call.handles = true) :
    Yields (step host crypto ledger (env, call)) fun after => Kept ledger.sas after.sas := by
  have manual : call.configures = false ∧ call.relays = false := by simpa [Call.handles] using handles
  exact (step_anatomy manual.1).mono fun _ anatomy =>
    anatomy.related (fun first last => Kept first.sas last.sas) ⟨fun _ => .refl _, .trans⟩
      (fun _ _ _ part => part.kept manual.2) fun _ _ _ => ⟨rfl, rfl⟩

/-! ## Acting on a party's authority -/

/-- Of settings and credentials only nonces and nullifiers have changed. -/
structure Standing (before after : State) : Prop where
  settings : after.settings = before.settings
  policies : after.delegationPolicies = before.delegationPolicies
  keys : after.attesterKeys = before.attesterKeys

theorem Standing.refl (state : State) : Standing state state := ⟨rfl, rfl, rfl⟩

theorem Standing.trans {last : State} (one : Standing first middle) (two : Standing middle last) :
    Standing first last := ⟨two.settings.trans one.settings, two.policies.trans one.policies, two.keys.trans one.keys⟩

theorem Kept.standing (kept : Kept before after) : Standing before after where
  settings := kept.settings
  policies := congrArg Credentials.delegationPolicies kept.credentials
  keys := congrArg Credentials.attesterKeys kept.credentials

theorem consumeDelegationNonce_standing {state : State} :
    Yields (consumeDelegationNonce state attester nonce) (Standing state) := .skip <| .pure ⟨rfl, rfl, rfl⟩

theorem attestDelegated_standing {signature : BytesN 64} {publicKey : BytesN 32} :
    Yields (attestDelegated host crypto env ledger attestation nonce signature publicKey)
      fun result => Standing ledger.sas result.2.sas :=
  .skip4 <| .skip2 <| .bind fun consumed success => attestInternal_kept.mono fun _ kept =>
      (consumeDelegationNonce_standing consumed success).trans kept.standing

theorem Part.standing (part : Part host crypto env call issuing start last) : Standing start.sas last.sas := by
  cases part with
  | issue payload result success => exact (attestInternal_ok success).2.frame.kept.standing
  | revoke uid after success => exact (revokeInternal_ok success).frame.kept.standing
  | renew | prune | reindex | relay | account | publish => exact ⟨rfl, rfl, rfl⟩
  | replaced | verify | transfer => exact .refl _

/-- Every call but a configuration. -/
theorem step_standing (acts : call.configures = false) :
    Yields (step host crypto ledger (env, call)) fun after => Standing ledger.sas after.sas :=
  (step_anatomy acts).mono fun _ anatomy =>
    anatomy.related (fun first last => Standing first.sas last.sas) ⟨fun _ => .refl _, .trans⟩
      (fun _ _ _ part => part.standing) fun _ _ _ => ⟨rfl, rfl, rfl⟩

theorem administer_credentials {guarded : Bool} {change : Address -> Except Trap State}
    (kept : ∀ admin, Yields (change admin) (fun after => after.credentials = ledger.sas.credentials)) :
    Yields (locally ledger (administer env ledger.sas guarded change)) fun after =>
      after.sas.credentials = ledger.sas.credentials :=
  locally_yields (.skip <| .bind fun admin _ => .skip <| kept admin)

theorem step_sets_credentials {call : Call} (sets : call.sets = true) :
    Yields (step host crypto ledger (env, call)) fun after => after.sas.credentials = ledger.sas.credentials := by
  cases call with
  | init | upgrade | acceptAdmin => exact locally_yields (.skip4 <| .pure rfl)
  | setSchemaFee => exact locally_yields (.skip2 <| .pure rfl)
  | clearSchemaFee => exact locally_yields (.skip <| .pure rfl)
  | proposeAdmin | pause | unpause | setIndexer | setIndexerStrict | setTreasury _
  | setAutoPrune | setZkVerifier | clearFee | setSchemaZeroFee | removeAcceptedFee _
  | clearIssuanceRateLimit | setRateLimitExempt => exact administer_credentials fun _ => .pure rfl
  | setFee | setFeePerByte | setAcceptedFee | setFeeCeilings _ _
  | setIssuanceRateLimit => exact administer_credentials fun _ => .skip <| .pure rfl
  | _ => cases sets

/-! ## Calls that issue nothing -/

theorem Steady.refl (state : State) : Steady state state := ⟨rfl, rfl, rfl⟩

theorem Steady.trans {last : State} (one : Steady first middle) (two : Steady middle last) : Steady first last :=
  ⟨two.guard.trans one.guard, two.depth.trans one.depth, two.rateHistory.trans one.rateHistory⟩

theorem revokeInternal_history {after : Ledger W} (success : revokeInternal host env ledger uid = .ok after) :
    after.sas.rateHistory = ledger.sas.rateHistory := by
  simp only [revokeInternal, admitRevocation, bind_assoc, pure_bind, enterCallbackContext, eq_ok, writeAnchor_ok,
    and_assoc] at success
  rcases success with ⟨-, attestation, -, -, -, anchored, -, rfl, registry, -, schemaOpt, -, schema, -, world, -, rfl⟩
  simp only [exitCallbackContext, State.publish]
  rfl

theorem revokeInternal_steady :
    Yields (revokeInternal host env ledger uid) fun after => Steady ledger.sas after.sas := by
  intro after success
  have history := revokeInternal_history success
  rcases (revokeInternal_ok success).frame with ⟨_, _, _, same⟩
  rw [same] at history ⊢
  exact ⟨rfl, rfl, history⟩

theorem Part.steady (part : Part host crypto env call issuing start last)
    (quiet : call.issues = false) : Steady start.sas last.sas := by
  cases part with
  | issue payload result success intended => exact absurd intended (Call.asks_of_quiet quiet _)
  | revoke uid _ success => exact revokeInternal_steady _ success
  | renew | prune | reindex | relay | account | publish => exact ⟨rfl, rfl, rfl⟩
  | replaced | verify | transfer => exact .refl _

theorem step_steady (quiet : call.issues = false) :
    Yields (step host crypto ledger (env, call)) fun after => Steady ledger.sas after.sas := by
  by_cases configures : call.configures = true
  · exact (step_configured configures).mono fun _ configured => configured.steady
  exact (step_anatomy (Bool.eq_false_of_not_eq_true configures)).mono fun _ anatomy =>
    anatomy.related (fun first last => Steady first.sas last.sas) ⟨fun _ => .refl _, .trans⟩
      (fun _ _ _ part => part.steady quiet)
      fun issues => by cases quiet.symm.trans issues

/-- The service is initialised, with this registry. -/
structure Opened (registry : Address) (state : State) : Prop where
  bound : state.registry = some registry
  administered : state.admin ≠ none

theorem Opened.of_settings (opened : Opened registry before)
    (same : after.settings = before.settings) : Opened registry after where
  bound := (congrArg Settings.registry same).trans opened.bound
  administered := by
    have admin : after.admin = before.admin := congrArg Settings.admin same
    rw [admin]
    exact opened.administered

/-- The registry is bound by `init`, and only once. -/
theorem step_opened (opened : Opened registry ledger.sas) :
    Yields (step host crypto ledger (env, call)) fun after => Opened registry after.sas := by
  by_cases configures : call.configures = true
  · exact (step_configured configures).mono fun _ configured =>
      ⟨(configured.registry opened.administered).trans opened.bound, configured.administered opened.administered⟩
  exact (step_standing (Bool.eq_false_of_not_eq_true configures)).mono fun _ standing =>
    opened.of_settings standing.settings

end SorobanSas.Sas
