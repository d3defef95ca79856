import SorobanSas.Sas.Parts

namespace SorobanSas.Sas

open Library
open Relation (ReflTransGen)

/-!
# What each entry point does

An entry point that acts on records revises some of them and then issues others.  Apart
from paid issuance and withdrawals it leaves the fee ledgers alone, and the world outside
sees nothing of it but callbacks.  `step_outcome` says so for every call of the contract,
and `step_effect` gives the effect on the book for all calls without exception.  Both follow
from what a single part of a call does.
-/

variable {W : Type} {host : Host W} {crypto : Crypto} {env : Env} {uid : UID} {state : State} {amount : Int}

variable {ι α : Type} {ledger : Ledger W} {attestation newData : Attestation} {uids : List UID}
  {nonce expirationTime oldExpiration newExpiration : UInt64}
  {token attester authorizer : Address} {value : Int} {items : List ι} {recipients : List Address}
  {attestations : List Attestation} {nonces : List UInt64} {signatures : List (BytesN 64)}
  {publicKeys : List (BytesN 32)} {oldUid : UID} {post : Ledger W -> Prop} {data : Bytes} {pruned : Nat × State}
/-! ## Revising and issuing -/

/-- The settings from which the parts of a fee are computed. -/
structure FeeSettings where
  feeConfig : Option (Address × Int)
  feePerByte : Option Int
  schemaFees : UID -> Option SchemaFeeConfig

def State.feeSettings (state : State) : FeeSettings := ⟨state.feeConfig, state.feePerByte, state.schemaFees⟩

/-- No part of a fee is negative, as the setters see to it. -/
structure FeeSettings.Sound (settings : FeeSettings) : Prop where
  base : ∀ fee, settings.feeConfig = some fee -> 0 <= fee.2
  perByte : 0 <= settings.feePerByte.getD 0
  fixed : ∀ schemaUid fee, settings.schemaFees schemaUid = some fee -> fee.feeType = 1 -> 0 <= fee.fixedAmount

/-- The withdrawable balances on record are the same, and the settings still sound. -/
structure SameFees (before after : State) : Prop where
  treasury : after.treasuryFees = before.treasuryFees
  creators : after.creatorFees = before.creatorFees
  sound : before.feeSettings.Sound -> after.feeSettings.Sound

theorem SameFees.refl (state : State) : SameFees state state := ⟨rfl, rfl, id⟩

theorem SameFees.trans {first middle last : State} (one : SameFees first middle)
    (two : SameFees middle last) : SameFees first last :=
  ⟨two.treasury.trans one.treasury, two.creators.trans one.creators, two.sound ∘ one.sound⟩

theorem Frame.fees {before after : State} (frame : Frame before after) : SameFees before after := by
  rcases frame with ⟨_, _, _, rfl⟩
  exact ⟨rfl, rfl, id⟩

/-- Records were revised. -/
structure Revises (host : Host W) (env : Env) (prunes : Prop) (before after : Ledger W) :
    Prop where
  book : ReflTransGen (Revision env prunes) before.sas.book after.sas.book
  fees : SameFees before.sas after.sas
  world : Callbacks host env before.world after.world

/-- Records were issued. -/
structure Issues (host : Host W) (crypto : Crypto) (env : Env) (asked : Attestation -> Prop)
    (before after : Ledger W) : Prop where
  book : ReflTransGen (Issue crypto env asked) before.sas.book after.sas.book
  fees : SameFees before.sas after.sas
  world : Callbacks host env before.world after.world

/-- Something else was written. -/
structure Quiet (before after : Ledger W) : Prop where
  records : after.sas.records = before.sas.records
  treasury : after.sas.treasuryFees = before.sas.treasuryFees
  creators : after.sas.creatorFees = before.sas.creatorFees
  sound : before.sas.feeSettings.Sound -> after.sas.feeSettings.Sound
  world : after.world = before.world

/-- Records were revised, and then others issued. -/
def Outcome (host : Host W) (crypto : Crypto) (env : Env) (prunes : Prop)
    (asked : Attestation -> Prop) (before after : Ledger W) : Prop :=
  ∃ middle, Revises host env prunes before middle ∧ Issues host crypto env asked middle after

variable {prunes : Prop} {asked : Attestation -> Prop} {before middle after : Ledger W}

theorem Revises.refl (ledger : Ledger W) : Revises host env prunes ledger ledger := ⟨.refl, .refl _, .refl⟩

theorem Issues.refl (ledger : Ledger W) : Issues host crypto env asked ledger ledger := ⟨.refl, .refl _, .refl⟩

theorem Quiet.fees (quiet : Quiet before after) : SameFees before.sas after.sas :=
  ⟨quiet.treasury, quiet.creators, quiet.sound⟩

theorem Quiet.revises (quiet : Quiet before after) : Revises host env prunes before after where
  book := by rw [book_congr quiet.records]
  fees := quiet.fees
  world := by
    rw [quiet.world]
    exact .refl

theorem Quiet.trans (one : Quiet before middle) (two : Quiet middle after) : Quiet before after :=
  ⟨two.records.trans one.records, two.treasury.trans one.treasury,
    two.creators.trans one.creators, two.sound ∘ one.sound, two.world.trans one.world⟩

theorem Revises.outcome (revises : Revises host env prunes before after) :
    Outcome host crypto env prunes asked before after := ⟨after, revises, .refl after⟩

theorem Issues.outcome (issues : Issues host crypto env asked before after) :
    Outcome host crypto env prunes asked before after := ⟨before, .refl before, issues⟩

theorem Outcome.fees (outcome : Outcome host crypto env prunes asked before after) : SameFees before.sas after.sas := by
  rcases outcome with ⟨middle, revises, issues⟩
  exact revises.fees.trans issues.fees

theorem Outcome.world (outcome : Outcome host crypto env prunes asked before after) :
    Callbacks host env before.world after.world := by
  rcases outcome with ⟨middle, revises, issues⟩
  exact revises.world.trans issues.world

theorem Revoked.revises (revoked : Revoked host env before uid after) : Revises host env prunes before after where
  book := by
    rcases revoked.revocable with ⟨attestation, stored, revocable, unrevoked, unanchored, book⟩
    rw [book]
    exact .single (.revoke uid attestation stored revocable unrevoked unanchored)
  fees := revoked.frame.fees
  world := revoked.world

/-! ## Nonces and removals -/

theorem revokeInternal_revises : Yields (revokeInternal host env ledger uid) (Revises host env prunes ledger) :=
  fun _ success => (revokeInternal_ok success).revises

theorem consumeDelegationNonce_quiet {consumed : State}
    (success : consumeDelegationNonce state attester nonce = .ok consumed) (world : W) :
    Quiet ⟨state, world⟩ ⟨consumed, world⟩ := by
  simp only [consumeDelegationNonce, eq_ok] at success
  rcases success with ⟨-, rfl⟩
  exact ⟨rfl, rfl, rfl, id, rfl⟩

theorem consumeRecipientConsentNonce_quiet {consumed : State} {recipient : Address}
    (success : consumeRecipientConsentNonce state recipient nonce = .ok consumed) (world : W) :
    Quiet ⟨state, world⟩ ⟨consumed, world⟩ := by
  simp only [consumeRecipientConsentNonce, eq_ok]
    at success
  rcases success with ⟨-, rfl⟩
  exact ⟨rfl, rfl, rfl, id, rfl⟩

/-- An iteration leaves a record as it is, or removes it because it has expired. -/
theorem pruneStored_stored {target : UID} {record : Attestation} :
    ((pruneStored env pruned target).2.book uid).attestation = some record ↔
      (pruned.2.book uid).attestation = some record ∧ (uid = target -> ¬ Expired env record.expirationTime) := by
  have spared (live : uid = target -> (pruned.2.book uid).attestation = some record ->
      ¬ Expired env record.expirationTime) :
      (pruned.2.book uid).attestation = some record ↔ (pruned.2.book uid).attestation = some record ∧
          (uid = target -> ¬ Expired env record.expirationTime) :=
    ⟨fun stored => ⟨stored, fun same => live same stored⟩, And.left⟩
  unfold pruneStored pruneFound
  split
  · rename_i absent
    refine spared ?_
    rintro rfl stored
    cases absent.symm.trans stored
  · rename_i attestation found
    split
    · rename_i expired
      change ((pruned.2.putSlot target .empty).book uid).attestation = some record ↔ _
      rw [book_putSlot]
      by_cases same : uid = target
      · subst same
        rw [update_self]
        refine iff_of_false (nofun) ?_
        rintro ⟨stored, live⟩
        cases stored.symm.trans found
        exact live rfl expired
      · rw [update_of_ne same]
        exact spared fun equal => absurd equal same
    · rename_i live
      refine spared ?_
      rintro rfl stored
      cases stored.symm.trans found
      exact live

theorem foldl_pruneStored_stored {record : Attestation} :
    ((uids.foldl (pruneStored env) pruned).2.book uid).attestation = some record ↔
      (pruned.2.book uid).attestation = some record ∧ (uid ∈ uids -> ¬ Expired env record.expirationTime) := by
  induction uids generalizing pruned with
  | nil => simp
  | cons target rest ih =>
    rw [List.foldl_cons, ih, pruneStored_stored, List.mem_cons, or_imp, and_assoc]

/-- Guard, depth and histories of issuance are as before. -/
structure Steady (before after : State) : Prop where
  guard : after.guard = before.guard
  depth : after.callDepth = before.callDepth
  rateHistory : after.rateHistory = before.rateHistory

/-- What calls of configuration have in common.  The registry is bound by `init` alone. -/
structure Configured (before after : Ledger W) : Prop where
  quiet : Quiet before after
  steady : Steady before.sas after.sas
  registry : before.sas.admin ≠ none -> after.sas.registry = before.sas.registry
  administered : before.sas.admin ≠ none -> after.sas.admin ≠ none

theorem Configured.trans (one : Configured before middle) (two : Configured middle after) :
    Configured before after where
  quiet := one.quiet.trans two.quiet
  steady := ⟨two.steady.guard.trans one.steady.guard, two.steady.depth.trans one.steady.depth,
    two.steady.rateHistory.trans one.steady.rateHistory⟩
  registry := fun admin => (two.registry (one.administered admin)).trans (one.registry admin)
  administered := fun admin => two.administered (one.administered admin)

theorem consumeDelegationNonce_configured (world : W) :
    Yields (consumeDelegationNonce state attester nonce) fun after => Configured ⟨state, world⟩ ⟨after, world⟩ :=
  .skip <| .pure ⟨⟨rfl, rfl, rfl, id, rfl⟩, ⟨rfl, rfl, rfl⟩, fun _ => rfl, id⟩

theorem administer_configured {guarded : Bool} {change : Address -> Except Trap State}
    (kept : ∀ admin, Yields (change admin) (fun after => Configured ledger { ledger with sas := after })) :
    Yields (locally ledger (administer env ledger.sas guarded change)) (Configured ledger) :=
  locally_yields (.skip <| .bind fun admin _ => .skip <| kept admin)

theorem invalidateNoncesInternal_configured {minNonce maxNonce : UInt64} (world : W) :
    Yields (invalidateNoncesInternal state attester minNonce maxNonce) fun after =>
      Configured ⟨state, world⟩ ⟨after, world⟩ :=
  .skip <| .pure ⟨⟨rfl, rfl, rfl, id, rfl⟩, ⟨rfl, rfl, rfl⟩, fun _ => rfl, id⟩

/-! ### The setters keep the settings sound -/

namespace FeeSettings.Sound

variable {settings : FeeSettings}

theorem setFee (sound : settings.Sound) (token : Address) (positive : 0 <= amount) :
    FeeSettings.Sound { settings with feeConfig := some (token, amount) } where
  base := by
    rintro fee ⟨⟩
    exact positive
  perByte := sound.perByte
  fixed := sound.fixed

theorem clearFee (sound : settings.Sound) : FeeSettings.Sound { settings with feeConfig := none, feePerByte := none } :=
  ⟨nofun, Int.le_refl 0, sound.fixed⟩

theorem setFeePerByte (sound : settings.Sound) (accepted : 0 <= amount) :
    FeeSettings.Sound { settings with feePerByte := some amount } := ⟨sound.base, accepted, sound.fixed⟩

theorem putSchemaFee (sound : settings.Sound) (schemaUid : UID) {entry : Option SchemaFeeConfig}
    (accepted : ∀ fee, entry = some fee -> fee.feeType = 1 -> 0 <= fee.fixedAmount) : FeeSettings.Sound { settings with
      schemaFees := update settings.schemaFees schemaUid entry } where
  base := sound.base
  perByte := sound.perByte
  fixed := (Function.forall_update_iff settings.schemaFees fun _ stored =>
    ∀ fee, stored = some fee -> fee.feeType = 1 -> 0 <= fee.fixedAmount).mpr
      ⟨accepted, fun other _ => sound.fixed other⟩

end FeeSettings.Sound

theorem fixedAmount_of_acceptsSchemaFee {ceilings : FeeCeilings} {feeType : Nat} {fixedAmount : Int} {basisPoints : Nat}
    (accepted : acceptsSchemaFee ceilings feeType fixedAmount basisPoints = true)
    (fixed : feeType = 1) : 0 <= fixedAmount := by
  subst fixed
  simp only [acceptsSchemaFee, if_true, Bool.and_eq_true, decide_eq_true_eq] at accepted
  exact accepted.1

theorem step_configured (configures : call.configures = true) :
    Yields (step host crypto ledger (env, call)) (Configured ledger) := by
  cases call with
  | init admin =>
    exact locally_yields (.skip <| .bind fun _ first => .skip2 <| .pure ⟨⟨rfl, rfl, rfl, id, rfl⟩, ⟨rfl, rfl, rfl⟩,
        fun admin => absurd (require_eq_ok.mp first) admin, fun _ => Option.some_ne_none _⟩)
  | acceptAdmin =>
    exact locally_yields (.skip4 <|
      .pure ⟨⟨rfl, rfl, rfl, id, rfl⟩, ⟨rfl, rfl, rfl⟩, fun _ => rfl, fun _ => Option.some_ne_none _⟩)
  | upgrade | registerAttesterKey | rotateAttesterKey =>
    exact locally_yields (.skip4 <| .pure ⟨⟨rfl, rfl, rfl, id, rfl⟩, ⟨rfl, rfl, rfl⟩, fun _ => rfl, id⟩)
  | revokeAttesterKey =>
    exact locally_yields (.skip3 <| .pure ⟨⟨rfl, rfl, rfl, id, rfl⟩, ⟨rfl, rfl, rfl⟩, fun _ => rfl, id⟩)
  | setDelegationPolicy =>
    exact locally_yields (.skip <| .pure ⟨⟨rfl, rfl, rfl, id, rfl⟩, ⟨rfl, rfl, rfl⟩, fun _ => rfl, id⟩)
  | proposeAdmin | pause | unpause | setIndexer | setIndexerStrict | setTreasury _
  | setAutoPrune | setZkVerifier | setSchemaZeroFee | removeAcceptedFee _
  | clearIssuanceRateLimit | setRateLimitExempt =>
    exact administer_configured fun _ => .pure ⟨⟨rfl, rfl, rfl, id, rfl⟩, ⟨rfl, rfl, rfl⟩, fun _ => rfl, id⟩
  | setAcceptedFee | setFeeCeilings | setIssuanceRateLimit =>
    exact administer_configured fun _ => .skip <| .pure ⟨⟨rfl, rfl, rfl, id, rfl⟩, ⟨rfl, rfl, rfl⟩, fun _ => rfl, id⟩
  | setFee token =>
    exact administer_configured fun _ => .bind fun _ positive =>
      .pure ⟨⟨rfl, rfl, rfl, (·.setFee token (Int.le_of_lt (require_eq_ok.mp positive))), rfl⟩,
        ⟨rfl, rfl, rfl⟩, fun _ => rfl, id⟩
  | clearFee =>
    exact administer_configured fun _ => .pure ⟨⟨rfl, rfl, rfl, (·.clearFee), rfl⟩, ⟨rfl, rfl, rfl⟩, fun _ => rfl, id⟩
  | setFeePerByte =>
    refine administer_configured fun _ => .bind fun _ accepted =>
      .pure ⟨⟨rfl, rfl, rfl, (·.setFeePerByte ?_), rfl⟩, ⟨rfl, rfl, rfl⟩, fun _ => rfl, id⟩
    exact Int.not_lt.mp fun negative => require_eq_ok.mp accepted (.inl negative)
  | setSchemaFee schemaUid =>
    refine locally_yields (.skip <| .bind fun _ accepted => .pure
      ⟨⟨rfl, rfl, rfl, (·.putSchemaFee schemaUid ?_), rfl⟩, ⟨rfl, rfl, rfl⟩, fun _ => rfl, id⟩)
    rintro fee ⟨⟩
    exact fixedAmount_of_acceptsSchemaFee (require_eq_ok.mp accepted)
  | clearSchemaFee schemaUid =>
    exact locally_yields (.skip <| .pure
      ⟨⟨rfl, rfl, rfl, (·.putSchemaFee schemaUid nofun), rfl⟩, ⟨rfl, rfl, rfl⟩, fun _ => rfl, id⟩)
  | invalidateNonces =>
    exact locally_yields (.skip3 <| invalidateNoncesInternal_configured ledger.world)
  | setNonceHighwaterMark =>
    exact locally_yields (.skip2 <| invalidateNoncesInternal_configured ledger.world)
  | invalidateNoncesByDelegation =>
    exact locally_yields (.skip4 <| .bind fun consumed spent => (invalidateNoncesInternal_configured ledger.world).mono
        fun _ later => (consumeDelegationNonce_configured ledger.world consumed spent).trans later)
  | _ => cases configures

theorem step_configures (configures : call.configures = true) :
    Yields (step host crypto ledger (env, call)) (Quiet ledger) :=
  (step_configured configures).mono fun _ configured => configured.quiet

/-! ## Every part -/

/-- What a part does to the book: early parts revise it, late ones add to it. -/
theorem Part.book (part : Part host crypto env call issuing before after) : after.sas.book = before.sas.book ∨
      issuing = false ∧ Revision env (call.removes = true) before.sas.book after.sas.book ∨
      issuing = true ∧ Issue crypto env (call.asks crypto env) before.sas.book after.sas.book := by
  cases part with
  | issue payload result success intended late =>
    have attested := (attestInternal_ok success).2
    refine .inr (.inr ⟨late, ?_⟩)
    rw [attested.book]
    exact .issue _ attested.issuable intended
  | revoke uid after success early =>
    rcases (revokeInternal_ok success).revocable with ⟨attestation, stored, revocable, unrevoked, unanchored, book⟩
    refine .inr (.inl ⟨early, ?_⟩)
    rw [book]
    exact .revoke uid attestation stored revocable unrevoked unanchored
  | renew attestation expirationTime event stored revocable unrevoked live prolongs lives window
      allowed early =>
      have renewed : (writeAttestation before.sas { attestation with
          expirationTime := expirationTime }).book = before.sas.book.renew attestation.uid attestation expirationTime :=
        book_writeAttestation before.sas _
      exact .inr (.inl ⟨early, renewed ▸ .renew attestation.uid attestation expirationTime stored
        revocable unrevoked live prolongs lives window⟩)
  | prune uid attestation event stored expired allowed early =>
    have removed : (before.sas.putSlot uid .empty).book =
        update before.sas.book uid .blank := book_putSlot before.sas uid .empty
    exact .inr (.inl ⟨early, removed ▸ .prune uid attestation stored expired (call.removes_of_upkeep allowed)⟩)
  | replaced | reindex | relay | verify | transfer | account | publish => exact .inl rfl

theorem Part.layout (part : Part host crypto env call issuing before after) : KeepsLayout before.sas after.sas := by
  cases part with
  | issue payload result success => exact (attestInternal_ok success).2.layout
  | revoke uid after success => exact fun other legacy => ((revokeInternal_ok success).layout other).symm.trans legacy
  | renew => exact keepsLayout_writeAttestation
  | prune => exact keepsLayout_putSlot nofun
  | replaced | reindex | relay | verify | transfer | account | publish => exact fun _ => id

theorem Part.fees (part : Part host crypto env call issuing before after)
    (free : call.pays = false) : SameFees before.sas after.sas := by
  cases part with
  | issue payload result success => exact (attestInternal_ok success).2.frame.fees
  | revoke uid after success => exact (revokeInternal_ok success).frame.fees
  | renew | prune => exact Frame.fees ⟨_, _, _, rfl⟩
  | account treasury creators pays => cases free.symm.trans pays
  | replaced | reindex | relay | verify | transfer | publish => exact ⟨rfl, rfl, id⟩

theorem Part.callbacks (part : Part host crypto env call issuing before after)
    (free : call.pays = false) : Callbacks host env before.world after.world := by
  cases part with
  | issue payload result success => exact (attestInternal_ok success).2.world
  | revoke uid after success => exact (revokeInternal_ok success).world
  | replaced oldUid newUid =>
    exact callbacks_tellIndexer fun indexer after accepted => .handleReplace indexer oldUid newUid after accepted
  | renew =>
    exact callbacks_tellIndexer fun indexer after accepted => .handleRenew indexer _ _ after accepted
  | reindex indexer uid attestation event world bound stored accepted =>
    exact .single ⟨_, by rintro ⟨⟩, .indexAttestation indexer attestation world accepted⟩
  | verify verifier proof inputs verdict world accepted =>
    exact .single ⟨_, by rintro ⟨⟩, .verifyProof verifier proof inputs verdict world accepted⟩
  | transfer token sender destination amount world accepted pays => cases free.symm.trans pays
  | prune | relay | account | publish => exact .refl

theorem Parts.revised (parts : Parts host crypto env call false before after) :
    ReflTransGen (Revision env (call.removes = true)) before.sas.book after.sas.book := by
  refine parts.related (fun first last =>
    ReflTransGen (Revision env (call.removes = true)) first.sas.book last.sas.book)
    ⟨fun _ => .refl, .trans⟩ fun first last part => ?_
  rcases part.book with same | ⟨-, revision⟩ | ⟨⟨⟩, -⟩
  · rw [same]
  · exact .single revision

theorem Parts.issued (parts : Parts host crypto env call true before after) :
    ReflTransGen (Issue crypto env (call.asks crypto env)) before.sas.book after.sas.book := by
  refine parts.related (fun first last =>
    ReflTransGen (Issue crypto env (call.asks crypto env)) first.sas.book last.sas.book)
    ⟨fun _ => .refl, .trans⟩ fun first last part => ?_
  rcases part.book with same | ⟨⟨⟩, -⟩ | ⟨-, issue⟩
  · rw [same]
  · exact .single issue

theorem Parts.fees (parts : Parts host crypto env call issuing before after)
    (free : call.pays = false) : SameFees before.sas after.sas :=
  parts.related (fun first last => SameFees first.sas last.sas) ⟨fun _ => .refl _, .trans⟩
    fun _ _ part => part.fees free

theorem Parts.callbacks (parts : Parts host crypto env call issuing before after)
    (free : call.pays = false) : Callbacks host env before.world after.world :=
  parts.related (fun first last => Callbacks host env first.world last.world)
    ⟨fun _ => .refl, .trans⟩ fun _ _ part => part.callbacks free

/-- The old layout does not come back. -/
theorem step_layout : Yields (step host crypto ledger (env, call)) fun after => KeepsLayout ledger.sas after.sas := by
  by_cases configures : call.configures = true
  · exact (step_configures configures).mono fun _ quiet => keepsLayout_congr quiet.records
  · exact (step_anatomy (Bool.eq_false_of_not_eq_true configures)).mono fun _ anatomy =>
      anatomy.related (fun first last => KeepsLayout first.sas last.sas) (keepsLayout_cumulative.comap _)
        (fun _ _ _ part => part.layout) fun _ _ _ _ => id

theorem step_outcome (free : call.pays = false) : Yields (step host crypto ledger (env, call))
      (Outcome host crypto env (call.removes = true) (call.asks crypto env) ledger) := by
  by_cases configures : call.configures = true
  · exact (step_configures configures).mono fun _ quiet => quiet.revises.outcome
  refine (step_anatomy (Bool.eq_false_of_not_eq_true configures)).mono fun after anatomy => ?_
  cases anatomy with
  | plain middle after early late =>
    exact ⟨middle, ⟨early.revised, early.fees free, early.callbacks free⟩,
      late.issued, late.fees free, late.callbacks free⟩
  | batch issued event down issues items =>
    have kept := items.fees free
    exact Issues.outcome ⟨items.issued, ⟨kept.treasury, kept.creators, kept.sound⟩, items.callbacks free⟩

/-- Every call of the contract changes the book as the register allows. -/
theorem step_effect : Yields (step host crypto ledger (env, call)) fun after =>
      Effect crypto env (call.removes = true) (call.asks crypto env) ledger.sas.book after.sas.book := by
  by_cases configures : call.configures = true
  · refine (step_configures configures).mono fun after quiet => ?_
    rw [book_congr quiet.records]
    exact .nothing _
  refine (step_anatomy (Bool.eq_false_of_not_eq_true configures)).mono fun after anatomy => ?_
  cases anatomy with
  | plain middle after early late => exact ⟨middle.sas.book, early.revised, late.issued⟩
  | batch issued event down issues items => exact .issues items.issued

theorem distributeShares_records {registry : Address} {schemaUid : UID} {bps : Nat} :
    Yields (distributeShares host env ledger registry schemaUid token value bps) fun after =>
      after.sas.records = ledger.sas.records := .skip3 <| .ite (fun _ => .pure rfl) fun _ => .skip3 <| .pure rfl

theorem distributeAttestationFee_records {schemaUid : UID} :
    Yields (distributeAttestationFee host env ledger schemaUid token value) fun after =>
      after.sas.records = ledger.sas.records := by
  unfold distributeAttestationFee
  split
  · exact .pure rfl
  · split
    · exact .pure rfl
    · exact distributeShares_records

theorem creditTreasury_records (state : State) (token : Address) (amount : Int) :
    (creditTreasury state token amount).records = state.records := by
  unfold creditTreasury
  split <;> rfl

theorem creditCreator_records (state : State) (creator token : Address) (amount : Int) :
    (creditCreator state creator token amount).records = state.records := by
  unfold creditCreator
  split <;> rfl

theorem settleFee_records {baseAmount creatorAmount : Int} :
    Yields (settleFee host env ledger attestation token value baseAmount creatorAmount)
      fun after => after.sas.records = ledger.sas.records := by
  refine .ite (fun _ => ?_) fun _ => .pure rfl
  refine .skip2 <| .bind fun creator _ => distributeAttestationFee_records.mono fun _ same => same.trans ?_
  exact (creditCreator_records _ creator token creatorAmount).trans (creditTreasury_records ledger.sas token baseAmount)

theorem payOut_records {destination : Address} :
    Yields (payOut host env ledger token amount destination authorizer) fun after =>
      after.sas.records = ledger.sas.records := .skip <| .pure rfl

end SorobanSas.Sas
