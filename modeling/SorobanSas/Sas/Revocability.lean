import SorobanSas.Registry.Deprecation
import SorobanSas.Sas.Replacement

namespace SorobanSas.Sas

open Library

/-!
# Revocation through the registry

To find the resolver, `revoke_internal` asks the registry for the schema.  A revocable
attestation can therefore be revoked as long as `get_schema` knows its schema.  Whatever
happens to a schema after the issuance, its record stays; what makes `get_schema` answer
`None` is the tombstone of `deprecate`.  From then on no attestation under the schema can be
revoked, and each one stays valid until it expires.

The other registry operations, quarantine and `deprecate_schema` among them, do not stand
in the way.
-/

variable {W : Type} {host : Host W} {crypto : Crypto} {env : Env} {attestation : Attestation}
  {ledger : Ledger W} {registry : Address}

/-- The registry that the service asks is the one whose storage is part of the world. -/
def BoundTo (host : Host W) (registry : Address) (registryOf : W -> Registry.State) : Prop :=
  ∀ world uid, host.getSchema world registry uid = .ok (Registry.getSchema (registryOf world) uid)

def AcceptsRevocations (host : Host W) : Prop :=
  ∀ env world resolver attestation, (host.onRevoke env world resolver attestation).isSome = true

/-- The service is open for calls. -/
structure Ready (registry : Address) (state : State) : Prop where
  bound : state.registry = some registry
  unpaused : state.paused = false
  unguarded : state.guard = false
  idle : state.callDepth = 0

/-! ## When a revocation goes through -/

section Revoking

variable {uid : UID} (ready : Ready registry ledger.sas) (accepts : AcceptsRevocations host)
  (compact : (ledger.sas.records uid).isLegacy = false) (stored : recordOf ledger.sas uid = some attestation)
  (revocable : attestation.revocable = true) (unrevoked : attestation.revocationTime = 0)

include ready accepts compact stored revocable unrevoked

theorem revokeInternal_isOk_iff :
    (∃ after, revokeInternal host env ledger uid = .ok after) ↔ (ledger.sas.records uid).revocation = none ∧
        ∃ schema, host.getSchema ledger.world registry attestation.schemaUid = .ok (some schema) := by
  have own : attestation.uid = uid := Slot.uid_of_content stored
  subst own
  have free : ((writeAttestation { ledger.sas with
      callDepth := ledger.sas.callDepth + 1
      guard := true } { attestation with revocationTime := env.timestamp }).records
        attestation.uid).anchor true = (ledger.sas.records attestation.uid).revocation := by
    simp [writeAttestation, State.putSlot, Slot.anchor]
  simp only [revokeInternal, admitRevocation, bind_assoc, pure_bind, enterCallbackContext, requireStored_eq_ok,
    requireRegistry, eq_ok, writeAnchor_ok, and_assoc]
  constructor
  · rintro ⟨after, -, found, -, read, -, -, anchored, unanchored, rfl, bound, named, asked, known, schema, rfl, -⟩
    cases stored.symm.trans read
    cases ready.bound.symm.trans named
    exact ⟨free.symm.trans unanchored, schema, known⟩
  · rintro ⟨unanchored, schema, known⟩
    rcases Option.isSome_iff_exists.mp (accepts env ledger.world schema.resolver
      { attestation with revocationTime := env.timestamp }) with ⟨world, accepted⟩
    have shallow : ledger.sas.callDepth + 1 < 2 ^ 32 := by
      rw [ready.idle]
      decide
    exact ⟨_, shallow, attestation, compact, stored, revocable, unrevoked, _,
      free.trans unanchored, rfl, registry, ready.bound, some schema, known, schema, rfl, world, accepted, rfl⟩

theorem revoke_isOk_iff (authorized : env.authorized attestation.attester = true) :
    (∃ after, step host crypto ledger (env, .revoke uid) = .ok after) ↔ (ledger.sas.records uid).revocation = none ∧
        ∃ schema, host.getSchema ledger.world registry attestation.schemaUid = .ok (some schema) := by
  have found : requireStored ledger.sas uid = .ok attestation := requireStored_eq_ok.mpr ⟨compact, stored⟩
  have opened : step host crypto ledger (env, .revoke uid) = revokeInternal host env ledger uid := by
    simp [step, revoke, rejectReentrant, requireUnpaused, requireAuth, require, ready.unpaused,
      ready.unguarded, ready.idle, found, authorized, bind, Except.bind]
  rw [opened]
  exact revokeInternal_isOk_iff ready accepts compact stored revocable unrevoked

end Revoking

theorem exists_inForce (unrevoked : attestation.revocationTime = 0) (window : ¬ (0 < attestation.expirationTime ∧
      attestation.expirationTime <= attestation.validFrom)) (env : Env) :
    ∃ later : Env, Attestation.InForce later attestation := by
  refine ⟨{ env with timestamp := attestation.validFrom }, unrevoked, UInt64.le_refl _, ?_⟩
  rintro ⟨bounded, expired⟩
  exact window ⟨UInt64.pos_iff_ne_zero.mpr bounded, expired⟩

/-- A revocation ends the validity of a record, unless it is made at time zero. -/
theorem revoked_iff {after : Ledger W} {uid : UID} (success : step host crypto ledger (env, .revoke uid) = .ok after)
    (stored : recordOf ledger.sas uid = some attestation) (window : ¬ (0 < attestation.expirationTime ∧
      attestation.expirationTime <= attestation.validFrom)) :
    (∀ later, verifyAttestation later after.sas uid = .ok false) ↔ env.timestamp ≠ 0 := by
  have withdrawn : revokeInternal host env ledger uid = .ok after := by
    simp only [step, revoke, bind_eq_ok] at success
    rcases success with ⟨-, -, -, -, _, -, -, -, success⟩
    exact success
  have layout := (revokeInternal_ok withdrawn).layout uid
  have revoked : (after.sas.book uid).attestation = some { attestation with revocationTime := env.timestamp } := by
    rcases (revokeInternal_ok withdrawn).revocable with ⟨found, read, -, -, -, book⟩
    cases stored.symm.trans read
    rw [book, Book.revoke_self]
  constructor
  · intro invalid zero
    have validity : ∃ later : Env, Attestation.InForce later { attestation with revocationTime := env.timestamp } :=
      exists_inForce zero window env
    rcases validity with ⟨later, inForce⟩
    exact ((verifyAttestation_eq_false revoked).mp (invalid later)).2 inForce
  · intro nonzero later
    exact (verifyAttestation_eq_false revoked).mpr
      ⟨layout.trans (revokeInternal_ok withdrawn).compact, fun inForce => nonzero inForce.unrevoked⟩

/-! ## Whatever happens to the schema -/

theorem attestInternal_schema : Yields (attestInternal host crypto env ledger attestation) fun _ =>
      ∃ registry schema, ledger.sas.registry = some registry ∧
        host.getSchema ledger.world registry attestation.schemaUid = .ok (some schema) := by
  simp only [attestInternal, recordAttestation, admitAttestation, bind_assoc]
  refine .bind fun entered opened => .bind fun registry bound => .skip4 <|
    .skip4 <| .bind fun answer asked => .bind fun schema found => fun _ _ => ?_
  simp only [enterCallbackContext, eq_ok] at opened
  rcases opened with ⟨-, rfl⟩
  rw [expect_eq_ok.mp found] at asked
  exact ⟨registry, schema, expect_eq_ok.mp bound, asked⟩

/-- A later version of an issued record is still in force at some time, if unrevoked. -/
theorem Extends.window {old new : Attestation} (same : Extends old new)
    (window : ¬ (0 < old.expirationTime ∧ old.expirationTime <= old.validFrom)) :
    ¬ (0 < new.expirationTime ∧ new.expirationTime <= new.validFrom) := by
  rintro ⟨bounded, early⟩
  rw [same.validFrom] at early
  by_cases perpetual : old.expirationTime = 0
  · rw [same.prolongs.perpetual perpetual] at bounded
    exact absurd bounded (UInt64.lt_irrefl 0)
  · rcases same.prolongs.longer perpetual with zero | longer
    · rw [zero] at bounded
      exact absurd bounded (UInt64.lt_irrefl 0)
    · exact window ⟨UInt64.pos_iff_ne_zero.mpr perpetual, UInt64.le_trans longer early⟩

/-- Between the issuance of a revocable attestation and its revocation let the registry carry
out any operations.  The attester can end its validity exactly if `deprecate` has not
succeeded for the schema among them, and if the revocation is made after time zero and is
the first one of this record. -/
theorem revocable_iff_undeprecated (host : Host W) (crypto : Crypto) (registry : Address)
    (registryOf : W -> Registry.State) (bound : BoundTo host registry registryOf) (accepts : AcceptsRevocations host)
    (issuance : Env) (before : Ledger W) (payload : Attestation) (result : UID × Ledger W)
    (asked : before.sas.registry = some registry)
    (issued : attestInternal host crypto issuance before payload = .ok result)
    (operations : List (Env × Registry.Call)) (ledger : Ledger W) (history : registryOf ledger.world =
      run (Registry.step crypto) (registryOf before.world) operations)
    (ready : Ready registry ledger.sas) (record : Attestation)
    (returned : getAttestation ledger.sas payload.uid = .ok (some record))
    (same : Extends (stamp issuance payload) record) (revocable : payload.revocable = true)
    (unrevoked : record.revocationTime = 0) (env : Env) (authorized : env.authorized record.attester = true) :
    (∃ after, step host crypto ledger (env, .revoke payload.uid) = .ok after ∧
        forall later, verifyAttestation later after.sas payload.uid = .ok false) ↔
      ¬ Occurs (Registry.step crypto) (registryOf before.world)
          (Registry.Succeeds crypto (Registry.Call.tombstones payload.schemaUid)) operations ∧
        env.timestamp ≠ 0 ∧ (ledger.sas.records payload.uid).revocation = none := by
  rcases readAttestation_eq_ok.mp returned with ⟨compact, stored⟩
  have window := same.window (attestInternal_ok issued).2.issuable.window
  rcases attestInternal_schema _ issued with ⟨named, schema, bound', known⟩
  cases asked.symm.trans bound'
  rw [bound] at known
  have findable : (∃ schema, host.getSchema ledger.world registry record.schemaUid =
      .ok (some schema)) ↔ ¬ Occurs (Registry.step crypto) (registryOf before.world)
        (Registry.Succeeds crypto (Registry.Call.tombstones payload.schemaUid)) operations := by
    rw [← Registry.known_run_iff crypto operations (Except.ok.inj known), ← history,
      show record.schemaUid = payload.schemaUid from same.schemaUid]
    simp only [bound ledger.world, Except.ok.injEq]
  have succeeds : (∃ after, step host crypto ledger (env, .revoke payload.uid) = .ok after) ↔ _ :=
    revoke_isOk_iff ready accepts compact stored (same.revocable.trans revocable) unrevoked authorized
  rw [findable] at succeeds
  constructor
  · rintro ⟨after, success, invalid⟩
    rcases succeeds.mp ⟨after, success⟩ with ⟨unanchored, undeprecated⟩
    exact ⟨undeprecated, (revoked_iff success stored window).mp invalid, unanchored⟩
  · rintro ⟨undeprecated, nonzero, unanchored⟩
    rcases succeeds.mpr ⟨unanchored, undeprecated⟩ with ⟨after, success⟩
    exact ⟨after, success, (revoked_iff success stored window).mpr nonzero⟩

/-! ### The small ledger with its registry -/

open Address (accountOfNat)
open Registry (okSchemaUid okRegistered calledBy)

/-- The registry at contract 7 answers from its own storage. -/
def registryHost : Host Registry.State where
  __ := (okHost : Host Registry.State)
  getSchema := fun world _ uid => .ok (Registry.getSchema world uid)
  isSchemaQuarantined := fun world _ uid => some (Registry.isSchemaQuarantined world uid)
  getMaxTtl := fun world _ uid => some (Registry.getMaxTtl world uid)
  isAuthorized := fun env world _ uid address => some (Registry.isAuthorized env world uid address)
  isAttesterAuthorized := fun world _ uid address => some (Registry.isAttesterAuthorized world uid address)
  isSchemaRestricted := fun world _ uid => some (Registry.isSchemaRestricted world uid)
  getSchemaPolicy := fun world _ uid => some (Registry.getSchemaPolicy world uid)
  getCreator := fun world _ uid => some (world.creator uid)
  getCreatorRoyalty := fun world _ uid => some (Registry.getCreatorRoyalty world uid)
  getSchemaFrostGroup := fun world _ uid => some (world.frostGroup uid)

def lifecycleCrypto : Crypto :=
  .ofTable [(Xdr.scString (ascii "bool ok") ++ Xdr.scAddress (.contract 9) ++ [1],
    okSchemaUid.hash), (okAnswerPreimage true, (okAnswer true).uid.hash)] []

/-- The service after `init`, with the schema of account 2 in the registry. -/
def okOpened : Ledger Registry.State :=
  run (advance registryHost lifecycleCrypto)
    ⟨deployed, run (Registry.step lifecycleCrypto) Registry.State.deployed okRegistered⟩
    [.call (signedAt [1] 100) (.init (accountOfNat 1) (.contract 7))]

/-- Account 2 has answered, and then the registry has carried out some operations. -/
def okAnswered (operations : List (Env × Registry.Call)) : Ledger Registry.State where
  sas := (run (advance registryHost lifecycleCrypto) okOpened [.call (signedAt [2] 100) (.attest (okAnswer true))]).sas
  world := run (Registry.step lifecycleCrypto) okOpened.world operations

/-- Quarantine and `deprecate_schema`: account 2 can still revoke its answer. -/
theorem revocable_iff_undeprecated_quarantined :
    let ledger := okAnswered [calledBy 1 (.setSchemaQuarantine okSchemaUid true (ascii "u")),
      calledBy 2 (.deprecateSchema (accountOfNat 2) okSchemaUid)]
    Registry.isSchemaQuarantined ledger.world okSchemaUid = true ∧ ∃ after, step registryHost lifecycleCrypto ledger
        (signedAt [2] 200, .revoke (okAnswer true).uid) = .ok after ∧
      forall later, verifyAttestation later after.sas (okAnswer true).uid = .ok false := by
  have succeeds : (attestInternal registryHost lifecycleCrypto (signedAt [2] 100) okOpened
      (okAnswer true)).isOk = true := rfl
  rcases exists_of_isOk succeeds with ⟨result, issued⟩
  refine ⟨rfl, (revocable_iff_undeprecated registryHost lifecycleCrypto (.contract 7)
    id (fun _ _ => rfl) (fun _ _ _ _ => rfl) (signedAt [2] 100) okOpened (okAnswer true) result
    rfl issued _ _ rfl ⟨?_, ?_, ?_, ?_⟩ (stamp (signedAt [2] 100) (okAnswer true))
    ?_ (.refl _) rfl rfl (signedAt [2] 200) rfl).mpr ⟨?_, by decide, ?_⟩⟩
  · decide
  · decide
  · decide
  · decide
  · decide
  · rintro ⟨before, input, after, split, tombstones, -⟩
    have member : input ∈ before ++ input :: after := by simp
    rw [← split] at member
    simp only [List.mem_cons, List.not_mem_nil, or_false] at member
    rcases member with rfl | rfl <;> cases tombstones
  · decide

/-- Account 2 deprecates its schema by `deprecate`.  Its answer can no longer be revoked, and
it stays valid. -/
theorem revocation_frozen :
    let ledger := okAnswered [calledBy 2 (.deprecateKey okSchemaUid (accountOfNat 2))]
    Ready (.contract 7) ledger.sas ∧ getAttestation ledger.sas (okAnswer true).uid =
        .ok (some (stamp (signedAt [2] 100) (okAnswer true))) ∧
      (step registryHost lifecycleCrypto ledger (signedAt [2] 200, .revoke (okAnswer true).uid)).isOk = false ∧
      forall later, verifyAttestation later ledger.sas (okAnswer true).uid = .ok true := by
  have returned : getAttestation (okAnswered
      [calledBy 2 (.deprecateKey okSchemaUid (accountOfNat 2))]).sas (okAnswer true).uid =
        .ok (some (stamp (signedAt [2] 100) (okAnswer true))) := by
    decide
  rcases readAttestation_eq_ok.mp returned with ⟨compact, stored⟩
  refine ⟨⟨?_, ?_, ?_, ?_⟩, returned, ?_, fun later => ?_⟩
  · decide
  · decide
  · decide
  · decide
  · decide
  · refine verifyAttestation_eq_true.mpr ⟨compact, _, stored, rfl, UInt64.zero_le, ?_⟩
    rintro ⟨bounded, -⟩
    exact bounded rfl

end SorobanSas.Sas
