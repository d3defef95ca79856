import SorobanSas.Sas.Upkeep
import SorobanSas.Sas.Threshold

namespace SorobanSas.Sas

open Library

/-!
# Off-chain copies of stored records

The holder of a signed attestation can have it verified without issuing it.  If the same UID is
also stored, a revocation on the ledger is meant to invalidate the copy: `verify_offchain_attestation`
looks the record up before it checks the signature.

The lookup does not go through `read_attestation`.  It decodes the entry under the UID as a full
`Attestation`, the layout of earlier versions.  Since the compact layout was introduced, no write
leaves such an entry.  A compact entry under the UID cannot be decoded that way and aborts the call,
and an entry under `CompactAttestationKey` is not seen at all.  This module says for each layout what
becomes of a copy that passes every other check.
-/

variable {W : Type} {host : Host W} {crypto : Crypto} {env : Env} {uid : UID} {slot : Slot uid}
  {stored : Attestation} {state : State}

/-- The stored record as it was signed. -/
def offchainCopy (stored : Attestation) : Attestation := { stored with revocationTime := 0 }

/-- A stored record of an active schema inside its validity window, and a signature on its off-chain
digest under the key that the service accepts for it. -/
structure Endorsed (host : Host W) (crypto : Crypto) (env : Env) (ledger : Ledger W)
    (stored : Attestation) (nonce : UInt64) (publicKey : BytesN 32) (signature : BytesN 64) : Prop where
  found : recordOf ledger.sas stored.uid = some stored
  active : ∃ registry schema, ledger.sas.registry = some registry ∧
    host.getSchema ledger.world registry stored.schemaUid = .ok (some schema)
  begun : stored.validFrom <= env.timestamp
  unexpired : ¬ Expired env stored.expirationTime
  signed : ∃ group, requireDelegationKey host ledger stored.schemaUid stored.attester publicKey = .ok group ∧
      verifyDelegatedSignature crypto (hashOffchainAttestation crypto (offchainCopy stored)
        (delegationDomain env nonce)) publicKey signature group = .ok ()

/-- Every other check passes, so the lookup alone decides. -/
theorem Endorsed.verify_eq {ledger : Ledger W} {nonce : UInt64} {publicKey : BytesN 32}
    {signature : BytesN 64} (endorsed : Endorsed host crypto env ledger stored nonce publicKey signature) :
    verifyOffchainAttestation host crypto env ledger (offchainCopy stored) nonce publicKey signature =
      (requireCopyUnrevoked ledger.sas stored.uid).map fun _ => true := by
  rcases endorsed.active with ⟨registry, schema, bound, known⟩
  rcases endorsed.signed with ⟨group, accepted, verified⟩
  have begun : ¬ (stored.validFrom ≠ 0 ∧ env.timestamp < stored.validFrom) :=
    fun early => absurd early.2 (UInt64.not_lt.mpr endorsed.begun)
  have current : validateExpiration env stored.expirationTime = .ok () :=
    validateExpiration_eq_ok.mpr endorsed.unexpired
  unfold verifyOffchainAttestation
  change (requireDelegationKey host ledger stored.schemaUid stored.attester publicKey >>= _) = _
  rw [accepted]
  change (if stored.validFrom ≠ 0 ∧ env.timestamp < stored.validFrom then _ else _) = _
  rw [if_neg begun]
  change (panicOn (validateExpiration env stored.expirationTime) >>= _) = _
  rw [current]
  change (requireCopyUnrevoked ledger.sas stored.uid >>= _) = _
  cases requireCopyUnrevoked ledger.sas stored.uid with
  | error failure => rfl
  | ok done =>
    change (requireRegistry ledger.sas >>= _) = _
    rw [requireRegistry, bound]
    change (host.getSchema ledger.world registry stored.schemaUid >>= _) = _
    rw [known]
    change (verifyDelegatedSignature crypto _ publicKey signature group >>= _) = _
    rw [verified]
    rfl

/-! ## The layout decides -/

theorem Slot.keyed_eq_none_of_entry {entry : Entry uid} (stored : slot.entry = some entry) : slot.keyed = none := by
  rcases slot.single with unkeyed | absent
  · exact unkeyed
  · rw [stored] at absent
    cases absent

theorem Slot.isLegacy_of_keyed (keyed : slot.keyed ≠ none) : slot.isLegacy = false := by
  rw [Slot.isLegacy, slot.single.resolve_left keyed]

theorem Slot.layout_of_content (found : slot.content = some stored) :
    slot.isLegacy = true ∨ slot.keyed ≠ none ∨ ∃ compact, slot.entry = some (.compact compact) := by
  by_cases unkeyed : slot.keyed = none
  · cases entry : slot.entry with
    | none => simp [Slot.content, unkeyed, entry] at found
    | some layout =>
      cases layout with
      | compact compact => exact .inr (.inr ⟨compact, rfl⟩)
      | legacy =>
        refine .inl ?_
        rw [Slot.isLegacy, entry]
  · exact .inr (.inl unkeyed)

theorem copy_of_legacy (found : recordOf state stored.uid = some stored)
    (legacy : (state.records stored.uid).isLegacy = true) :
    requireCopyUnrevoked state stored.uid = require (stored.revocationTime = 0) (.contract .alreadyRevoked) := by
  rcases Slot.exists_of_isLegacy legacy with ⟨record, own, entry⟩
  have same : record = stored := by
    have held := Slot.content_of_legacy entry
    exact Option.some.inj (held.symm.trans found)
  subst same
  rw [requireCopyUnrevoked, entry]

theorem copy_of_keyed (keyed : (state.records uid).keyed ≠ none) : requireCopyUnrevoked state uid = .ok () := by
  have absent := (state.records uid).single.resolve_left keyed
  rw [requireCopyUnrevoked, absent]
  rfl

theorem copy_of_compact {compact : CompactAttestation} (entry : (state.records uid).entry = some (.compact compact)) :
    requireCopyUnrevoked state uid = .error Trap.storage := by
  rw [requireCopyUnrevoked, entry]
  rfl

/-- A copy that passes every other check fares as the stored record says exactly if that record still
has the old layout, or is an unrevoked one under `CompactAttestationKey`. -/
theorem offchain_agrees_iff (host : Host W) (crypto : Crypto) (env : Env) (ledger : Ledger W)
    (stored : Attestation) (nonce : UInt64) (publicKey : BytesN 32) (signature : BytesN 64)
    (endorsed : Endorsed host crypto env ledger stored nonce publicKey signature) :
    let verdict := verifyOffchainAttestation host crypto env ledger (offchainCopy stored) nonce
      publicKey signature
    ((stored.revocationTime = 0 -> verdict = .ok true) ∧
      (stored.revocationTime ≠ 0 -> verdict = .error (.contract .alreadyRevoked))) ↔
    ((ledger.sas.records stored.uid).isLegacy = true ∨
      ((ledger.sas.records stored.uid).keyed ≠ none ∧ stored.revocationTime = 0)) := by
  intro verdict
  have decided : verdict = (requireCopyUnrevoked ledger.sas stored.uid).map fun _ => true := endorsed.verify_eq
  rw [decided]
  rcases Slot.layout_of_content endorsed.found with legacy | keyed | ⟨compact, entry⟩
  · refine iff_of_true ?_ (.inl legacy)
    rw [copy_of_legacy endorsed.found legacy]
    constructor
    · intro unrevoked
      rw [require, if_pos unrevoked]
      rfl
    · intro revoked
      rw [require, if_neg revoked]
      rfl
  · rw [copy_of_keyed keyed, Slot.isLegacy_of_keyed keyed]
    constructor
    · intro agrees
      refine .inr ⟨keyed, ?_⟩
      by_contra revoked
      cases agrees.2 revoked
    · intro unseen
      rcases unseen with legacy | ⟨-, unrevoked⟩
      · cases legacy
      · exact ⟨fun _ => rfl, fun revoked => absurd unrevoked revoked⟩
  · rw [copy_of_compact entry, Slot.keyed_eq_none_of_entry entry, Slot.isLegacy, entry]
    refine iff_of_false ?_ (by simp)
    intro agrees
    by_cases unrevoked : stored.revocationTime = 0
    · cases agrees.1 unrevoked
    · cases agrees.2 unrevoked

open Address (accountOfNat)

/-- The answer as an earlier version of the contract has left it. -/
def oldAnswerSlot (revocationTime : UInt64) : Slot (okAnswer true).uid where
  keyed := none
  entry := some (.legacy { okAnswer true with revocationTime := revocationTime } rfl)
  validFrom := none
  issuance := none
  revocation := none
  single := .inl rfl
  bare := fun _ _ _ => rfl

/-- Account 2 has registered its key, and its answer is stored in the old layout. -/
def oldAnswered (revocationTime : UInt64) : Ledger Unit where
  sas := (run (advance okHost relayCrypto) ⟨deployed, ()⟩ keyRegistered).sas.putSlot
    (okAnswer true).uid (oldAnswerSlot revocationTime)
  world := ()

theorem oldAnswered_endorsed (revocationTime : UInt64)
    (bound : (oldAnswered revocationTime).sas.registry = some (.contract 7))
    (accepted : requireDelegationKey okHost (oldAnswered revocationTime) (okAnswer true).schemaUid
      (okAnswer true).attester attesterKey = .ok none) :
    Endorsed okHost relayCrypto (signedAt [] 100) (oldAnswered revocationTime)
      { okAnswer true with revocationTime := revocationTime } 1 attesterKey attesterSignature where
  found := by
    change ((oldAnswered revocationTime).sas.records (okAnswer true).uid).content = _
    have stored : (oldAnswered revocationTime).sas.records (okAnswer true).uid =
      oldAnswerSlot revocationTime := records_putSlot_self _ _ _
    rw [stored]
    rfl
  active := ⟨.contract 7, _, bound, rfl⟩
  begun := UInt64.zero_le
  unexpired := by
    rintro ⟨bounded, -⟩
    exact bounded rfl
  signed := by
    refine ⟨none, accepted, ?_⟩
    change verifyOffchainSignature relayCrypto (hashOffchainAttestation relayCrypto (okAnswer true)
      (delegationDomain (signedAt [] 100) 1)) attesterKey attesterSignature = .ok ()
    decide +kernel

theorem offchain_agrees_iff_old :
    verifyOffchainAttestation okHost relayCrypto (signedAt [] 100) (oldAnswered 0) (okAnswer true) 1
        attesterKey attesterSignature = .ok true ∧
      verifyOffchainAttestation okHost relayCrypto (signedAt [] 100) (oldAnswered 50) (okAnswer true)
        1 attesterKey attesterSignature = .error (.contract .alreadyRevoked) := by
  have unrevoked := oldAnswered_endorsed 0 rfl rfl
  have revoked := oldAnswered_endorsed 50 rfl rfl
  exact ⟨((offchain_agrees_iff _ _ _ _ _ _ _ _ unrevoked).mpr (.inl rfl)).1 rfl,
    ((offchain_agrees_iff _ _ _ _ _ _ _ _ revoked).mpr (.inl rfl)).2 (by decide)⟩

/-- Account 2 registers its key and issues its answer. -/
def answeredUnderKey : List (Move Unit) :=
  [.call (signedAt [1] 0) (.init (accountOfNat 1) (.contract 7)),
    .call (signedAt [2] 0) (.registerAttesterKey (accountOfNat 2) attesterKey),
    .call (signedAt [2] 0) (.attest (okAnswer true))]

/-- A record issued through the contract: verification of the copy aborts, before and after the
record is revoked. -/
theorem offchain_copy_unreadable :
    let issued := run (advance okHost relayCrypto) ⟨deployed, ()⟩ answeredUnderKey
    let revoked := run (advance okHost relayCrypto) issued
      [.call (signedAt [2] 50) (.revoke (okAnswer true).uid)]
    recordOf issued.sas (okAnswer true).uid = some (okAnswer true) ∧
      recordOf revoked.sas (okAnswer true).uid = some { okAnswer true with revocationTime := 50 } ∧
      verifyOffchainAttestation okHost relayCrypto (signedAt [] 100) issued (okAnswer true) 1
        attesterKey attesterSignature = .error Trap.storage ∧
      verifyOffchainAttestation okHost relayCrypto (signedAt [] 100) revoked (okAnswer true) 1
        attesterKey attesterSignature = .error Trap.storage := by
  decide

end SorobanSas.Sas
