import SorobanSas.Sas.Frames
import SorobanSas.Sas.Threshold
import SorobanSas.Sas.Queries

namespace SorobanSas.Sas

open Library

/-!
# Attester keys

An attester may register a key for its off-chain signatures, rotate it and revoke it.  Every
delegated operation checks the key that it is given with `require_attester_key`, unless the
schema has a group of signers.

The check accepts two keys: the one on record, if it is not revoked, and the key that the
attester's address consists of, if it is an account.  The lifecycle governs the first of
them only.  An account that puts its own key on record cannot retire it.
-/

variable {W : Type} {host : Host W} {crypto : Crypto} {env : Env} {ledger : Ledger W}
  {attestation : Attestation} {nonce : UInt64} {signature : BytesN 64} {call : Call}
  {attester : Address} {publicKey : BytesN 32}

/-- The two ways in which a key is accepted. -/
theorem requireAttesterKey_ok {state : State} {done : Unit} : requireAttesterKey state attester publicKey = .ok done ↔
      attester = .account publicKey ∨ registeredKeyMatches state attester publicKey = true := by
  rw [requireAttesterKey, require_eq_ok, attesterMatchesKey_iff]

/-! ## The key on record -/

/-- The attester whose key record a call may change. -/
def Call.rekeys : Call -> Option Address
  | .registerAttesterKey attester _ | .rotateAttesterKey attester _
  | .revokeAttesterKey attester => some attester
  | _ => none

theorem step_keys (foreign : call.rekeys = none) : Yields (step host crypto ledger (env, call)) fun after =>
      after.sas.attesterKeys = ledger.sas.attesterKeys := by
  by_cases acts : call.configures = false
  · exact (step_standing acts).mono fun _ standing => standing.keys
  by_cases sets : call.sets = true
  · exact (step_sets_credentials sets).mono fun _ same => congrArg Credentials.attesterKeys same
  cases call with
  | setDelegationPolicy => exact locally_yields (.skip <| .pure rfl)
  | invalidateNonces => exact locally_yields (.skip4 <| .pure rfl)
  | setNonceHighwaterMark => exact locally_yields (.skip3 <| .pure rfl)
  | invalidateNoncesByDelegation =>
    exact locally_yields (.skip4 <| .bind fun consumed success => .skip <|
      .pure (consumeDelegationNonce_standing consumed success).keys)
  | registerAttesterKey | rotateAttesterKey | revokeAttesterKey => cases foreign
  | _ => first | exact absurd rfl sets | exact absurd rfl acts

theorem registeredKeyMatches_put {state : State} {owner : Address} {record : AttesterKeyRecord}
    (unmatched : registeredKeyMatches state attester publicKey = false)
    (unfit : owner = attester -> record.revoked = true ∨ record.publicKey ≠ publicKey) :
    registeredKeyMatches (putAttesterKey state owner record) attester publicKey = false := by
  unfold registeredKeyMatches putAttesterKey at *
  by_cases own : attester = owner
  · subst own
    rcases unfit rfl with revoked | different
    · simp [revoked]
    · simp [different]
  · simpa [update_of_ne own] using unmatched

/-- The key on record is set to this one. -/
def Call.Reinstates (attester : Address) (publicKey : BytesN 32) (call : Call) : Prop :=
  call = .registerAttesterKey attester publicKey ∨ call = .rotateAttesterKey attester publicKey

theorem step_unmatched (unmatched : registeredKeyMatches ledger.sas attester publicKey = false)
    (other : ¬ call.Reinstates attester publicKey) : Yields (step host crypto ledger (env, call)) fun after =>
      registeredKeyMatches after.sas attester publicKey = false := by
  cases call with
  | registerAttesterKey =>
    refine locally_yields (.skip4 <| .pure (registeredKeyMatches_put unmatched ?_))
    rintro rfl
    refine .inr fun same => other (.inl ?_)
    rw [← same]
  | rotateAttesterKey =>
    refine locally_yields (.skip4 <| .pure (registeredKeyMatches_put unmatched ?_))
    rintro rfl
    refine .inr fun same => other (.inr ?_)
    rw [← same]
  | revokeAttesterKey =>
    exact locally_yields (.skip3 <| .pure (registeredKeyMatches_put unmatched fun _ => .inl rfl))
  | _ =>
    refine (step_keys rfl).mono fun after same => ?_
    rwa [registeredKeyMatches, same]

/-- The call takes the attester's key off the record: it revokes the key, or puts another one
in its place. -/
def Call.Retires (attester : Address) (publicKey : BytesN 32) (call : Call) : Prop :=
  call = .revokeAttesterKey attester ∨ ∃ other, other ≠ publicKey ∧ call = .rotateAttesterKey attester other

theorem step_retires (retires : call.Retires attester publicKey) :
    Yields (step host crypto ledger (env, call)) fun after =>
      registeredKeyMatches after.sas attester publicKey = false := by
  rcases retires with rfl | ⟨other, different, rfl⟩
  · refine locally_yields (.skip3 <| .pure ?_)
    simp [registeredKeyMatches, putAttesterKey, State.publish]
  · refine locally_yields (.skip4 <| .pure ?_)
    simp [registeredKeyMatches, putAttesterKey, State.publish, different]

section Runs

variable (host crypto attester publicKey)

/-- A move that succeeds in retiring the key while it is the one on record. -/
def KeyRetired (ledger : Ledger W) (move : Move W) : Prop :=
  ∃ env call record, move = .call env call ∧ call.Retires attester publicKey ∧
    ledger.sas.attesterKeys attester = some record ∧ record.publicKey = publicKey ∧
    (advance host crypto ledger move).isOk = true

/-- A move that succeeds in putting the key on record. -/
def KeyReinstated (ledger : Ledger W) (move : Move W) : Prop :=
  ∃ env call, move = .call env call ∧ call.Reinstates attester publicKey ∧
    (advance host crypto ledger move).isOk = true

variable {host crypto attester publicKey}

theorem unmatched_of_retired {start : Ledger W} {moves : List (Move W)}
    (retired : OccursSince (advance host crypto) start (KeyRetired host crypto attester publicKey)
      (KeyReinstated host crypto attester publicKey) moves) :
    registeredKeyMatches (run (advance host crypto) start moves).sas attester publicKey = false := by
  have established (ledger : Ledger W) (move : Move W)
      (retires : KeyRetired host crypto attester publicKey ledger move) :
      registeredKeyMatches (commit (advance host crypto) ledger move).sas attester publicKey = false := by
    rcases retires with ⟨env, call, record, rfl, retires, -, -, succeeds⟩
    exact step_retires retires _ (commit_ok succeeds)
  have preserved (ledger : Ledger W) (move : Move W) (next : Ledger W)
      (unmatched : registeredKeyMatches ledger.sas attester publicKey = false)
      (quiet : ¬ KeyReinstated host crypto attester publicKey ledger move)
      (success : advance host crypto ledger move = .ok next) :
      registeredKeyMatches next.sas attester publicKey = false := by
    cases move with
    | outside =>
      cases success
      exact unmatched
    | call env call =>
      refine step_unmatched unmatched (fun reinstates => quiet ?_) next success
      exact ⟨env, call, rfl, reinstates, by rw [success]; rfl⟩
  exact retired.invariant established preserved

end Runs

/-! ## Versions -/

/-- A key record is followed by one of a higher version, or by itself, perhaps revoked. -/
def KeyHistory (before after : State) : Prop :=
  ∀ attester, ∀ old ∈ before.attesterKeys attester, ∃ new ∈ after.attesterKeys attester,
    old.version < new.version ∨ new = old ∨ new = { old with revoked := true }

theorem keyHistory_cumulative : Cumulative KeyHistory where
  refl _ _ old found := ⟨old, found, .inr (.inl rfl)⟩
  trans one two attester old found := by
    rcases one attester old found with ⟨middle, stored, first⟩
    rcases two attester middle stored with ⟨last, kept, second⟩
    refine ⟨last, kept, ?_⟩
    rcases first with higher | rfl | rfl
    · grind
    · exact second
    · grind

theorem keyHistory_put {state : State} {record : AttesterKeyRecord} (follows : ∀ old ∈ state.attesterKeys attester,
      old.version < record.version ∨ record = { old with revoked := true }) :
    KeyHistory state (putAttesterKey state attester record) := by
  intro other old found
  by_cases own : other = attester
  · subst own
    exact ⟨record, update_self _ _ _, (follows old found).imp_right .inr⟩
  · exact ⟨old, (update_of_ne own _ _).trans found, .inr (.inl rfl)⟩

theorem step_keyHistory :
    Yields (step host crypto ledger (env, call)) fun after => KeyHistory ledger.sas after.sas := by
  cases call with
  | registerAttesterKey =>
    refine locally_yields (.skip3 <| .bind fun version versioned => .pure (keyHistory_put fun old found => ?_))
    rw [Option.mem_def.mp found, registeredVersion, nextVersion] at versioned
    simp only [eq_ok] at versioned
    exact .inl (versioned.2 ▸ Nat.lt_succ_self _)
  | rotateAttesterKey =>
    refine locally_yields (.skip2 <| .bind fun record live => .bind fun version raised =>
      .pure (keyHistory_put fun old found => ?_))
    simp only [requireLiveKey, nextVersion, eq_ok] at live raised
    grind
  | revokeAttesterKey =>
    refine locally_yields (.skip2 <| .bind fun record live => .pure (keyHistory_put fun old found => ?_))
    simp only [requireLiveKey, eq_ok] at live
    grind
  | _ =>
    intro after success attester old found
    exact ⟨old, by rwa [step_keys rfl after success], .inr (.inl rfl)⟩

/-- A version names one key: no run removes a record or lowers its version, and under the same
version none changes the key or undoes a revocation. -/
theorem key_versions_only_rise (host : Host W) (crypto : Crypto) (start : Ledger W) (moves : List (Move W)) :
    KeyHistory start.sas (run (advance host crypto) start moves).sas := by
  refine run_related (fun before after : Ledger W => KeyHistory before.sas after.sas)
    (keyHistory_cumulative.comap _) (fun ledger move next _ success => ?_) (admissible_true start moves)
  cases move with
  | outside =>
    cases success
    exact keyHistory_cumulative.refl _
  | call => exact step_keyHistory next success

/-! ## Delegated operations -/

/-- The registry knows no group for the schema. -/
def Ungrouped (host : Host W) (ledger : Ledger W) (schemaUid : UID) : Prop :=
  ∀ registry, ledger.sas.registry = some registry ->
    (host.getSchemaFrostGroup ledger.world registry schemaUid).getD none = none

variable (host crypto env ledger attester publicKey) in
/-- The call carries a delegated operation of the attester under a key.  An item of a batch of
attestations looks for the group of its schema in the ledger that its predecessors leave. -/
inductive Presents : Call -> Prop where
  | attest attestation nonce signature (own : attestation.attester = attester)
      (ungrouped : Ungrouped host ledger attestation.schemaUid) :
      Presents (.attestByDelegation attestation nonce signature publicKey)
  | attestItem attestations nonces signatures publicKeys earlier item later
      (position : delegatedItems attestations nonces signatures publicKeys = earlier ++ item :: later)
      (own : item.attestation.attester = attester) (under : item.publicKey = publicKey)
      (ungrouped : ∀ issued, attestItems host crypto env ledger earlier = .ok issued ->
        Ungrouped host issued.2 item.attestation.schemaUid) :
      Presents (.multiAttestByDelegation attestations nonces signatures publicKeys)
  | attestScoped attestation nonce signature authorization (own : attestation.attester = attester) :
      Presents (.attestByScopedDelegation attestation nonce signature publicKey authorization)
  | revoke uid nonce signature stored (found : recordOf ledger.sas uid = some stored)
      (own : stored.attester = attester) (ungrouped : Ungrouped host ledger stored.schemaUid) :
      Presents (.revokeByDelegation uid nonce signature publicKey)
  | revokeItem uids nonces signatures publicKeys (item : RevocationItem)
      (member : item ∈ revocationItems uids nonces signatures publicKeys) stored
      (found : recordOf ledger.sas item.uid = some stored) (own : stored.attester = attester)
      (under : item.publicKey = publicKey) (ungrouped : Ungrouped host ledger stored.schemaUid) :
      Presents (.multiRevokeByDelegation uids nonces signatures publicKeys)
  | replace oldUid newData old attesterApproval recipientApproval (found : recordOf ledger.sas oldUid = some old)
      (own : old.attester = attester) (under : attesterApproval.publicKey = publicKey) :
      Presents (.replaceByDelegationConsent oldUid newData attesterApproval recipientApproval)
  | invalidate minNonce maxNonce nonce signature :
      Presents (.invalidateNoncesByDelegation attester minNonce maxNonce nonce signature publicKey)

theorem requireDelegationKey_ungrouped {schemaUid : UID} {group : Option FrostGroup}
    (ungrouped : Ungrouped host ledger schemaUid)
    (success : requireDelegationKey host ledger schemaUid attester publicKey = .ok group) :
    requireAttesterKey ledger.sas attester publicKey = .ok () := by
  simp only [requireDelegationKey, schemaFrostGroup, requireRegistry, eq_ok] at success
  rcases success with ⟨found, ⟨registry, configured, rfl⟩, binding, -⟩
  rw [ungrouped registry configured] at binding
  exact binding

theorem attestDelegated_key (ungrouped : Ungrouped host ledger attestation.schemaUid) :
    Yields (attestDelegated host crypto env ledger attestation nonce signature publicKey)
      fun _ => requireAttesterKey ledger.sas attestation.attester publicKey = .ok () :=
  .skip4 <| .bind fun _ bound => fun _ _ => requireDelegationKey_ungrouped ungrouped bound

theorem verifyRevocation_key {uid : UID} (ungrouped : Ungrouped host ledger attestation.schemaUid) :
    Yields (verifyRevocation host crypto env ledger attestation uid nonce signature publicKey)
      fun _ => requireAttesterKey ledger.sas attestation.attester publicKey = .ok () :=
  .skip <| .bind fun _ bound => fun _ _ => requireDelegationKey_ungrouped ungrouped bound

theorem Presents.checked {next : Ledger W} (presents : Presents host crypto env ledger attester publicKey call)
    (success : step host crypto ledger (env, call) = .ok next) :
    requireAttesterKey ledger.sas attester publicKey = .ok () := by
  cases presents with
  | attest attestation nonce signature own ungrouped =>
    simp only [step, ledgerOf, attestByDelegation, eq_ok] at success
    rcases success with ⟨result, ⟨-, -, attested⟩, -⟩
    rw [← own]
    exact attestDelegated_key ungrouped result attested
  | attestItem attestations nonces signatures publicKeys earlier item later position own under
      ungrouped =>
      simp only [step, ledgerOf, bind_eq_ok] at success
      rcases success with ⟨result, looped, -⟩
      rcases multiAttestByDelegation_items looped with ⟨last, all⟩
      rw [position] at all
      rcases foldlM_visits all with ⟨issued, _, reached, taken⟩
      simp only [collect, bind_eq_ok] at taken
      rcases taken with ⟨result, attested, -⟩
      have checked := attestDelegated_key (ungrouped issued reached) result attested
      have standing := items_related Standing ⟨.refl, .trans⟩
        (fun _ _ => attestDelegated_standing) reached
      rw [own, under, requireAttesterKey_ok, registeredKeyMatches, standing.keys] at checked
      exact requireAttesterKey_ok.mpr checked
  | attestScoped attestation nonce signature authorization own =>
    simp only [step, ledgerOf, attestByScopedDelegation, eq_ok] at success
    rcases success with ⟨result, ⟨-, -, -, -, checked, -⟩, -⟩
    rw [← own]
    exact checked
  | revoke uid nonce signature stored found own ungrouped =>
    simp only [step, revokeByDelegation, requireStored_eq_ok, eq_ok] at success
    rcases success with ⟨-, -, stored', ⟨-, found'⟩, verified, -⟩
    cases found.symm.trans found'
    rw [← own]
    exact verifyRevocation_key ungrouped () verified
  | revokeItem uids nonces signatures publicKeys item member stored found own under ungrouped =>
    simp only [step, multiRevokeByDelegation, eq_ok] at success
    rcases success with ⟨-, -, -, -, seen, checked, -⟩
    have verified := checkDistinct_each checked member
    simp only [requireStored_eq_ok, eq_ok] at verified
    rcases verified with ⟨stored', ⟨-, found'⟩, -, verified⟩
    cases found.symm.trans found'
    rw [← own, ← under]
    exact verifyRevocation_key ungrouped () verified
  | replace oldUid newData old attesterApproval recipientApproval found own under =>
    simp only [step, ledgerOf, replaceByDelegationConsent, requireStored_eq_ok, eq_ok] at success
    rcases success with ⟨result, ⟨-, old', ⟨-, found'⟩, -, checked, -⟩, -⟩
    cases found.symm.trans found'
    rw [← own, ← under]
    exact checked
  | invalidate =>
    simp only [step, locally, invalidateNoncesByDelegation, eq_ok] at success
    rcases success with ⟨after, ⟨-, -, checked, -⟩, -⟩
    exact checked

theorem verifyOffchainAttestation_key (ungrouped : Ungrouped host ledger attestation.schemaUid) :
    Yields (verifyOffchainAttestation host crypto env ledger attestation nonce publicKey signature)
      fun _ => requireAttesterKey ledger.sas attestation.attester publicKey = .ok () :=
  .bind fun _ bound => fun _ _ => requireDelegationKey_ungrouped ungrouped bound

/-- A key that was retired and not reinstated passes the check exactly if it is the attester's
account.  If it is not, every delegated operation of the attester under it is refused. -/
theorem retired_key_refused (host : Host W) (crypto : Crypto) (start : Ledger W)
    (moves : List (Move W)) (attester : Address) (publicKey : BytesN 32)
    (retired : OccursSince (advance host crypto) start (KeyRetired host crypto attester publicKey)
      (KeyReinstated host crypto attester publicKey) moves) :
    let reached := run (advance host crypto) start moves
    (requireAttesterKey reached.sas attester publicKey = .ok () ↔ attester = .account publicKey) ∧
    (attester ≠ .account publicKey -> (forall env call, Presents host crypto env reached attester publicKey call ->
        (step host crypto reached (env, call)).isOk = false) ∧
      forall env attestation nonce signature, attestation.attester = attester ->
        Ungrouped host reached attestation.schemaUid ->
        (verifyOffchainAttestation host crypto env reached attestation nonce publicKey signature).isOk = false) := by
  intro reached
  have accepted : requireAttesterKey reached.sas attester publicKey = .ok () ↔ attester = .account publicKey := by
    rw [requireAttesterKey_ok, unmatched_of_retired retired]
    simp
  refine ⟨accepted, fun foreign => ⟨fun env call presents => ?_, ?_⟩⟩
  · cases outcome : step host crypto reached (env, call) with
    | error failure => rfl
    | ok next => exact absurd (accepted.mp (presents.checked outcome)) foreign
  · rintro env attestation nonce signature rfl ungrouped
    cases outcome : verifyOffchainAttestation host crypto env reached attestation nonce publicKey
        signature with
    | error failure => rfl
    | ok verdict =>
      have checked := verifyOffchainAttestation_key ungrouped verdict outcome
      exact absurd (accepted.mp checked) foreign

/-! ### A rotated key, and an account's own -/

open Address (accountOfNat)

def keyRotated : List (Move Unit) :=
  keyRegistered ++ [.call (signedAt [2] 100) (.rotateAttesterKey (accountOfNat 2) groupKey)]

theorem retired_key_refused_rotated :
    let reached := run (advance okHost relayCrypto) ⟨deployed, ()⟩ keyRotated
    (step okHost relayCrypto reached (signedAt [] 100,
      .attestByDelegation (okAnswer true) 1 attesterSignature attesterKey)).isOk = false := by
  have retired : OccursSince (advance okHost relayCrypto) ⟨deployed, ()⟩
      (KeyRetired okHost relayCrypto (accountOfNat 2) attesterKey)
      (KeyReinstated okHost relayCrypto (accountOfNat 2) attesterKey) keyRotated := by
    refine occursSince_last ⟨_, _, ⟨attesterKey, 1, false⟩, rfl, .inr ⟨groupKey, ?_, rfl⟩, ?_, rfl, ?_⟩
    · decide
    · decide
    · decide
  refine ((retired_key_refused okHost relayCrypto ⟨deployed, ()⟩ keyRotated (accountOfNat 2)
    attesterKey retired).2 (by decide)).1 (signedAt [] 100) _ (.attest (okAnswer true) 1 attesterSignature rfl ?_)
  intro registry _
  rfl

/-- The digest of an invalidation of the nonces from 1 to 5 by the account of the key. -/
def invalidationDigest : BytesN 32 := 0x4e0e0f330417ad601714ecb00d727f96a8e925abeaab4a194104fcf490f7f967#256

def invalidationSignature : BytesN 64 :=
  0xc8e855e51c0b046e05ab1aeed01e7f34efb0df96388f802317028cdc4f12ab10#256 ++
    0x0f97b3716d3212e24e0a126ec25963cc87f895369fa3db350cc99a3754f96f05#256

def invalidationCrypto : Crypto :=
  { payloadCrypto.learn (delegatedNonceInvalidationTypeTag ++
      BytesN.toArray (hashDomain payloadCrypto ⟨0, .contract 8, 1⟩) ++
      Xdr.scAddress (.account attesterKey) ++ toBeBytes 1 ++ toBeBytes 5) invalidationDigest with
    ed25519Verify := (Crypto.ofTable []
      [(attesterKey, BytesN.toArray invalidationDigest, invalidationSignature)]).ed25519Verify }

/-- A call that the account of the key signs. -/
def ownCall (call : Call) : Move Unit := .call (.signedBy [.account attesterKey] 100 100 (.contract 8) (by simp)) call

def ownKeyRevoked : List (Move Unit) :=
  [.call (signedAt [1] 100) (.init (accountOfNat 1) (.contract 7)),
    ownCall (.registerAttesterKey (.account attesterKey) attesterKey),
    ownCall (.revokeAttesterKey (.account attesterKey))]

/-- The key is revoked, and a signature under it is accepted. -/
theorem revoked_key_accepted :
    let reached := run (advance okHost invalidationCrypto) ⟨deployed, ()⟩ ownKeyRevoked
    reached.sas.attesterKeys (.account attesterKey) = some ⟨attesterKey, 1, true⟩ ∧
      (step okHost invalidationCrypto reached (signedAt [] 200, .invalidateNoncesByDelegation
        (.account attesterKey) 1 5 1 invalidationSignature attesterKey)).isOk = true := by
  decide +kernel

end SorobanSas.Sas
