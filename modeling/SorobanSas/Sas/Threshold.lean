import SorobanSas.Sas.AppendOnly

namespace SorobanSas.Sas

open Library

/-!
# Threshold endorsement

A schema may declare a FROST group, so that a delegated operation under it needs a signature
of the group.  Six entry points act on an off-chain signature.  Four of them look the group
up and bind the signature to its key.  `attest_by_scoped_delegation` and
`replace_by_delegation_consent` bind the key to the attester instead, through the account or
a registered key, and never ask for the group.

An endorsement is what such a call carries for one record: the schema it acts under, the
signed digest, the key and the signature.  A batch carries one for each item, each judged in
the ledger in which its item is processed.
-/

variable {W : Type} {host : Host W} {crypto : Crypto} {env : Env} {ledger current : Ledger W}
  {group : FrostGroup} {item : DelegatedItem}

/-! ## Endorsements -/

/-- The attester's side of a delegated operation on one record. -/
structure Endorsement where
  schemaUid : UID
  digest : BytesN 32
  publicKey : BytesN 32
  signature : BytesN 64

/-- The signature verifies under a key, as `verify_offchain_signature` decides it. -/
def Endorsement.VerifiesUnder (crypto : Crypto) (endorsement : Endorsement) (publicKey : BytesN 32) : Prop :=
  verifyOffchainSignature crypto endorsement.digest publicKey endorsement.signature = .ok ()

/-- What an item of `multi_attest_by_delegation` is endorsed by. -/
def DelegatedItem.endorsement (crypto : Crypto) (env : Env) (item : DelegatedItem) : Endorsement :=
  ⟨item.attestation.schemaUid, hashOffchainAttestation crypto item.attestation (delegationDomain env item.nonce),
    item.publicKey, item.signature⟩

/-- The endorsement of a revocation, under the schema of the stored record. -/
def revocationEndorsement (crypto : Crypto) (env : Env) (stored : Attestation) (item : RevocationItem) : Endorsement :=
  ⟨stored.schemaUid, hashDelegatedRevocation crypto item.uid stored.attester (delegationDomain env item.nonce),
    item.publicKey, item.signature⟩

/-- The loop of `multi_attest_by_delegation`, over some of its items. -/
def attestItems (host : Host W) (crypto : Crypto) (env : Env) (ledger : Ledger W)
    (items : List DelegatedItem) : Except Trap (List UID × Ledger W) :=
  collectAll (attestDelegatedItem host crypto env) items ([], ledger.raised)

variable (host crypto env ledger) in
/-- The call acts in `current` on the strength of an endorsement.  A replacement acts under
the schema of the record it revokes and under that of the record it issues. -/
inductive Endorses : Call -> Ledger W -> Endorsement -> Prop where
  | attest (item : DelegatedItem) :
      Endorses (.attestByDelegation item.attestation item.nonce item.signature item.publicKey) ledger
        (item.endorsement crypto env)
  | attestScoped attestation nonce signature publicKey authorization :
      Endorses (.attestByScopedDelegation attestation nonce signature publicKey authorization) ledger
        ⟨attestation.schemaUid, hashScopedAttestation crypto attestation (delegationDomain env nonce) authorization,
        publicKey, signature⟩
  | attestItem attestations nonces signatures publicKeys earlier item later
      (position : delegatedItems attestations nonces signatures publicKeys = earlier ++ item :: later) issued
      (reached : attestItems host crypto env ledger earlier = .ok issued) :
      Endorses (.multiAttestByDelegation attestations nonces signatures publicKeys) issued.2
        (item.endorsement crypto env)
  | revoke (item : RevocationItem) stored (found : recordOf ledger.sas item.uid = some stored) :
      Endorses (.revokeByDelegation item.uid item.nonce item.signature item.publicKey) ledger
        (revocationEndorsement crypto env stored item)
  | revokeItem uids nonces signatures publicKeys (item : RevocationItem)
      (member : item ∈ revocationItems uids nonces signatures publicKeys) stored
      (found : recordOf ledger.sas item.uid = some stored) :
      Endorses (.multiRevokeByDelegation uids nonces signatures publicKeys) ledger
        (revocationEndorsement crypto env stored item)
  | replace oldUid newData old attesterApproval recipientApproval (found : recordOf ledger.sas oldUid = some old)
      schemaUid (under : schemaUid = old.schemaUid ∨ schemaUid = newData.schemaUid) :
      Endorses (.replaceByDelegationConsent oldUid newData attesterApproval recipientApproval) ledger ⟨schemaUid,
        hashDelegatedReplacementConsent crypto oldUid newData
          ⟨env.networkId, env.currentContract, attesterApproval.nonce, recipientApproval.nonce⟩,
        attesterApproval.publicKey, attesterApproval.signature⟩

def DeclaresGroup (host : Host W) (ledger : Ledger W) (schemaUid : UID) (group : FrostGroup) : Prop :=
  ∃ registry, ledger.sas.registry = some registry ∧
    host.getSchemaFrostGroup ledger.world registry schemaUid = some (some group)

/-- The entry points that never ask for the group. -/
def Call.skipsGroup : Call -> Bool
  | .attestByScopedDelegation .. | .replaceByDelegationConsent .. => true
  | _ => false

/-! ## The group-aware binding -/

/-- Key binding and signature check together demand the group's key. -/
theorem requireDelegationKey_group {schemaUid : UID} {attester : Address} {publicKey : BytesN 32}
    (declared : DeclaresGroup host ledger schemaUid group) {bound : Option FrostGroup}
    (success : requireDelegationKey host ledger schemaUid attester publicKey = .ok bound) :
    bound = some group ∧ publicKey = group.groupPublicKey := by
  rcases declared with ⟨registry, configured, answer⟩
  simp only [requireDelegationKey, schemaFrostGroup, requireRegistry, eq_ok] at success
  rcases success with ⟨found, ⟨registry', configured', rfl⟩, binding, rfl⟩
  cases configured.symm.trans configured'
  rw [answer] at binding ⊢
  exact ⟨rfl, require_eq_ok.mp binding⟩

theorem attestDelegated_endorsed {result : UID × Ledger W}
    (declared : DeclaresGroup host ledger item.attestation.schemaUid group)
    (success : attestDelegated host crypto env ledger item.attestation item.nonce item.signature
      item.publicKey = .ok result) : (item.endorsement crypto env).VerifiesUnder crypto group.groupPublicKey := by
  simp only [attestDelegated, eq_ok] at success
  rcases success with ⟨-, -, -, -, bound, binding, verified, -⟩
  cases (requireDelegationKey_group declared binding).1
  exact verified

theorem verifyRevocation_endorsed {stored : Attestation} {item : RevocationItem}
    (declared : DeclaresGroup host ledger stored.schemaUid group)
    (success : verifyRevocation host crypto env ledger stored item.uid item.nonce item.signature
      item.publicKey = .ok ()) : (revocationEndorsement crypto env stored item).VerifiesUnder crypto
      group.groupPublicKey := by
  simp only [verifyRevocation, eq_ok] at success
  rcases success with ⟨-, bound, binding, verified⟩
  cases (requireDelegationKey_group declared binding).1
  exact verified

/-- The first pass of a batch of revocations checks every item. -/
theorem checkDistinct_each {ι : Type} {uidOf : ι -> UID} {check : ι -> Except Trap Unit}
    {items : List ι} {seen : List UID} (success : checkDistinct uidOf check items = .ok seen)
    {item : ι} (member : item ∈ items) : check item = .ok () := by
  rcases List.append_of_mem member with ⟨earlier, later, rfl⟩
  rcases foldlM_visits success with ⟨state, next, -, taken⟩
  simp only [eq_ok] at taken
  exact taken.2.1

theorem attestItems_endorsed {earlier : List DelegatedItem} {later : List DelegatedItem}
    {issued last : List UID × Ledger W} (reached : attestItems host crypto env ledger earlier = .ok issued)
    (declared : DeclaresGroup host issued.2 item.attestation.schemaUid group)
    (success : attestItems host crypto env ledger (earlier ++ item :: later) = .ok last) :
    (item.endorsement crypto env).VerifiesUnder crypto group.groupPublicKey := by
  rcases foldlM_visits success with ⟨state, next, visited, taken⟩
  cases Except.ok.inj (reached.symm.trans visited)
  simp only [collect, bind_eq_ok] at taken
  rcases taken with ⟨result, attested, -⟩
  exact attestDelegated_endorsed declared attested

/-! ## The six entry points -/

theorem multiAttestByDelegation_items {attestations : List Attestation} {nonces : List UInt64}
    {signatures : List (BytesN 64)} {publicKeys : List (BytesN 32)} {result : List UID × Ledger W}
    (success : multiAttestByDelegation host crypto env ledger attestations nonces signatures publicKeys = .ok result) :
    ∃ last, attestItems host crypto env ledger
      (delegatedItems attestations nonces signatures publicKeys) = .ok last := by
  simp only [multiAttestByDelegation, enterReentrancyGuard, eq_ok] at success
  rcases success with ⟨-, -, -, guarded, ⟨-, rfl⟩, last, looped, -⟩
  exact ⟨last, looped⟩

/-- The four group-aware entry points demand a signature of the group. -/
theorem Endorses.enforced {next : Ledger W} {call : Call} {endorsement : Endorsement}
    (endorses : Endorses host crypto env ledger call current endorsement)
    (aware : call.skipsGroup = false) (success : step host crypto ledger (env, call) = .ok next)
    (declared : DeclaresGroup host current endorsement.schemaUid group) :
    endorsement.VerifiesUnder crypto group.groupPublicKey := by
  cases endorses with
  | attest =>
    simp only [step, ledgerOf, attestByDelegation, eq_ok] at success
    rcases success with ⟨result, ⟨-, -, attested⟩, -⟩
    exact attestDelegated_endorsed declared attested
  | attestItem attestations nonces signatures publicKeys earlier item later position issued reached =>
    simp only [step, ledgerOf, bind_eq_ok] at success
    rcases success with ⟨result, looped, -⟩
    rcases multiAttestByDelegation_items looped with ⟨last, all⟩
    rw [position] at all
    exact attestItems_endorsed reached declared all
  | revoke item stored found =>
    simp only [step, revokeByDelegation, requireStored_eq_ok, eq_ok] at success
    rcases success with ⟨-, -, stored', ⟨-, found'⟩, verified, -⟩
    cases found.symm.trans found'
    exact verifyRevocation_endorsed declared verified
  | revokeItem uids nonces signatures publicKeys item member stored found =>
    simp only [step, multiRevokeByDelegation, eq_ok] at success
    rcases success with ⟨-, -, -, -, seen, checked, -⟩
    have verified := checkDistinct_each checked member
    simp only [requireStored_eq_ok, eq_ok] at verified
    rcases verified with ⟨stored', ⟨-, found'⟩, -, verified⟩
    cases found.symm.trans found'
    exact verifyRevocation_endorsed declared verified
  | attestScoped => cases aware
  | replace => cases aware

/-- The other two demand a signature under the key they are given. -/
theorem Endorses.selfSigned {next : Ledger W} {call : Call} {endorsement : Endorsement}
    (endorses : Endorses host crypto env ledger call current endorsement)
    (skips : call.skipsGroup = true) (success : step host crypto ledger (env, call) = .ok next) :
    endorsement.VerifiesUnder crypto endorsement.publicKey := by
  cases endorses with
  | attestScoped =>
    simp only [step, ledgerOf, attestByScopedDelegation, eq_ok] at success
    rcases success with ⟨result, ⟨-, -, -, -, -, -, verified, -⟩, -⟩
    exact verified
  | replace =>
    simp only [step, ledgerOf, replaceByDelegationConsent, eq_ok] at success
    rcases success with ⟨result, ⟨-, old', -, -, -, -, verified, -⟩, -⟩
    exact verified
  | attest | attestItem | revoke | revokeItem => cases skips

/-- A delegated operation under a schema with a group is endorsed by the group exactly when
its entry point asks for the group or the key it carries is the group's.  `binding` says of
this one signature that it does not verify under two different keys. -/
theorem threshold_endorsed_iff (host : Host W) (crypto : Crypto) (env : Env)
    (ledger current next : Ledger W) (call : Call) (endorsement : Endorsement)
    (group : FrostGroup) (success : step host crypto ledger (env, call) = .ok next)
    (endorses : Endorses host crypto env ledger call current endorsement)
    (declared : DeclaresGroup host current endorsement.schemaUid group)
    (binding : endorsement.VerifiesUnder crypto endorsement.publicKey ->
      endorsement.VerifiesUnder crypto group.groupPublicKey -> endorsement.publicKey = group.groupPublicKey) :
    endorsement.VerifiesUnder crypto group.groupPublicKey ↔
      (call.skipsGroup = true -> endorsement.publicKey = group.groupPublicKey) := by
  constructor
  · intro endorsed skips
    exact binding (endorses.selfSigned skips success) endorsed
  · intro condition
    cases skips : call.skipsGroup with
    | false => exact endorses.enforced skips success declared
    | true => exact condition skips ▸ endorses.selfSigned skips success

/-! ### Signed answers

Account 2 registers a key of its own, and the schema `bool ok` declares a group of three
signers, two of whom make a signature.  The digests below are those of the answers' payloads
under nonce 1, each computed from the ones before it. -/

open Address (accountOfNat)
open Registry (okSchemaUid)

def attesterKey : BytesN 32 := 0x8a88e3dd7409f195fd52db2d3cba5d72ca6709bf1d94121bf3748801b40f6f5c#256

def groupKey : BytesN 32 := 0x8139770ea87d175f56a35466c34c7ecccb8d8a91b4ee37a25df60f5b8fc9b394#256

def groupedHost : Host W :=
  { okHost with
    getSchemaFrostGroup := fun _ _ uid => some (if uid = okSchemaUid then some ⟨groupKey, 2, 3⟩ else none) }

/-- `SHA-256` of the one-byte payloads and of the domain of nonce 1. -/
def payloadCrypto : Crypto :=
  ((answerCrypto.learn [1] 0x4bf5122f344554c53bde2ebb8cd2b7e3d1600ad631c385a5d7cce23c7785459a#256).learn [0]
      0x6e340b9cffb37a989ca544e6bb780a2c78901d3fb33738768511a30617afa01d#256).learn
    (domainTypeTag ++ BytesN.toArray (0 : BytesN 32) ++ Xdr.scAddress (.contract 8) ++ toBeBytes 1)
    0x37826ca70d2ede4a5c4ac0f1e3cf3a83d5b5665c72b4893ca88716cf79c856d2#256

def structCrypto : Crypto :=
  payloadCrypto.learn (attestationPreimage payloadCrypto (okAnswer true))
    0x82c9846ed2911b6793791abe6755d08e18a6c076e26e2692123609b8ff83ffe6#256

/-- The digest that `attest_by_delegation` verifies for the answer. -/
def answerDigest : BytesN 32 := 0xd876a8573efde6adcb321a4cb0f813562a5e3ed08505fd18c17cc17f5b90d435#256

def offchainCrypto : Crypto :=
  structCrypto.learn (offchainPreimage structCrypto (okAnswer true) ⟨0, .contract 8, 1⟩)
    answerDigest

/-- The digest that `attest_by_scoped_delegation` verifies for the answer. -/
def scopedDigest : BytesN 32 := 0x58d498d87061781673f5d0c137c5fda0f7ada10d82d0c871ee06dafc6f123a80#256

/-- The signature of the group on the first digest, and of account 2 on both. -/
def groupSignature : BytesN 64 :=
  0xf6ee4c6df28b592d80fce7fd6967df1e43e5994e2419391e526082c9e58fdd24#256 ++
    0x8e84d20195006b261661bff9a588805de4d0139e11907552b8597e6c93569306#256

def attesterSignature : BytesN 64 :=
  0x0ed2a30490fa94e49e0a6f3de401acb4cf22fb33e86b25be0716daaa7a72bc97#256 ++
    0xbba8765ffcfae6db21588e5fd736a0c8fabb71bc65e1742e6081494e079e630f#256

def scopedSignature : BytesN 64 :=
  0x64abaacf36e00f2c11de36a42a9bb2462144a51be315596c6cce89abf1ee281e#256 ++
    0xac7bb51ed6e2a4b7d99cc71a11ee33f568dea57147bfff93a6718c45ff6df208#256

def relayCrypto : Crypto :=
  { offchainCrypto.learn (scopedPreimage offchainCrypto (okAnswer true) ⟨0, .contract 8, 1⟩ ⟨.any, 1, 0⟩)
      scopedDigest with
    ed25519Verify := (Crypto.ofTable [] [(groupKey, BytesN.toArray answerDigest, groupSignature),
        (attesterKey, BytesN.toArray answerDigest, attesterSignature),
        (attesterKey, BytesN.toArray scopedDigest, scopedSignature)]).ed25519Verify }

/-- Account 1 initialises the service, and account 2 registers its key. -/
def keyRegistered : List (Move Unit) :=
  [.call (signedAt [1] 100) (.init (accountOfNat 1) (.contract 7)),
    .call (signedAt [2] 100) (.registerAttesterKey (accountOfNat 2) attesterKey)]

theorem threshold_endorsed_iff_group : (DelegatedItem.endorsement relayCrypto (signedAt [] 100)
      ⟨okAnswer true, 1, groupSignature, groupKey⟩).VerifiesUnder relayCrypto groupKey :=
  (threshold_endorsed_iff groupedHost relayCrypto (signedAt [] 100)
    (run (advance groupedHost relayCrypto) ⟨deployed, ()⟩ keyRegistered) _ _ _ _
    ⟨groupKey, 2, 3⟩ (commit_ok (by decide +kernel))
    (.attest ⟨okAnswer true, 1, groupSignature, groupKey⟩) ⟨.contract 7, by decide +kernel, rfl⟩
    fun _ _ => rfl).mpr fun _ => rfl

/-- A relayer issues the answer under account 2's own signature. -/
def scopedRelay : Move Unit :=
  .call (signedAt [] 100) (.attestByScopedDelegation (okAnswer true) 1 scopedSignature attesterKey ⟨.any, 1, 0⟩)

/-- The schema has a group, the call succeeds and stores the record, and the signature does
not verify under the group's key. -/
theorem threshold_bypassed :
    let ledger := run (advance groupedHost relayCrypto) ⟨deployed, ()⟩ keyRegistered
    let after := run (advance groupedHost relayCrypto) ⟨deployed, ()⟩
      (keyRegistered ++ [scopedRelay])
    groupedHost.getSchemaFrostGroup ledger.world (.contract 7) okSchemaUid = some (some ⟨groupKey, 2, 3⟩) ∧
      ledger.sas.registry = some (.contract 7) ∧ (advance groupedHost relayCrypto ledger scopedRelay).isOk = true ∧
      recordOf after.sas (okAnswer true).uid = some { okAnswer true with time := 100 } ∧
      (verifyOffchainSignature relayCrypto (hashScopedAttestation relayCrypto (okAnswer true)
        (delegationDomain (signedAt [] 100) 1) ⟨.any, 1, 0⟩) groupKey scopedSignature).isOk = false := by
  decide +kernel

end SorobanSas.Sas
