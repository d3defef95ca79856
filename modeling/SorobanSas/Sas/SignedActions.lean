import SorobanSas.Sas.Relay

namespace SorobanSas.Sas

open Library List
open BytesN (toArray toArray_injective)

/-!
# Signed actions

Five kinds of actions can be authorized by a signature, and each has a digest of its own.  A
digest is taken of a type tag and of fields without delimiters: integers and hashes of a fixed
width, addresses in an encoding none of which is the start of another one, and a scope that
says by its first byte how long it is.

Two digests are equal only if the actions are of the same kind and agree in every field that
is signed.  The struct of an attestation covers neither `valid_from` nor `revocation_time`,
so those are not among them.  Of SHA-256 it is only assumed that the byte strings hashed for
these two actions do not collide.
-/

variable {crypto : Crypto} {first second : AttestationDomain} {messages : List Bytes}

theorem bytesN_prefixFree {length : Nat} : PrefixFree (toArray : BytesN length -> Bytes) :=
  .of_width BytesN.length_toArray fun _ _ same => toArray_injective same

theorem uid_prefixFree : PrefixFree (fun uid : UID => toArray uid.hash) := by
  intro first second rest other same
  rcases bytesN_prefixFree.read same with ⟨hash, rests⟩
  cases first
  cases second
  exact ⟨congrArg _ hash, rests⟩

theorem toBeBytes_prefixFree : PrefixFree toBeBytes :=
  .of_width length_toBeBytes fun _ _ same => toBeBytes_injective same

theorem scAddress_prefixFree : PrefixFree Xdr.scAddress := fun _ _ _ _ same => Xdr.scAddress_append_injective same

theorem permissions_prefixFree : PrefixFree (fun permissions : UInt32 => bigEndian 4 permissions.toNat) := by
  refine .of_width (fun _ => length_bigEndian 4 _) fun first second same => ?_
  have bounded (value : UInt32) : value.toNat < 256 ^ 4 := value.toNat_lt
  exact UInt32.toNat_inj.mp (bigEndian_injective (bounded first) (bounded second) same)

/-- The first byte of a scope says whether a schema follows. -/
theorem scopeBytes_prefixFree : PrefixFree scopeBytes := by
  intro first second rest other same
  cases first with
  | any =>
    cases second with
    | any => exact ⟨rfl, append_cancel_left same⟩
    | only => cases same
  | only =>
    cases second with
    | any => cases same
    | only =>
      simp only [scopeBytes, append_assoc, append_cancel_left_eq] at same
      rcases uid_prefixFree.read same with ⟨rfl, rests⟩
      exact ⟨rfl, rests⟩

/-- What `hash_domain` hashes. -/
def domainPreimage (domain : AttestationDomain) : Bytes :=
  domainTypeTag ++ toArray domain.networkId ++ Xdr.scAddress domain.contract ++ toBeBytes domain.nonce

theorem domainPreimage_injective (same : domainPreimage first = domainPreimage second) : first = second := by
  simp only [domainPreimage, append_assoc, append_cancel_left_eq] at same
  rcases bytesN_prefixFree.read same with ⟨network, same⟩
  rcases scAddress_prefixFree.read same with ⟨contract, same⟩
  have nonce := toBeBytes_injective same
  cases first
  cases second
  exact AttestationDomain.mk.injEq .. |>.mpr ⟨network, contract, nonce⟩

/-! ## Actions -/

/-- The kinds of actions, with the tag that their digest starts from. -/
inductive ActionKind where
  | attestation
  | scopedAttestation
  | revocation
  | replacementConsent
  | nonceInvalidation
  deriving DecidableEq

def ActionKind.tag : ActionKind -> Bytes
  | .attestation => payloadPrefix
  | .scopedAttestation => scopedDelegationTypeTag
  | .revocation => delegatedRevocationTypeTag
  | .replacementConsent => delegatedReplacementConsentTypeTag
  | .nonceInvalidation => delegatedNonceInvalidationTypeTag

set_option maxRecDepth 1000 in
/-- The tags differ within the length of each, so that no two of them start the same string.
Two of them share their first twenty-two bytes. -/
theorem ActionKind.tag_separates {first second : ActionKind} {rest other : Bytes}
    (same : first.tag ++ rest = second.tag ++ other) : first = second := by
  have start : first.tag.take (min first.tag.length second.tag.length) =
      second.tag.take (min first.tag.length second.tag.length) := by
    have taken := congrArg (List.take (min first.tag.length second.tag.length)) same
    rwa [take_append_of_le_length (Nat.min_le_left _ _), take_append_of_le_length (Nat.min_le_right _ _)] at taken
  have separated : ∀ one two : ActionKind, one.tag.take (min one.tag.length two.tag.length) =
      two.tag.take (min one.tag.length two.tag.length) -> one = two := by
    intro one two
    cases one <;> cases two <;> decide
  exact separated first second start

/-- An action that a signature may authorize. -/
inductive SignedAction where
  | attestation (attestation : Attestation) (domain : AttestationDomain)
  | scopedAttestation (attestation : Attestation) (domain : AttestationDomain)
      (authorization : DelegationAuthorization)
  | revocation (uid : UID) (attester : Address) (domain : AttestationDomain)
  | replacementConsent (oldUid : UID) (newAttestation : Attestation) (domain : ReplacementConsentDomain)
  | nonceInvalidation (attester : Address) (minNonce maxNonce : UInt64) (domain : AttestationDomain)

namespace SignedAction

def kind : SignedAction -> ActionKind
  | .attestation .. => .attestation
  | .scopedAttestation .. => .scopedAttestation
  | .revocation .. => .revocation
  | .replacementConsent .. => .replacementConsent
  | .nonceInvalidation .. => .nonceInvalidation

def digest (crypto : Crypto) : SignedAction -> BytesN 32
  | .attestation payload domain => hashOffchainAttestation crypto payload domain
  | .scopedAttestation payload domain authorization =>
    hashScopedAttestation crypto payload domain authorization
  | .revocation uid attester domain => hashDelegatedRevocation crypto uid attester domain
  | .replacementConsent oldUid newAttestation domain =>
    hashDelegatedReplacementConsent crypto oldUid newAttestation domain
  | .nonceInvalidation attester minNonce maxNonce domain =>
    hashDelegatedNonceInvalidation crypto attester minNonce maxNonce domain

/-- What follows the tag. -/
def fields (crypto : Crypto) : SignedAction -> Bytes
  | .attestation payload domain =>
    toArray (hashDomain crypto domain) ++ toArray (hashAttestationStruct crypto payload)
  | .scopedAttestation payload domain authorization =>
    toArray (hashOffchainAttestation crypto payload domain) ++
      (scopeBytes authorization.schemaScope ++ (bigEndian 4 authorization.permissions.toNat ++
        toBeBytes authorization.validUntil))
  | .revocation uid attester domain =>
    toArray (hashDomain crypto domain) ++ (toArray uid.hash ++ Xdr.scAddress attester)
  | .replacementConsent oldUid newAttestation domain =>
    toArray domain.networkId ++ (Xdr.scAddress domain.contract ++
      (toBeBytes domain.attesterNonce ++ (toBeBytes domain.recipientNonce ++ (toArray oldUid.hash ++
          toArray (hashAttestationStruct crypto newAttestation)))))
  | .nonceInvalidation attester minNonce maxNonce domain =>
    toArray (hashDomain crypto domain) ++ (Xdr.scAddress attester ++ (toBeBytes minNonce ++ toBeBytes maxNonce))

/-- The byte strings that are hashed on the way to the digest, and last the one whose digest
it is. -/
def preimages (crypto : Crypto) (action : SignedAction) : List Bytes :=
  (match action with
    | .attestation payload domain =>
      [payload.data, attestationPreimage crypto payload, domainPreimage domain]
    | .scopedAttestation payload domain _ =>
      [payload.data, attestationPreimage crypto payload, domainPreimage domain, offchainPreimage crypto payload domain]
    | .revocation _ _ domain => [domainPreimage domain]
    | .replacementConsent _ newAttestation _ =>
      [newAttestation.data, attestationPreimage crypto newAttestation]
    | .nonceInvalidation _ _ _ domain => [domainPreimage domain]) ++ [action.kind.tag ++ action.fields crypto]

/-- The actions are the same as far as they are signed. -/
inductive Same : SignedAction -> SignedAction -> Prop where
  | attestation first second (domain : AttestationDomain) (payload : SamePayload first second) :
      Same (.attestation first domain) (.attestation second domain)
  | scopedAttestation first second (domain : AttestationDomain) authorization (payload : SamePayload first second) :
      Same (.scopedAttestation first domain authorization) (.scopedAttestation second domain authorization)
  | revocation uid attester (domain : AttestationDomain) :
      Same (.revocation uid attester domain) (.revocation uid attester domain)
  | replacementConsent oldUid first second (domain : ReplacementConsentDomain) (payload : SamePayload first second) :
      Same (.replacementConsent oldUid first domain) (.replacementConsent oldUid second domain)
  | nonceInvalidation attester minNonce maxNonce (domain : AttestationDomain) :
      Same (.nonceInvalidation attester minNonce maxNonce domain)
        (.nonceInvalidation attester minNonce maxNonce domain)

theorem digest_eq (action : SignedAction) :
    action.digest crypto = crypto.sha256 (action.kind.tag ++ action.fields crypto) := by
  cases action with
  | attestation | scopedAttestation => rfl
  | revocation =>
    simp only [digest, hashDelegatedRevocation, kind, ActionKind.tag, fields, append_assoc]
  | replacementConsent =>
    simp only [digest, hashDelegatedReplacementConsent, replacementPreimage, kind, ActionKind.tag, fields, append_assoc]
  | nonceInvalidation =>
    simp only [digest, hashDelegatedNonceInvalidation, kind, ActionKind.tag, fields, append_assoc]

theorem Same.digest_eq {first second : SignedAction} (same : Same first second) :
    first.digest crypto = second.digest crypto := by
  have struct {one two : Attestation} (payload : SamePayload one two) :
      hashAttestationStruct crypto one = hashAttestationStruct crypto two := by
    simp only [hashAttestationStruct, attestationPreimage, payload.uid, payload.schemaUid,
      payload.time, payload.expirationTime, payload.refUid, payload.recipient, payload.attester,
      payload.revocable, payload.data]
  cases same with
  | attestation one two domain payload =>
    simp only [digest, hashOffchainAttestation, offchainPreimage, struct payload]
  | scopedAttestation one two domain authorization payload =>
    simp only [digest, hashScopedAttestation, scopedPreimage, hashOffchainAttestation, offchainPreimage, struct payload]
  | replacementConsent oldUid one two domain payload =>
    simp only [digest, hashDelegatedReplacementConsent, replacementPreimage, struct payload]
  | revocation | nonceInvalidation => rfl

end SignedAction

/-! ## What a digest fixes -/

section Binding

theorem domain_of_hash (distinct : NoCollision crypto messages) (one : domainPreimage first ∈ messages)
    (two : domainPreimage second ∈ messages) (same : hashDomain crypto first = hashDomain crypto second) :
    first = second := domainPreimage_injective (distinct _ one _ two same)

theorem offchain_binds {first second : Attestation} {domain domain' : AttestationDomain}
    (distinct : NoCollision crypto messages)
    (one : [first.data, attestationPreimage crypto first, domainPreimage domain] ⊆ messages)
    (two : [second.data, attestationPreimage crypto second, domainPreimage domain'] ⊆ messages)
    (same : offchainPreimage crypto first domain = offchainPreimage crypto second domain') :
    domain = domain' ∧ SamePayload first second := by
  simp only [cons_subset, nil_subset, and_true] at one two
  rw [offchainPreimage, offchainPreimage, append_cancel_left_eq] at same
  rcases bytesN_prefixFree.read same with ⟨domains, structs⟩
  refine ⟨domain_of_hash distinct one.2.2 two.2.2 domains, ?_⟩
  exact .of_struct distinct one.1 two.1 one.2.1 two.2.1 (toArray_injective structs)

end Binding

open SignedAction in
/-- Behind equal tags the fields are read one after another. -/
theorem same_of_fields {first second : SignedAction} (distinct : NoCollision crypto messages)
    (one : first.preimages crypto ⊆ messages) (two : second.preimages crypto ⊆ messages)
    (kinds : first.kind = second.kind) (fieldsEq : first.fields crypto = second.fields crypto) :
    Same first second := by
  cases first with
  | attestation payload domain =>
    cases second with
    | attestation payload' =>
      simp only [preimages, cons_append, nil_append, cons_subset] at one two
      rcases offchain_binds distinct (by simp [one]) (by simp [two])
        (congrArg (payloadPrefix ++ ·) fieldsEq) with ⟨rfl, same⟩
      exact .attestation payload payload' domain same
    | _ => cases kinds
  | scopedAttestation payload domain authorization =>
    cases second with
    | scopedAttestation payload' domain' authorization' =>
      simp only [preimages, cons_append, nil_append, cons_subset] at one two
      rcases bytesN_prefixFree.read fieldsEq with ⟨digests, grants⟩
      rcases scopeBytes_prefixFree.read grants with ⟨scope, limits⟩
      rcases permissions_prefixFree.read limits with ⟨permissions, deadline⟩
      rcases offchain_binds distinct (by simp [one]) (by simp [two])
        (distinct _ one.2.2.2.1 _ two.2.2.2.1 digests) with ⟨rfl, same⟩
      cases authorization
      cases authorization'
      cases scope
      cases permissions
      cases toBeBytes_injective deadline
      exact .scopedAttestation payload payload' domain _ same
    | _ => cases kinds
  | revocation uid attester domain =>
    cases second with
    | revocation =>
      simp only [preimages, cons_append, nil_append, cons_subset] at one two
      rcases bytesN_prefixFree.read fieldsEq with ⟨domains, rest⟩
      rcases uid_prefixFree.read rest with ⟨rfl, attesters⟩
      cases scAddress_prefixFree.injective attesters
      cases domain_of_hash distinct one.1 two.1 domains
      exact .revocation uid attester domain
    | _ => cases kinds
  | replacementConsent oldUid payload domain =>
    cases second with
    | replacementConsent oldUid' payload' domain' =>
      simp only [preimages, cons_append, nil_append, cons_subset] at one two
      rcases bytesN_prefixFree.read fieldsEq with ⟨network, contracts⟩
      rcases scAddress_prefixFree.read contracts with ⟨contract, attesterNonces⟩
      rcases toBeBytes_prefixFree.read attesterNonces with ⟨attesterNonce, recipientNonces⟩
      rcases toBeBytes_prefixFree.read recipientNonces with ⟨recipientNonce, replaced⟩
      rcases uid_prefixFree.read replaced with ⟨rfl, structs⟩
      cases domain
      cases domain'
      cases network
      cases contract
      cases attesterNonce
      cases recipientNonce
      exact .replacementConsent oldUid payload payload' _ (.of_struct distinct one.1 two.1
        one.2.1 two.2.1 (toArray_injective structs))
    | _ => cases kinds
  | nonceInvalidation attester minNonce maxNonce domain =>
    cases second with
    | nonceInvalidation =>
      simp only [preimages, cons_append, nil_append, cons_subset] at one two
      rcases bytesN_prefixFree.read fieldsEq with ⟨domains, attesters⟩
      rcases scAddress_prefixFree.read attesters with ⟨rfl, nonces⟩
      rcases toBeBytes_prefixFree.read nonces with ⟨rfl, last⟩
      cases toBeBytes_injective last
      cases domain_of_hash distinct one.1 two.1 domains
      exact .nonceInvalidation attester minNonce maxNonce domain
    | _ => cases kinds

/-- Two digests are equal exactly if the actions are of one kind and agree in all that is
signed. -/
theorem signed_digest_binds (crypto : Crypto) (first second : SignedAction)
    (distinct : NoCollision crypto (first.preimages crypto ++ second.preimages crypto)) :
    first.digest crypto = second.digest crypto ↔ SignedAction.Same first second := by
  refine ⟨fun same => ?_, SignedAction.Same.digest_eq⟩
  rw [first.digest_eq, second.digest_eq] at same
  have outer := distinct _ (by simp [SignedAction.preimages]) _ (by simp [SignedAction.preimages])
    same
  have kinds := ActionKind.tag_separates outer
  rw [kinds, append_cancel_left_eq] at outer
  exact same_of_fields distinct (subset_append_left _ _) (subset_append_right _ _) kinds
    outer

/-- An answer signed for a plain delegation is not the same answer signed under a scope. -/
theorem signed_digest_binds_scoped : SignedAction.digest relayCrypto
        (.attestation (okAnswer true) (delegationDomain (signedAt [] 100) 1)) ≠
      SignedAction.digest relayCrypto (.scopedAttestation (okAnswer true)
        (delegationDomain (signedAt [] 100) 1) ⟨.any, 1, 0⟩) := by
  have distinct := signed_digest_binds relayCrypto
    (.attestation (okAnswer true) (delegationDomain (signedAt [] 100) 1))
    (.scopedAttestation (okAnswer true) (delegationDomain (signedAt [] 100) 1) ⟨.any, 1, 0⟩)
    (by unfold NoCollision; decide +kernel)
  intro same
  cases distinct.mp same

end SorobanSas.Sas
