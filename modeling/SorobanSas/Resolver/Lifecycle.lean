import SorobanSas.Resolver.Approval
import SorobanSas.Sas.Provenance
import SorobanSas.Sas.Relay
import SorobanSas.Sas.Timestamps

namespace SorobanSas.Resolver

open Library
open Sas (Host Ledger Move Extends Accretes NoCollision SamePayload Originates Discards Enters
  admitRevocation advance recordOf stamp)

/-!
# Endorsements over the life of an attestation

The resolver leaves the data out of the digest that the endorsers sign, because the signatures
are in the data.  The digest contains the UID, however, and the service hands over no attestation
whose UID is not derived from its data.  So another set of signatures makes another digest.

The digest also contains the time.  The service hands the payload to `on_attest` as it was
submitted and writes the time of the ledger into the record afterwards.  What it hands to
`on_revoke` is the record, with the expiration time of the last renewal.  The signatures of the
issuance are therefore good for the revocation only if the payload was submitted with the time
of the ledger that took it, and the expiration time is still the one that was signed.

Nothing here depends on how the schema names the resolver: the digests are compared for whatever
the service hands over.
-/

variable {W : Type} {host : Host W} {crypto : Crypto} {ed25519 : Ed25519} {env : Env} {first second : Attestation}
  {moves : List (Move W)} {payload : Attestation} {ledger : Ledger W}

/-! ## What the digest covers -/

def uidPreimage (attestation : Attestation) : Bytes :=
  Xdr.scUid attestation.schemaUid ++ Xdr.scAddress attestation.recipient ++
    Xdr.scAddress attestation.attester ++ Xdr.scBytes attestation.data

/-- What is hashed of an attestation that the resolver is asked about. -/
def preimages (crypto : Crypto) (attestation : Attestation) : List Bytes :=
  [uidPreimage attestation, attestationPreimage crypto (attestationWithoutEndorsements attestation)]

/-- The UID is derived from the other fields, as `attest_internal` checks. -/
def DerivedUid (crypto : Crypto) (attestation : Attestation) : Prop :=
  attestation.uid = attestationUid crypto attestation.schemaUid attestation.recipient
    attestation.attester attestation.data

/-- The attestations differ at most in the data and the UID. -/
def SameClaim (first second : Attestation) : Prop := second = { first with uid := second.uid, data := second.data }

theorem endorsementDigest_eq_iff (distinct : NoCollision crypto (preimages crypto first ++ preimages crypto second)) :
    endorsementDigest crypto first = endorsementDigest crypto second ↔
      SamePayload (attestationWithoutEndorsements first) (attestationWithoutEndorsements second) := by
  constructor
  · intro same
    have preimage := distinct _ (by simp [preimages]) _ (by simp [preimages]) same
    rcases attestationPreimage_injective preimage with ⟨uid, schemaUid, time, expirationTime,
      refUid, recipient, attester, revocable, -⟩
    exact ⟨uid, schemaUid, time, expirationTime, refUid, recipient, attester, revocable, rfl⟩
  · rintro ⟨uid, schemaUid, time, expirationTime, refUid, recipient, attester, revocable, data⟩
    rw [endorsementDigest, endorsementDigest, hashAttestationStruct, hashAttestationStruct,
      attestationPreimage, attestationPreimage, uid, schemaUid, time, expirationTime, refUid,
      recipient, attester, revocable, data]

theorem digest_eq_iff_data (derived : DerivedUid crypto first) (derived' : DerivedUid crypto second)
    (same : SameClaim first second)
    (distinct : NoCollision crypto (preimages crypto first ++ preimages crypto second)) :
    endorsementDigest crypto first = endorsementDigest crypto second ↔ first.data = second.data := by
  have claim : second.schemaUid = first.schemaUid ∧ second.recipient = first.recipient ∧
      second.attester = first.attester := by
    rw [same]
    exact ⟨rfl, rfl, rfl⟩
  constructor
  · intro digests
    have uid : first.uid = second.uid := ((endorsementDigest_eq_iff distinct).mp digests).uid
    rw [derived, derived'] at uid
    have preimage : uidPreimage first = uidPreimage second :=
      distinct _ (by simp [preimages]) _ (by simp [preimages]) (congrArg UID.hash uid)
    rw [uidPreimage, uidPreimage, claim.1, claim.2.1, claim.2.2, List.append_cancel_left_eq] at preimage
    exact Xdr.scBytes_injective preimage
  · intro data
    have uid : second.uid = first.uid := by rw [derived, derived', claim.1, claim.2.1, claim.2.2, data]
    rw [same, uid, ← data]

/-- Equal data and equal digests get the same answer. -/
theorem checkApproval_congr {state : State} (data : first.data = second.data)
    (digest : endorsementDigest crypto first = endorsementDigest crypto second) :
    checkApproval crypto ed25519 state first = checkApproval crypto ed25519 state second := by
  simp only [checkApproval, resolveValidCount, data, digest]

/-! ## From issuance to revocation -/

/-- The payload was issued in this environment, and something has been stored under its UID ever
since. -/
def Issued (host : Host W) (crypto : Crypto) (start : Ledger W) (moves : List (Move W))
    (issuance : Env) (payload : Attestation) : Prop := OccursSince (advance host crypto) start
    (fun ledger move => ∃ current, Originates host crypto ledger move issuance current payload)
    (Discards host crypto payload.uid) moves

/-- Some call enters `revoke_internal`, which comes to hand this record to `on_revoke`. -/
def HandsToRevoke (host : Host W) (crypto : Crypto) (env : Env) (ledger : Ledger W) (uid : UID)
    (record : Attestation) : Prop := ∃ call current admitted, Enters host crypto env ledger call current ∧
    admitRevocation host env current uid = .ok admitted ∧ admitted.2.1 = record

/-- A version of the payload is stored under its UID. -/
def Holds (issuance : Env) (payload : Attestation) (ledger : Ledger W) : Prop :=
  ∃ record, recordOf ledger.sas payload.uid = some record ∧ Extends (stamp issuance payload) record

theorem Issued.holds {start : Ledger W} {issuance : Env} (issued : Issued host crypto start moves issuance payload) :
    Holds issuance payload (run (advance host crypto) start moves) := by
  refine OccursSince.invariant ?_ ?_ issued
  · rintro ledger move ⟨current, call, next, rfl, success, -, -, stored⟩
    rw [show commit (advance host crypto) ledger (.call issuance call) = next from commit_of_ok success]
    exact ⟨_, stored, .refl _⟩
  · rintro ledger move next ⟨record, stored, kept⟩ undiscarded success
    cases move with
    | outside =>
      cases success
      exact ⟨record, stored, kept⟩
    | call =>
      rcases (Sas.step_effect next success).fate Sas.apart_of_removes stored with ⟨new, current, follows⟩ | ⟨-, gone⟩
      · exact ⟨new, current, kept.trans follows.keeps⟩
      · refine absurd ?_ undiscarded
        rw [Discards, commit_of_ok success]
        exact gone

theorem attestInternal_accretes {attestation : Attestation} :
    Yields (Sas.attestInternal host crypto env ledger attestation) fun result =>
      Accretes ledger.sas.book result.2.sas.book := by
  intro result success uid old stored
  exact ⟨old, (Sas.attestInternal_ok success).2.keeps stored, .refl old⟩

theorem revokeInternal_accretes {uid : UID} :
    Yields (Sas.revokeInternal host env ledger uid) fun after => Accretes ledger.sas.book after.sas.book := by
  intro after success
  rcases (Sas.revokeInternal_ok success).revocable with ⟨record, stored, revocable, unrevoked, -, book⟩
  rw [book]
  exact .revoke stored revocable unrevoked

/-- Within a call no record is changed but by a revocation. -/
theorem enters_accretes {entered : Ledger W} {call : Sas.Call}
    (enters : Enters host crypto env ledger call entered) : Accretes ledger.sas.book entered.sas.book := by
  refine enters.keeps (fun before after => Accretes before.book after.book)
    (fun same _ => ?_) .trans (fun _ _ => attestInternal_accretes)
    (fun _ _ => revokeInternal_accretes) fun _ _ => .refl _
  rw [Sas.book_congr same]
  exact .refl _

theorem HandsToRevoke.record {uid : UID} {record : Attestation}
    (hands : HandsToRevoke host crypto env ledger uid record) {old : Attestation}
    (stored : recordOf ledger.sas uid = some old) :
    ∃ new, Extends old new ∧ record = { new with revocationTime := env.timestamp } := by
  rcases hands with ⟨call, current, admitted, enters, reached, rfl⟩
  rcases enters_accretes enters uid old stored with ⟨new, present, kept⟩
  simp only [admitRevocation, Sas.enterCallbackContext, Sas.requireStored_eq_ok, eq_ok] at reached
  rcases reached with ⟨entered, ⟨-, rfl⟩, found, ⟨-, read⟩, -, -, _, -, _, -, _, -, _, -, rfl⟩
  cases (present.symm.trans read : some new = some found)
  exact ⟨new, kept, rfl⟩

theorem digest_eq_iff_time {start : Ledger W} {issuance : Env} {record : Attestation}
    (issued : Issued host crypto start moves issuance payload)
    (hands : HandsToRevoke host crypto env (run (advance host crypto) start moves) payload.uid record)
    (distinct : NoCollision crypto (preimages crypto record ++ preimages crypto payload)) :
    record.data = payload.data ∧ (endorsementDigest crypto record = endorsementDigest crypto payload ↔
        payload.time = issuance.timestamp ∧ record.expirationTime = payload.expirationTime) := by
  rcases issued.holds with ⟨old, stored, kept⟩
  rcases hands.record stored with ⟨new, further, rfl⟩
  have same := kept.trans further
  refine ⟨same.data, (endorsementDigest_eq_iff distinct).trans ⟨fun terms => ?_, fun terms => ?_⟩⟩
  · exact ⟨terms.time.symm.trans same.time, terms.expirationTime⟩
  · exact ⟨same.uid, same.schemaUid, same.time.trans terms.1.symm, terms.2, same.refUid,
      same.recipient, same.attester, same.revocable, rfl⟩

/-- Two attestations of one claim that the service hands over have the same digest exactly if they
carry the same endorsements.  And an attestation that was issued has the same digest when its
revocation is asked for exactly if it was submitted with the time of the ledger and still has the
expiration time it was submitted with; then, under an unchanged configuration, the resolver
answers as it did at the issuance. -/
theorem endorsements_survive_iff (host : Host W) (crypto : Crypto) (ed25519 : Ed25519) :
    (forall first second, DerivedUid crypto first -> DerivedUid crypto second -> SameClaim first second ->
      NoCollision crypto (preimages crypto first ++ preimages crypto second) ->
      (endorsementDigest crypto first = endorsementDigest crypto second ↔ first.data = second.data)) ∧
    (forall world moves issuance payload env record,
      Issued host crypto ⟨Sas.State.deployed, world⟩ moves issuance payload -> HandsToRevoke host crypto env
        (run (advance host crypto) ⟨Sas.State.deployed, world⟩ moves) payload.uid record ->
      NoCollision crypto (preimages crypto record ++ preimages crypto payload) ->
      (endorsementDigest crypto record = endorsementDigest crypto payload ↔
        payload.time = issuance.timestamp ∧ record.expirationTime = payload.expirationTime) ∧
      (endorsementDigest crypto record = endorsementDigest crypto payload -> forall state,
        onRevoke crypto ed25519 state record = onAttest crypto ed25519 state payload)) := by
  refine ⟨fun _ _ => digest_eq_iff_data, ?_⟩
  intro world moves issuance payload env record issued hands distinct
  rcases digest_eq_iff_time issued hands distinct with ⟨data, digests⟩
  exact ⟨digests, fun same _ => checkApproval_congr data same⟩

/-! ### A small ledger

The resolver of the schema `bool ok` is one that asks for the signature of key 1. -/

open Address (accountOfNat)
open Sas (signedAt)

/-- The host of the small ledger, with this resolver. -/
def endorsingHost (crypto : Crypto) (ed25519 : Ed25519) : Host State :=
  { (Sas.okHost : Host State) with
    onAttest := fun _ world _ attestation =>
      if (onAttest crypto ed25519 world attestation).isOk then some world else none
    onRevoke := fun _ world _ attestation =>
      if (onRevoke crypto ed25519 world attestation).isOk then some world else none }

/-- Account 2 about account 3, with signature 9 by key 1 and the UID 77. -/
def endorsedAnswer (time : UInt64) : Attestation :=
  { Sas.okAnswer true with
    uid := UID.ofNat 77
    time := time
    data := BytesN.toArray (1 : BytesN 32) ++ BytesN.toArray (9 : BytesN 64) }

/-- The same claim before anybody has signed it. -/
def plainAnswer : Attestation := { endorsedAnswer 0 with uid := UID.ofNat 78, data := [] }

/-- The digests of these attestations, submitted at the times 0 and 100. -/
def answerDigests : Crypto :=
  ((((okDigests.learn (uidPreimage (endorsedAnswer 0)) (UID.ofNat 77).hash).learn
    (uidPreimage plainAnswer) (UID.ofNat 78).hash).learn
    (attestationPreimage okDigests (attestationWithoutEndorsements plainAnswer)) 1000).learn
    (attestationPreimage okDigests (attestationWithoutEndorsements (endorsedAnswer 0))) 1001).learn
    (attestationPreimage okDigests (attestationWithoutEndorsements (endorsedAnswer 100))) 1002

/-- The service with a resolver for which signature 9 is one of the digest at this time. -/
def answerHost (time : UInt64) : Host State :=
  endorsingHost answerDigests (.ofTable
    [(1, BytesN.toArray (endorsementDigest answerDigests (endorsedAnswer time)), 9)])

def answerLedger : Ledger State := ⟨Sas.State.deployed, ⟨some ⟨1, [1]⟩⟩⟩

def answerOpened : List (Move State) := [.call (signedAt [1] 100) (.init (accountOfNat 1) (.contract 7))]

/-- Account 2 submits the answer with this time in ledger 100. -/
def answerGiven (time : UInt64) : List (Move State) :=
  answerOpened ++ [.call (signedAt [2] 100) (.attest (endorsedAnswer time))]

def answerStored (time : UInt64) : Ledger State :=
  run (advance (answerHost time) answerDigests) answerLedger (answerGiven time)

/-- What is handed to `on_revoke` in ledger 200. -/
def revokedAnswer : Attestation := { endorsedAnswer 100 with revocationTime := 200 }

/-- The answer is stored with the time of the ledger, and handed over with it. -/
def Answered (time : UInt64) : Prop :=
  recordOf (run (advance (answerHost time) answerDigests) answerLedger answerOpened).sas
      (UID.ofNat 77) = none ∧ recordOf (answerStored time).sas (UID.ofNat 77) = some (endorsedAnswer 100) ∧
    (admitRevocation (answerHost time) (signedAt [2] 200) (answerStored time)
      (UID.ofNat 77)).toOption.map (fun admitted => admitted.2.1) = some revokedAnswer

theorem Answered.issued {time : UInt64} (answered : Answered time) :
    Issued (answerHost time) answerDigests answerLedger (answerGiven time) (signedAt [2] 100)
      (endorsedAnswer time) := by
  rcases answered with ⟨absent, stored, -⟩
  refine occursSince_last ⟨_, .attest (endorsedAnswer time), answerStored time, rfl, ?_, .attest _, absent, stored⟩
  have next : answerStored time = commit (advance (answerHost time) answerDigests)
      (run (advance (answerHost time) answerDigests) answerLedger answerOpened)
      (.call (signedAt [2] 100) (.attest (endorsedAnswer time))) := run_concat _ _ _
  cases outcome : advance (answerHost time) answerDigests
      (run (advance (answerHost time) answerDigests) answerLedger answerOpened)
      (.call (signedAt [2] 100) (.attest (endorsedAnswer time))) with
  | ok after =>
    rw [next, commit_of_ok outcome]
    exact outcome
  | error failure =>
    rw [next, commit_of_error outcome, absent] at stored
    cases stored

theorem Answered.handed {time : UInt64} (answered : Answered time) :
    HandsToRevoke (answerHost time) answerDigests (signedAt [2] 200) (answerStored time)
      (UID.ofNat 77) revokedAnswer := by
  rcases answered with ⟨-, -, handed⟩
  cases outcome : admitRevocation (answerHost time) (signedAt [2] 200) (answerStored time) (UID.ofNat 77) with
  | ok admitted =>
    rw [outcome] at handed
    exact ⟨.revoke (UID.ofNat 77), _, admitted, .revoke _, outcome, Option.some.inj handed⟩
  | error failure =>
    rw [outcome] at handed
    cases handed

/-- Submitted with the time of the ledger, the answer has one digest. -/
theorem endorsements_survive_iff_punctual :
    endorsementDigest answerDigests revokedAnswer = endorsementDigest answerDigests (endorsedAnswer 100) := by
  have distinct : NoCollision answerDigests
      (preimages answerDigests revokedAnswer ++ preimages answerDigests (endorsedAnswer 100)) := by
    unfold NoCollision
    decide +kernel
  have answered : Answered 100 := by
    unfold Answered
    decide +kernel
  exact ((endorsements_survive_iff (answerHost 100) answerDigests (.ofTable [])).2 ⟨some ⟨1, [1]⟩⟩
    (answerGiven 100) (signedAt [2] 100) (endorsedAnswer 100) (signedAt [2] 200) revokedAnswer
    answered.issued answered.handed distinct).1.mpr ⟨rfl, rfl⟩

/-- The signature changes the digest that it is to sign.  And submitted with the time 0, the
answer is accepted with its signature in ledger 100, and its revocation is refused. -/
theorem endorsements_outdated : (DerivedUid answerDigests plainAnswer ∧ DerivedUid answerDigests (endorsedAnswer 0) ∧
      SameClaim plainAnswer (endorsedAnswer 0) ∧ NoCollision answerDigests
        (preimages answerDigests plainAnswer ++ preimages answerDigests (endorsedAnswer 0)) ∧
      endorsementDigest answerDigests plainAnswer ≠ endorsementDigest answerDigests (endorsedAnswer 0)) ∧
    Issued (answerHost 0) answerDigests answerLedger (answerGiven 0) (signedAt [2] 100) (endorsedAnswer 0) ∧
    HandsToRevoke (answerHost 0) answerDigests (signedAt [2] 200) (answerStored 0) (UID.ofNat 77) revokedAnswer ∧
    NoCollision answerDigests (preimages answerDigests revokedAnswer ++ preimages answerDigests (endorsedAnswer 0)) ∧
    endorsementDigest answerDigests revokedAnswer ≠ endorsementDigest answerDigests (endorsedAnswer 0) ∧
    (Sas.step (answerHost 0) answerDigests (answerStored 0)
      (signedAt [2] 200, .revoke (UID.ofNat 77))).isOk = false := by
  have answered : Answered 0 ∧ (Sas.step (answerHost 0) answerDigests (answerStored 0)
      (signedAt [2] 200, .revoke (UID.ofNat 77))).isOk = false := by
    unfold Answered
    decide +kernel
  refine ⟨⟨?_, ?_, ?_, ?_, ?_⟩, answered.1.issued, answered.1.handed, ?_, ?_, answered.2⟩
  · unfold DerivedUid
    decide +kernel
  · unfold DerivedUid
    decide +kernel
  · rfl
  · unfold NoCollision
    decide +kernel
  · decide +kernel
  · unfold NoCollision
    decide +kernel
  · decide +kernel

end SorobanSas.Resolver
