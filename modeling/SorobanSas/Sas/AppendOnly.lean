import SorobanSas.Sas.Outcomes
import SorobanSas.Registry.Ownership

namespace SorobanSas.Sas

open Library

/-!
# Stored attestations are append-only

Between two points of a run a stored record may be revoked once, if it is revocable, and its
expiration may move later.  Nothing else about it changes, and it does not disappear unless
`prune_expired` removes it.

The relation `Extends` says this of a record.  It is shown across each revision and each
issuance of the register, so that it holds across every call and then across every run.
-/

variable {W : Type} {host : Host W} {crypto : Crypto} {env : Env} {attestation : Attestation}
  {expirationTime : UInt64} {before after : Book}

/-- What a later version of a record keeps of an earlier one. -/
structure Extends (old new : Attestation) : Prop where
  uid : new.uid = old.uid
  schemaUid : new.schemaUid = old.schemaUid
  recipient : new.recipient = old.recipient
  attester : new.attester = old.attester
  data : new.data = old.data
  refUid : new.refUid = old.refUid
  revocable : new.revocable = old.revocable
  time : new.time = old.time
  validFrom : new.validFrom = old.validFrom
  revoked : old.revocationTime ≠ 0 -> new.revocationTime = old.revocationTime
  irrevocable : old.revocable = false -> new.revocationTime = old.revocationTime
  prolongs : Prolongs old.expirationTime new.expirationTime

namespace Extends

theorem refl (attestation : Attestation) : Extends attestation attestation :=
  ⟨rfl, rfl, rfl, rfl, rfl, rfl, rfl, rfl, rfl, fun _ => rfl, fun _ => rfl, .refl _⟩

theorem trans {first middle last : Attestation} (one : Extends first middle)
    (two : Extends middle last) : Extends first last where
  uid := two.uid.trans one.uid
  schemaUid := two.schemaUid.trans one.schemaUid
  recipient := two.recipient.trans one.recipient
  attester := two.attester.trans one.attester
  data := two.data.trans one.data
  refUid := two.refUid.trans one.refUid
  revocable := two.revocable.trans one.revocable
  time := two.time.trans one.time
  validFrom := two.validFrom.trans one.validFrom
  revoked := by
    intro nonzero
    have same := one.revoked nonzero
    exact (two.revoked (same ▸ nonzero)).trans same
  irrevocable := by
    intro fixed
    exact (two.irrevocable (one.revocable.trans fixed)).trans (one.irrevocable fixed)
  prolongs := one.prolongs.trans two.prolongs

theorem revoke (revocable : attestation.revocable = true) (unrevoked : attestation.revocationTime = 0) (time : UInt64) :
    Extends attestation { attestation with revocationTime := time } where
  uid := rfl
  schemaUid := rfl
  recipient := rfl
  attester := rfl
  data := rfl
  refUid := rfl
  revocable := rfl
  time := rfl
  validFrom := rfl
  revoked := fun nonzero => absurd unrevoked nonzero
  irrevocable := fun fixed => Bool.noConfusion (revocable.symm.trans fixed)
  prolongs := .refl _

theorem renew (prolongs : Prolongs attestation.expirationTime expirationTime) :
    Extends attestation { attestation with expirationTime := expirationTime } :=
  ⟨rfl, rfl, rfl, rfl, rfl, rfl, rfl, rfl, rfl, fun _ => rfl, fun _ => rfl, prolongs⟩

end Extends

/-! ## Across the register -/

/-- Every record of the first book has a later version in the second. -/
def Accretes (before after : Book) : Prop :=
  ∀ uid old, (before uid).attestation = some old -> ∃ new, (after uid).attestation = some new ∧ Extends old new

namespace Accretes

theorem refl (book : Book) : Accretes book book := fun _ old stored => ⟨old, stored, .refl old⟩

theorem trans {first middle last : Book} (one : Accretes first middle)
    (two : Accretes middle last) : Accretes first last := by
  intro uid old stored
  rcases one uid old stored with ⟨halfway, kept, near⟩
  rcases two uid halfway kept with ⟨new, current, further⟩
  exact ⟨new, current, near.trans further⟩

variable {book : Book} {uid : UID}

theorem update {page : Page} (rewritten : ∀ old, (book uid).attestation = some old ->
      ∃ new, page.attestation = some new ∧ Extends old new) : Accretes book (Function.update book uid page) := by
  intro other old stored
  by_cases same : other = uid
  · subst same
    rw [Function.update_self]
    exact rewritten old stored
  · rw [Function.update_of_ne same]
    exact ⟨old, stored, .refl old⟩

theorem revoke (stored : (book uid).attestation = some attestation)
    (revocable : attestation.revocable = true) (unrevoked : attestation.revocationTime = 0) :
    Accretes book (book.revoke env uid attestation) := by
  apply update
  intro old found
  cases stored.symm.trans found
  exact ⟨_, rfl, .revoke revocable unrevoked _⟩

theorem renew (stored : (book uid).attestation = some attestation)
    (prolongs : Prolongs attestation.expirationTime expirationTime) :
    Accretes book (book.renew uid attestation expirationTime) := by
  apply update
  intro old found
  cases stored.symm.trans found
  exact ⟨_, rfl, .renew prolongs⟩

theorem revision (revised : Revision env False before after) : Accretes before after := by
  cases revised with
  | revoke uid attestation stored revocable unrevoked => exact .revoke stored revocable unrevoked
  | renew uid attestation expirationTime stored revocable unrevoked live prolongs =>
    exact .renew stored prolongs
  | prune uid attestation stored expired allowed => exact allowed.elim

theorem issue {asked : Attestation -> Prop} (issued : Issue crypto env asked before after) : Accretes before after := by
  cases issued with
  | issue attestation issuable =>
    exact update fun old found => by cases issuable.absent.symm.trans found

end Accretes

/-! ## Across runs -/

/-- The move is not a call of `prune_expired`. -/
def Move.keeps : Move W -> Bool
  | .call _ invocation => !invocation.removes
  | .outside _ => true

theorem advance_accretes {ledger next : Ledger W} {move : Move W} (keeps : move.keeps = true)
    (success : advance host crypto ledger move = .ok next) : Accretes ledger.sas.book next.sas.book := by
  cases move with
  | outside =>
    cases success
    exact .refl _
  | call env call =>
    have effect := step_effect next success
    have unpruned : (call.removes = true) = False := by simpa [Move.keeps] using keeps
    rw [unpruned] at effect
    exact effect.related Accretes ⟨.refl, .trans⟩ (fun _ _ => .revision) (fun _ _ => .issue)

/-- At every point of a run that comes later and is reached without pruning, a stored record
is still there, and it extends what it was. -/
theorem attestation_append_only (host : Host W) (crypto : Crypto) (start : Ledger W)
    (earlier later : List (Move W)) (unpruned : forall env uids, Move.call env (.pruneExpired uids) ∉ later)
    (uid : UID) (old : Attestation) (stored : recordOf (run (advance host crypto) start earlier).sas uid = some old) :
    ∃ new, recordOf (run (advance host crypto) start (earlier ++ later)).sas uid = some new ∧ Extends old new := by
  have keeps : ∀ move ∈ later, forall _ : Ledger W, move.keeps = true := by
    intro move member _
    cases move with
    | outside => rfl
    | call env call =>
      cases call with
      | pruneExpired uids => exact absurd member (unpruned env uids)
      | _ => rfl
  have admissible : Admissible (advance host crypto) (fun _ move => move.keeps = true)
      (run (advance host crypto) start earlier) later := admissible_of_forall keeps _
  rw [run_append]
  exact run_related (fun first last : Ledger W => Accretes first.sas.book last.sas.book)
    ⟨fun _ => .refl _, .trans⟩ (fun _ _ _ => advance_accretes) admissible uid old
    stored

/-! ### A small ledger

A registry at contract 7 that knows the schema `bool ok` of account 2, and a resolver, an
indexer and tokens that accept everything.  The service itself is contract 8. -/

open Address (accountOfNat)
open Registry (okSchemaUid)

def okHost : Host W where
  isRegistry := fun _ callee => callee = .contract 7
  getSchema := fun _ _ uid => .ok (if uid = okSchemaUid then
    some ⟨okSchemaUid, .contract 9, true, ascii "bool ok", false, none⟩ else none)
  isSchemaQuarantined := fun _ _ _ => some false
  getMaxTtl := fun _ _ _ => some 0
  isAuthorized := fun _ _ _ uid address => some (uid = okSchemaUid && address = accountOfNat 2)
  isAttesterAuthorized := fun _ _ _ _ => some false
  isSchemaRestricted := fun _ _ _ => some false
  getSchemaPolicy := fun _ _ _ => some .permissive
  getCreator := fun _ _ uid => some (if uid = okSchemaUid then some (accountOfNat 2) else none)
  getCreatorRoyalty := fun _ _ _ => some 0
  getSchemaFrostGroup := fun _ _ _ => some none
  onAttest := fun _ world _ _ => some world
  onRevoke := fun _ world _ _ => some world
  indexAttestation := fun _ world _ _ => some world
  setValidFrom := fun _ world _ _ _ => some world
  handleRevoke := fun _ world _ _ => some world
  handleReplace := fun _ world _ _ _ => some world
  handleRenew := fun _ world _ _ _ => some world
  verifyProof := fun _ world _ _ _ => some (true, world)
  transfer := fun _ world _ _ _ _ => .ok world
  balance := fun _ _ _ => .ok 0

/-- The answer of account 2 about account 3, under the digest of that answer. -/
def okAnswer (answer : Bool) : Attestation where
  uid := ⟨if answer then 0x91a21935be61d5a092fb4f5eefe8d5d56a8191a8ae1f15d0d75e74e584d54081#256
    else 0x6e7d8eed970616cccc39666d3af33eb459dd2fcda99685da0698d7bb37494425#256⟩
  schemaUid := okSchemaUid
  time := 0
  expirationTime := 0
  revocationTime := 0
  refUid := UID.zero
  recipient := accountOfNat 3
  attester := accountOfNat 2
  revocable := true
  data := [boolByte answer]
  validFrom := 0

/-- What the digest of an answer is taken of. -/
def okAnswerPreimage (answer : Bool) : Bytes :=
  Xdr.scUid okSchemaUid ++ Xdr.scAddress (accountOfNat 3) ++ Xdr.scAddress (accountOfNat 2) ++
    Xdr.scBytes [boolByte answer]

def answerCrypto : Crypto :=
  .ofTable [(okAnswerPreimage true, (okAnswer true).uid.hash), (okAnswerPreimage false, (okAnswer false).uid.hash)] []

/-- A call of the service that the accounts with these numbers sign. -/
def signedAt (signers : List Nat) (timestamp : UInt64) : Env :=
  .signedBy (signers.map accountOfNat) timestamp timestamp.toNat (.contract 8)
    (by simp [accountOfNat])

/-- Account 1 initialises the service, and account 2 answers. -/
def okIssued : List (Move Unit) :=
  [.call (signedAt [1] 100) (.init (accountOfNat 1) (.contract 7)), .call (signedAt [2] 100) (.attest (okAnswer true))]

theorem attestation_append_only_revoked : ∃ new, recordOf (run (advance okHost answerCrypto) ⟨deployed, ()⟩
        (okIssued ++ [.call (signedAt [2] 200) (.revoke (okAnswer true).uid)])).sas (okAnswer true).uid = some new ∧
      Extends { okAnswer true with time := 100 } new :=
  attestation_append_only okHost answerCrypto ⟨deployed, ()⟩ okIssued
    [.call (signedAt [2] 200) (.revoke (okAnswer true).uid)] (by simp) (okAnswer true).uid
    { okAnswer true with time := 100 } rfl

end SorobanSas.Sas
