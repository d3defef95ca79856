import SorobanSas.Sas.AppendOnly

namespace SorobanSas.Sas

open Library List
open Relation (ReflTransGen)

/-!
# Revocation and the timestamp anchors

Issuance and revocation each leave an anchor with the ledger's timestamp.  In the register
the anchors agree with the record beside them, provided that records enter it unrevoked.

`attest_internal` does not look at `revocation_time`.  The delegated entry points reject a
payload that carries one and the broadcasts build their own payload, but `attest`,
`attest_with_zk`, `attest_with_value`, `multi_attest` and both replacements store whatever
the caller put there.  The agreement therefore holds in the runs where those calls carry
zero, and one call that does not is enough to break it.
-/

variable {W : Type} {host : Host W} {crypto : Crypto} {env : Env} {before after : Book}
  {prunes : Prop} {asked : Attestation -> Prop} {attestation : Attestation} {moves : List (Move W)} {uid : UID}

/-! ## Agreement on a page -/

/-- The anchors of a page say what its record says. -/
structure Agrees (page : Page) (attestation : Attestation) : Prop where
  issued : ∃ anchor, page.issuance = some anchor ∧ anchor.ledgerTimestamp = attestation.time
  revoked : attestation.revocationTime ≠ 0 ↔ page.revocation ≠ none
  dated : ∀ anchor, page.revocation = some anchor -> attestation.revocationTime = anchor.ledgerTimestamp ∧
      attestation.time <= attestation.revocationTime

/-- A page whose anchors agree with its record, issued by `now`.  Without a record there is
no revocation anchor, so that a record issued under the UID starts unrevoked. -/
structure Page.Settled (now : UInt64) (page : Page) : Prop where
  agrees : ∀ attestation, page.attestation = some attestation -> Agrees page attestation
  issuedBy : ∀ attestation, page.attestation = some attestation -> attestation.time <= now
  clean : page.attestation = none -> page.revocation = none

def Anchored (now : UInt64) (book : Book) : Prop := ∀ uid, (book uid).Settled now

namespace Anchored

theorem blank (now : UInt64) : Anchored now fun _ => .blank := fun _ => ⟨nofun, nofun, fun _ => rfl⟩

theorem mono {earlier later : UInt64} {book : Book} (anchored : Anchored earlier book)
    (passed : earlier <= later) : Anchored later book := by
  intro uid
  refine { anchored uid with issuedBy := fun attestation stored => ?_ }
  exact UInt64.le_trans ((anchored uid).issuedBy attestation stored) passed

theorem update {now : UInt64} {book : Book} {page : Page} (anchored : Anchored now book)
    (settled : page.Settled now) : Anchored now (Function.update book uid page) :=
  (Function.forall_update_iff book fun _ current => current.Settled now).mpr ⟨settled, fun other _ => anchored other⟩

theorem revision (positive : 0 < env.timestamp) (revised : Revision env prunes before after)
    (anchored : Anchored env.timestamp before) : Anchored env.timestamp after := by
  cases revised with
  | revoke uid attestation stored =>
    have old := (anchored uid).agrees attestation stored
    have issuedBy := (anchored uid).issuedBy attestation stored
    refine anchored.update ⟨?_, ?_, nofun⟩
    · rintro current ⟨⟩
      refine ⟨old.issued, ?_, ?_⟩
      · exact iff_of_true (UInt64.ne_of_lt positive).symm nofun
      · rintro anchor ⟨⟩
        exact ⟨rfl, issuedBy⟩
    · rintro current ⟨⟩
      exact issuedBy
  | renew uid attestation expirationTime stored =>
    have old := (anchored uid).agrees attestation stored
    refine anchored.update ⟨?_, ?_, nofun⟩
    · rintro current ⟨⟩
      exact ⟨old.issued, old.revoked, old.dated⟩
    · rintro current ⟨⟩
      exact (anchored uid).issuedBy attestation stored
  | prune => exact anchored.update ⟨nofun, nofun, fun _ => rfl⟩

theorem issue (unrevoked : ∀ attestation, asked attestation -> attestation.revocationTime = 0)
    (issued : Issue crypto env asked before after) (anchored : Anchored env.timestamp before) :
    Anchored env.timestamp after := by
  cases issued with
  | issue attestation issuable intended =>
    have clean := (anchored attestation.uid).clean issuable.absent
    refine anchored.update ⟨?_, ?_, nofun⟩
    · rintro current ⟨⟩
      refine ⟨⟨anchorOf env, rfl, issuable.stamped.symm⟩, ?_, ?_⟩
      · exact iff_of_false (fun nonzero => nonzero (unrevoked _ intended))
          fun nonempty => nonempty clean
      · intro anchor present
        exact nomatch clean.symm.trans present
    · rintro current ⟨⟩
      exact UInt64.le_of_eq issuable.stamped

end Anchored

theorem absent_of_revisions (revisions : ReflTransGen (Revision env prunes) before after)
    (absent : (before uid).attestation = none) : (after uid).attestation = none :=
  (congrArg Page.attestation (page_of_revisions revisions absent)).trans absent

theorem Effect.added (effect : Effect crypto env prunes asked before after)
    (absent : (before uid).attestation = none) (stored : (after uid).attestation = some attestation) :
    asked attestation := by
  rcases effect with ⟨middle, revisions, issuances⟩
  have still : (middle uid).attestation = none := absent_of_revisions revisions absent
  induction issuances with
  | refl => exact nomatch still.symm.trans stored
  | tail _ issued ih =>
    cases issued with
    | issue added issuable intended =>
      rcases Book.issue_cases stored with ⟨-, ⟨⟩⟩ | ⟨-, stored⟩
      · exact intended
      · exact ih stored

/-! ## Runs -/

/-- The payloads that a call brings are unrevoked.  Only the entry points that do not check
this themselves are listed. -/
def Call.Unrevoked : Call -> Prop
  | .attest payload => payload.revocationTime = 0
  | .attestWithZk payload _ _ => payload.revocationTime = 0
  | .attestWithValue payload _ _ => payload.revocationTime = 0
  | .multiAttest payloads => ∀ payload ∈ payloads, payload.revocationTime = 0
  | .replaceAttestation _ newData => newData.revocationTime = 0
  | .replaceByDelegationConsent _ newData _ _ => newData.revocationTime = 0
  | _ => True

theorem Call.Unrevoked.asks {call : Call} (unrevoked : call.Unrevoked) {issued : Attestation}
    (asked : call.asks crypto env issued) : issued.revocationTime = 0 := by
  cases call with
  | attest | attestWithZk | attestWithValue | replaceAttestation | replaceByDelegationConsent =>
    cases asked
    exact unrevoked
  | attestByDelegation | attestByScopedDelegation =>
    rcases asked with ⟨zero, rfl⟩
    exact zero
  | multiAttest =>
    rcases asked with ⟨payload, member, rfl⟩
    exact unrevoked payload member
  | multiAttestByDelegation =>
    rcases asked with ⟨payload, member, zero, rfl⟩
    exact zero
  | broadcastAttest =>
    rcases asked with ⟨attester, recipient, member, rfl⟩
    rfl
  | broadcastAttestByAttester =>
    rcases asked with ⟨recipient, member, rfl⟩
    rfl
  | _ => exact asked.elim

/-- The timestamps of the calls of a run, in order. -/
def timestamps (moves : List (Move W)) : List UInt64 :=
  moves.filterMap fun
    | .call env _ => some env.timestamp
    | .outside _ => none

/-- Positive timestamps that do not decrease. -/
def Chronological (moves : List (Move W)) : Prop :=
  (timestamps moves).Pairwise (· <= ·) ∧ ∀ time ∈ timestamps moves, 0 < time

-- The quantifier ranges over the list, not over all timestamps.
instance (moves : List (Move W)) : Decidable (Chronological moves) :=
  @instDecidableAnd _ _ inferInstance (List.decidableBAll (0 < ·) (timestamps moves))

theorem timestamps_append (first second : List (Move W)) :
    timestamps (first ++ second) = timestamps first ++ timestamps second := filterMap_append

theorem Chronological.of_append {first second : List (Move W)}
    (clock : Chronological (first ++ second)) : Chronological first := by
  rw [Chronological, timestamps_append] at clock
  exact ⟨(List.pairwise_append.mp clock.1).1, fun time member => clock.2 time (mem_append_left _ member)⟩

theorem Chronological.last {call : Call} (clock : Chronological (moves ++ [.call env call])) :
    0 < env.timestamp ∧ ∀ time ∈ timestamps moves, time <= env.timestamp := by
  have now : env.timestamp ∈ timestamps [Move.call (W := W) env call] := mem_singleton_self _
  rw [Chronological, timestamps_append] at clock
  exact ⟨clock.2 _ (mem_append_right _ now), fun time member => (List.pairwise_append.mp clock.1).2.2 time member _ now⟩

def Move.Unrevoked : Move W -> Prop
  | .call _ invocation => invocation.Unrevoked
  | .outside _ => True

/-- There is a time by which all calls have been made. -/
theorem exists_bound (times : List UInt64) : ∃ now, ∀ time ∈ times, time <= now := by
  induction times with
  | nil => exact ⟨0, nofun⟩
  | cons first rest ih =>
    rcases ih with ⟨bound, passed⟩
    rcases UInt64.le_total first bound with later | earlier
    · exact ⟨bound, List.forall_mem_cons.mpr ⟨later, passed⟩⟩
    · exact ⟨first, List.forall_mem_cons.mpr ⟨UInt64.le_refl first,
        fun time member => UInt64.le_trans (passed time member) earlier⟩⟩

/-- What holds after the moves of a run, if they are in order. -/
def AnchoredAfter (moves : List (Move W)) (ledger : Ledger W) : Prop :=
  Chronological moves -> ∀ now, (∀ time ∈ timestamps moves, time <= now) -> Anchored now ledger.sas.book

theorem anchored_run (host : Host W) (crypto : Crypto) (world : W) (unrevoked : ∀ move ∈ moves, move.Unrevoked) :
    AnchoredAfter moves (run (advance host crypto) ⟨deployed, world⟩ moves) := by
  have admissible : Admissible (advance host crypto) (fun _ move => move.Unrevoked) ⟨deployed, world⟩ moves :=
    admissible_of_forall (fun move member _ => unrevoked move member) _
  refine trail_invariant ?_ ?_ ?_ admissible
  · exact fun _ now _ => .blank now
  · intro moves move next earlier allowed success clock now passed
    rw [timestamps_append] at passed
    cases move with
    | outside =>
      cases success
      exact earlier clock.of_append now fun time member => passed time (mem_append_left _ member)
    | call env =>
      have before := earlier clock.of_append env.timestamp clock.last.2
      have after : Anchored env.timestamp next.sas.book :=
        (step_effect next success).keeps (Anchored env.timestamp) (fun _ _ => Anchored.revision clock.last.1)
          (fun _ _ => Anchored.issue fun _ => Call.Unrevoked.asks allowed) before
      exact after.mono (passed _ (mem_append_right _ (mem_singleton_self _)))
  · intro moves move failure earlier aborted clock now passed
    rw [timestamps_append] at passed
    exact earlier clock.of_append now fun time member => passed time (mem_append_left _ member)

theorem advance_added {ledger next : Ledger W} {move : Move W} (unrevoked : move.Unrevoked)
    (success : advance host crypto ledger move = .ok next) (absent : recordOf ledger.sas uid = none)
    (stored : recordOf next.sas uid = some attestation) : attestation.revocationTime = 0 := by
  cases move with
  | outside =>
    cases success
    exact nomatch absent.symm.trans stored
  | call => exact unrevoked.asks ((step_effect next success).added absent stored)

/-- In every run from the deployment whose calls bring unrevoked payloads, the anchors of
every stored record agree with it, and every record is unrevoked when it first appears. -/
theorem anchors_agree (host : Host W) (crypto : Crypto) (world : W) (moves : List (Move W))
    (clock : Chronological moves) (unrevoked : forall move, move ∈ moves -> move.Unrevoked) :
    (forall uid attestation, recordOf (run (advance host crypto) ⟨deployed, world⟩ moves).sas uid = some attestation ->
      Agrees ((run (advance host crypto) ⟨deployed, world⟩ moves).sas.book uid) attestation) ∧
    (forall earlier move later uid attestation, moves = earlier ++ move :: later ->
      recordOf (run (advance host crypto) ⟨deployed, world⟩ earlier).sas uid = none ->
      recordOf (run (advance host crypto) ⟨deployed, world⟩ (earlier ++ [move])).sas uid = some attestation ->
      attestation.revocationTime = 0) := by
  constructor
  · intro uid attestation stored
    rcases exists_bound (timestamps moves) with ⟨now, passed⟩
    have anchored := anchored_run host crypto world unrevoked clock now passed
    exact (anchored uid).agrees attestation stored
  · intro earlier move later uid attestation split absent stored
    have member : move ∈ moves := split ▸ mem_append_right _ mem_cons_self
    rw [run_concat] at stored
    cases outcome : advance host crypto (run (advance host crypto) ⟨deployed, world⟩ earlier)
        move with
    | ok next =>
      rw [commit_of_ok outcome] at stored
      exact advance_added (unrevoked move member) outcome absent stored
    | error failure =>
      rw [commit_of_error outcome] at stored
      exact nomatch absent.symm.trans stored

open Address (accountOfNat)

theorem anchors_agree_revoked : Chronological (okIssued ++ [.call (signedAt [2] 200) (.revoke (okAnswer true).uid)]) ∧
      Agrees ((run (advance okHost answerCrypto) ⟨deployed, ()⟩
          (okIssued ++ [.call (signedAt [2] 200) (.revoke (okAnswer true).uid)])).sas.book (okAnswer true).uid)
        { okAnswer true with time := 100, revocationTime := 200 } :=
  ⟨by decide, (anchors_agree okHost answerCrypto () _ (by decide)
      (by simp [okIssued, Move.Unrevoked, Call.Unrevoked, okAnswer])).1 _ _ (by decide)⟩

/-- Account 2 answers with a payload that is already revoked. -/
def bornRevoked : List (Move Unit) :=
  [.call (signedAt [1] 100) (.init (accountOfNat 1) (.contract 7)),
    .call (signedAt [2] 100) (.attest { okAnswer true with revocationTime := 5 })]

/-- The record is stored as revoked, at a time before it was issued, without an anchor. -/
theorem anchors_disagree :
    let ledger := run (advance okHost answerCrypto) ⟨deployed, ()⟩ bornRevoked
    Chronological bornRevoked ∧ recordOf ledger.sas (okAnswer true).uid =
        some { okAnswer true with time := 100, revocationTime := 5 } ∧
      (ledger.sas.book (okAnswer true).uid).revocation = none := by
  decide

end SorobanSas.Sas
