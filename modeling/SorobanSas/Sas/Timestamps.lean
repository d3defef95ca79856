import SorobanSas.Sas.Guard
import SorobanSas.Sas.Queries
import SorobanSas.Sas.Validity

namespace SorobanSas.Sas

open Library List
open Relation (ReflTransGen)

/-!
# Timestamp claims

`check_claim` compares a claimed ledger with the two anchors of a UID.  What an anchor means is
decided by the run: the ledger of the call that stored the record which is still there, and the
ledger of the call that set its revocation time.  The anchors say exactly that, because a record
that is removed takes its anchors with it and a page without a record is blank.  For the same
reason `write_anchor` never finds an anchor in its place, not even between two items of a batch.

A record that was issued with a revocation time was never revoked by the service.  It has no
revocation anchor, and no ledger to claim for its revocation.
-/

variable {W : Type} {host : Host W} {crypto : Crypto} {env : Env} {revokedIn : TimestampAnchor -> Prop}
  {issuedIn : TimestampAnchor -> Prop} {ledger : Ledger W} {uid : UID}
  {revokesNow : TimestampAnchor -> Prop} {issuesNow : TimestampAnchor -> Prop} {new : Page}
  {before : Attestation} {after : Attestation}

/-- Neither sequence nor timestamp decreases. -/
def Precedes (first second : TimestampAnchor) : Prop :=
  first.ledgerSequence <= second.ledgerSequence ∧ first.ledgerTimestamp <= second.ledgerTimestamp

namespace Precedes

instance : DecidableRel Precedes := fun _ _ => inferInstanceAs (Decidable (_ ∧ _))

theorem refl (anchor : TimestampAnchor) : Precedes anchor anchor := ⟨Nat.le_refl _, UInt64.le_refl _⟩

theorem trans {first middle last : TimestampAnchor} (one : Precedes first middle)
    (two : Precedes middle last) : Precedes first last := ⟨Nat.le_trans one.1 two.1, UInt64.le_trans one.2 two.2⟩

end Precedes

def ledgers (moves : List (Move W)) : List TimestampAnchor :=
  moves.filterMap fun
    | .call env _ => some (anchorOf env)
    | .outside _ => none

theorem ledgers_append (first second : List (Move W)) : ledgers (first ++ second) = ledgers first ++ ledgers second :=
  filterMap_append

/-- Ledgers with positive timestamps, in order. -/
structure InOrder (anchors : List TimestampAnchor) : Prop where
  sorted : anchors.Pairwise Precedes
  positive : ∀ anchor ∈ anchors, 0 < anchor.ledgerTimestamp

namespace InOrder

variable {first second : List TimestampAnchor} {anchor : TimestampAnchor}

theorem of_append (clock : InOrder (first ++ second)) : InOrder first where
  sorted := (List.pairwise_append.mp clock.sorted).1
  positive := fun anchor member => clock.positive anchor (mem_append_left _ member)

theorem last (clock : InOrder (first ++ [anchor])) :
    0 < anchor.ledgerTimestamp ∧ ∀ earlier ∈ first, Precedes earlier anchor :=
  ⟨clock.positive anchor (mem_append_right _ (mem_singleton_self _)),
    fun earlier member => (List.pairwise_append.mp clock.sorted).2.2 earlier member anchor (mem_singleton_self _)⟩

end InOrder

/-! ## Pages -/

/-- A page on which the next anchor can be written: without a record it is blank, and with an
unrevoked record it has no revocation anchor. -/
structure Page.Writable (page : Page) : Prop where
  blank : page.attestation = none -> page = .blank
  unrevoked : ∀ record, page.attestation = some record -> record.revocationTime = 0 -> page.revocation = none

/-- The anchors are in order, and not later than `now`. -/
structure Page.Dated (now : TimestampAnchor) (page : Page) : Prop where
  issued : ∀ anchor, page.issuance = some anchor -> Precedes anchor now
  revoked : ∀ anchor, page.revocation = some anchor -> Precedes anchor now
  ordered : ∀ first second, page.issuance = some first -> page.revocation = some second -> Precedes first second

theorem Page.writable_blank : Page.blank.Writable := ⟨fun _ => rfl, by rintro _ ⟨⟩⟩

theorem Page.dated_blank (now : TimestampAnchor) : Page.blank.Dated now :=
  ⟨by rintro _ ⟨⟩, by rintro _ ⟨⟩, by rintro _ _ ⟨⟩⟩

theorem Page.Dated.mono {earlier later : TimestampAnchor} {page : Page}
    (dated : page.Dated earlier) (passed : Precedes earlier later) : page.Dated later where
  issued := fun anchor present => (dated.issued anchor present).trans passed
  revoked := fun anchor present => (dated.revoked anchor present).trans passed
  ordered := dated.ordered

/-- The page of a record across a call that leaves the record in place. -/
structure Page.Continues (env : Env) (old new : Page) (before after : Attestation) : Prop where
  issuance : new.issuance = old.issuance
  revocation : after.revocationTime = before.revocationTime ∧ new.revocation = old.revocation ∨
    before.revocationTime = 0 ∧ after.revocationTime ≠ 0 ∧ new.revocation = some (anchorOf env)

namespace Page.Continues

theorem refl (page : Page) (record : Attestation) : Continues env page page record record := ⟨rfl, .inl ⟨rfl, rfl⟩⟩

theorem trans {first middle last : Page} {one two three : Attestation}
    (near : Continues env first middle one two) (far : Continues env middle last two three) :
    Continues env first last one three := by
  refine ⟨far.issuance.trans near.issuance, ?_⟩
  rcases near.revocation with ⟨time, same⟩ | ⟨zero, nonzero, anchored⟩
  · rw [← time, ← same]
    exact far.revocation
  · rcases far.revocation with ⟨time, same⟩ | ⟨again, -, -⟩
    · exact .inr ⟨zero, time ▸ nonzero, same.trans anchored⟩
    · exact absurd again nonzero

theorem writable {old : Page} (continues : Continues env old new before after)
    (writable : old.Writable) (found : old.attestation = some before)
    (stored : new.attestation = some after) : new.Writable := by
  refine ⟨fun absent => absurd (absent.symm.trans stored) (nofun), ?_⟩
  intro record present zero
  cases stored.symm.trans present
  rcases continues.revocation with ⟨time, same⟩ | ⟨-, nonzero, -⟩
  · rw [same]
    exact writable.unrevoked before found (time ▸ zero)
  · exact absurd zero nonzero

theorem dated {old : Page} (continues : Continues env old new before after)
    (dated : old.Dated (anchorOf env)) : new.Dated (anchorOf env) := by
  rcases continues with ⟨issuance, ⟨-, same⟩ | ⟨-, -, anchored⟩⟩
  · refine ⟨?_, ?_, ?_⟩
    · rw [issuance]
      exact dated.issued
    · rw [same]
      exact dated.revoked
    · rw [issuance, same]
      exact dated.ordered
  · refine ⟨?_, ?_, ?_⟩
    · rw [issuance]
      exact dated.issued
    · rw [anchored]
      rintro _ ⟨⟩
      exact .refl _
    · rw [issuance, anchored]
      rintro first _ present ⟨⟩
      exact dated.issued first present

end Page.Continues

/-! ## Across the register -/

section Register

variable {prunes : Prop} {asked : Attestation -> Prop} {before after : Book} {old : Attestation}

theorem Page.Rewritten.continues (positive : 0 < env.timestamp) {page next : Page}
    (stored : page.attestation = some old) (rewritten : page.Rewritten env prunes old next) :
    next.Carried prunes fun next new => Page.Continues env page next old new := by
  cases rewritten with
  | keep => exact .inl ⟨old, stored, .refl _ _⟩
  | revoke revocable unrevoked =>
    exact .inl ⟨_, rfl, rfl, .inr ⟨unrevoked, (UInt64.ne_of_lt positive).symm, rfl⟩⟩
  | renew => exact .inl ⟨_, rfl, rfl, .inl ⟨rfl, rfl⟩⟩
  | prune allowed => exact .inr ⟨allowed, rfl⟩

theorem issued_of_issues (issuances : ReflTransGen (Issue crypto env asked) before after)
    (absent : (before uid).attestation = none) :
    after uid = before uid ∨ ∃ record, after uid = ⟨some record, some (anchorOf env), (before uid).revocation⟩ := by
  induction issuances with
  | refl => exact .inl rfl
  | tail earlier issued ih =>
    cases issued with
    | issue record issuable =>
      by_cases same : uid = record.uid
      · subst same
        rcases ih with unchanged | ⟨other, there⟩
        · refine .inr ⟨record, ?_⟩
          rw [Book.issue, update_self, unchanged]
        · cases issuable.absent.symm.trans (congrArg Page.attestation there)
      · rw [Book.issue_of_ne _ env same]
        exact ih

theorem Effect.continues (effect : Effect crypto env prunes asked before after)
    (apart : prunes -> ∀ attestation, ¬ asked attestation) (positive : 0 < env.timestamp)
    (stored : (before uid).attestation = some old) :
    (after uid).Carried prunes fun next new => Page.Continues env (before uid) next old new :=
  effect.carries (fun page old next new => Page.Continues env page next old new)
    (fun _ _ _ _ _ _ => .trans) (fun _ _ _ => Page.Rewritten.continues positive) apart stored

/-- And to a page without one. -/
theorem Effect.issued (effect : Effect crypto env prunes asked before after)
    (absent : (before uid).attestation = none) :
    after uid = before uid ∨ ∃ record, after uid = ⟨some record, some (anchorOf env), (before uid).revocation⟩ := by
  rcases effect with ⟨middle, revisions, issuances⟩
  have same := page_of_revisions revisions absent
  rw [← same]
  exact issued_of_issues issuances (same ▸ absent)

theorem Revision.writable (revised : Revision env prunes before after)
    (positive : 0 < env.timestamp) (writable : ∀ uid, (before uid).Writable) (uid : UID) : (after uid).Writable := by
  cases stored : (before uid).attestation with
  | none => exact revised.page stored ▸ writable uid
  | some record =>
    rcases (revised.rewrites stored).continues positive stored with ⟨new, found, continues⟩ | ⟨-, removed⟩
    · exact continues.writable (writable uid) stored found
    · exact removed ▸ Page.writable_blank

theorem Book.writable_issue (book : Book) {issued : Attestation}
    (absent : (book issued.uid).attestation = none) (writable : ∀ uid, (book uid).Writable)
    (uid : UID) : (book.issue env issued uid).Writable := by
  by_cases same : uid = issued.uid
  · subst same
    rw [Book.issue, update_self, (writable _).blank absent]
    exact ⟨by rintro ⟨⟩, fun _ _ _ => rfl⟩
  · rw [Book.issue_of_ne book env same]
    exact writable uid

end Register

/-! ## Runs -/

variable (host crypto)

/-- The call stores an attestation under a UID that had none, in this ledger. -/
def IssuesIn (uid : UID) (anchor : TimestampAnchor) (ledger : Ledger W) (move : Move W) : Prop :=
  ∃ env call next, move = .call env call ∧ step host crypto ledger (env, call) = .ok next ∧
    recordOf ledger.sas uid = none ∧ recordOf next.sas uid ≠ none ∧ anchor = ⟨env.sequence, env.timestamp⟩

/-- The call sets the revocation time of the attestation stored under the UID, in this ledger. -/
def RevokesIn (uid : UID) (anchor : TimestampAnchor) (ledger : Ledger W) (move : Move W) : Prop :=
  ∃ env call next old new, move = .call env call ∧ step host crypto ledger (env, call) = .ok next ∧
    recordOf ledger.sas uid = some old ∧ old.revocationTime = 0 ∧
    recordOf next.sas uid = some new ∧ new.revocationTime ≠ 0 ∧ anchor = ⟨env.sequence, env.timestamp⟩

/-- Nothing is stored under the UID after the move. -/
def Discards (uid : UID) (ledger : Ledger W) (move : Move W) : Prop :=
  recordOf (commit (advance host crypto) ledger move).sas uid = none

/-- The stored attestation was issued in this ledger. -/
def IssuedIn (start : Ledger W) (moves : List (Move W)) (uid : UID) (anchor : TimestampAnchor) : Prop :=
  OccursSince (advance host crypto) start (IssuesIn host crypto uid anchor)
    (Discards host crypto uid) moves

/-- The stored attestation was revoked in this ledger. -/
def RevokedIn (start : Ledger W) (moves : List (Move W)) (uid : UID) (anchor : TimestampAnchor) : Prop :=
  OccursSince (advance host crypto) start (RevokesIn host crypto uid anchor)
    (Discards host crypto uid) moves

variable {host crypto}

/-- What holds of a page after a run: the anchors are those ledgers. -/
structure Page.Attests (page : Page) (issuedIn revokedIn : TimestampAnchor -> Prop) : Prop where
  writable : page.Writable
  issued : ∀ anchor, page.issuance = some anchor ↔ issuedIn anchor
  revoked : ∀ anchor, page.revocation = some anchor ↔ revokedIn anchor

namespace Page.Attests

variable {old : Page}

theorem congr {issuedIn' revokedIn' : TimestampAnchor -> Prop} (attests : new.Attests issuedIn' revokedIn')
    (issued : ∀ anchor, issuedIn anchor ↔ issuedIn' anchor)
    (revoked : ∀ anchor, revokedIn anchor ↔ revokedIn' anchor) : new.Attests issuedIn revokedIn where
  writable := attests.writable
  issued := fun anchor => (attests.issued anchor).trans (issued anchor).symm
  revoked := fun anchor => (attests.revoked anchor).trans (revoked anchor).symm

theorem continued (attests : old.Attests issuedIn revokedIn)
    (found : old.attestation = some before) (stored : new.attestation = some after)
    (continues : Page.Continues env old new before after) (issues : ∀ anchor, ¬ issuesNow anchor)
    (revokes : ∀ anchor, revokesNow anchor ↔ before.revocationTime = 0 ∧
      after.revocationTime ≠ 0 ∧ anchor = anchorOf env) :
    new.Attests (fun anchor => issuesNow anchor ∨ issuedIn anchor ∧ new.attestation ≠ none)
      (fun anchor => revokesNow anchor ∨ revokedIn anchor ∧ new.attestation ≠ none) := by
  have present : new.attestation ≠ none := by
    rw [stored]
    exact Option.some_ne_none after
  refine ⟨continues.writable attests.writable found stored, fun anchor => ?_, fun anchor => ?_⟩
  · rw [continues.issuance, attests.issued]
    simp only [issues, present, false_or, not_false_eq_true, ne_eq, and_true]
  · simp only [revokes, ← attests.revoked, present, ne_eq, not_false_eq_true, and_true]
    rcases continues.revocation with ⟨time, same⟩ | ⟨zero, nonzero, anchored⟩
    · rw [same, time]
      constructor
      · exact .inr
      · rintro (⟨zero, nonzero, -⟩ | earlier)
        · exact absurd zero nonzero
        · exact earlier
    · rw [anchored, attests.writable.unrevoked before found zero]
      constructor
      · rintro ⟨⟩
        exact .inl ⟨zero, nonzero, rfl⟩
      · rintro (⟨-, -, rfl⟩ | earlier)
        · rfl
        · cases earlier

/-- There is no record afterwards. -/
theorem discarded (blank : new = .blank) (issues : ∀ anchor, ¬ issuesNow anchor)
    (revokes : ∀ anchor, ¬ revokesNow anchor) :
    new.Attests (fun anchor => issuesNow anchor ∨ issuedIn anchor ∧ new.attestation ≠ none)
      (fun anchor => revokesNow anchor ∨ revokedIn anchor ∧ new.attestation ≠ none) := by
  subst blank
  refine ⟨Page.writable_blank, fun anchor => ?_, fun anchor => ?_⟩
  · simp [issues, Page.blank]
  · simp [revokes, Page.blank]

/-- There was no record before. -/
theorem created {record : Attestation} (attests : old.Attests issuedIn revokedIn)
    (absent : old.attestation = none) (received : new = ⟨some record, some (anchorOf env), old.revocation⟩)
    (issues : ∀ anchor, issuesNow anchor ↔ anchor = anchorOf env) (revokes : ∀ anchor, ¬ revokesNow anchor) :
    new.Attests (fun anchor => issuesNow anchor ∨ issuedIn anchor ∧ new.attestation ≠ none)
      (fun anchor => revokesNow anchor ∨ revokedIn anchor ∧ new.attestation ≠ none) := by
  have blank := attests.writable.blank absent
  subst blank received
  refine ⟨⟨nofun, fun _ _ _ => rfl⟩, fun anchor => ?_, fun anchor => ?_⟩
  · simp [issues, ← attests.issued, Page.blank, eq_comm]
  · simp [revokes, ← attests.revoked, Page.blank]

end Page.Attests

section Runs

variable {start next : Ledger W} {moves : List (Move W)} {move : Move W} {call : Call}
  {anchor : TimestampAnchor}

theorem issuesIn_call (success : step host crypto ledger (env, call) = .ok next) :
    IssuesIn host crypto uid anchor ledger (.call env call) ↔
      recordOf ledger.sas uid = none ∧ recordOf next.sas uid ≠ none ∧ anchor = anchorOf env := by
  constructor
  · rintro ⟨_, _, _, ⟨⟩, taken, absent, present, rfl⟩
    cases success.symm.trans taken
    exact ⟨absent, present, rfl⟩
  · rintro ⟨absent, present, rfl⟩
    exact ⟨env, call, next, rfl, success, absent, present, rfl⟩

theorem revokesIn_call (success : step host crypto ledger (env, call) = .ok next) :
    RevokesIn host crypto uid anchor ledger (.call env call) ↔ ∃ old new, recordOf ledger.sas uid = some old ∧
        recordOf next.sas uid = some new ∧ old.revocationTime = 0 ∧
        new.revocationTime ≠ 0 ∧ anchor = anchorOf env := by
  constructor
  · rintro ⟨_, _, _, old, new, ⟨⟩, taken, found, zero, stored, nonzero, rfl⟩
    cases success.symm.trans taken
    exact ⟨old, new, found, stored, zero, nonzero, rfl⟩
  · rintro ⟨old, new, found, stored, zero, nonzero, rfl⟩
    exact ⟨env, call, next, old, new, rfl, success, found, zero, stored, nonzero, rfl⟩

theorem attests_call (positive : 0 < env.timestamp) (success : step host crypto ledger (env, call) = .ok next)
    (attests : (ledger.sas.book uid).Attests issuedIn revokedIn) :
    (next.sas.book uid).Attests (fun anchor => IssuesIn host crypto uid anchor ledger (.call env call) ∨
        issuedIn anchor ∧ recordOf next.sas uid ≠ none)
      (fun anchor => RevokesIn host crypto uid anchor ledger (.call env call) ∨
        revokedIn anchor ∧ recordOf next.sas uid ≠ none) := by
  have effect := step_effect next success
  simp only [issuesIn_call success, revokesIn_call success]
  cases found : recordOf ledger.sas uid with
  | some old =>
    rcases effect.continues apart_of_removes positive found with ⟨new, stored, continues⟩ | ⟨-, removed⟩
    · refine attests.continued found stored continues (fun anchor => ?_) fun anchor => ?_
      · rintro ⟨⟨⟩, -⟩
      · constructor
        · rintro ⟨_, _, ⟨⟩, current, zero, nonzero, rfl⟩
          cases stored.symm.trans current
          exact ⟨zero, nonzero, rfl⟩
        · rintro ⟨zero, nonzero, rfl⟩
          exact ⟨old, new, rfl, stored, zero, nonzero, rfl⟩
    · refine .discarded removed (fun anchor => ?_) fun anchor => ?_
      · rintro ⟨⟨⟩, -⟩
      · rintro ⟨_, _, -, current, -⟩
        cases (congrArg Page.attestation removed).symm.trans current
  | none =>
    rcases effect.issued found with unchanged | ⟨record, received⟩
    · have blank := unchanged.trans (attests.writable.blank found)
      refine .discarded blank (fun anchor => ?_) fun anchor => ?_
      · rintro ⟨-, present, -⟩
        exact present (congrArg Page.attestation blank)
      · rintro ⟨_, _, ⟨⟩, -⟩
    · refine attests.created found received (fun anchor => ?_) fun anchor => ?_
      · have present : recordOf next.sas uid ≠ none := by
          change (next.sas.book uid).attestation ≠ none
          rw [received]
          exact Option.some_ne_none record
        simp only [present, ne_eq, not_false_eq_true, true_and]
      · rintro ⟨_, _, ⟨⟩, -⟩

/-- A move that leaves the storage as it is. -/
theorem attests_idle (attests : (ledger.sas.book uid).Attests issuedIn revokedIn)
    (issues : ∀ anchor, ¬ issuesNow anchor) (revokes : ∀ anchor, ¬ revokesNow anchor) : (ledger.sas.book uid).Attests
      (fun anchor => issuesNow anchor ∨ issuedIn anchor ∧ recordOf ledger.sas uid ≠ none)
      (fun anchor => revokesNow anchor ∨ revokedIn anchor ∧ recordOf ledger.sas uid ≠ none) := by
  refine ⟨attests.writable, fun anchor => ?_, fun anchor => ?_⟩
  · rw [attests.issued]
    constructor
    · intro earlier
      refine .inr ⟨earlier, fun absent => ?_⟩
      have blank := congrArg Page.issuance (attests.writable.blank absent)
      cases blank.symm.trans ((attests.issued anchor).mpr earlier)
    · rintro (now | ⟨earlier, -⟩)
      · exact absurd now (issues anchor)
      · exact earlier
  · rw [attests.revoked]
    constructor
    · intro earlier
      refine .inr ⟨earlier, fun absent => ?_⟩
      have blank := congrArg Page.revocation (attests.writable.blank absent)
      cases blank.symm.trans ((attests.revoked anchor).mpr earlier)
    · rintro (now | ⟨earlier, -⟩)
      · exact absurd now (revokes anchor)
      · exact earlier

theorem attests_run (host : Host W) (crypto : Crypto) (world : W) (uid : UID) (clock : InOrder (ledgers moves)) :
    ((run (advance host crypto) ⟨deployed, world⟩ moves).sas.book uid).Attests
      (IssuedIn host crypto ⟨deployed, world⟩ moves uid) (RevokedIn host crypto ⟨deployed, world⟩ moves uid) := by
  induction moves using List.reverseRecOn with
  | nil =>
    refine ⟨Page.writable_blank, fun anchor => ?_, fun anchor => ?_⟩ <;>
      exact iff_of_false (nofun) not_occursSince_nil
  | append_singleton moves move ih =>
    rw [ledgers_append] at clock
    have before := ih clock.of_append
    refine Page.Attests.congr ?_ (fun _ => occursSince_concat) fun _ => occursSince_concat
    rw [run_concat]
    cases move with
    | outside =>
      refine attests_idle before ?_ ?_
      · rintro anchor ⟨_, _, _, ⟨⟩, -⟩
      · rintro anchor ⟨_, _, _, _, _, ⟨⟩, -⟩
    | call env call =>
      cases outcome : step host crypto (run (advance host crypto) ⟨deployed, world⟩ moves) (env, call) with
      | ok next =>
        have reached : commit (advance host crypto)
            (run (advance host crypto) ⟨deployed, world⟩ moves) (.call env call) = next := commit_of_ok outcome
        have after := attests_call clock.last.1 outcome before
        simp only [Discards, reached]
        exact after
      | error failure =>
        have unchanged : commit (advance host crypto)
            (run (advance host crypto) ⟨deployed, world⟩ moves) (.call env call) =
              run (advance host crypto) ⟨deployed, world⟩ moves := commit_of_error outcome
        simp only [Discards, unchanged]
        refine attests_idle before ?_ ?_
        · rintro anchor ⟨_, _, _, ⟨⟩, taken, -⟩
          cases outcome.symm.trans taken
        · rintro anchor ⟨_, _, _, _, _, ⟨⟩, taken, -⟩
          cases outcome.symm.trans taken

theorem dated_call (positive : 0 < env.timestamp) (success : step host crypto ledger (env, call) = .ok next)
    (writable : (ledger.sas.book uid).Writable) (dated : (ledger.sas.book uid).Dated (anchorOf env)) :
    (next.sas.book uid).Dated (anchorOf env) := by
  have effect := step_effect next success
  cases found : (ledger.sas.book uid).attestation with
  | some old =>
    rcases effect.continues apart_of_removes positive found with ⟨new, stored, continues⟩ | ⟨-, removed⟩
    · exact continues.dated dated
    · exact removed ▸ Page.dated_blank _
  | none =>
    rcases effect.issued found with unchanged | ⟨record, received⟩
    · exact unchanged ▸ dated
    · rw [received, writable.blank found]
      refine ⟨?_, by rintro _ ⟨⟩, by rintro _ _ _ ⟨⟩⟩
      rintro _ ⟨⟩
      exact .refl _

theorem dated_run (host : Host W) (crypto : Crypto) (world : W) (uid : UID)
    (clock : InOrder (ledgers moves)) {now : TimestampAnchor}
    (passed : ∀ ledger ∈ ledgers moves, Precedes ledger now) :
    ((run (advance host crypto) ⟨deployed, world⟩ moves).sas.book uid).Dated now := by
  induction moves using List.reverseRecOn generalizing now with
  | nil => exact Page.dated_blank now
  | append_singleton moves move ih =>
    rw [ledgers_append] at clock passed
    have earlier := ih clock.of_append fun ledger member => passed ledger (mem_append_left _ member)
    rw [run_concat]
    cases move with
    | outside => exact earlier
    | call env call =>
      cases outcome : advance host crypto (run (advance host crypto) ⟨deployed, world⟩ moves) (.call env call) with
      | error failure =>
        rw [commit_of_error outcome]
        exact earlier
      | ok next =>
        rw [commit_of_ok outcome]
        have writable := (attests_run host crypto world uid clock.of_append).writable
        have before := ih clock.of_append clock.last.2
        refine (dated_call clock.last.1 outcome writable before).mono (passed _ ?_)
        exact mem_append_right _ (mem_singleton_self _)

end Runs

theorem anchorsInverted_of_ordered {issuance revocation : Option TimestampAnchor}
    (ordered : ∀ first second, issuance = some first -> revocation = some second ->
      Precedes first second) : anchorsInverted issuance revocation = false := by
  rcases issuance with _ | issued
  · rfl
  rcases revocation with _ | revoked
  · rfl
  have order := ordered issued revoked rfl rfl
  simp only [anchorsInverted, Bool.or_eq_false_iff, decide_eq_false_iff_not]
  exact ⟨Nat.not_lt.mpr order.1, UInt64.not_lt.mpr order.2⟩

/-- With the anchors in order and in the past, the only check left is the comparison. -/
theorem checkClaim_iff {state : State} {claim : TimestampAnchor} (dated : (state.book uid).Dated (anchorOf env)) :
    checkClaim env state uid claim = .ok () ↔
      (state.book uid).issuance = some claim ∨ (state.book uid).revocation = some claim := by
  have issuance : (state.records uid).anchor false = (state.book uid).issuance := rfl
  have revocation : (state.records uid).anchor true = (state.book uid).revocation := rfl
  simp only [checkClaim, eq_ok, issuance, revocation]
  constructor
  · rintro ⟨-, -, -, equal⟩
    exact equal
  · intro equal
    refine ⟨?_, ?_, ?_, equal⟩
    · rintro ⟨unissued, unrevoked⟩
      rw [unissued, unrevoked] at equal
      rcases equal with ⟨⟨⟩⟩ | ⟨⟨⟩⟩
    · exact anchorsInverted_of_ordered dated.ordered
    · have past := equal.elim (dated.issued claim) (dated.revoked claim)
      rintro (ahead | ahead)
      · exact Nat.not_lt.mpr past.1 ahead
      · exact UInt64.not_lt.mpr past.2 ahead

/-- How `attest_internal` and `revoke_internal`, entered in the current state, call
`write_anchor`. -/
inductive WritesAnchor (env : Env) (current : State) : State -> UID -> Bool -> Prop where
  | issuance (payload : Attestation) entered metered (enters : enterCallbackContext current = .ok entered)
      (absent : hasAttestation entered payload.uid = false)
      (quota : consumeIssuanceQuota env entered payload.attester = .ok metered) :
      WritesAnchor env current (writeAttestation metered { payload with time := env.timestamp }) payload.uid false
  | revocation uid record entered (enters : enterCallbackContext current = .ok entered)
      (stored : recordOf entered uid = some record) (unrevoked : record.revocationTime = 0) :
      WritesAnchor env current (writeAttestation entered { record with revocationTime := env.timestamp }) uid true

theorem WritesAnchor.ok {current state : State} {revocation : Bool}
    (writes : WritesAnchor env current state uid revocation) (writable : ∀ uid, (current.book uid).Writable) :
    ∃ after, writeAnchor env state uid revocation = .ok after := by
  suffices free : (state.records uid).anchor revocation = none from
    ⟨_, writeAnchor_ok.mpr ⟨free, rfl⟩⟩
  cases writes with
  | issuance payload entered metered enters absent quota =>
    simp only [enterCallbackContext, eq_ok] at enters
    rcases enters with ⟨-, rfl⟩
    rcases consumeIssuanceQuota_frame _ _ metered quota with ⟨rateHistory, rfl⟩
    have blank := (writable payload.uid).blank (hasAttestation_eq_false.mp absent)
    have unissued : (current.records payload.uid).issuance = none := congrArg Page.issuance blank
    simpa [writeAttestation, State.putSlot, Slot.anchor] using unissued
  | revocation uid record entered enters stored unrevoked =>
    simp only [enterCallbackContext, eq_ok] at enters
    rcases enters with ⟨-, rfl⟩
    have own : record.uid = uid := Slot.uid_of_content stored
    subst own
    have unanchored : (current.records record.uid).revocation = none :=
      (writable record.uid).unrevoked record stored unrevoked
    simpa [writeAttestation, State.putSlot, Slot.anchor] using unanchored

/-! ### Within a call -/

/-- Every page stays one on which the next anchor can be written. -/
def KeepsWritable (before after : State) : Prop :=
  (∀ uid, (before.book uid).Writable) -> ∀ uid, (after.book uid).Writable

namespace KeepsWritable

theorem of_records {before after : State} (same : after.records = before.records) : KeepsWritable before after := by
  intro writable
  rw [book_congr same]
  exact writable

theorem trans {first middle last : State} (one : KeepsWritable first middle)
    (two : KeepsWritable middle last) : KeepsWritable first last := two ∘ one

end KeepsWritable

theorem attestInternal_writable {attestation : Attestation} :
    Yields (attestInternal host crypto env ledger attestation) fun result => KeepsWritable ledger.sas result.2.sas := by
  intro result success writable
  have attested := (attestInternal_ok success).2
  rw [attested.book]
  exact Book.writable_issue _ attested.issuable.absent writable

theorem revokeInternal_writable (positive : 0 < env.timestamp) :
    Yields (revokeInternal host env ledger uid) fun after => KeepsWritable ledger.sas after.sas := by
  intro after success writable
  rcases (revokeInternal_ok success).revocable with ⟨record, stored, revocable, unrevoked, unanchored, book⟩
  have revised : Revision env False ledger.sas.book after.sas.book := by
    rw [book]
    exact .revoke uid record stored revocable unrevoked unanchored
  exact revised.writable positive writable

theorem Enters.writable {entered : Ledger W} {call : Call}
    (enters : Enters host crypto env ledger call entered) (positive : 0 < env.timestamp) :
    KeepsWritable ledger.sas entered.sas :=
  enters.keeps KeepsWritable (fun same _ => KeepsWritable.of_records same) .trans
    (fun _ _ => attestInternal_writable) (fun _ _ => revokeInternal_writable positive)
    fun _ _ => KeepsWritable.of_records rfl

/-- After a run from the deployment, in ledgers with positive timestamps and in order, a claim is
accepted exactly if it names the ledger in which the attestation stored under the UID was issued,
or the one in which it was revoked.  And in a call made then, `write_anchor` always succeeds. -/
theorem timestamp_claims_exact (host : Host W) (crypto : Crypto) (world : W)
    {moves : List (Move W)} {env : Env} (clock : InOrder (ledgers moves ++ [anchorOf env])) :
    let deployed : Ledger W := ⟨deployed, world⟩
    let ledger := run (advance host crypto) deployed moves
    (forall uid claim, checkClaim env ledger.sas uid claim = .ok () ↔
      IssuedIn host crypto deployed moves uid claim ∨ RevokedIn host crypto deployed moves uid claim) ∧
    (forall call current state uid revocation, Enters host crypto env ledger call current ->
      WritesAnchor env current.sas state uid revocation ->
      ∃ after, writeAnchor env state uid revocation = .ok after) := by
  intro deployed ledger
  refine ⟨fun uid claim => ?_, fun call current state uid revocation enters writes => ?_⟩
  · have attests := attests_run host crypto world uid clock.of_append
    have dated : (ledger.sas.book uid).Dated (anchorOf env) :=
      dated_run host crypto world uid clock.of_append clock.last.2
    rw [checkClaim_iff dated, attests.issued, attests.revoked]
  · refine writes.ok (enters.writable clock.last.1 fun uid => ?_)
    exact (attests_run host crypto world uid clock.of_append).writable

set_option maxRecDepth 1000

/-- An answer and its revocation, in ledgers 100 and 200. -/
def okWithdrawn : List (Move Unit) := okIssued ++ [.call (signedAt [2] 200) (.revoke (okAnswer true).uid)]

/-- The ledger of the revocation can be claimed, but not with another close time. -/
theorem timestamp_claims_exact_revoked :
    (IssuedIn okHost answerCrypto ⟨deployed, ()⟩ okWithdrawn (okAnswer true).uid ⟨200, 200⟩ ∨
      RevokedIn okHost answerCrypto ⟨deployed, ()⟩ okWithdrawn (okAnswer true).uid ⟨200, 200⟩) ∧
    ¬ (IssuedIn okHost answerCrypto ⟨deployed, ()⟩ okWithdrawn (okAnswer true).uid ⟨200, 199⟩ ∨
      RevokedIn okHost answerCrypto ⟨deployed, ()⟩ okWithdrawn (okAnswer true).uid ⟨200, 199⟩) := by
  have clock : InOrder (ledgers okWithdrawn ++ [anchorOf (signedAt [3] 300)]) := ⟨by decide, by decide⟩
  have claims := (timestamp_claims_exact okHost answerCrypto () clock).1 (okAnswer true).uid
  exact ⟨(claims ⟨200, 200⟩).mp (by decide),
    fun claimed => absurd ((claims ⟨200, 199⟩).mpr claimed) (by decide)⟩

end SorobanSas.Sas
