import SorobanSas.Library.Ranked
import SorobanSas.Sas.Anchors

namespace SorobanSas.Sas

open Library
open Relation (ReflTransGen TransGen)

/-!
# References between attestations

A record may refer to another one, which has to be stored when the reference is made.  As
long as nothing is removed, references lead to older records only and cannot form a cycle.

`prune_expired` leaves references to the removed record behind.  The UID of a record does not
depend on its reference, so a removed record can be issued again with a reference to one of
those that refer to it.  This is the only way to a cycle: if a UID that stored records refer to
is issued again without a reference, the graph stays acyclic.
-/

variable {W : Type} {host : Host W} {crypto : Crypto} {env : Env} {prunes : Prop} {before after : Book}
  {source target : UID} {asked : Attestation -> Prop} {ledger : Ledger W} {attestation : Attestation}
  {book : Book}

/-- A stored record names another UID. -/
def Book.Refers (book : Book) (source target : UID) : Prop :=
  ∃ record, (book source).attestation = some record ∧ record.refUid = target ∧ target ≠ UID.zero

/-- The record that is referred to is stored as well. -/
def Book.Links (book : Book) (source target : UID) : Prop :=
  book.Refers source target ∧ (book target).attestation ≠ none

/-- The chain of references from a record ends, with a record that has no reference or that
refers to one no longer stored. -/
def Book.ChainEnds (book : Book) (uid : UID) : Prop :=
  ∃ last final, ReflTransGen book.Links uid last ∧ (book last).attestation = some final ∧
    (final.refUid = UID.zero ∨ (book final.refUid).attestation = none)

/-- A record to be issued has no reference, or nothing refers to it yet. -/
def Book.Fresh (book : Book) (attestation : Attestation) : Prop :=
  attestation.refUid = UID.zero ∨ ∀ source, ¬ book.Refers source attestation.uid

/-- A revision may remove references, but it adds none. -/
theorem Revision.refers (revised : Revision env prunes before after)
    (refers : after.Refers source target) : before.Refers source target := by
  rcases refers with ⟨record, stored, names, nonzero⟩
  rcases revised.source stored with ⟨old, found, same⟩
  exact ⟨old, found, (congrArg Attestation.refUid same).symm.trans names, nonzero⟩

theorem Revision.links (revised : Revision env prunes before after)
    (links : after.Links source target) : before.Links source target := by
  refine ⟨revised.refers links.1, fun absent => links.2 ?_⟩
  exact (congrArg Page.attestation (revised.page absent)).trans absent

theorem Revision.stays (revised : Revision env prunes before after) (unpruned : ¬ prunes)
    {uid : UID} (absent : (after uid).attestation = none) : (before uid).attestation = none := by
  rw [eq_false unpruned] at revised
  cases stored : (before uid).attestation with
  | none => rfl
  | some attestation =>
    rcases Accretes.revision revised uid attestation stored with ⟨new, found, -⟩
    cases absent.symm.trans found

/-! ## Issuances -/

section Issue

/-- What a reference in the book with one more record can be. -/
theorem refers_issue (refers : (book.issue env attestation).Refers source target) :
    source = attestation.uid ∧ target = attestation.refUid ∧ target ≠ UID.zero ∨
      source ≠ attestation.uid ∧ book.Refers source target := by
  rcases refers with ⟨record, stored, names, nonzero⟩
  rcases Book.issue_cases stored with ⟨rfl, ⟨⟩⟩ | ⟨other, stored⟩
  · exact .inl ⟨rfl, names.symm, nonzero⟩
  · exact .inr ⟨other, record, stored, names, nonzero⟩

/-- A record that was there before refers to another one that was there before. -/
theorem links_issue (links : (book.issue env attestation).Links source target)
    (old : source ≠ attestation.uid) (other : target ≠ attestation.uid) : book.Links source target := by
  rcases links with ⟨refers, stored⟩
  rw [Book.issue_of_ne book env other] at stored
  rcases refers_issue refers with ⟨new, -⟩ | ⟨-, refers⟩
  · exact absurd new old
  · exact ⟨refers, stored⟩

theorem ranked_issue (ranked : Ranked book.Links)
    (issuable : Issuable crypto env book attestation) (fresh : book.Fresh attestation) :
    Ranked (book.issue env attestation).Links := by
  rcases fresh with unreferring | unreferred
  · -- The new record leads nowhere, whatever may lead to it.
    have silent (target : UID) : ¬ (book.issue env attestation).Links attestation.uid target := by
      intro links
      rcases refers_issue links.1 with ⟨-, names, nonzero⟩ | ⟨other, -⟩
      · exact nonzero (names.trans unreferring)
      · exact other rfl
    refine ranked.add_sink silent fun source target links other => ?_
    refine links_issue links ?_ other
    rintro rfl
    exact silent target links
  · -- Nothing leads to the new record.
    have unreached (source : UID) : ¬ (book.issue env attestation).Links source attestation.uid := by
      intro links
      rcases refers_issue links.1 with ⟨-, names, -⟩ | ⟨-, refers⟩
      · exact issuable.foreign names.symm
      · exact unreferred source refers
    refine ranked.add_source unreached ⟨attestation.refUid, fun target links => ?_⟩
      fun source target links old => ?_
    · rcases refers_issue links.1 with ⟨-, names, -⟩ | ⟨other, -⟩
      · exact names
      · exact absurd rfl other
    · refine links_issue links old ?_
      rintro rfl
      exact unreached source links

end Issue

/-! ## Calls -/

/-- Every record that the call may still issue is fresh in the book. -/
def Book.Welcomes (book : Book) (asked : Attestation -> Prop) : Prop :=
  ∀ attestation, asked attestation -> (book attestation.uid).attestation = none -> book.Fresh attestation

theorem Revision.welcomes (revised : Revision env prunes before after) (unpruned : ¬ prunes)
    (welcomes : before.Welcomes asked) : after.Welcomes asked := by
  intro attestation intended absent
  rcases welcomes attestation intended (revised.stays unpruned absent) with zero | unreferred
  · exact .inl zero
  · exact .inr fun source refers => unreferred source (revised.refers refers)

theorem welcomes_issue (welcomes : book.Welcomes asked) (issuable : Issuable crypto env book attestation) :
    (book.issue env attestation).Welcomes asked := by
  intro other intended absent
  rcases Book.issue_cases absent with ⟨-, ⟨⟩⟩ | ⟨distinct, absent⟩
  refine (welcomes other intended absent).imp_right fun unreferred source refers => ?_
  rcases refers_issue refers with ⟨-, names, nonzero⟩ | ⟨-, refers⟩
  · -- The record just issued refers to a stored one, which the other is not.
    rcases issuable.reference with zero | stored
    · exact nonzero (names.trans zero)
    · exact stored (names ▸ absent)
  · exact unreferred source refers

theorem Effect.ranked (effect : Effect crypto env prunes asked before after)
    (exclusive : prunes -> ∀ attestation, ¬ asked attestation)
    (welcomes : before.Welcomes asked) (ranked : Ranked before.Links) : Ranked after.Links := by
  refine (effect.keeps (fun book => Ranked book.Links ∧ book.Welcomes asked) ?_ ?_ ⟨ranked, welcomes⟩).1
  · intro first last revised holds
    refine ⟨holds.1.mono fun _ _ => revised.links, ?_⟩
    by_cases pruned : prunes
    · exact fun attestation intended => absurd intended (exclusive pruned attestation)
    · exact revised.welcomes pruned holds.2
  · intro first last issued holds
    cases issued with
    | issue attestation issuable intended =>
      exact ⟨ranked_issue holds.1 issuable (holds.2 attestation intended issuable.absent),
        welcomes_issue holds.2 issuable⟩

/-- If the move is a call that commits, the records it issues are fresh. -/
def Move.Fresh (host : Host W) (crypto : Crypto) (ledger : Ledger W) : Move W -> Prop
  | .call env invocation => (step host crypto ledger (env, invocation)).isOk = true ->
      ledger.sas.book.Welcomes (invocation.asks crypto env)
  | .outside _ => True

theorem advance_ranked {next : Ledger W} {move : Move W} (fresh : move.Fresh host crypto ledger)
    (success : advance host crypto ledger move = .ok next) (ranked : Ranked ledger.sas.book.Links) :
    Ranked next.sas.book.Links := by
  cases move with
  | outside =>
    cases success
    exact ranked
  | call env call =>
    have committed : step host crypto ledger (env, call) = .ok next := success
    refine (step_effect next committed).ranked ?_ (fresh (by rw [committed]; rfl)) ranked
    intro removes attestation intended
    cases call with
    | pruneExpired => exact intended
    | _ => cases removes

theorem chainEnds_of_ranked (ranked : Ranked book.Links) {uid : UID} {first : Attestation}
    (stored : (book uid).attestation = some first) : book.ChainEnds uid := by
  rcases ranked.terminates uid with ⟨last, walk, stuck⟩
  have present : (book last).attestation ≠ none := by
    rcases walk.cases_tail with rfl | ⟨_, _, links⟩
    · simp [stored]
    · exact links.2
  rcases Option.ne_none_iff_exists'.mp present with ⟨final, found⟩
  refine ⟨last, final, walk, found, ?_⟩
  by_cases zero : final.refUid = UID.zero
  · exact .inl zero
  · refine .inr (Classical.byContradiction fun remains => ?_)
    exact stuck final.refUid ⟨⟨final, found, rfl, zero⟩, remains⟩

/-- In every run in which a UID that stored records refer to is issued again only without a
reference, no chain of references returns to a record, and each comes to an end. -/
theorem references_acyclic (host : Host W) (crypto : Crypto) (world : W) (moves : List (Move W))
    (fresh : Admissible (advance host crypto) (Move.Fresh host crypto) ⟨deployed, world⟩ moves) :
    let book := (run (advance host crypto) ⟨deployed, world⟩ moves).sas.book
    (forall uid, ¬ TransGen book.Links uid uid) ∧ forall uid, (book uid).attestation ≠ none -> book.ChainEnds uid := by
  have ranked : Ranked (run (advance host crypto) ⟨deployed, world⟩ moves).sas.book.Links := by
    refine run_invariant (fun ledger move next ranked fresh success => advance_ranked fresh success ranked) ?_ fresh
    refine ⟨fun _ => 0, ?_⟩
    rintro source target ⟨⟨record, stored, -⟩, -⟩
    cases stored
  refine ⟨ranked.acyclic, fun uid present => ?_⟩
  rcases Option.ne_none_iff_exists'.mp present with ⟨first, stored⟩
  exact chainEnds_of_ranked ranked stored

/-! ### Runs without pruning -/

/-- Every reference is to a stored record. -/
def Book.Closed (book : Book) : Prop := ∀ source target, book.Refers source target -> (book target).attestation ≠ none

theorem closed_issue (closed : book.Closed) (issuable : Issuable crypto env book attestation) :
    (book.issue env attestation).Closed := by
  intro source target refers absent
  rcases Book.issue_cases absent with ⟨-, ⟨⟩⟩ | ⟨distinct, absent⟩
  rcases refers_issue refers with ⟨-, rfl, nonzero⟩ | ⟨-, refers⟩
  · exact (issuable.reference.resolve_left nonzero) absent
  · exact closed source target refers absent

theorem advance_closed {next : Ledger W} {move : Move W} (keeps : move.keeps = true)
    (success : advance host crypto ledger move = .ok next) (closed : ledger.sas.book.Closed) :
    next.sas.book.Closed := by
  cases move with
  | outside =>
    cases success
    exact closed
  | call env call =>
    have unpruned : ¬ call.removes = true := by simpa [Move.keeps] using keeps
    refine (step_effect next success).keeps Book.Closed ?_ ?_ closed
    · intro first last revised holds source target refers absent
      exact holds source target (revised.refers refers) (revised.stays unpruned absent)
    · intro first last issued holds
      cases issued with
      | issue attestation issuable => exact closed_issue holds issuable

/-- Without pruning, nothing refers to a UID that is not in use. -/
theorem fresh_of_unpruned (host : Host W) (crypto : Crypto) (world : W) {moves : List (Move W)}
    (keeps : ∀ move ∈ moves, move.keeps = true) :
    Admissible (advance host crypto) (Move.Fresh host crypto) ⟨deployed, world⟩ moves := by
  refine admissible_of_invariant (fun ledger move next closed keeps success =>
    advance_closed keeps success closed) ?_ ?_
    (admissible_of_forall (fun move member _ => keeps move member) _)
  · intro ledger move closed _
    cases move with
    | outside => trivial
    | call =>
      intro _ attestation _ absent
      exact .inr fun source refers => closed source attestation.uid refers absent
  · rintro source target ⟨record, stored, -⟩
    cases stored

open Address (accountOfNat)

/-- Account 2 denies, and then affirms with a reference to the denial. -/
def okReferring : List (Move Unit) :=
  [.call (signedAt [1] 100) (.init (accountOfNat 1) (.contract 7)), .call (signedAt [1] 100) (.setAutoPrune true),
    .call (signedAt [2] 100) (.attest { okAnswer false with expirationTime := 150 }),
    .call (signedAt [2] 100) (.attest { okAnswer true with refUid := (okAnswer false).uid })]

theorem references_acyclic_referring :
    (run (advance okHost answerCrypto) ⟨deployed, ()⟩ okReferring).sas.book.ChainEnds (okAnswer true).uid :=
  (references_acyclic okHost answerCrypto () okReferring
    (fresh_of_unpruned okHost answerCrypto () (by decide))).2 (okAnswer true).uid (by decide)

/-- The denial expires, is pruned, and is issued again with a reference to the affirmation. -/
def okCircular : List (Move Unit) :=
  okReferring ++ [.call (signedAt [] 200) (.pruneExpired [(okAnswer false).uid]),
      .call (signedAt [2] 200) (.attest { okAnswer false with refUid := (okAnswer true).uid })]

theorem references_cyclic : TransGen (run (advance okHost answerCrypto) ⟨deployed, ()⟩ okCircular).sas.book.Links
      (okAnswer true).uid (okAnswer true).uid := by
  have down : Book.Links (run (advance okHost answerCrypto) ⟨deployed, ()⟩
      okCircular).sas.book (okAnswer true).uid (okAnswer false).uid :=
    ⟨⟨{ okAnswer true with time := 100, refUid := (okAnswer false).uid }, by decide +kernel, rfl,
      by decide⟩, by decide +kernel⟩
  have back : Book.Links (run (advance okHost answerCrypto) ⟨deployed, ()⟩
      okCircular).sas.book (okAnswer false).uid (okAnswer true).uid :=
    ⟨⟨{ okAnswer false with time := 200, refUid := (okAnswer true).uid }, by decide +kernel, rfl,
      by decide⟩, by decide +kernel⟩
  exact .tail (.single down) back

end SorobanSas.Sas
