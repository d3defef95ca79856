import SorobanSas.Sas.Storage
import SorobanSas.Common.Hashing

namespace SorobanSas.Sas

/-!
# The register of attestations

What the service is for, apart from how it stores things and who may call it: a book with
one page for each UID.  A page holds a record and the anchors of its issuance and its
revocation.  Three things can happen to an existing record, and a new record can be issued.

Whatever entry point is called, its effect on the book is a number of revisions followed by
a number of issuances.  The theorems about records, whichever run they are about, need
nothing else about the contract.
-/

open Library (Cumulative)
open Relation (ReflTransGen)

/-- What is kept about one UID. -/
structure Page where
  attestation : Option Attestation
  issuance : Option TimestampAnchor
  revocation : Option TimestampAnchor
  deriving DecidableEq

namespace Page

/-- The page of a UID that is not in use. -/
def blank : Page := ⟨none, none, none⟩

end Page

abbrev Book := UID -> Page

/-- The anchor that a call leaves. -/
def anchorOf (env : Env) : TimestampAnchor := ⟨env.sequence, env.timestamp⟩

def Expired (env : Env) (expirationTime : UInt64) : Prop := expirationTime ≠ 0 ∧ expirationTime <= env.timestamp

/-- A change of expiration that neither shortens a record nor bounds a perpetual one. -/
structure Prolongs (old new : UInt64) : Prop where
  perpetual : old = 0 -> new = 0
  longer : old ≠ 0 -> new = 0 ∨ old <= new

theorem Prolongs.refl (time : UInt64) : Prolongs time time := ⟨id, fun _ => .inr (UInt64.le_refl time)⟩

theorem Prolongs.trans {first middle last : UInt64} (one : Prolongs first middle)
    (two : Prolongs middle last) : Prolongs first last where
  perpetual := fun zero => two.perpetual (one.perpetual zero)
  longer := by
    intro bounded
    rcases one.longer bounded with perpetual | longer
    · exact .inl (two.perpetual perpetual)
    · by_cases zero : middle = 0
      · exact .inl (two.perpetual zero)
      · exact (two.longer zero).imp id (UInt64.le_trans longer)

/-- What every issued record satisfies in the book it is added to. -/
structure Issuable (crypto : Crypto) (env : Env) (book : Book) (attestation : Attestation) :
    Prop where
  absent : (book attestation.uid).attestation = none
  unanchored : (book attestation.uid).issuance = none
  stamped : attestation.time = env.timestamp
  derived : attestation.uid = attestationUid crypto attestation.schemaUid attestation.recipient
    attestation.attester attestation.data
  small : attestation.data.length <= 10000
  live : ¬ Expired env attestation.expirationTime
  window : ¬ (0 < attestation.expirationTime ∧ attestation.expirationTime <= attestation.validFrom)
  recipient : attestation.recipient ≠ .account 0 ∧ attestation.recipient ≠ .contract 0
  attester : attestation.attester ≠ .account 0 ∧ attestation.attester ≠ .contract 0
  parties : attestation.recipient ≠ attestation.attester
  foreign : attestation.refUid ≠ attestation.uid
  reference : attestation.refUid = UID.zero ∨ (book attestation.refUid).attestation ≠ none

/-- The book with a newly issued record. -/
def Book.issue (book : Book) (env : Env) (attestation : Attestation) : Book :=
  update book attestation.uid
    { book attestation.uid with
      attestation := some attestation
      issuance := some (anchorOf env) }

def Book.revoke (book : Book) (env : Env) (uid : UID) (attestation : Attestation) : Book :=
  update book uid
    { book uid with
      attestation := some { attestation with revocationTime := env.timestamp }
      revocation := some (anchorOf env) }

def Book.renew (book : Book) (uid : UID) (attestation : Attestation) (expirationTime : UInt64) : Book :=
  update book uid
    { book uid with attestation := some { attestation with expirationTime := expirationTime } }

theorem Book.issue_self (book : Book) (env : Env) (attestation : Attestation) :
    (book.issue env attestation attestation.uid).attestation = some attestation := by
  rw [Book.issue, update_self]

theorem Book.issue_of_ne (book : Book) (env : Env) {attestation : Attestation} {uid : UID}
    (distinct : uid ≠ attestation.uid) : book.issue env attestation uid = book uid := update_of_ne distinct _ _

/-- What is stored after an issuance is the new record, or was stored before. -/
theorem Book.issue_cases {book : Book} {env : Env} {attestation : Attestation} {uid : UID}
    {found : Option Attestation} (stored : (book.issue env attestation uid).attestation = found) :
    uid = attestation.uid ∧ some attestation = found ∨ uid ≠ attestation.uid ∧ (book uid).attestation = found := by
  by_cases same : uid = attestation.uid
  · subst same
    exact .inl ⟨rfl, (issue_self book env attestation).symm.trans stored⟩
  · exact .inr ⟨same, issue_of_ne book env same ▸ stored⟩

theorem Book.revoke_self (book : Book) (env : Env) (uid : UID) (attestation : Attestation) :
    (book.revoke env uid attestation uid).attestation = some { attestation with revocationTime := env.timestamp } := by
  rw [Book.revoke, update_self]

variable (env : Env) (prunes : Prop) (book : Book) in
/-- A change of an existing record.  `prunes` says whether records may be removed. -/
inductive Revision : Book -> Prop where
  | revoke uid attestation (stored : (book uid).attestation = some attestation)
      (revocable : attestation.revocable = true) (unrevoked : attestation.revocationTime = 0)
      (unanchored : (book uid).revocation = none) : Revision (book.revoke env uid attestation)
  | renew uid attestation expirationTime (stored : (book uid).attestation = some attestation)
      (revocable : attestation.revocable = true) (unrevoked : attestation.revocationTime = 0)
      (live : ¬ Expired env attestation.expirationTime)
      (prolongs : Prolongs attestation.expirationTime expirationTime) (lives : ¬ Expired env expirationTime)
      (window : ¬ (0 < expirationTime ∧ expirationTime <= attestation.validFrom)) :
      Revision (book.renew uid attestation expirationTime)
  | prune uid attestation (stored : (book uid).attestation = some attestation)
      (expired : Expired env attestation.expirationTime) (allowed : prunes) : Revision (update book uid .blank)

/-- The addition of a record that the call asked for. -/
inductive Issue (crypto : Crypto) (env : Env) (asked : Attestation -> Prop) (book : Book) : Book -> Prop where
  | issue attestation (issuable : Issuable crypto env book attestation) (intended : asked attestation) :
      Issue crypto env asked book (book.issue env attestation)

/-- The effect of one call: revisions, then issuances. -/
def Effect (crypto : Crypto) (env : Env) (prunes : Prop) (asked : Attestation -> Prop) (before after : Book) : Prop :=
  ∃ middle, ReflTransGen (Revision env prunes) before middle ∧ ReflTransGen (Issue crypto env asked) middle after

/-! ## One page -/

variable (env : Env) (prunes : Prop) (page : Page) (old : Attestation) in
/-- What a revision can make of the page of a stored record. -/
inductive Page.Rewritten : Page -> Prop where
  | keep : Rewritten page
  | revoke (revocable : old.revocable = true) (unrevoked : old.revocationTime = 0) : Rewritten { page with
        attestation := some { old with revocationTime := env.timestamp }
        revocation := some (anchorOf env) }
  | renew expirationTime (live : ¬ Expired env old.expirationTime)
      (prolongs : Prolongs old.expirationTime expirationTime) :
      Rewritten { page with attestation := some { old with expirationTime := expirationTime } }
  | prune (allowed : prunes) : Rewritten .blank

/-- The record of a page is still there, in some relation to what it was, or it was removed. -/
def Page.Carried (prunes : Prop) (related : Page -> Attestation -> Prop) (page : Page) : Prop :=
  (∃ new, page.attestation = some new ∧ related page new) ∨ (prunes ∧ page = .blank)

section Pages

variable {crypto : Crypto} {env : Env} {prunes : Prop} {asked : Attestation -> Prop}
  {before after : Book} {uid : UID} {old new : Attestation}

theorem Revision.rewrites (revised : Revision env prunes before after)
    (stored : (before uid).attestation = some old) : (before uid).Rewritten env prunes old (after uid) := by
  have elsewhere {target : UID} {page : Page} (distinct : uid ≠ target) :
      (before uid).Rewritten env prunes old (update before target page uid) := by
    rw [update_of_ne distinct]
    exact .keep
  cases revised with
  | revoke target record found revocable unrevoked =>
    by_cases same : uid = target
    · subst same
      cases stored.symm.trans found
      rw [Book.revoke, update_self]
      exact .revoke revocable unrevoked
    · exact elsewhere same
  | renew target record expirationTime found revocable unrevoked live prolongs =>
    by_cases same : uid = target
    · subst same
      cases stored.symm.trans found
      rw [Book.renew, update_self]
      exact .renew expirationTime live prolongs
    · exact elsewhere same
  | prune target record found expired allowed =>
    by_cases same : uid = target
    · subst same
      rw [update_self]
      exact .prune allowed
    · exact elsewhere same

/-- A revision concerns a record. -/
theorem Revision.page (revised : Revision env prunes before after)
    (absent : (before uid).attestation = none) : after uid = before uid := by
  have elsewhere {target : UID} {page : Page} {record : Attestation}
      (stored : (before target).attestation = some record) :
      update before target page uid = before uid := by
    refine update_of_ne ?_ _ _
    rintro rfl
    cases absent.symm.trans stored
  cases revised with
  | revoke target record stored | renew target record expirationTime stored | prune target record stored =>
    exact elsewhere stored

/-- It changes nothing about a record but its revocation and its expiration. -/
theorem Revision.source (revised : Revision env prunes before after) (stored : (after uid).attestation = some new) :
    ∃ old, (before uid).attestation = some old ∧ new = { old with
        revocationTime := new.revocationTime
        expirationTime := new.expirationTime } := by
  cases found : (before uid).attestation with
  | none =>
    rw [revised.page found, found] at stored
    cases stored
  | some old =>
    have rewritten := revised.rewrites found
    generalize after uid = page at rewritten stored
    refine ⟨old, rfl, ?_⟩
    cases rewritten with
    | keep =>
      cases found.symm.trans stored
      rfl
    | revoke | renew =>
      cases stored
      rfl
    | prune => cases stored

theorem page_of_revisions (revisions : ReflTransGen (Revision env prunes) before after)
    (absent : (before uid).attestation = none) : after uid = before uid := by
  induction revisions with
  | refl => rfl
  | tail _ revised ih => exact (revised.page (ih ▸ absent)).trans ih

theorem page_of_issues (issuances : ReflTransGen (Issue crypto env asked) before after)
    (stored : (before uid).attestation = some old) : after uid = before uid := by
  induction issuances with
  | refl => rfl
  | tail _ issued ih =>
    cases issued with
    | issue record issuable =>
      have distinct : uid ≠ record.uid := by
        rintro rfl
        cases issuable.absent.symm.trans ((congrArg Page.attestation ih).trans stored)
      exact (Book.issue_of_ne _ env distinct).trans ih

/-- What holds across each rewriting of its page holds of a stored record across the whole call,
if a call that removes records issues none. -/
theorem Effect.carries (related : Page -> Attestation -> Page -> Attestation -> Prop)
    (transitive : ∀ first one second two third three, related first one second two ->
      related second two third three -> related first one third three)
    (rewrites : ∀ (page : Page) old (next : Page), page.attestation = some old ->
      page.Rewritten env prunes old next -> next.Carried prunes (related page old))
    (effect : Effect crypto env prunes asked before after) (apart : prunes -> ∀ attestation, ¬ asked attestation)
    (stored : (before uid).attestation = some old) : (after uid).Carried prunes (related (before uid) old) := by
  rcases effect with ⟨middle, revisions, issuances⟩
  have halfway : (middle uid).Carried prunes (related (before uid) old) := by
    clear issuances
    induction revisions with
    | refl => exact rewrites _ _ _ stored .keep
    | tail _ revised ih =>
      rcases ih with ⟨record, current, near⟩ | ⟨allowed, removed⟩
      · refine (rewrites _ _ _ current (revised.rewrites current)).imp_left ?_
        rintro ⟨new, found, far⟩
        exact ⟨new, found, transitive _ _ _ _ _ _ near far⟩
      · refine .inr ⟨allowed, (revised.page ?_).trans removed⟩
        rw [removed]
        rfl
  rcases halfway with ⟨new, current, carried⟩ | ⟨allowed, removed⟩
  · rw [page_of_issues issuances current]
    exact .inl ⟨new, current, carried⟩
  · refine .inr ⟨allowed, ?_⟩
    induction issuances with
    | refl => exact removed
    | tail _ issued =>
      cases issued with
      | issue record issuable intended => exact absurd intended (apart allowed record)

end Pages

namespace Effect

variable {crypto : Crypto} {env : Env} {prunes : Prop} {asked : Attestation -> Prop} {before after : Book}

theorem nothing (book : Book) : Effect crypto env prunes asked book book := ⟨book, .refl, .refl⟩

theorem issues (steps : ReflTransGen (Issue crypto env asked) before after) :
    Effect crypto env prunes asked before after := ⟨before, .refl, steps⟩

/-- A cumulative relation that holds across each revision and each issuance holds across the whole
call. -/
theorem related (relation : Book -> Book -> Prop) (effect : Effect crypto env prunes asked before after)
    (cumulative : Cumulative relation) (revised : ∀ first last, Revision env prunes first last -> relation first last)
    (issued : ∀ first last, Issue crypto env asked first last -> relation first last) : relation before after := by
  rcases effect with ⟨middle, revisions, issuances⟩
  have : Std.Refl relation := ⟨cumulative.refl⟩
  have : IsTrans Book relation := ⟨fun _ _ _ => cumulative.trans⟩
  have first : relation before middle := Relation.reflTransGen_le_of_le revised before middle revisions
  have second : relation middle after := Relation.reflTransGen_le_of_le issued middle after issuances
  exact cumulative.trans first second

theorem keeps (invariant : Book -> Prop) (effect : Effect crypto env prunes asked before after)
    (revised : ∀ first last, Revision env prunes first last -> invariant first -> invariant last)
    (issued : ∀ first last, Issue crypto env asked first last -> invariant first -> invariant last)
    (start : invariant before) : invariant after :=
  related (fun first last => invariant first -> invariant last) effect
    ⟨fun _ => id, fun one two holds => two (one holds)⟩ revised issued start

end Effect

end SorobanSas.Sas
