import SorobanSas.Sas.Replacement

namespace SorobanSas.Sas

open Library List
open Relation (ReflTransGen)

/-!
# Validity is not regained

`verify_attestation` looks at the revocation, the activation time and the expiration of a
record, and at the ledger's time.  A renewal moves the expiration, so the only thing that
keeps an expired record expired is that `renew_attestation` refuses one, also at the very
second at which it expires.

A record that has been in force and is so no longer is revoked or expired.  Neither ends
while the record is stored.  What can happen is that `prune_expired` removes the record and
a later call issues one with the same UID.
-/

variable {W : Type} {host : Host W} {crypto : Crypto} {env : Env} {time : UInt64} {move : Move W}
  {old : Attestation} {moves : List (Move W)}

/-! ## One record -/

/-- What a record is after a call, if it was there before. -/
structure Follows (env : Env) (old new : Attestation) : Prop where
  keeps : Extends old new
  lapsed : Expired env old.expirationTime -> new.expirationTime = old.expirationTime

namespace Follows

theorem refl (env : Env) (attestation : Attestation) : Follows env attestation attestation :=
  ⟨.refl attestation, fun _ => rfl⟩

theorem trans {first middle last : Attestation} (one : Follows env first middle)
    (two : Follows env middle last) : Follows env first last where
  keeps := one.keeps.trans two.keeps
  lapsed := by
    intro expired
    have same := one.lapsed expired
    exact (two.lapsed (same ▸ expired)).trans same

end Follows

/-- Revoked, or expired by the given time. -/
def Lapsed (time : UInt64) (attestation : Attestation) : Prop :=
  attestation.revocationTime ≠ 0 ∨ attestation.expirationTime ≠ 0 ∧ attestation.expirationTime <= time

theorem Lapsed.follows {new : Attestation} (passed : time <= env.timestamp) (follows : Follows env old new)
    (lapsed : Lapsed time old) : Lapsed time new := by
  rcases lapsed with revoked | ⟨bounded, reached⟩
  · have same := follows.keeps.revoked revoked
    exact .inl (same ▸ revoked)
  · have same := follows.lapsed ⟨bounded, UInt64.le_trans reached passed⟩
    exact .inr (same ▸ ⟨bounded, reached⟩)

/-- A record that was in force and is not any more has lapsed: its activation time has been
reached before. -/
theorem Lapsed.of_ended {early middle : Env} {new : Attestation} (keeps : Extends old new)
    (passed : early.timestamp <= middle.timestamp) (inForce : Attestation.InForce early old)
    (ended : ¬ Attestation.InForce middle new) : Lapsed middle.timestamp new := by
  by_cases revoked : new.revocationTime = 0
  · refine .inr (Decidable.of_not_not fun live => ended ⟨revoked, ?_, live⟩)
    rw [keeps.validFrom]
    exact UInt64.le_trans inForce.active passed
  · exact .inl revoked

theorem Lapsed.not_inForce {attestation : Attestation} (lapsed : Lapsed time attestation)
    (passed : time <= env.timestamp) : ¬ Attestation.InForce env attestation := by
  intro inForce
  rcases lapsed with revoked | ⟨bounded, reached⟩
  · exact revoked inForce.unrevoked
  · exact inForce.live ⟨bounded, UInt64.le_trans reached passed⟩

section Register

variable {prunes : Prop} {asked : Attestation -> Prop} {before after : Book} {uid : UID}

theorem Page.Rewritten.follows {page next : Page} (stored : page.attestation = some old)
    (rewritten : page.Rewritten env prunes old next) : next.Carried prunes fun _ new => Follows env old new := by
  cases rewritten with
  | keep => exact .inl ⟨old, stored, .refl env old⟩
  | revoke revocable unrevoked =>
    exact .inl ⟨_, rfl, .revoke revocable unrevoked env.timestamp, fun _ => rfl⟩
  | renew expirationTime live prolongs =>
    exact .inl ⟨_, rfl, .renew prolongs, fun expired => absurd expired live⟩
  | prune allowed => exact .inr ⟨allowed, rfl⟩

/-- A call that removes records issues none. -/
theorem Effect.fate (effect : Effect crypto env prunes asked before after)
    (apart : prunes -> ∀ attestation, ¬ asked attestation) (stored : (before uid).attestation = some old) :
    (∃ new, (after uid).attestation = some new ∧ Follows env old new) ∨ (prunes ∧ (after uid).attestation = none) := by
  have carried := effect.carries (fun _ old _ new => Follows env old new)
    (fun _ _ _ _ _ _ => .trans) (fun _ _ _ => Page.Rewritten.follows) apart stored
  exact carried.imp_right fun removed => ⟨removed.1, congrArg Page.attestation removed.2⟩

end Register

/-! ## Across runs -/

section Runs

variable (host : Host W) (crypto : Crypto) (start : Ledger W) (uid : UID)

/-- `prune_expired` removed the record of the UID at some point of the run. -/
def Removed (moves : List (Move W)) : Prop :=
  ∃ before env uids after, moves = before ++ .call env (.pruneExpired uids) :: after ∧
    recordOf (run (advance host crypto) start before).sas uid ≠ none ∧
    recordOf (run (advance host crypto) start (before ++ [.call env (.pruneExpired uids)])).sas uid = none

/-- After the removal a call issued a record with the same UID. -/
def Reissued (moves : List (Move W)) : Prop :=
  ∃ before env call after, moves = before ++ .call env call :: after ∧ Removed host crypto start uid before ∧
    recordOf (run (advance host crypto) start before).sas uid = none ∧
    ∃ attestation, call.asks crypto env attestation ∧
      recordOf (run (advance host crypto) start (before ++ [.call env call])).sas uid = some attestation

/-- The record with this property is still there, or it was removed. -/
def Course (property : Attestation -> Prop) (moves : List (Move W)) : Prop :=
  (∃ attestation, recordOf (run (advance host crypto) start moves).sas uid = some attestation ∧ property attestation) ∨
    (Removed host crypto start uid moves ∧ recordOf (run (advance host crypto) start moves).sas uid = none) ∨
    Reissued host crypto start uid moves

variable {host crypto start uid} {property : Attestation -> Prop}

theorem Removed.append (removed : Removed host crypto start uid moves) (more : List (Move W)) :
    Removed host crypto start uid (moves ++ more) := by
  rcases removed with ⟨before, env, uids, after, rfl, stored, gone⟩
  exact ⟨before, env, uids, after ++ more, by simp, stored, gone⟩

theorem Reissued.append (reissued : Reissued host crypto start uid moves)
    (more : List (Move W)) : Reissued host crypto start uid (moves ++ more) := by
  rcases reissued with ⟨before, env, call, after, rfl, removed, absent, issued⟩
  exact ⟨before, env, call, after ++ more, by simp, removed, absent, issued⟩

theorem apart_of_removes {call : Call} (removes : call.removes = true) (attestation : Attestation) :
    ¬ call.asks crypto env attestation := by
  cases call with
  | pruneExpired => exact id
  | _ => cases removes

/-- The property is one that every later version of a record keeps, if the move is a call. -/
def Move.Respects (property : Attestation -> Prop) : Move W -> Prop
  | .call env _ => ∀ old new, Follows env old new -> property old -> property new
  | .outside _ => True

/-- The record, at the next point of the run. -/
theorem Course.of_stored (respects : move.Respects property)
    (stored : recordOf (run (advance host crypto) start moves).sas uid = some old)
    (holds : property old) : Course host crypto start uid property (moves ++ [move]) := by
  have next : run (advance host crypto) start (moves ++ [move]) =
      commit (advance host crypto) (run (advance host crypto) start moves) move := run_concat start moves move
  cases outcome : advance host crypto (run (advance host crypto) start moves) move with
  | error failure =>
    rw [commit_of_error outcome] at next
    exact .inl ⟨old, next ▸ stored, holds⟩
  | ok after =>
    rw [commit_of_ok outcome] at next
    cases move with
    | outside =>
      cases outcome
      exact .inl ⟨old, next ▸ stored, holds⟩
    | call env call =>
      rcases (step_effect after outcome).fate apart_of_removes stored with ⟨new, current, follows⟩ | ⟨removes, gone⟩
      · exact .inl ⟨new, next ▸ current, respects old new follows holds⟩
      · have absent : recordOf (run (advance host crypto) start
            (moves ++ [.call env call])).sas uid = none := next ▸ gone
        have present : recordOf (run (advance host crypto) start moves).sas uid ≠ none := by
          rw [stored]
          exact Option.some_ne_none old
        cases call with
        | pruneExpired uids =>
          exact .inr (.inl ⟨⟨moves, env, uids, [], rfl, present, absent⟩, absent⟩)
        | _ => cases removes

/-- Nothing, at the next point of the run. -/
theorem Course.of_removed (removed : Removed host crypto start uid moves)
    (absent : recordOf (run (advance host crypto) start moves).sas uid = none) :
    Course host crypto start uid property (moves ++ [move]) := by
  have next : run (advance host crypto) start (moves ++ [move]) =
      commit (advance host crypto) (run (advance host crypto) start moves) move := run_concat start moves move
  cases current : recordOf (run (advance host crypto) start (moves ++ [move])).sas uid with
  | none => exact .inr (.inl ⟨removed.append [move], current⟩)
  | some attestation =>
    refine .inr (.inr ?_)
    have stored := current
    cases outcome : advance host crypto (run (advance host crypto) start moves) move with
    | error failure =>
      rw [next, commit_of_error outcome] at stored
      cases absent.symm.trans stored
    | ok after =>
      rw [next, commit_of_ok outcome] at stored
      cases move with
      | outside =>
        cases outcome
        cases absent.symm.trans stored
      | call env call =>
        have asked : call.asks crypto env attestation := (step_effect after outcome).added absent stored
        exact ⟨moves, env, call, [], rfl, removed, absent, attestation, asked, current⟩

theorem Course.append (course : Course host crypto start uid property moves)
    {more : List (Move W)} (respects : ∀ move ∈ more, move.Respects property) :
    Course host crypto start uid property (moves ++ more) := by
  induction more generalizing moves with
  | nil => simpa using course
  | cons move rest ih =>
    have next : Course host crypto start uid property (moves ++ [move]) := by
      rcases course with ⟨old, stored, holds⟩ | ⟨removed, absent⟩ | reissued
      · exact .of_stored (respects move mem_cons_self) stored holds
      · exact .of_removed removed absent
      · exact .inr (.inr (reissued.append [move]))
    have rest := ih next fun other member => respects other (mem_cons_of_mem move member)
    simpa using rest

theorem Course.imp {weaker : Attestation -> Prop} (course : Course host crypto start uid property moves)
    (implies : ∀ attestation, recordOf (run (advance host crypto) start moves).sas uid = some attestation ->
      property attestation -> weaker attestation) : Course host crypto start uid weaker moves := by
  rcases course with ⟨attestation, stored, holds⟩ | gone
  · exact .inl ⟨attestation, stored, implies attestation stored holds⟩
  · exact .inr gone

end Runs

theorem respects_extends (old : Attestation) (move : Move W) : move.Respects (Extends old) := by
  cases move with
  | outside => trivial
  | call => exact fun _ _ follows keeps => keeps.trans follows.keeps

theorem mem_timestamps {call : Call} (member : Move.call env call ∈ moves) : env.timestamp ∈ timestamps moves :=
  List.mem_filterMap.mpr ⟨_, member, rfl⟩

theorem respects_lapsed (passed : ∀ later ∈ timestamps moves, time <= later) (member : move ∈ moves) :
    move.Respects (Lapsed time) := by
  cases move with
  | outside => trivial
  | call => exact fun _ _ follows => Lapsed.follows (passed _ (mem_timestamps member)) follows

/-- The old layout does not come back in a run. -/
theorem run_layout (host : Host W) (crypto : Crypto) (start : Ledger W) (moves : List (Move W)) :
    KeepsLayout start.sas (run (advance host crypto) start moves).sas := by
  refine run_related (fun before after : Ledger W => KeepsLayout before.sas after.sas)
    (keepsLayout_cumulative.comap _) ?_ (admissible_true start moves)
  intro ledger move next _ success
  cases move with
  | call => exact step_layout next success
  | outside =>
    cases success
    exact keepsLayout_congr rfl

/-- At three moments of a run, with calls between them and the clock never going back: what
was valid at the first and not at the second is not valid at the third, unless its record
was pruned and its UID issued again in between. -/
theorem dead_stays_dead (host : Host W) (crypto : Crypto) (start : Ledger W)
    (first second third : List (Move W)) (early middle late : Env) (uid : UID)
    (clock : (timestamps first ++ early.timestamp :: (timestamps second ++
      middle.timestamp :: (timestamps third ++ [late.timestamp]))).Pairwise (· ≤ ·))
    (valid : verifyAttestation early (run (advance host crypto) start first).sas uid = .ok true)
    (dead : verifyAttestation middle (run (advance host crypto) start (first ++ second)).sas uid = .ok false) :
    verifyAttestation late (run (advance host crypto) start (first ++ (second ++ third))).sas uid = .ok false ∨
      Reissued host crypto (run (advance host crypto) start first) uid (second ++ third) := by
  rw [run_append] at dead ⊢
  rcases List.pairwise_cons.mp (List.pairwise_append.mp clock).2.1 with ⟨afterEarly, laterClock⟩
  rcases List.pairwise_cons.mp (List.pairwise_append.mp laterClock).2.1 with ⟨afterMiddle, -⟩
  have earlyMiddle : early.timestamp ≤ middle.timestamp := afterEarly _ (by simp)
  have middleLate : middle.timestamp ≤ late.timestamp := afterMiddle _ (by simp)
  rcases verifyAttestation_eq_true.mp valid with ⟨compact, old, stored, inForce⟩
  have kept : Course host crypto (run (advance host crypto) start first) uid (Extends old) second := by
    have now : Course host crypto (run (advance host crypto) start first) uid (Extends old) [] :=
      .inl ⟨old, stored, .refl old⟩
    simpa using now.append fun move _ => respects_extends old move
  have ended : Course host crypto (run (advance host crypto) start first) uid (Lapsed middle.timestamp) second := by
    exact kept.imp fun attestation current keeps => .of_ended keeps earlyMiddle inForce
      ((verifyAttestation_eq_false current).mp dead).2
  have final : Course host crypto (run (advance host crypto) start first) uid
      (Lapsed middle.timestamp) (second ++ third) := by
    apply ended.append
    intro move member
    apply respects_lapsed _ member
    intro later among
    exact afterMiddle later (mem_append_left _ among)
  have readable := (run_layout host crypto (run (advance host crypto) start first) (second ++ third)).compact compact
  rcases final with ⟨attestation, current, lapsed⟩ | ⟨-, absent⟩ | reissued
  · exact .inl ((verifyAttestation_eq_false current).mpr ⟨readable, lapsed.not_inForce middleLate⟩)
  · refine .inl (verifyAttestation_eq_ok.mpr ⟨readable, Bool.false_ne_true.elim, ?_⟩)
    rintro ⟨found, present, -⟩
    cases absent.symm.trans present
  · exact .inr reissued

/-- An answer is revoked at time 200 and not valid at time 300. -/
theorem dead_stays_dead_revoked : verifyAttestation (signedAt [] 300) (run (advance okHost answerCrypto) ⟨deployed, ()⟩
        (okIssued ++ ([.call (signedAt [2] 200) (.revoke (okAnswer true).uid)] ++ []))).sas
        (okAnswer true).uid = .ok false ∨
      Reissued okHost answerCrypto (run (advance okHost answerCrypto) ⟨deployed, ()⟩ okIssued)
        (okAnswer true).uid ([.call (signedAt [2] 200) (.revoke (okAnswer true).uid)] ++ []) :=
  dead_stays_dead okHost answerCrypto ⟨deployed, ()⟩ okIssued
    [.call (signedAt [2] 200) (.revoke (okAnswer true).uid)] [] (signedAt [] 150)
    (signedAt [] 250) (signedAt [] 300) (okAnswer true).uid (by decide)
    (by decide) (by decide)

end SorobanSas.Sas
