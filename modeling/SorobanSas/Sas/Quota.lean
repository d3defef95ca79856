import SorobanSas.Library.SlidingWindow
import SorobanSas.Sas.Provenance
import Mathlib.Data.Set.Card

namespace SorobanSas.Sas

open Library List
open Library.SlidingWindow

/-!
# The issuance quota

For one attester the quota concerns four things: the configured limit, whether the attester is
exempt, the history of sequence numbers, and the UIDs of the attestations that are stored.  An
issuance charges the attester: the history goes through the limiter and one UID is added.
Whatever path it takes, a call is a number of charges in one ledger, and a call that issues
nothing leaves the history alone.

The history is a temporary entry.  It lives for `window` ledgers after the last charge and is
gone some time later, which is a turn of its own: nobody calls the contract.  Between the ledgers
in which attestations were stored and the history that is left of them stand the two comparisons
of the sliding window.
-/

variable {W : Type} {host : Host W} {crypto : Crypto} {env : Env} {ledger : Ledger W}
  {attestation : Attestation} {log : List Nat} {nonce expirationTime : UInt64} {token issuer : Address}
  {value : Int} {recipients : List Address} {data : Bytes} {call : Call} {book : Book} {uid : UID}
  {state : State} {count : Nat} {now : Nat}

/-- The UIDs of the attester's records. -/
def Book.attestedBy (book : Book) (attester : Address) : Set UID :=
  {uid | ∃ record, (book uid).attestation = some record ∧ record.attester = attester}

theorem mem_attestedBy {attester : Address} : uid ∈ book.attestedBy attester ↔
      ∃ record, (book uid).attestation = some record ∧ record.attester = attester := Iff.rfl

/-- What the quota of one attester is about. -/
structure Account where
  limit : Option (Nat × Nat)
  exempt : Bool
  history : List Nat
  stored : Set UID

def State.account (state : State) (attester : Address) : Account where
  limit := state.rateLimit
  exempt := state.rateExempt attester
  history := state.rateHistory attester
  stored := state.book.attestedBy attester

namespace Account

/-- The history after one more issuance. -/
def consume (account : Account) (now : Nat) : Option (List Nat) :=
  match account.limit with
  | none => some account.history
  | some (maxIssuances, window) =>
    if account.exempt then
      some account.history
    else
      accept maxIssuances window now account.history

theorem consume_of_limit {account : Account} {maxIssuances window : Nat}
    (limited : account.limit = some (maxIssuances, window)) (counted : account.exempt = false)
    (now : Nat) : account.consume now = accept maxIssuances window now account.history := by
  simp only [consume, limited, counted, Bool.false_eq_true, if_false]

/-- Only the new sequence number can be added to a history. -/
theorem consume_sublist {account : Account} {history : List Nat}
    (consumed : account.consume now = some history) : history.Sublist (account.history ++ [now]) := by
  unfold consume at consumed
  split at consumed
  · cases consumed
    exact sublist_append_left _ _
  · split at consumed
    · cases consumed
      exact sublist_append_left _ _
    · exact accept_sublist consumed

/-- One issuance. -/
structure Charge (now : Nat) (before after : Account) : Prop where
  limit : after.limit = before.limit
  exempt : after.exempt = before.exempt
  consumed : before.consume now = some after.history
  stored : ∃ uid, uid ∉ before.stored ∧ after.stored = insert uid before.stored

/-- A number of issuances in the same ledger. -/
inductive Charged (now : Nat) (first : Account) : Nat -> Account -> Prop where
  | none : Charged now first 0 first
  | next {count : Nat} {middle last : Account} (earlier : Charged now first count middle)
      (charge : Charge now middle last) : Charged now first (count + 1) last

namespace Charged

variable {more : Nat} {first middle last : Account}

theorem trans (one : Charged now first count middle) (two : Charged now middle more last) :
    Charged now first (count + more) last := by
  induction two with
  | none => exact one
  | next earlier charge ih => exact ih.next charge

theorem limit (charged : Charged now first count last) : last.limit = first.limit := by
  induction charged with
  | none => rfl
  | next earlier charge ih => exact charge.limit.trans ih

theorem exempt (charged : Charged now first count last) : last.exempt = first.exempt := by
  induction charged with
  | none => rfl
  | next earlier charge ih => exact charge.exempt.trans ih

/-- As many UIDs are added as issuances were charged. -/
theorem stored (charged : Charged now first count last) :
    first.stored ⊆ last.stored ∧ (last.stored \ first.stored).Finite ∧ (last.stored \ first.stored).ncard = count := by
  induction charged with
  | none => simp
  | next earlier charge ih =>
    rename_i count middle last
    rcases ih with ⟨subset, finite, counted⟩
    rcases charge.stored with ⟨uid, fresh, added⟩
    have apart : uid ∉ middle.stored \ first.stored := fun member => fresh member.1
    have grown : last.stored \ first.stored = insert uid (middle.stored \ first.stored) := by
      rw [added, Set.insert_sdiff_of_notMem _ fun member => fresh (subset member)]
    refine ⟨?_, ?_, ?_⟩
    · rw [added]
      exact subset.trans (Set.subset_insert _ _)
    · rw [grown]
      exact finite.insert uid
    · rw [grown, Set.ncard_insert_of_notMem apart finite, counted]

theorem extend (property : List Nat -> Account -> Prop)
    (each : ∀ log before after, property log before -> Charge now before after ->
      property (log ++ [now]) after) (charged : Charged now first count last)
    (start : property log first) : property (log ++ List.replicate count now) last := by
  induction charged with
  | none => simpa using start
  | next earlier charge ih =>
    rw [replicate_succ', ← append_assoc]
    exact each _ _ _ ih charge

/-- A history that comes from a log still does with the issuances added to it. -/
theorem genuine (charged : Charged now first count last) (start : first.history.Sublist log) :
    last.history.Sublist (log ++ List.replicate count now) := by
  refine charged.extend (fun log account => account.history.Sublist log) ?_ start
  intro log before after genuine charge
  exact (consume_sublist charge.consumed).trans (genuine.append_right _)

end Charged

end Account

open Account (Charge Charged)

/-- The state's accounts show a number of issuances. -/
def Meters (env : Env) (attester : Address) (before after : State) : Prop :=
  ∃ count, Charged env.sequence (before.account attester) count (after.account attester)

namespace Meters

variable {attester : Address} {first middle last : State}

theorem of_eq (same : last.account attester = first.account attester) : Meters env attester first last :=
  ⟨0, same ▸ .none⟩

theorem refl (state : State) : Meters env attester state state := of_eq rfl

theorem trans (one : Meters env attester first middle) (two : Meters env attester middle last) :
    Meters env attester first last := by
  rcases one with ⟨count, one⟩
  rcases two with ⟨more, two⟩
  exact ⟨count + more, one.trans two⟩

end Meters

/-! ## Issuing -/

variable {attester : Address}

theorem consumeIssuanceQuota_eq (env : Env) (state : State) (attester : Address) :
    consumeIssuanceQuota env state attester = match (state.account attester).consume env.sequence with
      | some history => .ok { state with
          rateHistory := update state.rateHistory attester history }
      | none => .error (.contract .rateLimitExceeded) := by
  have idle : .ok state = (.ok { state with
      rateHistory := update state.rateHistory attester (state.rateHistory attester) } : Except Trap State) := by
    rw [update_eq_self]
  unfold consumeIssuanceQuota
  split
  · rename_i unlimited
    have consumed : (state.account attester).consume env.sequence = some (state.rateHistory attester) := by
      simp only [Account.consume, State.account, unlimited]
    rw [consumed]
    exact idle
  · rename_i maxIssuances window limited
    by_cases exempt : state.rateExempt attester = true
    · have consumed : (state.account attester).consume env.sequence = some (state.rateHistory attester) := by
        simp only [Account.consume, State.account, limited, exempt, if_true]
      rw [consumed, if_pos exempt]
      exact idle
    · have consumed : (state.account attester).consume env.sequence =
          accept maxIssuances window env.sequence (state.rateHistory attester) :=
        Account.consume_of_limit limited (Bool.eq_false_iff.mpr exempt) _
      rw [consumed, if_neg exempt]
      change (require ((recent window env.sequence (state.rateHistory attester)).length <
        maxIssuances) (Trap.contract .rateLimitExceeded) >>= _) = _
      by_cases room : (recent window env.sequence (state.rateHistory attester)).length < maxIssuances
      · rw [accept_eq_some.mpr ⟨room, rfl⟩, require, if_pos room]
        rfl
      · rw [accept_eq_none.mpr (Nat.le_of_not_lt room), require, if_neg room]
        rfl

theorem consumeIssuanceQuota_ok {metered : State} : consumeIssuanceQuota env state attester = .ok metered ↔
      ∃ history, (state.account attester).consume env.sequence = some history ∧
        { state with rateHistory := update state.rateHistory attester history } = metered := by
  rw [consumeIssuanceQuota_eq]
  cases (state.account attester).consume env.sequence with
  | none => simp
  | some history => simp

theorem consumeIssuanceQuota_refused : consumeIssuanceQuota env state attester = .error (.contract .rateLimitExceeded) ↔
      (state.account attester).consume env.sequence = none := by
  rw [consumeIssuanceQuota_eq]
  cases (state.account attester).consume env.sequence with
  | none => simp
  | some history => simp

/-- An issuance puts the new history in the place of the old one. -/
theorem attestInternal_history {result : UID × Ledger W}
    (success : attestInternal host crypto env ledger attestation = .ok result) :
    ∃ history, (ledger.sas.account attestation.attester).consume env.sequence = some history ∧
      result.2.sas.rateHistory = update ledger.sas.rateHistory attestation.attester history := by
  simp only [attestInternal, recordAttestation, admitAttestation, stamp, bind_assoc, pure_bind, enterCallbackContext,
    eq_ok, panicOn_eq_ok, writeAnchor_ok, and_assoc] at success
  rcases success with ⟨-, registry, -, -, -, -, -, -, -, -, -, -, -, schema, -, -, -,
    -, metered, quota, -, world, -, anchored, -, rfl, notified, told, rfl⟩
  rcases consumeIssuanceQuota_ok.mp quota with ⟨history, consumed, rfl⟩
  rcases notifyIssuance_frame _ _ notified told with ⟨⟨events, same⟩, -⟩
  refine ⟨history, consumed, ?_⟩
  simp only [exitCallbackContext, State.publish, same]
  rfl

theorem attestedBy_issue (absent : (book attestation.uid).attestation = none) :
    attestation.uid ∉ book.attestedBy attestation.attester ∧
      (book.issue env attestation).attestedBy attestation.attester =
        insert attestation.uid (book.attestedBy attestation.attester) := by
  refine ⟨?_, ?_⟩
  · rintro ⟨record, stored, -⟩
    rw [absent] at stored
    cases stored
  · ext uid
    by_cases own : uid = attestation.uid
    · subst own
      simp only [mem_attestedBy, Book.issue_self, Set.mem_insert_iff, true_or, iff_true]
      exact ⟨attestation, rfl, rfl⟩
    · simp only [mem_attestedBy, Book.issue_of_ne book env own, Set.mem_insert_iff, own, false_or]

theorem attestedBy_issue_of_ne (absent : (book attestation.uid).attestation = none)
    (other : attestation.attester ≠ attester) :
    (book.issue env attestation).attestedBy attester = book.attestedBy attester := by
  ext uid
  by_cases own : uid = attestation.uid
  · subst own
    simp only [mem_attestedBy, Book.issue_self, absent, Option.some.injEq,
      exists_eq_left', other, reduceCtorEq, false_and, exists_false]
  · simp only [mem_attestedBy, Book.issue_of_ne book env own]

theorem attestInternal_meters : Yields (attestInternal host crypto env ledger attestation) fun result =>
      Meters env attester ledger.sas result.2.sas := by
  intro result success
  rcases attestInternal_history success with ⟨history, consumed, written⟩
  have attested := (attestInternal_ok success).2
  have settings := attested.frame.kept.settings
  have limit : result.2.sas.rateLimit = ledger.sas.rateLimit := congrArg Settings.rateLimit settings
  have exempt : result.2.sas.rateExempt = ledger.sas.rateExempt := congrArg Settings.rateExempt settings
  have absent := attested.issuable.absent
  by_cases own : attestation.attester = attester
  · subst own
    rcases attestedBy_issue absent with ⟨fresh, added⟩
    refine ⟨1, .next .none ?_⟩
    exact {
      limit := limit
      exempt := congrFun exempt _
      consumed := by
        rw [consumed]
        simp only [State.account, written, update_self]
      stored := ⟨attestation.uid, fresh, (congrArg (Book.attestedBy · _) attested.book).trans added⟩ }
  · refine Meters.of_eq ?_
    simp only [State.account, limit, exempt, written, attested.book,
      update_of_ne (Ne.symm own), attestedBy_issue_of_ne absent own]

theorem attestedBy_revoke (stored : (book uid).attestation = some attestation) :
    (book.revoke env uid attestation).attestedBy attester = book.attestedBy attester := by
  ext other
  by_cases own : other = uid
  · subst own
    simp only [mem_attestedBy, Book.revoke_self, stored, Option.some.injEq, exists_eq_left']
  · simp only [mem_attestedBy, Book.revoke, update_of_ne own]

theorem revokeInternal_meters :
    Yields (revokeInternal host env ledger uid) fun after => Meters env attester ledger.sas after.sas := by
  intro after success
  have revoked := revokeInternal_ok success
  rcases revoked.revocable with ⟨attestation, stored, -, -, -, book⟩
  have settings := revoked.frame.kept.settings
  have limit : after.sas.rateLimit = ledger.sas.rateLimit := congrArg Settings.rateLimit settings
  have exempt : after.sas.rateExempt = ledger.sas.rateExempt := congrArg Settings.rateExempt settings
  refine .of_eq ?_
  simp only [State.account, limit, exempt, revokeInternal_history success, book, attestedBy_revoke stored]

theorem Part.meters {before after : Ledger W} {issuing : Bool}
    (part : Part host crypto env call issuing before after) (issues : call.issues = true) :
    Meters env attester before.sas after.sas := by
  cases part with
  | issue payload result success => exact attestInternal_meters result success
  | revoke uid after success => exact revokeInternal_meters after success
  | renew _ _ _ _ _ _ _ _ _ _ allowed | prune _ _ _ _ _ allowed => exact absurd allowed (Call.upkeep_of_issues issues _)
  | reindex | relay | account | publish => exact .of_eq rfl
  | replaced | verify | transfer => exact .refl _

/-- A call of any of the paths is a number of issuances. -/
theorem step_meters (issues : call.issues = true) :
    Yields (step host crypto ledger (env, call)) fun next => Meters env attester ledger.sas next.sas := by
  have acts : call.configures = false := by cases call <;> first | rfl | cases issues
  exact (step_anatomy acts).mono fun _ anatomy =>
    anatomy.related (fun before after => Meters env attester before.sas after.sas)
      ⟨fun _ => .refl _, .trans⟩ (fun _ _ _ part => part.meters issues)
      fun _ _ _ => .of_eq rfl

theorem attestedBy_revision {prunes : Prop} {before after : Book} (revision : Revision env prunes before after) :
    after.attestedBy attester ⊆ before.attestedBy attester := by
  rintro uid ⟨record, found, own⟩
  rcases revision.source found with ⟨old, stored, same⟩
  exact ⟨old, stored, (congrArg Attestation.attester same).symm.trans own⟩

theorem step_attestedBy (quiet : call.issues = false) : Yields (step host crypto ledger (env, call)) fun next =>
      next.sas.book.attestedBy attester ⊆ ledger.sas.book.attestedBy attester := by
  intro next success
  refine (step_effect next success).related (fun before after => after.attestedBy attester ⊆ before.attestedBy attester)
    ⟨fun _ => subset_rfl, fun one two => two.trans one⟩
    (fun _ _ => attestedBy_revision) ?_
  rintro before _ ⟨issued, -, intended⟩
  exact absurd intended (Call.asks_of_quiet quiet issued)

/-! ## Runs -/

/-- A move, or the end of the time for which a history was to be kept.  Nothing happens in the
contract then, so the sequence number is the only thing there is to know about the ledger. -/
inductive Turn (W : Type) where
  | move (move : Move W)
  | lapse (attester : Address) (sequence : Nat)

namespace Turn

/-- The sequence number of the ledger in which it happens. -/
def sequence : Turn W -> Option Nat
  | .move (.call env _) => some env.sequence
  | .move (.outside _) => none
  | .lapse _ sequence => some sequence

/-- The ledgers in which attestations of the attester were stored, as often as they were. -/
noncomputable def issued (attester : Address) (before after : State) : Turn W -> List Nat
  | .move (.call env _) => List.replicate
      (after.book.attestedBy attester \ before.book.attestedBy attester).ncard env.sequence
  | .move (.outside _) => []
  | .lapse _ _ => []

end Turn

def elapse (host : Host W) (crypto : Crypto) (ledger : Ledger W) : Turn W -> Except Trap (Ledger W)
  | .move move => advance host crypto ledger move
  | .lapse attester _ => .ok { ledger with sas := { ledger.sas with
      rateHistory := update ledger.sas.rateHistory attester [] } }

/-- The same for a whole run. -/
noncomputable def issuances (host : Host W) (crypto : Crypto) (attester : Address) :
    Ledger W -> List (Turn W) -> List Nat
  | _, [] => []
  | ledger, turn :: rest =>
    turn.issued attester ledger.sas (commit (elapse host crypto) ledger turn).sas ++
      issuances host crypto attester (commit (elapse host crypto) ledger turn) rest

theorem issuances_append (ledger : Ledger W) (first second : List (Turn W)) :
    issuances host crypto attester ledger (first ++ second) = issuances host crypto attester ledger first ++
        issuances host crypto attester (run (elapse host crypto) ledger first) second := by
  induction first generalizing ledger with
  | nil => rfl
  | cons turn rest ih => rw [cons_append, issuances, ih, issuances, run_cons, append_assoc]

theorem issuances_concat (ledger : Ledger W) (turns : List (Turn W)) (turn : Turn W) :
    issuances host crypto attester ledger (turns ++ [turn]) = issuances host crypto attester ledger turns ++
        turn.issued attester (run (elapse host crypto) ledger turns).sas
          (run (elapse host crypto) ledger (turns ++ [turn])).sas := by
  rw [issuances_append, issuances, issuances, append_nil, run_concat]

theorem Turn.issued_self (state : State) (turn : Turn W) : turn.issued attester state state = [] := by
  rcases turn with (⟨env, call⟩ | world) | ⟨party, sequence⟩
  · simp [issued]
  · rfl
  · rfl

variable (attester : Address) (before after : State) in
/-- What a turn is for the attester: a number of issuances, the loss of the history, or neither. -/
inductive Turned : Turn W -> Prop where
  | charged (env : Env) call count
      (charged : Charged env.sequence (before.account attester) count (after.account attester)) :
      Turned (.move (.call env call))
  | lapsed sequence (history : after.rateHistory attester = []) : Turned (.lapse attester sequence)
  | quiet (turn : Turn W) (history : after.rateHistory attester = before.rateHistory attester)
      (unissued : turn.issued attester before after = []) : Turned turn

theorem elapse_turned {turn : Turn W} :
    Yields (elapse host crypto ledger turn) fun next => Turned attester ledger.sas next.sas turn := by
  intro next success
  rcases turn with (⟨env, call⟩ | world) | ⟨party, sequence⟩
  · by_cases issues : call.issues = true
    · have meters : Meters env attester ledger.sas next.sas := step_meters issues next success
      rcases meters with ⟨count, charged⟩
      exact .charged env call count charged
    · have quiet := Bool.eq_false_iff.mpr issues
      refine .quiet _ (congrFun (step_steady quiet next success).rateHistory attester) ?_
      have unissued : next.sas.book.attestedBy attester ⊆ ledger.sas.book.attestedBy attester :=
        step_attestedBy quiet next success
      rw [Turn.issued, Set.sdiff_eq_empty.mpr unissued, Set.ncard_empty, replicate_zero]
  · cases success
    exact .quiet _ rfl rfl
  · cases success
    by_cases own : party = attester
    · subst own
      exact .lapsed sequence (update_self ..)
    · exact .quiet _ (update_of_ne (Ne.symm own) _ _) rfl

theorem Turn.issued_charged {before after : State}
    (charged : Charged env.sequence (before.account attester) count (after.account attester)) :
    (Turn.move (.call env call) : Turn W).issued attester before after = List.replicate count env.sequence :=
  congrArg (List.replicate · env.sequence) charged.stored.2.2

/-- A history holds sequence numbers of ledgers in which attestations were stored, and none more
often than that. -/
theorem history_genuine (host : Host W) (crypto : Crypto) (attester : Address) (world : W) (turns : List (Turn W)) :
    ((run (elapse host crypto) ⟨deployed, world⟩ turns).sas.rateHistory attester).Sublist
      (issuances host crypto attester ⟨deployed, world⟩ turns) := by
  induction turns using List.reverseRecOn with
  | nil => exact List.Sublist.refl []
  | append_singleton turns turn ih =>
    rw [issuances_concat, run_concat]
    cases outcome : elapse host crypto (run (elapse host crypto) ⟨deployed, world⟩ turns)
        turn with
    | error failure =>
      rw [commit_of_error outcome, Turn.issued_self, append_nil]
      exact ih
    | ok next =>
      rw [commit_of_ok outcome]
      cases elapse_turned next outcome with
      | charged env call count charged =>
        rw [Turn.issued_charged charged]
        exact charged.genuine ih
      | lapsed sequence history =>
        rw [history]
        exact nil_sublist _
      | quiet _ history unissued =>
        rw [history, unissued, append_nil]
        exact ih

/-! ### Under a fixed limit -/

/-- The configuration is in force for the attester. -/
def Limited (attester : Address) (maxIssuances window : Nat) (state : State) : Prop :=
  state.rateLimit = some (maxIssuances, window) ∧ state.rateExempt attester = false

/-- A run under one configuration, in ledgers of non-decreasing sequence.  A history that was
extended in it lasts for `window` ledgers. -/
structure Regulated (host : Host W) (crypto : Crypto) (attester : Address)
    (maxIssuances window : Nat) (start : Ledger W) (turns : List (Turn W)) : Prop where
  limited : ∀ earlier, earlier ∈ turns.inits ->
    Limited attester maxIssuances window (run (elapse host crypto) start earlier).sas
  chronological : (turns.filterMap Turn.sequence).Pairwise (· <= ·)
  lasting : ∀ earlier sequence later, turns = earlier ++ .lapse attester sequence :: later ->
    ∀ time ∈ issuances host crypto attester start earlier, time + window < sequence

/-- What holds after such a run, of the issuances in it and of the history. -/
structure Held (maxIssuances window : Nat) (passed log history : List Nat) (short : Prop) :
    Prop where
  covers : ∀ now, (∀ time ∈ passed, time <= now) -> Covers window now log history
  bounded : Bounded maxIssuances window log
  short : short ∨ log ≠ [] -> history.length <= maxIssuances

variable {turns : List (Turn W)}

section Regulated

variable {maxIssuances window : Nat} {start : Ledger W} {turn : Turn W}

theorem Regulated.init (regulated : Regulated host crypto attester maxIssuances window start (turns ++ [turn])) :
    Regulated host crypto attester maxIssuances window start turns where
  limited := by
    intro earlier early
    refine regulated.limited earlier ((mem_inits _ _).mpr ?_)
    exact ((mem_inits _ _).mp early).trans (prefix_append _ _)
  chronological := by
    have sorted := regulated.chronological
    rw [filterMap_append] at sorted
    exact (List.pairwise_append.mp sorted).1
  lasting := by
    rintro earlier sequence later rfl
    exact regulated.lasting earlier sequence (later ++ [turn]) (by simp)

theorem Held.charged {passed : List Nat} {before after : Account} {short : Prop}
    (held : Held maxIssuances window passed log before.history short)
    (limited : before.limit = some (maxIssuances, window)) (counted : before.exempt = false)
    (present : ∀ time ∈ passed, time <= now) (charged : Charged now before count after) :
    Held maxIssuances window (passed ++ [now]) (log ++ List.replicate count now) after.history short := by
  have inside : Covers window now (log ++ List.replicate count now) after.history ∧
      Bounded maxIssuances window (log ++ List.replicate count now) ∧
      (short ∨ log ++ List.replicate count now ≠ [] -> after.history.length <= maxIssuances) ∧
      after.limit = some (maxIssuances, window) ∧ after.exempt = false := by
    refine charged.extend (fun log account => Covers window now log account.history ∧
      Bounded maxIssuances window log ∧ (short ∨ log ≠ [] -> account.history.length <= maxIssuances) ∧
      account.limit = some (maxIssuances, window) ∧ account.exempt = false) ?_
      ⟨held.covers now present, held.bounded, held.short, limited, counted⟩
    rintro log middle next ⟨covers, bounded, -, limited, counted⟩ charge
    have admission := charge.consumed
    rw [Account.consume_of_limit limited counted] at admission
    exact ⟨covers.admitted admission, bounded.admitted covers admission,
      fun _ => length_accept admission, charge.limit.trans limited, charge.exempt.trans counted⟩
  rcases inside with ⟨covers, bounded, short, -, -⟩
  refine ⟨fun later passed => covers.mono (passed now ?_), bounded, short⟩
  exact mem_append_right _ (mem_singleton_self now)

theorem regulated_held (regulated : Regulated host crypto attester maxIssuances window start turns) :
    Held maxIssuances window (turns.filterMap Turn.sequence) (issuances host crypto attester start turns)
      ((run (elapse host crypto) start turns).sas.rateHistory attester)
      ((start.sas.rateHistory attester).length <= maxIssuances) := by
  induction turns using List.reverseRecOn with
  | nil =>
    refine ⟨fun now _ => .nil window now _, bounded_nil _ _, ?_⟩
    rintro (short | some)
    · exact short
    · exact absurd rfl some
  | append_singleton turns turn ih =>
    have held := ih regulated.init
    have limited := regulated.limited turns ((mem_inits _ _).mpr (prefix_append _ _))
    have sorted := regulated.chronological
    rw [filterMap_append] at sorted
    rw [issuances_concat, run_concat, filterMap_append]
    cases outcome : elapse host crypto (run (elapse host crypto) start turns) turn with
    | error failure =>
      rw [commit_of_error outcome, Turn.issued_self, append_nil]
      exact ⟨fun now passed => held.covers now fun time early =>
        passed time (mem_append_left _ early), held.bounded, held.short⟩
    | ok next =>
      rw [commit_of_ok outcome]
      cases elapse_turned next outcome with
      | charged env call count charged =>
        rw [Turn.issued_charged charged]
        refine held.charged limited.1 limited.2 (fun time early => ?_) charged
        exact (List.pairwise_append.mp sorted).2.2 time early env.sequence (mem_singleton_self _)
      | lapsed sequence history =>
        have gone := regulated.lasting turns sequence [] rfl
        rw [Turn.issued, append_nil, history]
        refine ⟨fun now passed => .of_past (fun time early => ?_) [], held.bounded, fun _ => Nat.zero_le _⟩
        have late := passed sequence (mem_append_right _ (mem_singleton_self _))
        exact (gone time early).trans_le late
      | quiet _ history unissued =>
        rw [unissued, append_nil, history]
        exact ⟨fun now passed => held.covers now fun time early =>
          passed time (mem_append_left _ early), held.bounded, held.short⟩

end Regulated

/-! ### Refusals -/

/-- Up to the issuance of an item, a call is a number of issuances as well. -/
theorem submits_meters {current : Ledger W} {payload : Attestation}
    (submits : Submits host crypto env ledger call current payload) : Meters env attester ledger.sas current.sas :=
  submits.related (fun before after => Meters env attester before.sas after.sas)
    ⟨fun _ => .refl _, .trans⟩ (fun _ _ _ part => part.meters submits.issues) fun _ _ => .of_eq rfl

/-- `attest_internal` gets to the quota and is refused there. -/
def Refused (env : Env) (state : State) (attester : Address) : Prop :=
  ∃ entered, enterCallbackContext state = .ok entered ∧
    consumeIssuanceQuota env entered attester = .error (.contract .rateLimitExceeded)

theorem Refused.consume (refused : Refused env state attester) :
    (state.account attester).consume env.sequence = none := by
  rcases refused with ⟨entered, context, exceeded⟩
  simp only [enterCallbackContext, eq_ok] at context
  rcases context with ⟨-, rfl⟩
  have full := consumeIssuanceQuota_refused.mp exceeded
  exact full

/-- Under one configuration the attestations that are stored for an attester stay within the
limit, whatever window of sequence numbers is looked at.  An issuance is refused only if that many
were stored in the last `window` ledgers, counting those that the same call has stored before it.
The history has no more than `max_issuances` entries, once the attester has issued something under
the configuration or if it had no more when the configuration came into force. -/
theorem issuance_quota_slides {world : W} {opening closing : List (Turn W)} {attester : Address}
    {maxIssuances window : Nat} (regulated : Regulated host crypto attester maxIssuances window
      (run (elapse host crypto) ⟨deployed, world⟩ opening) closing) :
    let deployed : Ledger W := ⟨deployed, world⟩
    let start := run (elapse host crypto) deployed opening
    let reached := run (elapse host crypto) deployed (opening ++ closing)
    Bounded maxIssuances window (issuances host crypto attester start closing) ∧
    (forall env call current payload, Submits host crypto env reached call current payload ->
      payload.attester = attester -> Refused env current.sas payload.attester -> maxIssuances ≤
        (recent window env.sequence (issuances host crypto attester deployed (opening ++ closing))).length +
        (current.sas.book.attestedBy attester \ reached.sas.book.attestedBy attester).ncard) ∧
    ((start.sas.rateHistory attester).length ≤ maxIssuances ∨ issuances host crypto attester start closing ≠ [] ->
      (reached.sas.rateHistory attester).length ≤ maxIssuances) := by
  intro deployed start reached
  have split : reached = run (elapse host crypto) start closing := run_append _ _ _
  have held := regulated_held regulated
  refine ⟨held.bounded, ?_, split ▸ held.short⟩
  intro env call current payload submits own refused
  have limited : Limited attester maxIssuances window reached.sas :=
    split ▸ regulated.limited closing ((mem_inits _ _).mpr (prefix_refl _))
  have meters : Meters env attester reached.sas current.sas := submits_meters submits
  rcases meters with ⟨count, charged⟩
  have stored : (current.sas.book.attestedBy attester \
      reached.sas.book.attestedBy attester).ncard = count := charged.stored.2.2
  have genuine : (current.sas.account attester).history.Sublist
      (issuances host crypto attester deployed (opening ++ closing) ++ List.replicate count env.sequence) :=
    charged.genuine (history_genuine host crypto attester world (opening ++ closing))
  have full := (own ▸ refused).consume
  rw [Account.consume_of_limit (charged.limit.trans limited.1) (charged.exempt.trans limited.2)] at full
  rw [stored, ← recent_replicate]
  exact refused_of_sublist full genuine

theorem mem_issuances {time : Nat} (member : time ∈ issuances host crypto attester ledger turns) :
    time ∈ turns.filterMap Turn.sequence := by
  induction turns generalizing ledger with
  | nil => cases member
  | cons turn rest ih =>
    rw [issuances, mem_append] at member
    rcases member with now | later
    · rcases turn with (⟨env, call⟩ | world) | ⟨party, sequence⟩
      · rw [eq_of_mem_replicate now]
        exact mem_cons_self
      · cases now
      · cases now
    · exact List.mem_filterMap.mpr (by
        rcases List.mem_filterMap.mp (ih later) with ⟨other, among, named⟩
        exact ⟨other, mem_cons_of_mem turn among, named⟩)

open Address (accountOfNat)

/-- The service with a limit in force. -/
def okLimited (maxIssuances : Nat) : List (Turn Unit) :=
  [.move (.call (signedAt [1] 100) (.init (accountOfNat 1) (.contract 7))),
    .move (.call (signedAt [1] 100) (.setIssuanceRateLimit maxIssuances 10))]

/-- Two answers in different ledgers, and the end of the history. -/
def okQuota : List (Turn Unit) :=
  [.move (.call (signedAt [2] 100) (.attest (okAnswer true))),
    .move (.call (signedAt [2] 105) (.attest (okAnswer false))), .lapse (accountOfNat 2) 200]

/-- The limit allows for both answers, and the history has ended in time. -/
theorem issuance_quota_slides_lapsed : (run (elapse okHost answerCrypto) ⟨deployed, ()⟩
      (okLimited 2 ++ okQuota.dropLast)).sas.rateHistory (accountOfNat 2) = [100, 105] ∧
    Bounded 2 10 (issuances okHost answerCrypto (accountOfNat 2)
      (run (elapse okHost answerCrypto) ⟨deployed, ()⟩ (okLimited 2)) okQuota) := by
  refine ⟨rfl, (issuance_quota_slides ⟨?_, by decide, ?_⟩).1⟩
  · unfold Limited
    decide
  · rintro earlier sequence later split time member
    have listed := mem_issuances member
    rcases earlier with _ | ⟨_, _ | ⟨_, _ | ⟨_, rest⟩⟩⟩
    · cases split
    · cases split
    · cases split
      clear member
      revert time
      decide
    · have lengths := congrArg List.length split
      simp only [okQuota, length_append, length_cons, length_nil] at lengths
      omega

/-- A limit that is lowered leaves a longer history behind.  And a batch is refused because of its
own items, of which none is stored in the end. -/
theorem issuance_quota_exceptions :
    let lowered := run (elapse okHost answerCrypto) ⟨deployed, ()⟩
      (okLimited 2 ++ okQuota.dropLast ++ [.move (.call (signedAt [1] 105) (.setIssuanceRateLimit 1 10))])
    let limited := run (elapse okHost answerCrypto) ⟨deployed, ()⟩ (okLimited 1)
    (Limited (accountOfNat 2) 1 10 lowered.sas ∧ (lowered.sas.rateHistory (accountOfNat 2)).length = 2) ∧
    Limited (accountOfNat 2) 1 10 limited.sas ∧ (forall uid, recordOf limited.sas uid = none) ∧
    step okHost answerCrypto limited
      (signedAt [2] 100, .multiAttest [okAnswer true, okAnswer false]) = .error (.contract .rateLimitExceeded) := by
  unfold Limited
  exact ⟨by decide, by decide, fun _ => rfl, rfl⟩

end SorobanSas.Sas
