import SorobanSas.Sas.Solvency
import Mathlib.Algebra.BigOperators.Finprod

namespace SorobanSas.Sas

open Library

/-!
# What the fee ledgers record of a payment

`attest_with_value` computes the amounts that it credits once, from the default fee, and the
value that it requires in one of two ways.  For the default token the required value is the
sum of what is credited.  For an additional token it starts from the amount configured for
that token, while the treasury is still credited with the default fee.

The two agree for an additional token exactly if its amount is the quote in the default
token.  Otherwise `TREASURY_FEES` records more than was paid, or less.
-/

variable {W : Type} {host : Host W} {crypto : Crypto} {env : Env} {token : Address}
  {value extra : Int} {ledger : Ledger W} {attestation : Attestation} {base : Int}

/-! ## Sound settings -/

theorem distributeAttestationFee_fees {schemaUid : UID} :
    Yields (distributeAttestationFee host env ledger schemaUid token value) fun after =>
      SameFees ledger.sas after.sas := by
  unfold distributeAttestationFee
  split
  · exact .pure (.refl _)
  · split
    · exact .pure (.refl _)
    · exact .skip3 <| .ite (fun _ => .pure (.refl _))
        fun _ => .skip3 <| .pure ⟨rfl, rfl, id⟩

theorem takePayment_credits : Yields (takePayment host env ledger attestation token value base extra) fun after =>
      ∃ paid creator, creditedCreator host env ⟨ledger.sas, paid⟩ attestation.schemaUid extra = .ok creator ∧
        SameFees (creditCreator (creditTreasury ledger.sas token base) creator token extra) after.sas :=
  .skip <| .bind fun paid _ => .bind fun creator credited => distributeAttestationFee_fees.mono fun _ same =>
      ⟨paid, creator, credited, same.treasury, same.creators, same.sound⟩

theorem attestWithValue_sound (sound : ledger.sas.feeSettings.Sound) :
    Yields (attestWithValue host crypto env ledger attestation token value) fun result =>
      result.2.sas.feeSettings.Sound := by
  refine .skip3 <| .bind fun base _ => .skip3 <| .bind fun settled paid => .bind fun issued stored => .pure ?_
  have settledSound : settled.sas.feeSettings.Sound := by
    unfold settleFee at paid
    split at paid
    · rcases takePayment_credits settled paid with ⟨_, creator, -, same⟩
      refine same.sound ?_
      rw [credits_settings]
      exact sound
    · cases paid
      exact sound
  exact (attestInternal_ok stored).2.frame.fees.sound settledSound

/-- Only the setters change the settings, and they keep them sound. -/
theorem step_sound {call : Call} (sound : ledger.sas.feeSettings.Sound) :
    Yields (step host crypto ledger (env, call)) fun next => next.sas.feeSettings.Sound := by
  by_cases free : call.pays = false
  · exact (step_outcome free).mono fun _ outcome => outcome.fees.sound sound
  cases call with
  | attestWithValue => exact ledgerOf_yields (attestWithValue_sound sound)
  | withdrawTokens => exact .skip4 <| .skip2 <| .pure sound
  | withdrawCreatorFees | withdrawTreasuryFees => exact .skip4 <| .pure sound
  | _ => exact absurd rfl free

theorem feeSettings_sound (world : W) (moves : List (Move W)) :
    (run (advance host crypto) ⟨deployed, world⟩ moves).sas.feeSettings.Sound := by
  have deployed : deployed.feeSettings.Sound := by
    refine ⟨fun _ configured => ?_, Int.le_refl 0, fun _ _ configured => ?_⟩
    · cases configured
    · cases configured
  have preserved (ledger : Ledger W) (move : Move W) (next : Ledger W) (sound : ledger.sas.feeSettings.Sound) (_ : True)
      (success : advance host crypto ledger move = .ok next) : next.sas.feeSettings.Sound := by
    cases move with
    | outside =>
      cases success
      exact sound
    | call => exact step_sound sound next success
  exact run_invariant preserved deployed (admissible_true _ moves)

/-- No run leads to settings under which a fee, or the share of a creator, is negative. -/
theorem fees_never_negative (host : Host W) (crypto : Crypto) (world : W) (moves : List (Move W))
    (schemaUid : UID) (size : Nat) :
    let reached := (run (advance host crypto) ⟨deployed, world⟩ moves).sas
    Yields (feeQuote reached schemaUid size) fun base =>
      0 <= base ∧ 0 <= creatorFee (reached.schemaFees schemaUid) base := by
  intro reached base quoted
  have sound : reached.feeSettings.Sound := feeSettings_sound world moves
  exact ⟨feeQuote_nonneg sound base quoted, creatorFee_nonneg sound schemaUid base⟩

/-! ## Credits -/

def credited (balance amount : Int) : Int := if 0 < amount then saturatingI128 (balance + amount) else balance

theorem credited_eq {balance amount : Int} (nonneg : 0 <= amount)
    (unclipped : saturatingI128 (balance + amount) = balance + amount) :
    credited balance amount = balance + amount := by
  unfold credited
  split
  · exact unclipped
  · omega

theorem credit_owed (state : State) (token : Address) (amount : Int) (party : Option Address) :
    owed (state.credit token amount party) token =
      update (owed state token) party (credited (owed state token party) amount) := by
  unfold State.credit credited
  split
  · exact owed_putOwed state token _ party
  · exact (update_eq_self party (owed state token)).symm

/-- Two entries of the token that is paid with change. -/
theorem credits_owed (state : State) (creator token : Address) (base extra : Int) :
    owed (creditCreator (creditTreasury state token base) creator token extra) token =
      update (update (owed state token) none (credited (state.treasuryFees token) base)) (some creator)
        (credited (state.creatorFees creator token) extra) := by
  rw [credits_eq, credit_owed, credit_owed, update_of_ne (Option.some_ne_none creator)]
  rfl

/-- How much more is owed to the treasury and to all creators together than before. -/
noncomputable def recorded (before after : State) (token : Address) : Int :=
  after.treasuryFees token - before.treasuryFees token +
    ∑ᶠ creator, (after.creatorFees creator token - before.creatorFees creator token)

/-- The sum has at most one term that counts. -/
theorem recorded_of_credits {before after : State} {creator : Address}
    (changed : owed after token = update (update (owed before token) none
      (before.treasuryFees token + base)) (some creator)
      (before.creatorFees creator token + extra)) : recorded before after token = base + extra := by
  have treasury : after.treasuryFees token = before.treasuryFees token + base := by
    simpa [owed] using congrFun changed none
  have own : after.creatorFees creator token = before.creatorFees creator token + extra := by
    simpa [owed] using congrFun changed (some creator)
  have others (other : Address) (different : other ≠ creator) :
      after.creatorFees other token - before.creatorFees other token = 0 := by
    have apart : some other ≠ some creator := fun equal => different (Option.some.inj equal)
    have same := congrFun changed (some other)
    rw [update_of_ne apart, update_of_ne (Option.some_ne_none other)] at same
    exact sub_eq_zero.mpr same
  unfold recorded
  rw [finsum_eq_single _ creator others, treasury, own]
  omega

/-- The token is charged what is recorded: it is the default one, or its own amount is the default
quote.  What is charged is capped at the largest `i128`. -/
def ChargedAsRecorded (state : State) (token : Address) (base extra : Int) : Prop :=
  base + extra <= i128Max ∧ (isDefaultToken state token = true ∨ ∃ amount, state.acceptedFees token = some amount ∧
    (amount = base ∨ base + extra = i128Max ∧ i128Max < amount + extra))

theorem requireExactFee_sum {state : State} {done : Unit} (positive : 0 < value)
    (priced : requireExactFee state token value base extra = .ok done) :
    base + extra = value ↔ ChargedAsRecorded state token base extra := by
  unfold requireExactFee at priced
  split at priced
  · rename_i default
    have total : value = saturatingI128 (base + extra) := require_eq_ok.mp priced
    simp only [ChargedAsRecorded, default, true_or, and_true]
    unfold saturatingI128 i128Min at total
    omega
  · rename_i additional
    split at priced
    · rename_i amount accepted
      have total : value = saturatingI128 (amount + extra) := require_eq_ok.mp priced
      rw [total] at positive ⊢
      simp only [ChargedAsRecorded, accepted, Option.some.injEq, exists_eq_left', additional, Bool.false_eq_true,
        false_or]
      unfold saturatingI128 i128Min at positive ⊢
      omega
    · exact absurd (require_eq_ok.mp priced).2.1 (Int.ne_of_gt positive)

/-! ## Payments -/

/-- What a payment leaves on record.  The settings name the amounts, and the registry the
creator. -/
theorem attestWithValue_records {result : UID × Ledger W} (positive : 0 < value)
    (success : attestWithValue host crypto env ledger attestation token value = .ok result) : ∃ base paid creator,
      let extra := creatorFee (ledger.sas.schemaFees attestation.schemaUid) base
      feeQuote ledger.sas attestation.schemaUid attestation.data.length = .ok base ∧
      requireExactFee ledger.sas token value base extra = .ok () ∧
      creditedCreator host env ⟨ledger.sas, paid⟩ attestation.schemaUid extra = .ok creator ∧
      (∀ other, other ≠ token -> owed result.2.sas other = owed ledger.sas other) ∧
      owed result.2.sas token = update (update (owed ledger.sas token) none
        (credited (ledger.sas.treasuryFees token) base)) (some creator)
        (credited (ledger.sas.creatorFees creator token) extra) := by
  simp only [attestWithValue, settleFee, if_pos positive, eq_ok] at success
  rcases success with ⟨-, -, -, base, quoted, -, priced, -, settled, taken, issued, stored, rfl⟩
  rcases takePayment_credits settled taken with ⟨paid, creator, named, same⟩
  have fees := same.trans (attestInternal_ok stored).2.frame.fees
  refine ⟨base, paid, creator, quoted, priced, named, fun other different => ?_, ?_⟩
  · refine (owed_congr fees other).trans ?_
    rw [credits_eq, credit_owed_of_ne different.symm, credit_owed_of_ne different.symm]
  · exact (owed_congr fees token).trans (credits_owed _ _ _ _ _)

/-- A payment changes only entries of its token, and among them those of the treasury and of
one creator.  If the credited entries fit an `i128`, they record the payment exactly for the default
token, and for another token exactly if it is charged what the default quote says. -/
theorem fees_recorded_iff (host : Host W) (crypto : Crypto) (env : Env) (ledger : Ledger W)
    (attestation : Attestation) (token : Address) (value : Int) (result : UID × Ledger W)
    (sound : ledger.sas.feeSettings.Sound) (positive : 0 < value)
    (success : attestWithValue host crypto env ledger attestation token value = .ok result) : ∃ base paid creator,
      let extra := creatorFee (ledger.sas.schemaFees attestation.schemaUid) base
      feeQuote ledger.sas attestation.schemaUid attestation.data.length = .ok base ∧
      creditedCreator host env ⟨ledger.sas, paid⟩ attestation.schemaUid extra = .ok creator ∧
      (forall other, other ≠ token -> owed result.2.sas other = owed ledger.sas other) ∧
      (forall other, other ≠ creator -> result.2.sas.creatorFees other token = ledger.sas.creatorFees other token) ∧
      (saturatingI128 (ledger.sas.treasuryFees token + base) = ledger.sas.treasuryFees token + base ->
        saturatingI128 (ledger.sas.creatorFees creator token + extra) = ledger.sas.creatorFees creator token + extra ->
        (recorded ledger.sas result.2.sas token = value ↔ ChargedAsRecorded ledger.sas token base extra)) := by
  rcases attestWithValue_records positive success with ⟨base, paid, creator, quoted, priced, named, foreign, own⟩
  refine ⟨base, paid, creator, quoted, named, foreign, fun other different => ?_, fun treasuryFits creatorFits => ?_⟩
  · have apart : some other ≠ some creator := fun equal => different (Option.some.inj equal)
    have entry := congrFun own (some other)
    rwa [update_of_ne apart, update_of_ne (Option.some_ne_none other)] at entry
  · rw [credited_eq (feeQuote_nonneg sound base quoted) treasuryFits,
      credited_eq (creatorFee_nonneg sound attestation.schemaUid base) creatorFits] at own
    rw [recorded_of_credits own]
    exact requireExactFee_sum positive priced

open Address (accountOfNat)
open Registry (okSchemaUid)

theorem fees_recorded_iff_default :
    let before := run (advance coinHost answerCrypto) coinStart pricedRun
    ∃ result, attestWithValue coinHost answerCrypto (signedAt [2] 100) before (okAnswer true) coin
        13 = .ok result ∧ recorded before.sas result.2.sas coin = 13 := by
  intro before
  have paid : (attestWithValue coinHost answerCrypto (signedAt [2] 100) before (okAnswer true) coin
      13).isOk = true := rfl
  rcases exists_of_isOk paid with ⟨result, success⟩
  refine ⟨result, success, ?_⟩
  rcases fees_recorded_iff coinHost answerCrypto (signedAt [2] 100) before (okAnswer true) coin 13
    result (feeSettings_sound _ _) (by decide) success with
    ⟨base, _, creator, quoted, -, -, -, exact⟩
  have ten : feeQuote before.sas okSchemaUid 1 = .ok 10 := rfl
  cases quoted.symm.trans ten
  exact (exact rfl rfl).mpr ⟨by decide, .inl rfl⟩

/-- The default fee is ten units of another token.  Coins are accepted as well, at forty for an
attestation, and the creator of the schema gets three of what is paid. -/
def secondToken : List (Move (Address -> Int)) :=
  [.call (signedAt [1] 100) (.init (accountOfNat 1) (.contract 7)),
    .call (signedAt [1] 100) (.setFee (.contract 21) 10), .call (signedAt [1] 100) (.setAcceptedFee coin 40),
    .call (signedAt [1] 100) (.setTreasury (accountOfNat 5)),
    .call (signedAt [2] 100) (.setSchemaFee okSchemaUid (accountOfNat 2) 1 3 0)]

/-- Forty-three coins are paid, and thirteen recorded. -/
theorem fees_misrecorded :
    let before := run (advance coinHost answerCrypto) coinStart secondToken
    ∃ result, attestWithValue coinHost answerCrypto (signedAt [2] 100) before (okAnswer true) coin
        43 = .ok result ∧ recorded before.sas result.2.sas coin = 13 := by
  intro before
  have paid : (attestWithValue coinHost answerCrypto (signedAt [2] 100) before (okAnswer true) coin
      43).isOk = true := rfl
  rcases exists_of_isOk paid with ⟨result, success⟩
  refine ⟨result, success, ?_⟩
  rcases attestWithValue_records (by decide) success with ⟨base, _, creator, quoted, -, -, -, own⟩
  have ten : feeQuote before.sas okSchemaUid 1 = .ok 10 := rfl
  cases quoted.symm.trans ten
  have three : creatorFee (before.sas.schemaFees (okAnswer true).schemaUid) 10 = 3 := by decide
  rw [three, credited_eq (by decide) rfl, credited_eq (by decide) rfl] at own
  exact recorded_of_credits own

end SorobanSas.Sas
