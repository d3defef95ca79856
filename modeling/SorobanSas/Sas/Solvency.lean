import SorobanSas.Library.Custody
import SorobanSas.Sas.AppendOnly
import Mathlib.Algebra.BigOperators.Option

namespace SorobanSas.Sas

open Library

/-!
# Solvency

The service records what it owes in each token: `TREASURY_FEES` to the treasury and
`CREATOR_FEES` to each creator.  It is solvent in a token if its balance covers all of that.

`attest_with_value` credits both parts of a payment on record.  If a treasury is configured,
it then sends the payment on through `distribute_attestation_fee`, and without a creator's
fee it has not even received it.  Every such payment leaves more owed than held.  Without a
treasury the payment stays with the service and covers what is credited, as long as the sum
of its parts is not cut off at the largest `i128`.
-/

variable {W : Type} {host : Host W} {crypto : Crypto} {env : Env} {ledger after : Ledger W}
  {paying destination authorizer other : Address} {value holdings : Int} {attestation : Attestation}
  {amount : Int} {state : State}

/-! ## What is owed and what is held -/

/-- What is owed in a token, to the treasury (`none`) and to each creator. -/
def owed (state : State) (token : Address) : Option Address -> Int
  | none => state.treasuryFees token
  | some creator => state.creatorFees creator token

/-- The token contract, as far as the holdings of the service are concerned.  A transfer
moves exactly the amount, and nobody else can lower the holdings: other tokens and the
contracts that are called back do not have the service's authorisation. -/
structure Bank (host : Host W) (sas token : Address) (held : W -> Int) : Prop where
  reported : ∀ world, host.balance world token sas = .ok (held world)
  exact : ∀ env world sender destination amount after,
    host.transfer env world token sender destination amount = .ok after ->
    held after = held world - (if sender = sas then amount else 0) + (if destination = sas then amount else 0)
  foreign : ∀ env world other sender destination amount after, other ≠ token ->
    host.transfer env world other sender destination amount = .ok after -> held world <= held after
  callback : ∀ env world callee after, callee ≠ .other true -> Callback host env world callee after ->
    held world <= held after

/-- The invariant of a run. -/
structure Solvent (held : W -> Int) (token : Address) (ledger : Ledger W) : Prop where
  covered : Covered (owed ledger.sas token) (held ledger.world)
  sound : ledger.sas.feeSettings.Sound

variable {sas token : Address} {held : W -> Int}

theorem Bank.callbacks (bank : Bank host sas token held) {before after : W}
    (callbacks : Callbacks host env before after) : held before <= held after := by
  induction callbacks with
  | refl => exact Int.le_refl _
  | tail _ called ih =>
    rcases called with ⟨callee, unpaid, callback⟩
    exact Int.le_trans ih (bank.callback env _ callee _ unpaid callback)

theorem owed_congr {before after : State} (same : SameFees before after) (token : Address) :
    owed after token = owed before token := by
  funext party
  cases party with
  | none => exact congrFun same.treasury token
  | some creator => exact congrFun (congrFun same.creators creator) token

theorem Solvent.kept {before : Ledger W} (solvent : Solvent held token before)
    (same : owed after.sas token = owed before.sas token)
    (sound : before.sas.feeSettings.Sound -> after.sas.feeSettings.Sound)
    (raised : held before.world <= held after.world) : Solvent held token after := by
  refine ⟨?_, sound solvent.sound⟩
  rw [same]
  exact solvent.covered.mono raised

/-- What is owed to one party, the treasury or a creator, is written anew. -/
def State.putOwed (state : State) (token : Address) (amount : Int) : Option Address -> State
  | none => { state with treasuryFees := update state.treasuryFees token amount }
  | some creator =>
    { state with creatorFees := update state.creatorFees creator (update (state.creatorFees creator) token amount) }

theorem owed_putOwed (state : State) (token : Address) (amount : Int) (party : Option Address) :
    owed (state.putOwed token amount party) token = update (owed state token) party amount := by
  funext other
  cases party with
  | none => cases other <;> simp [State.putOwed, owed]
  | some creator =>
    cases other with
    | none => rfl
    | some holder => by_cases same : holder = creator <;> simp [State.putOwed, owed, same, update_of_ne]

theorem owed_putOwed_of_ne (state : State) (distinct : other ≠ token) (amount : Int) (party : Option Address) :
    owed (state.putOwed other amount party) token = owed state token := by
  funext holder
  cases party with
  | none => cases holder <;> simp [State.putOwed, owed, update_of_ne distinct.symm]
  | some creator =>
    cases holder with
    | none => rfl
    | some holder =>
      by_cases same : holder = creator <;> simp [State.putOwed, owed, same, update_of_ne, distinct.symm]

/-! ## Withdrawals -/

section Withdrawals

variable (bank : Bank host env.currentContract token held)

include bank

theorem Bank.payOut (positive : 0 < amount)
    (success : payOut host env ledger paying amount destination authorizer = .ok after) :
    SameFees ledger.sas after.sas ∧ held ledger.world - (if paying = token then amount else 0) <= held after.world := by
  simp only [Sas.payOut, eq_ok] at success
  rcases success with ⟨world, transferred, rfl⟩
  refine ⟨⟨rfl, rfl, id⟩, ?_⟩
  by_cases same : paying = token
  · subst same
    have moved := bank.exact _ _ _ _ _ _ transferred
    rw [if_pos rfl] at moved ⊢
    split at moved <;> dsimp only <;> omega
  · rw [if_neg same, Int.sub_zero]
    exact bank.foreign _ _ _ _ _ _ _ same transferred

theorem Solvent.paidOut {party : Option Address} (solvent : Solvent held token ledger) (positive : 0 < amount)
    (due : amount <= owed ledger.sas paying party) (success : payOut host env { ledger with
        sas := ledger.sas.putOwed paying (owed ledger.sas paying party - amount) party } paying amount destination
      authorizer = .ok after) : Solvent held token after := by
  rcases bank.payOut positive success with ⟨fees, paid⟩
  have settings : (ledger.sas.putOwed paying (owed ledger.sas paying party - amount) party).feeSettings =
      ledger.sas.feeSettings := by
    cases party <;> rfl
  have sound : after.sas.feeSettings.Sound := fees.sound (settings ▸ solvent.sound)
  refine ⟨?_, sound⟩
  rw [owed_congr fees token]
  by_cases same : paying = token
  · subst same
    rw [if_pos rfl] at paid
    rw [owed_putOwed]
    exact (solvent.covered.debit due).mono paid
  · rw [if_neg same, Int.sub_zero] at paid
    rw [owed_putOwed_of_ne _ same]
    exact solvent.covered.mono paid

theorem withdrawCreatorFees_solvent {creator : Address} (solvent : Solvent held token ledger) :
    Yields (withdrawCreatorFees host env ledger creator paying amount destination) (Solvent held token) := by
  refine .bind fun _ positive => .skip <| .bind fun _ due => ?_
  intro after success
  have covers : amount <= owed ledger.sas paying (some creator) := require_eq_ok.mp due
  exact solvent.paidOut bank (require_eq_ok.mp positive) covers success

theorem withdrawTreasuryFees_solvent (solvent : Solvent held token ledger) :
    Yields (withdrawTreasuryFees host env ledger authorizer paying amount destination) (Solvent held token) := by
  refine .bind fun _ positive => .skip <| .bind fun _ due => ?_
  intro after success
  have covers : amount <= owed ledger.sas paying none := require_eq_ok.mp due
  exact solvent.paidOut bank (require_eq_ok.mp positive) covers success

end Withdrawals

/-! ## Payments -/

theorem saturatingI128_le (nonneg : 0 <= value) : saturatingI128 value <= value := by
  unfold saturatingI128 i128Min i128Max
  omega

theorem saturatingI128_nonneg (nonneg : 0 <= value) : 0 <= saturatingI128 value := by
  unfold saturatingI128 i128Min i128Max
  omega

theorem saturatingI128_eq (nonneg : 0 <= value) (small : value <= i128Max) : saturatingI128 value = value := by
  unfold saturatingI128 i128Min
  omega

/-- The base fee is not negative. -/
theorem feeQuote_nonneg (sound : state.feeSettings.Sound) {schemaUid : UID} {size : Nat} :
    Yields (feeQuote state schemaUid size) (0 <= ·) := by
  refine .skip <| .ite (fun _ => .pure (Int.le_refl 0)) fun _ => ?_
  intro quote quoted
  have base : 0 <= (state.feeConfig.map (·.2)).getD 0 := by
    cases configured : state.feeConfig with
    | none => exact Int.le_refl 0
    | some fee => exact sound.base fee configured
  have extra : 0 <= state.feePerByte.getD 0 * size := Int.mul_nonneg sound.perByte (Int.natCast_nonneg size)
  rcases Option.bind_eq_some_iff.mp (expect_eq_ok.mp quoted) with ⟨product, computed, total⟩
  unfold checkedI128 at computed total
  split at computed
  · cases computed
    split at total
    · cases total
      exact Int.add_nonneg base extra
    · cases total
  · cases computed

theorem creatorFee_nonneg (sound : state.feeSettings.Sound) (schemaUid : UID) (base : Int) :
    0 <= creatorFee (state.schemaFees schemaUid) base := by
  cases configured : state.schemaFees schemaUid with
  | none => exact Int.le_refl 0
  | some fee =>
    unfold creatorFee
    dsimp only
    split
    · rename_i fixed
      exact sound.fixed schemaUid fee configured fixed
    · split
      · split
        · rename_i positive
          refine Int.tdiv_nonneg (saturatingI128_nonneg ?_) (by decide)
          exact Int.mul_nonneg (Int.le_of_lt positive) (Int.natCast_nonneg _)
        · exact Int.le_refl 0
      · exact Int.le_refl 0

/-- What `creditTreasury` and `creditCreator` have in common. -/
def State.credit (state : State) (token : Address) (amount : Int) (party : Option Address) : State :=
  if 0 < amount then state.putOwed token (saturatingI128 (owed state token party + amount)) party else state

theorem credits_eq (state : State) (creator token : Address) (base extra : Int) :
    creditCreator (creditTreasury state token base) creator token extra =
      (state.credit token base none).credit token extra (some creator) := rfl

theorem credit_covered (party : Option Address) (covered : Covered (owed state token) holdings)
    (deposit : 0 <= amount) : Covered (owed (state.credit token amount party) token) (holdings + amount) := by
  have valid : 0 <= owed state token party + amount := Int.add_nonneg (covered.nonneg party) deposit
  unfold State.credit
  split
  · rw [owed_putOwed]
    exact covered.credit deposit (saturatingI128_nonneg valid) (saturatingI128_le valid)
  · exact covered.mono (by omega)

theorem credit_owed_of_ne (distinct : paying ≠ token) (state : State) (amount : Int) (party : Option Address) :
    owed (state.credit paying amount party) token = owed state token := by
  unfold State.credit
  split
  · exact owed_putOwed_of_ne state distinct _ party
  · rfl

theorem credits_settings (state : State) (creator paying : Address) (base extra : Int) :
    (creditCreator (creditTreasury state paying base) creator paying extra).feeSettings = state.feeSettings := by
  unfold creditCreator creditTreasury
  split <;> split <;> rfl

/-- Without a treasury nothing is sent on. -/
theorem distributeAttestationFee_unset {schemaUid : UID} (unset : ledger.sas.treasury = none) :
    Yields (distributeAttestationFee host env ledger schemaUid paying value) (· = ledger) := by
  unfold distributeAttestationFee
  split
  · exact .pure rfl
  · split
    · exact .pure rfl
    · refine .skip3 <| .ite (fun _ => .pure rfl) fun _ => ?_
      refine .bind fun treasury configured => ?_
      exact nomatch unset.symm.trans (expect_eq_ok.mp configured)

/-- Without a treasury the service receives the payment and keeps it. -/
theorem takePayment_solvent (bank : Bank host env.currentContract token held) {base extra : Int}
    (solvent : Solvent held token ledger) (unset : ledger.sas.treasury = none)
    (payer : attestation.attester ≠ env.currentContract) (baseNonneg : 0 <= base) (extraNonneg : 0 <= extra)
    (total : isDefaultToken ledger.sas paying = true -> value = base + extra) :
    Yields (takePayment host env ledger attestation paying value base extra) (Solvent held token) := by
  refine .bind fun _ accepted => .bind fun world transferred => .bind fun creator _ => ?_
  have default : isDefaultToken ledger.sas paying = true :=
    (require_eq_ok.mp accepted).resolve_right fun configured => configured unset
  have received : host.transfer env ledger.world paying attestation.attester env.currentContract
      value = .ok world := by
    rw [unset] at transferred
    simpa using transferred
  have settings := credits_settings ledger.sas creator paying base extra
  have keptUnset : (creditCreator (creditTreasury ledger.sas paying base) creator paying extra).treasury = none := by
    unfold creditCreator creditTreasury
    split <;> split <;> exact unset
  refine (distributeAttestationFee_unset keptUnset).mono ?_
  rintro after rfl
  refine ⟨?_, settings ▸ solvent.sound⟩
  by_cases same : paying = token
  · subst same
    have moved := bank.exact _ _ _ _ _ _ received
    rw [if_neg payer, if_pos rfl, total default] at moved
    have credited := credit_covered none solvent.covered baseNonneg
    exact (credit_covered (some creator) credited extraNonneg).mono (by dsimp only; omega)
  · have covered := solvent.covered.mono (bank.foreign _ _ _ _ _ _ _ same received)
    rw [← credit_owed_of_ne same _ base none, ← credit_owed_of_ne same _ extra (some creator)] at covered
    exact covered

/-- A payment that the service keeps: there is no treasury, and the total is not cut off. -/
def KeepsPayment (state : State) (attestation : Attestation) (value : Int) : Prop :=
  0 < value -> state.treasury = none ∧
    ∀ base, feeQuote state attestation.schemaUid attestation.data.length = .ok base ->
      base + creatorFee (state.schemaFees attestation.schemaUid) base <= i128Max

theorem attestWithValue_solvent (bank : Bank host env.currentContract token held)
    (solvent : Solvent held token ledger) (keeps : KeepsPayment ledger.sas attestation value) :
    Yields (attestWithValue host crypto env ledger attestation paying value) fun result =>
      Solvent held token result.2 := by
  refine .skip3 <| .bind fun base quoted =>
    .skip <| .bind fun _ priced => .bind fun _ authorized => .bind fun settled paid =>
    .bind fun issued stored => .pure ?_
  have baseNonneg : 0 <= base := feeQuote_nonneg solvent.sound base quoted
  have extraNonneg := creatorFee_nonneg solvent.sound attestation.schemaUid base
  have payer : attestation.attester ≠ env.currentContract := by
    intro self
    have silent := env.self_silent
    rw [← self, requireAuth_eq_ok.mp authorized] at silent
    cases silent
  have afterPayment : Solvent held token settled := by
    unfold settleFee at paid
    split at paid
    · rename_i positive
      rcases keeps positive with ⟨unset, small⟩
      refine takePayment_solvent bank solvent unset payer baseNonneg extraNonneg ?_ settled paid
      intro default
      simp only [requireExactFee, default, if_true, require_eq_ok] at priced
      rw [priced]
      exact saturatingI128_eq (Int.add_nonneg baseNonneg extraNonneg) (small base quoted)
    · cases paid
      exact solvent
  rcases attestInternal_ok stored with ⟨-, attested⟩
  exact afterPayment.kept (owed_congr attested.frame.fees token) attested.frame.fees.sound
    (bank.callbacks attested.world)

/-! ## Runs -/

/-- A move of a run in which the service is `sas`: any call but `withdraw_tokens`, and
anything elsewhere that does not lower the service's holdings. -/
def Routine (sas : Address) (held : W -> Int) (ledger : Ledger W) : Move W -> Prop
  | .call _ (.withdrawTokens ..) => False
  | .call env _ => env.currentContract = sas
  | .outside world => held ledger.world <= held world

/-- A paid attestation is kept by the service. -/
def PaysIn (ledger : Ledger W) : Move W -> Prop
  | .call _ (.attestWithValue attestation _ value) => KeepsPayment ledger.sas attestation value
  | _ => True

theorem advance_solvent {sas : Address} (bank : Bank host sas token held) {next : Ledger W}
    {move : Move W} (solvent : Solvent held token ledger) (routine : Routine sas held ledger move)
    (paysIn : PaysIn ledger move) (success : advance host crypto ledger move = .ok next) :
    Solvent held token next := by
  cases move with
  | outside =>
    cases success
    exact solvent.kept rfl id routine
  | call env call =>
    by_cases free : call.pays = false
    · have outcome := step_outcome free next success
      exact solvent.kept (owed_congr outcome.fees token) outcome.fees.sound (bank.callbacks outcome.world)
    cases call with
    | attestWithValue =>
      cases routine
      exact ledgerOf_yields (attestWithValue_solvent bank solvent paysIn) next success
    | withdrawCreatorFees =>
      cases routine
      exact withdrawCreatorFees_solvent bank solvent next success
    | withdrawTreasuryFees =>
      cases routine
      exact withdrawTreasuryFees_solvent bank solvent next success
    | withdrawTokens => exact routine.elim
    | _ => exact absurd rfl free

/-- In every run that starts with nothing held and nothing owed in a token, and in which the
service keeps every payment it takes, the balance covers what is owed to the treasury and
any creators. -/
theorem fees_solvent (host : Host W) (crypto : Crypto) (sas token : Address) (held : W -> Int)
    (bank : Bank host sas token held) (start : Ledger W) (empty : held start.world = 0)
    (unowed : forall party, owed start.sas token party = 0)
    (sound : start.sas.feeSettings.Sound) (moves : List (Move W)) (admissible : Admissible (advance host crypto)
      (fun ledger move => Routine sas held ledger move ∧ PaysIn ledger move) start moves) (creators : Finset Address) :
    (run (advance host crypto) start moves).sas.treasuryFees token +
        ∑ creator ∈ creators, (run (advance host crypto) start moves).sas.creatorFees creator token ≤
      held (run (advance host crypto) start moves).world := by
  have initial : Solvent held token start := ⟨.nothing unowed (Int.le_of_eq empty.symm), sound⟩
  have solvent : Solvent held token (run (advance host crypto) start moves) :=
    run_invariant (fun ledger move next solvent allowed success =>
      advance_solvent bank solvent allowed.1 allowed.2 success) initial admissible
  have payable := solvent.covered.payable (Finset.insertNone creators)
  rwa [Finset.sum_insertNone] at payable

/-! ### A paid answer -/

open Address (accountOfNat)
open Registry (okSchemaUid)

/-- The fee token of the examples. -/
def coin : Address := .contract 20

def moveCoins (balances : Address -> Int) (sender destination : Address) (amount : Int) : Address -> Int :=
  update (update balances sender (balances sender - amount)) destination
    (update balances sender (balances sender - amount) destination + amount)

/-- The small ledger with balances of one token. -/
def coinHost : Host (Address -> Int) :=
  { okHost with
    transfer := fun _ balances paying sender destination amount =>
      if paying ≠ coin then .ok balances
      else if 0 <= amount ∧ amount <= balances sender then
        .ok (moveCoins balances sender destination amount)
      else .error .callee
    balance := fun balances paying holder => .ok (if paying = coin then balances holder else 0) }

/-- Account 2 has one hundred coins. -/
def coinStart : Ledger (Address -> Int) := ⟨deployed, fun holder => if holder = accountOfNat 2 then 100 else 0⟩

theorem moveCoins_held (balances : Address -> Int) (sender destination holder : Address) (amount : Int) :
    moveCoins balances sender destination amount holder = balances holder - (if sender = holder then amount else 0) +
        (if destination = holder then amount else 0) := by
  unfold moveCoins
  by_cases received : destination = holder
  · subst received
    by_cases sent : sender = destination
    · subst sent
      simp
    · simp [update_of_ne (Ne.symm sent), sent]
  · by_cases sent : sender = holder
    · subst sent
      simp [update_of_ne (Ne.symm received), received]
    · simp [update_of_ne (Ne.symm received), update_of_ne (Ne.symm sent), received, sent]

theorem coinBank : Bank coinHost (.contract 8) coin (fun balances => balances (.contract 8)) where
  reported := fun _ => rfl
  exact := by
    intro env world sender destination amount after success
    simp only [coinHost, ne_eq, not_true_eq_false, if_false] at success
    split at success
    · cases success
      exact moveCoins_held world sender destination (.contract 8) amount
    · cases success
  foreign := by
    intro env world other sender destination amount after distinct success
    simp only [coinHost, ne_eq, distinct, not_false_eq_true, if_true] at success
    cases success
    exact Int.le_refl _
  callback := by
    intro env world callee after unpaid callback
    cases callback with
    | transfer => exact absurd rfl unpaid
    | _ =>
      rename_i accepted
      cases accepted
      exact Int.le_refl _

/-- Ten coins for an attestation, and three more for the creator of the schema. -/
def pricedRun : List (Move (Address -> Int)) :=
  [.call (signedAt [1] 100) (.init (accountOfNat 1) (.contract 7)), .call (signedAt [1] 100) (.setFee coin 10),
    .call (signedAt [2] 100) (.setSchemaFee okSchemaUid (accountOfNat 2) 1 3 0)]

/-- Account 2 pays for its answer. -/
def paidAnswer : Move (Address -> Int) := .call (signedAt [2] 100) (.attestWithValue (okAnswer true) coin 13)

theorem fees_solvent_paid :
    let after := run (advance coinHost answerCrypto) coinStart (pricedRun ++ [paidAnswer])
    after.sas.treasuryFees coin = 10 ∧ after.sas.creatorFees (accountOfNat 2) coin = 3 ∧ after.sas.treasuryFees coin +
          ∑ creator ∈ {accountOfNat 2}, after.sas.creatorFees creator coin ≤ after.world (.contract 8) := by
  refine ⟨rfl, rfl, fees_solvent coinHost answerCrypto (.contract 8) coin (fun balances => balances (.contract 8))
      coinBank coinStart rfl (by intro party; cases party <;> rfl)
      ⟨nofun, Int.le_refl 0, nofun⟩ (pricedRun ++ [paidAnswer]) ?_ {accountOfNat 2}⟩
  refine ⟨⟨rfl, trivial⟩, ⟨rfl, trivial⟩, ⟨rfl, trivial⟩, ⟨rfl, fun _ => ⟨rfl, ?_⟩⟩, trivial⟩
  intro base quoted
  have ten : feeQuote (run (advance coinHost answerCrypto) coinStart pricedRun).sas okSchemaUid 1 = .ok 10 := rfl
  cases quoted.symm.trans ten
  decide

/-- Account 1 also configures account 5 as the treasury. -/
def treasuryRun : List (Move (Address -> Int)) :=
  pricedRun ++ [.call (signedAt [1] 100) (.setTreasury (accountOfNat 5))]

/-- The payment is credited on record and sent on: thirteen coins are owed, none are held. -/
theorem fees_insolvent :
    let before := run (advance coinHost answerCrypto) coinStart treasuryRun
    let after := run (advance coinHost answerCrypto) coinStart (treasuryRun ++ [paidAnswer])
    (advance coinHost answerCrypto before paidAnswer).isOk = true ∧
      after.sas.treasuryFees coin = 10 ∧ after.sas.creatorFees (accountOfNat 2) coin = 3 ∧
      after.world (.contract 8) = 0 ∧ after.world (accountOfNat 5) = 13 := by
  decide

end SorobanSas.Sas
