import SorobanSas.Sas.Frames
import SorobanSas.Sas.Anchors

namespace SorobanSas.Sas

open Library
open Registry (okSchemaUid)

/-!
# The fee by payload size

While `FEE_PER_BYTE` is positive, an attestation with a positive quote is to be issued by
`attest_with_value` only, against payment.  `attest_internal` knows nothing of fees: the
policy is that each entry point without a payment calls `require_unpaid_allowed` itself.

The two broadcasts and `replace_by_delegation_consent` do not.
-/

variable {W : Type} {host : Host W} {crypto : Crypto} {env : Env} {attestation : Attestation}
  {ledger : Ledger W} {quote : Int}

/-- The entry points that issue without looking at the fee. -/
def Call.unmetered : Call -> Bool
  | .broadcastAttest .. | .broadcastAttestByAttester .. | .replaceByDelegationConsent .. => true
  | _ => false

/-- The call is a paid issuance, and the declared value, at least the quote, was transferred
from the attester. -/
def Call.Paid (host : Host W) (env : Env) (ledger : Ledger W) (call : Call)
    (attester : Address) (quote : Int) : Prop :=
  ∃ payload token value destination paid, call = .attestWithValue payload token value ∧
    quote <= value ∧ host.transfer env ledger.world token attester destination value = .ok paid

theorem feeQuote_congr {first second : State} (same : first.settings = second.settings)
    (schemaUid : UID) (size : Nat) : feeQuote first schemaUid size = feeQuote second schemaUid size := by
  have zero : first.zeroFeeSchemas = second.zeroFeeSchemas := congrArg Settings.zeroFeeSchemas same
  have base : first.feeConfig = second.feeConfig := congrArg Settings.feeConfig same
  have perByte : first.feePerByte = second.feePerByte := congrArg Settings.feePerByte same
  simp only [feeQuote, zero, base, perByte]

/-- The check lets nothing with a positive quote through. -/
theorem quote_nonpositive {state : State} {done : Unit} (perByte : 0 < state.feePerByte.getD 0)
    (quoted : feeQuote state attestation.schemaUid attestation.data.length = .ok quote)
    (allowed : requireUnpaidAllowed state attestation = .ok done) : quote <= 0 := by
  simp only [requireUnpaidAllowed, if_pos perByte, quoted, eq_ok] at allowed
  rcases allowed with ⟨charged, same, free⟩
  cases same
  exact free

theorem attestItem_checks : Yields (attestItem host crypto env ledger attestation) fun _ =>
      requireUnpaidAllowed ledger.sas attestation = .ok () := .bind fun _ allowed => fun _ _ => allowed

theorem attestDelegated_checks {nonce : UInt64} {signature : BytesN 64} {publicKey : BytesN 32} :
    Yields (attestDelegated host crypto env ledger attestation nonce signature publicKey)
      fun _ => requireUnpaidAllowed ledger.sas attestation = .ok () :=
  .skip <| .bind fun _ allowed => fun _ _ => allowed

/-! ## The payment -/

theorem attestWithValue_paid {next : Ledger W} {payload : Attestation} {token : Address}
    {value : Int} (perByte : 0 < ledger.sas.feePerByte.getD 0)
    (quoted : feeQuote ledger.sas payload.schemaUid payload.data.length = .ok quote) (positive : 0 < quote)
    (success : step host crypto ledger (env, .attestWithValue payload token value) = .ok next) :
    (Call.attestWithValue payload token value).Paid host env ledger payload.attester quote := by
  simp only [step, ledgerOf, attestWithValue, quoted, eq_ok]
    at success
  rcases success with ⟨_, ⟨-, -, -, _, same, enough, -, -, settled, paying, -⟩, -⟩
  cases same
  have covered : quote <= value := Int.not_lt.mp fun short => enough ⟨perByte, short⟩
  have due : 0 < value := Int.lt_of_lt_of_le positive covered
  simp only [settleFee, if_pos due, takePayment, bind_eq_ok] at paying
  rcases paying with ⟨_, -, paid, transferred, -⟩
  exact ⟨payload, token, value, _, paid, rfl, covered, transferred⟩

/-- The other entry points that look at the fee let nothing with a positive quote through. -/
theorem quote_nonpositive_of_unpaid {next : Ledger W} {call : Call}
    (perByte : 0 < ledger.sas.feePerByte.getD 0) (metered : call.unmetered = false)
    (unpaid : ∀ payload token value, call ≠ .attestWithValue payload token value)
    (success : step host crypto ledger (env, call) = .ok next) (asked : call.asks crypto env attestation)
    (quoted : feeQuote ledger.sas attestation.schemaUid attestation.data.length = .ok quote) : quote <= 0 := by
  -- The stored record has the schema and the data of the payload, so it is quoted alike.
  have checked {payload : Attestation} {state : State} {done : Unit} (same : state.settings = ledger.sas.settings)
      (check : requireUnpaidAllowed state payload = .ok done)
      (alike : attestation.schemaUid = payload.schemaUid ∧ attestation.data = payload.data) :
      quote <= 0 := by
    have entry : state.feePerByte = ledger.sas.feePerByte := congrArg Settings.feePerByte same
    rw [alike.1, alike.2, ← feeQuote_congr same] at quoted
    exact quote_nonpositive (entry ▸ perByte) quoted check
  cases call with
  | attest =>
    cases asked
    simp only [step, ledgerOf, attest, eq_ok] at success
    rcases success with ⟨_, ⟨-, -, check, -⟩, -⟩
    exact checked rfl check ⟨rfl, rfl⟩
  | attestByDelegation =>
    rcases asked with ⟨-, rfl⟩
    simp only [step, ledgerOf, attestByDelegation, attestDelegated, eq_ok]
      at success
    rcases success with ⟨_, ⟨-, -, -, check, -⟩, -⟩
    exact checked rfl check ⟨rfl, rfl⟩
  | attestByScopedDelegation =>
    rcases asked with ⟨-, rfl⟩
    simp only [step, ledgerOf, attestByScopedDelegation, eq_ok] at success
    rcases success with ⟨_, ⟨-, -, check, -⟩, -⟩
    exact checked rfl check ⟨rfl, rfl⟩
  | attestWithZk =>
    cases asked
    simp only [step, ledgerOf, attestWithZk, eq_ok] at success
    rcases success with ⟨_, ⟨-, check, -⟩, -⟩
    exact checked rfl check ⟨rfl, rfl⟩
  | multiAttest =>
    rcases asked with ⟨payload, member, rfl⟩
    simp only [step, ledgerOf, multiAttest, enterReentrancyGuard, eq_ok] at success
    rcases success with ⟨_, ⟨-, -, guarded, ⟨-, rfl⟩, issued, items, -⟩, -⟩
    rcases visited_item State.settings (fun _ _ => attestItem_kept.mono fun _ kept => kept.settings) items member
      with ⟨current, same, result, taken⟩
    exact checked same (attestItem_checks result taken) ⟨rfl, rfl⟩
  | multiAttestByDelegation =>
    rcases asked with ⟨payload, member, -, rfl⟩
    simp only [step, ledgerOf, multiAttestByDelegation, enterReentrancyGuard, eq_ok] at success
    rcases success with ⟨_, ⟨-, -, lengths, guarded, ⟨-, rfl⟩, issued, items, -⟩, -⟩
    rcases item_of_attestation_mem lengths member with ⟨item, among, rfl⟩
    rcases visited_item State.settings (fun _ _ => attestDelegated_standing.mono fun _ standing =>
      standing.settings) items among with ⟨current, same, result, taken⟩
    exact checked same (attestDelegated_checks result taken) ⟨rfl, rfl⟩
  | replaceAttestation =>
    cases asked
    simp only [step, ledgerOf, replaceAttestation, eq_ok] at success
    rcases success with ⟨_, ⟨-, -, check, -⟩, -⟩
    exact checked rfl check ⟨rfl, rfl⟩
  | attestWithValue payload token value => exact absurd rfl (unpaid payload token value)
  | broadcastAttest | broadcastAttestByAttester | replaceByDelegationConsent => cases metered
  | _ => exact asked.elim

/-- Of the calls that store an attestation with a positive quote, exactly those whose entry
point looks at the fee are paid for. -/
theorem fee_paid_iff (host : Host W) (crypto : Crypto) (env : Env) (ledger next : Ledger W)
    (call : Call) (attestation : Attestation) (quote : Int) (perByte : 0 < ledger.sas.feePerByte.getD 0)
    (quoted : feeQuote ledger.sas attestation.schemaUid attestation.data.length = .ok quote)
    (positive : 0 < quote) (success : step host crypto ledger (env, call) = .ok next)
    (absent : recordOf ledger.sas attestation.uid = none)
    (stored : recordOf next.sas attestation.uid = some attestation) :
    call.Paid host env ledger attestation.attester quote ↔ call.unmetered = false := by
  have asked : call.asks crypto env attestation := (step_effect next success).added absent stored
  constructor
  · rintro ⟨payload, token, value, destination, paid, rfl, -⟩
    rfl
  intro metered
  by_cases pays : ∃ payload token value, call = .attestWithValue payload token value
  · rcases pays with ⟨payload, token, value, rfl⟩
    cases asked
    exact attestWithValue_paid perByte quoted positive success
  · have charged := quote_nonpositive_of_unpaid perByte metered (fun payload token value same =>
      pays ⟨payload, token, value, same⟩) success asked quoted
    exact absurd positive (Int.not_lt.mpr charged)

open Address (accountOfNat)

/-- Account 1 sets a base fee of 100 and 5 for each byte, in the token of contract 5. -/
def okPriced : Ledger Unit :=
  run (advance okHost answerCrypto) ⟨deployed, ()⟩
    [.call (signedAt [1] 100) (.init (accountOfNat 1) (.contract 7)),
      .call (signedAt [1] 100) (.setFee (.contract 5) 100), .call (signedAt [1] 100) (.setFeePerByte 5)]

theorem fee_paid_iff_answered : ∃ next, step okHost answerCrypto okPriced
        (signedAt [2] 100, .attestWithValue (okAnswer true) (.contract 5) 105) = .ok next ∧
      (Call.attestWithValue (okAnswer true) (.contract 5) 105).Paid okHost (signedAt [2] 100)
        okPriced (accountOfNat 2) 105 := by
  have succeeds : (step okHost answerCrypto okPriced
      (signedAt [2] 100, .attestWithValue (okAnswer true) (.contract 5) 105)).isOk = true := by
    decide
  have stored : (step okHost answerCrypto okPriced
      (signedAt [2] 100, .attestWithValue (okAnswer true) (.contract 5) 105)).toOption.map
        (fun next => recordOf next.sas (okAnswer true).uid) = some (some { okAnswer true with time := 100 }) := by
    decide
  rcases exists_of_isOk succeeds with ⟨next, success⟩
  rw [success] at stored
  exact ⟨next, success, (fee_paid_iff okHost answerCrypto (signedAt [2] 100) okPriced next _
    { okAnswer true with time := 100 } 105 (by decide) (by decide) (by decide)
    success (by decide) (Option.some.inj stored)).mpr rfl⟩

/-- The same answer, broadcast by account 2 to account 3 alone. -/
def okBroadcast : Call := .broadcastAttestByAttester (accountOfNat 2) okSchemaUid [accountOfNat 3] [1] 0 true

/-- It is quoted at 105 and stored without a payment. -/
theorem fee_dodged : 0 < okPriced.sas.feePerByte.getD 0 ∧ feeQuote okPriced.sas okSchemaUid 1 = .ok 105 ∧
      recordOf okPriced.sas (okAnswer true).uid = none ∧
      (step okHost answerCrypto okPriced (signedAt [2] 100, okBroadcast)).toOption.map
          (fun next => recordOf next.sas (okAnswer true).uid) = some (some { okAnswer true with time := 100 }) := by
  decide

end SorobanSas.Sas
