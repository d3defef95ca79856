import SorobanSas.Sas.Issuance

namespace SorobanSas.Sas

open Library

/-!
# Paid issuance and withdrawals

`attest_with_value` takes a payment that two mechanisms then share out.  The older one
credits withdrawable balances, `TREASURY_FEES` and `CREATOR_FEES`; the newer one,
`distribute_attestation_fee`, sends tokens on at once.  Both act on the same payment.
-/

variable {W : Type} (host : Host W) (crypto : Crypto) (env : Env)

def maxCreatorBps : Nat := 10000

def getFeeCeilings (state : State) : FeeCeilings := state.feeCeilings.getD ⟨i128Max, maxCreatorBps⟩

/-- The authorizer is the creator of the schema or the administrator. -/
def requireFeeAuthority (ledger : Ledger W) (schemaUid : UID) (authorizer : Address) : Except Trap Unit := do
  requireAuth env authorizer
  let registry <- requireRegistry ledger.sas
  let creator := (host.getCreator ledger.world registry schemaUid).getD none
  let admin <- requireAdmin ledger.sas
  require (creator = some authorizer ∨ authorizer = admin) (.contract .unauthorized)

/-- The configuration is of a known type and below its ceiling. -/
def acceptsSchemaFee (ceilings : FeeCeilings) (feeType : Nat) (fixedAmount : Int) (basisPoints : Nat) : Bool :=
  if feeType = 1 then 0 <= fixedAmount && fixedAmount <= ceilings.maxFixedFee
  else if feeType = 2 then basisPoints <= ceilings.maxBasisPoints
  else false

def setSchemaFee (ledger : Ledger W) (schemaUid : UID) (authorizer : Address) (feeType : Nat)
    (fixedAmount : Int) (basisPoints : Nat) : Except Trap State := do
  requireFeeAuthority host env ledger schemaUid authorizer
  require (acceptsSchemaFee (getFeeCeilings ledger.sas) feeType fixedAmount basisPoints = true)
    (.contract .invalidValue)
  return { ledger.sas with
    schemaFees := update ledger.sas.schemaFees schemaUid
      (some ⟨feeType, fixedAmount, basisPoints⟩) }

def clearSchemaFee (ledger : Ledger W) (schemaUid : UID) (authorizer : Address) : Except Trap State := do
  requireFeeAuthority host env ledger schemaUid authorizer
  return { ledger.sas with
    schemaFees := update ledger.sas.schemaFees schemaUid none }

/-! ## Sharing out a payment -/

/-- The creator's part of a fee: fixed, or basis points of the base fee. -/
def creatorFee (config : Option SchemaFeeConfig) (baseAmount : Int) : Int :=
  match config with
  | none => 0
  | some fee =>
    if fee.feeType = 1 then fee.fixedAmount
    else if fee.feeType = 2 then
      if 0 < baseAmount then (saturatingI128 (baseAmount * fee.basisPoints)).tdiv 10000 else 0
    else 0

def isDefaultToken (state : State) (token : Address) : Bool :=
  match state.feeConfig with
  | some (feeToken, _) => feeToken = token
  | none => false

/-- The value that must come with a token, or why the token is refused. -/
def requireExactFee (state : State) (token : Address) (value baseAmount creatorAmount : Int) : Except Trap Unit :=
  let totalRequired := saturatingI128 (baseAmount + creatorAmount)
  if isDefaultToken state token then
    require (value = totalRequired) (.contract .feeMismatch)
  else match state.acceptedFees token with
    | some additionalBase =>
      require (value = saturatingI128 (additionalBase + creatorAmount))
        (.contract .feeMismatch)
    | none =>
      require (state.feeConfig = none ∧ value = 0 ∧ totalRequired = 0)
        (Trap.contract (if state.multiAssetActive then .invalidToken else .feeMismatch))

/-- A token transfer that is made only for a positive amount. -/
def transferPositive (world : W) (token sender destination : Address) (amount : Int) : Except Trap W :=
  if 0 < amount then host.transfer env world token sender destination amount else return world

/-- The creator's share of `distribute_attestation_fee`. -/
def payCreatorShare (world : W) (registry : Address) (schemaUid : UID) (token : Address)
    (amount : Int) : Except Trap W := if 0 < amount then do
    let creator <- expect ((host.getCreator world registry schemaUid).getD none)
      (.contract .schemaNotFound)
    host.transfer env world token env.currentContract creator amount
  else return world

/-- The part of `distribute_attestation_fee` after the registry has answered. -/
def distributeShares (ledger : Ledger W) (registry : Address) (schemaUid : UID) (token : Address)
    (value : Int) (bps : Nat) : Except Trap (Ledger W) := do
  require (bps <= 5000) (.contract .invalidValue)
  let product <- expect (checkedI128 (value * bps)) (.contract .invalidValue)
  let creatorAmount := product.tdiv 10000
  let treasuryAmount <- expect (checkedI128 (value - creatorAmount)) (.contract .invalidValue)
  if ledger.sas.treasury = none ∧ creatorAmount = 0 then
    return ledger
  else
    let treasury <- expect ledger.sas.treasury (.contract .treasuryNotSet)
    let paid <- transferPositive host env ledger.world token env.currentContract treasury
      treasuryAmount
    let shared <- payCreatorShare host env paid registry schemaUid token creatorAmount
    return ⟨ledger.sas.publish (.feeShares schemaUid treasuryAmount creatorAmount), shared⟩

def distributeAttestationFee (ledger : Ledger W) (schemaUid : UID) (token : Address)
    (value : Int) : Except Trap (Ledger W) := match ledger.sas.registry with
  | none => return ledger
  | some registry =>
    match host.getCreatorRoyalty ledger.world registry schemaUid with
    | none => return ledger
    | some bps => distributeShares host env ledger registry schemaUid token value bps

/-- The address credited with the creator's part: this contract when the registry knows no
creator. -/
def creditedCreator (ledger : Ledger W) (schemaUid : UID) (creatorAmount : Int) : Except Trap Address :=
  if 0 < creatorAmount then do
    let registry <- requireRegistry ledger.sas
    return ((host.getCreator ledger.world registry schemaUid).getD none).getD env.currentContract
  else
    return env.currentContract

/-- `TREASURY_FEES` after a credit of the base amount. -/
def creditTreasury (state : State) (token : Address) (amount : Int) : State :=
  if 0 < amount then
    { state with
      treasuryFees := update state.treasuryFees token
        (saturatingI128 (state.treasuryFees token + amount)) }
  else state

/-- `CREATOR_FEES` after a credit of the creator's part. -/
def creditCreator (state : State) (creator token : Address) (amount : Int) : State :=
  if 0 < amount then
    { state with
      creatorFees := update state.creatorFees creator
        (update (state.creatorFees creator) token (saturatingI128 (state.creatorFees creator token + amount))) }
  else state

variable (ledger : Ledger W) (attestation : Attestation) (token : Address)

/-- The payment itself, for a positive value. -/
def takePayment (value baseAmount creatorAmount : Int) : Except Trap (Ledger W) := do
  require (isDefaultToken ledger.sas token = true ∨ ledger.sas.treasury ≠ none)
    (.contract .treasuryNotSet)
  let destination := if 0 < creatorAmount then env.currentContract
    else ledger.sas.treasury.getD env.currentContract
  let paid <- host.transfer env ledger.world token attestation.attester destination value
  let creator <- creditedCreator host env ⟨ledger.sas, paid⟩ attestation.schemaUid creatorAmount
  let credited := creditCreator (creditTreasury ledger.sas token baseAmount) creator token
    creatorAmount
  distributeAttestationFee host env
    ⟨credited.publish (.feeDistributed attestation.schemaUid token value baseAmount creatorAmount
      creator), paid⟩ attestation.schemaUid token value

/-- The payment, if there is one. -/
def settleFee (value baseAmount creatorAmount : Int) : Except Trap (Ledger W) :=
  if 0 < value then takePayment host env ledger attestation token value baseAmount creatorAmount
  else return ledger

def attestWithValue (value : Int) : Except Trap (UID × Ledger W) := do
  rejectReentrant ledger.sas
  requireUnpaused ledger.sas .protocolPaused
  require (0 <= value) (.contract .invalidValue)
  let baseAmount <- feeQuote ledger.sas attestation.schemaUid attestation.data.length
  require (¬ (0 < ledger.sas.feePerByte.getD 0 ∧ value < baseAmount))
    (.contract .insufficientFee)
  let creatorAmount := creatorFee (ledger.sas.schemaFees attestation.schemaUid) baseAmount
  requireExactFee ledger.sas token value baseAmount creatorAmount
  requireAuth env attestation.attester
  let settled <- settleFee host env ledger attestation token value baseAmount creatorAmount
  let issued <- attestInternal host crypto env settled attestation
  return (issued.1, { issued.2 with
    sas := issued.2.sas.publish (.attestedWithFee attestation.uid attestation.schemaUid
      attestation.attester attestation.recipient (saturatingI128 (baseAmount + creatorAmount))) })

/-- The authorizer is the administrator or the treasury. -/
def requireTreasurer (state : State) (authorizer : Address) : Except Trap Unit := do
  let admin <- requireAdmin state
  require (authorizer = admin ∨ state.treasury = some authorizer) (.contract .unauthorized)
  requireAuth env authorizer

/-- Send tokens out of this contract, with the `WITHDRAW` event. -/
def payOut (ledger : Ledger W) (token : Address) (amount : Int)
    (destination authorizer : Address) : Except Trap (Ledger W) := do
  let paid <- host.transfer env ledger.world token env.currentContract destination amount
  return ⟨ledger.sas.publish (.withdrawal token amount destination authorizer), paid⟩

def withdrawTokens (ledger : Ledger W) (authorizer token : Address) (amount : Int)
    (destination : Address) : Except Trap (Ledger W) := do
  rejectReentrant ledger.sas
  require (0 < amount) (.contract .invalidValue)
  requireTreasurer env ledger.sas authorizer
  let balance <- host.balance ledger.world token env.currentContract
  require (amount <= balance) (.contract .invalidValue)
  payOut host env ledger token amount destination authorizer

def withdrawCreatorFees (ledger : Ledger W) (creator token : Address) (amount : Int)
    (destination : Address) : Except Trap (Ledger W) := do
  require (0 < amount) (.contract .invalidValue)
  requireAuth env creator
  let balance := ledger.sas.creatorFees creator token
  require (amount <= balance) (.contract .invalidValue)
  payOut host env { ledger with
    sas := { ledger.sas with
      creatorFees := update ledger.sas.creatorFees creator
        (update (ledger.sas.creatorFees creator) token (balance - amount)) } }
    token amount destination creator

def withdrawTreasuryFees (ledger : Ledger W) (authorizer token : Address) (amount : Int)
    (destination : Address) : Except Trap (Ledger W) := do
  require (0 < amount) (.contract .invalidValue)
  requireTreasurer env ledger.sas authorizer
  let balance := ledger.sas.treasuryFees token
  require (amount <= balance) (.contract .invalidValue)
  payOut host env { ledger with
    sas := { ledger.sas with
      treasuryFees := update ledger.sas.treasuryFees token (balance - amount) } }
    token amount destination authorizer

end SorobanSas.Sas
