import Mathlib.Algebra.Order.Floor.Div
import SorobanSas.Sas.Batches

namespace SorobanSas.Sas

open Library

/-!
# How long a record is kept

The entries of a record are archived after a number of ledgers that the service asks for when it
writes them.  `compute_storage_ttl` derives that number from the expiration time: a ledger every
five seconds up to the expiration, one more year for the history, five years at most.

The number of ledgers up to the expiration is a `u64` that is narrowed to a `u32` before the year is
added and the cap applied.  What is lost by the narrowing decides whether the result is what it
is meant to be, and this module says exactly when it is.
-/

variable {env : Env} {expirationTime : UInt64}

def ledgersInOneYear : UInt32 := 6307200

def divCeil (dividend divisor : UInt64) : UInt64 :=
  if 0 < dividend % divisor then dividend / divisor + 1 else dividend / divisor

def saturatingAdd (first second : UInt32) : UInt32 := UInt32.ofNat (min (first.toNat + second.toNat) (2 ^ 32 - 1))

def computeStorageTtl (env : Env) (expirationTime : UInt64) : UInt32 :=
  if expirationTime = 0 then ledgersInOneYear
  else if expirationTime <= env.timestamp then ledgersInOneYear
  else
    let secondsRemaining := expirationTime - env.timestamp
    let ledgersRemaining := (divCeil secondsRemaining 5).toUInt32
    let maxTtl := ledgersInOneYear * 5
    min (saturatingAdd ledgersRemaining ledgersInOneYear) maxTtl

theorem toNat_ledgersInOneYear : ledgersInOneYear.toNat = 6307200 := rfl

theorem toNat_divCeil_five (dividend : UInt64) : (divCeil dividend 5).toNat = dividend.toNat ⌈/⌉ 5 := by
  have small := dividend.toNat_lt
  have remainder : 0 < dividend % 5 ↔ 0 < dividend.toNat % 5 := by
    rw [UInt64.lt_iff_toNat_lt, UInt64.toNat_mod]
    rfl
  rw [Nat.ceilDiv_eq_add_pred_div]
  unfold divCeil
  by_cases inexact : 0 < dividend % 5
  · have positive := remainder.mp inexact
    rw [if_pos inexact, UInt64.toNat_add, UInt64.toNat_div]
    change (dividend.toNat / 5 + 1) % 2 ^ 64 = _
    omega
  · have zero : dividend.toNat % 5 = 0 := Nat.eq_zero_of_not_pos (mt remainder.mpr inexact)
    rw [if_neg inexact, UInt64.toNat_div]
    change dividend.toNat / 5 = _
    omega

theorem toNat_saturatingAdd (first second : UInt32) :
    (saturatingAdd first second).toNat = min (first.toNat + second.toNat) (2 ^ 32 - 1) := by
  rw [saturatingAdd, UInt32.toNat_ofNat_of_lt']
  have capped := Nat.min_le_right (first.toNat + second.toNat) (2 ^ 32 - 1)
  exact Nat.lt_of_le_of_lt capped (by decide)

theorem toNat_min (first second : UInt32) : (min first second).toNat = min first.toNat second.toNat := by
  change (if first <= second then first else second).toNat = _
  by_cases ordered : first <= second
  · rw [if_pos ordered, Nat.min_eq_left (UInt32.le_iff_toNat_le.mp ordered)]
  · rw [if_neg ordered]
    rw [UInt32.le_iff_toNat_le] at ordered
    exact (Nat.min_eq_right (Nat.le_of_not_le ordered)).symm

/-! ## What the narrowing loses -/

/-- The ledgers that close until the expiration. -/
def ledgersUntil (env : Env) (expirationTime : UInt64) : Nat := (expirationTime.toNat - env.timestamp.toNat) ⌈/⌉ 5

theorem toNat_computeStorageTtl (future : env.timestamp < expirationTime) :
    (computeStorageTtl env expirationTime).toNat =
      min (ledgersUntil env expirationTime % 2 ^ 32 + ledgersInOneYear.toNat) (5 * ledgersInOneYear.toNat) := by
  have later : env.timestamp.toNat < expirationTime.toNat := UInt64.lt_iff_toNat_lt.mp future
  have bounded : expirationTime ≠ 0 := by
    rintro rfl
    cases later
  have remaining : (expirationTime - env.timestamp).toNat = expirationTime.toNat - env.timestamp.toNat :=
    UInt64.toNat_sub_of_le _ _ (UInt64.le_of_lt future)
  rw [computeStorageTtl, if_neg bounded, if_neg (UInt64.not_le.mpr future)]
  dsimp only
  rw [toNat_min, toNat_saturatingAdd, UInt64.toNat_toUInt32, toNat_divCeil_five, remaining]
  change min (min (ledgersUntil env expirationTime % 2 ^ 32 + 6307200) (2 ^ 32 - 1)) 31536000 =
    min (ledgersUntil env expirationTime % 2 ^ 32 + 6307200) 31536000
  omega

theorem ledgersUntil_mono {first second : UInt64} (ordered : first <= second) :
    ledgersUntil env first <= ledgersUntil env second := by
  unfold ledgersUntil
  rw [Nat.ceilDiv_eq_add_pred_div, Nat.ceilDiv_eq_add_pred_div]
  have earlier := UInt64.le_iff_toNat_le.mp ordered
  omega

/-- The number of ledgers fits into a `u32`, or enough of it is left to reach the cap. -/
def SurvivesNarrowing (env : Env) (expirationTime : UInt64) : Prop :=
  ledgersUntil env expirationTime < 2 ^ 32 ∨ 4 * ledgersInOneYear.toNat <= ledgersUntil env expirationTime % 2 ^ 32

theorem covers_iff_survives (future : env.timestamp < expirationTime) :
    min (ledgersUntil env expirationTime + ledgersInOneYear.toNat) (5 * ledgersInOneYear.toNat) <=
        (computeStorageTtl env expirationTime).toNat ↔ SurvivesNarrowing env expirationTime := by
  rw [toNat_computeStorageTtl future, SurvivesNarrowing, toNat_ledgersInOneYear]
  omega

/-- Narrowing never raises a lifetime, so only the later of two can be too short. -/
theorem computeStorageTtl_mono {earlier later : UInt64} (future : env.timestamp < earlier)
    (ordered : earlier <= later) (survives : SurvivesNarrowing env later) :
    computeStorageTtl env earlier <= computeStorageTtl env later := by
  have covered := (covers_iff_survives (UInt64.lt_of_lt_of_le future ordered)).mpr survives
  have fewer : ledgersUntil env earlier <= ledgersUntil env later := ledgersUntil_mono ordered
  have narrowed := Nat.mod_le (ledgersUntil env earlier) (2 ^ 32)
  rw [UInt32.le_iff_toNat_le, toNat_computeStorageTtl future]
  refine Nat.le_trans ?_ covered
  exact min_le_min_right _ (Nat.add_le_add_right (Nat.le_trans narrowed fewer) _)

/-- If the narrowing loses too much, an expiration after four years gets a longer lifetime. -/
theorem exists_longer_of_lost (future : env.timestamp < expirationTime)
    (lost : ¬ SurvivesNarrowing env expirationTime) : ∃ earlier, env.timestamp < earlier ∧ earlier <= expirationTime ∧
      computeStorageTtl env expirationTime < computeStorageTtl env earlier := by
  have later := UInt64.lt_iff_toNat_lt.mp future
  have small := expirationTime.toNat_lt
  rw [SurvivesNarrowing, toNat_ledgersInOneYear] at lost
  have distant : env.timestamp.toNat + 126144000 <= expirationTime.toNat := by
    rw [ledgersUntil, Nat.ceilDiv_eq_add_pred_div] at lost
    omega
  have instant : (env.timestamp + 126144000).toNat = env.timestamp.toNat + 126144000 := by
    rw [UInt64.toNat_add]
    change (env.timestamp.toNat + 126144000) % 2 ^ 64 = _
    omega
  have begun : env.timestamp < env.timestamp + 126144000 := by
    rw [UInt64.lt_iff_toNat_lt, instant]
    omega
  refine ⟨env.timestamp + 126144000, begun, ?_, ?_⟩
  · rw [UInt64.le_iff_toNat_le, instant]
    exact distant
  · have years : ledgersUntil env (env.timestamp + 126144000) = 4 * 6307200 := by
      rw [ledgersUntil, instant, Nat.add_sub_cancel_left]
      rfl
    rw [UInt32.lt_iff_toNat_lt, toNat_computeStorageTtl future, toNat_computeStorageTtl begun, years,
      toNat_ledgersInOneYear]
    omega

/-- The lifetime covers the validity of the record and a year more, up to the cap, exactly if the
number of ledgers survives the narrowing.  That is also exactly when no earlier expiration is given
a longer lifetime. -/
theorem storage_ttl_covers_iff (env : Env) (expirationTime : UInt64) (future : env.timestamp < expirationTime) :
    (min (ledgersUntil env expirationTime + ledgersInOneYear.toNat) (5 * ledgersInOneYear.toNat) ≤
        (computeStorageTtl env expirationTime).toNat ↔ SurvivesNarrowing env expirationTime) ∧
    ((forall earlier, env.timestamp < earlier -> earlier ≤ expirationTime ->
        computeStorageTtl env earlier ≤ computeStorageTtl env expirationTime) ↔
      SurvivesNarrowing env expirationTime) := by
  refine ⟨covers_iff_survives future, fun increasing => ?_, fun survives earlier begun ordered => ?_⟩
  · by_contra lost
    rcases exists_longer_of_lost future lost with ⟨earlier, begun, ordered, longer⟩
    exact UInt32.not_le.mpr longer (increasing earlier begun ordered)
  · exact computeStorageTtl_mono begun ordered survives

theorem storage_ttl_covers_iff_decade :
    let env := signedAt [2] 100
    computeStorageTtl env 157680100 ≤ computeStorageTtl env 315360100 ∧
      min (ledgersUntil env 315360100 + ledgersInOneYear.toNat) (5 * ledgersInOneYear.toNat) ≤
        (computeStorageTtl env 315360100).toNat := by
  have survives : SurvivesNarrowing (signedAt [2] 100) 315360100 := .inl (by decide)
  rcases storage_ttl_covers_iff (signedAt [2] 100) 315360100 (by decide) with ⟨covers, increasing⟩
  exact ⟨increasing.mpr survives 157680100 (by decide) (by decide), covers.mpr survives⟩

/-- A record that expires in 680 years is kept for one year, and one that expires in five seconds
for a ledger more. -/
theorem storage_ttl_wraps :
    let env := signedAt [2] 100
    let record := { okAnswer true with expirationTime := 21474836580 }
    (step okHost answerCrypto okInitialized (env, .attest record)).isOk = true ∧
      ledgersUntil env record.expirationTime = 2 ^ 32 ∧
      computeStorageTtl env record.expirationTime = ledgersInOneYear ∧
      computeStorageTtl env 105 = ledgersInOneYear + 1 := by
  decide

end SorobanSas.Sas
