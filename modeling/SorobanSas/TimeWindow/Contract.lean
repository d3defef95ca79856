import SorobanSas.Common.Types

namespace SorobanSas.TimeWindow

open Library

/-!
# The time-window resolver

`TimeWindowResolver` keeps, for every recipient, the time of the last issuance it accepted.  It
accepts the next one when the configured cooldown has passed since.  A cooldown of zero switches
the restriction off.

Nothing in `on_attest` looks at who makes the call.
-/

structure TimeWindowConfig where
  admin : Address
  cooldownPeriodSeconds : UInt64
  deriving DecidableEq

/-- `CooldownUpdatedEvent`, published with topics `(COOLDOWN_UPDATED, authorizer)`. -/
structure CooldownUpdatedEvent where
  oldCooldownPeriodSeconds : UInt64
  newCooldownPeriodSeconds : UInt64
  authorizer : Address
  deriving DecidableEq

/-- The entries under `DataKey`. -/
structure State where
  config : Option TimeWindowConfig
  lastAttested : Address -> Option UInt64
  events : List CooldownUpdatedEvent

/-- A deployed contract before `init`. -/
def State.deployed : State where
  config := none
  lastAttested := fun _ => none
  events := []

export State (deployed)

variable (env : Env) (state : State) {attestation : Attestation}

def readConfig : Except Trap TimeWindowConfig := expect state.config (.contract .notInitialized)

def init (admin : Address) (cooldownPeriodSeconds : UInt64) : Except Trap State := do
  require (state.config = none) (.contract .alreadyInitialized)
  requireAuth env admin
  return { state with config := some ⟨admin, cooldownPeriodSeconds⟩ }

def setCooldownPeriodSeconds (authorizer : Address) (cooldownPeriodSeconds : UInt64) : Except Trap State := do
  let config <- readConfig state
  requireAuth env authorizer
  require (authorizer = config.admin) (.contract .unauthorized)
  return { state with
    config := some { config with cooldownPeriodSeconds := cooldownPeriodSeconds }
    events := state.events ++ [⟨config.cooldownPeriodSeconds, cooldownPeriodSeconds, authorizer⟩] }

def saturatingAdd (first second : UInt64) : UInt64 := UInt64.ofNat (min (first.toNat + second.toNat) (2 ^ 64 - 1))

/-- The comparison of `on_attest`, for a cooldown that is switched on. -/
def coolingDown (cooldown lastAttestedTime now : UInt64) : Bool := now < saturatingAdd lastAttestedTime cooldown

/-- The check of `on_attest`.  A cooldown of zero skips the comparison. -/
def requireElapsed (config : TimeWindowConfig) (last : Option UInt64) (now : UInt64) : Except Trap Unit :=
  if config.cooldownPeriodSeconds ≠ 0 then
    whenSome last fun lastAttestedTime =>
      require (coolingDown config.cooldownPeriodSeconds lastAttestedTime now = false)
        (.contract .cooldownActive)
  else
    return ()

def onAttest (attestation : Attestation) : Except Trap State := do
  let config <- readConfig state
  let now := env.timestamp
  requireElapsed config (state.lastAttested attestation.recipient) now
  return { state with
    lastAttested := update state.lastAttested attestation.recipient (some now) }

/-- `on_revoke` accepts every revocation and writes nothing. -/
def onRevoke (_attestation : Attestation) : State := state

/-- The entry points, apart from the four that only read. -/
inductive Call where
  | init (admin : Address) (cooldownPeriodSeconds : UInt64)
  | setCooldownPeriodSeconds (authorizer : Address) (cooldownPeriodSeconds : UInt64)
  | onAttest (attestation : Attestation)
  | onRevoke (attestation : Attestation)

/-- One call, made in an environment. -/
def step (state : State) (input : Env × Call) : Except Trap State :=
  match input.2 with
  | .init admin cooldownPeriodSeconds => init input.1 state admin cooldownPeriodSeconds
  | .setCooldownPeriodSeconds authorizer cooldownPeriodSeconds =>
    setCooldownPeriodSeconds input.1 state authorizer cooldownPeriodSeconds
  | .onAttest attestation => onAttest input.1 state attestation
  | .onRevoke attestation => return onRevoke state attestation

/-! ## What the entry points do -/

variable {env state}

theorem onAttest_ok {next : State} (success : onAttest env state attestation = .ok next) :
    state.config ≠ none ∧ next = { state with
      lastAttested :=
        update state.lastAttested attestation.recipient (some env.timestamp) } := by
  simp only [onAttest, readConfig, eq_ok] at success
  rcases success with ⟨config, found, _, -, rfl⟩
  exact ⟨by simp [found], rfl⟩

theorem requireElapsed_eq_error_iff {config : TimeWindowConfig} {last : Option UInt64} {now : UInt64} {failure : Trap} :
    requireElapsed config last now = .error failure ↔
      failure = Trap.contract .cooldownActive ∧ config.cooldownPeriodSeconds ≠ 0 ∧
        ∃ lastAttestedTime, last = some lastAttestedTime ∧
          coolingDown config.cooldownPeriodSeconds lastAttestedTime now = true := by
  unfold requireElapsed
  by_cases off : config.cooldownPeriodSeconds = 0
  · simp [off, pure, Except.pure]
  · rw [if_pos off]
    cases last with
    | none => simp [whenSome]
    | some lastAttestedTime =>
      cases running : coolingDown config.cooldownPeriodSeconds lastAttestedTime now with
      | false => simp [whenSome, require, running]
      | true => simpa [whenSome, require, running, off] using eq_comm

/-- The callback fails with `CooldownActive` exactly while the window of the recipient is
open. -/
theorem onAttest_cooldownActive_iff : onAttest env state attestation = .error (.contract .cooldownActive) ↔
      ∃ config, state.config = some config ∧ config.cooldownPeriodSeconds ≠ 0 ∧
        ∃ lastAttestedTime, state.lastAttested attestation.recipient = some lastAttestedTime ∧
          coolingDown config.cooldownPeriodSeconds lastAttestedTime env.timestamp = true := by
  unfold onAttest readConfig
  cases found : state.config with
  | none => simp [expect, bind, Except.bind]
  | some config =>
    cases elapsed : requireElapsed config (state.lastAttested attestation.recipient)
        env.timestamp with
    | ok done =>
      simp only [expect, bind, Except.bind, elapsed, pure, Except.pure, reduceCtorEq, false_iff]
      rintro ⟨_, ⟨⟩, window⟩
      have failed := requireElapsed_eq_error_iff.mpr ⟨rfl, window⟩
      cases elapsed.symm.trans failed
    | error failure =>
      rcases requireElapsed_eq_error_iff.mp elapsed with ⟨rfl, window⟩
      simp only [expect, bind, Except.bind, elapsed, true_iff]
      exact ⟨config, rfl, window⟩

end SorobanSas.TimeWindow
