import SorobanSas.CrossChain.Verdicts

namespace SorobanSas.CrossChain

open Library

/-!
# Who decides what is trusted

`init` fixes the admin and the gateway.  `set_lz_config` may be called before `init`, when there
is no admin yet: its first caller is then taken for the admin of this channel.  What that caller
has configured stays in force when `init` names another admin, until the admin configures the
channel too.

After `init`, a message is therefore delivered as the admin wishes exactly if it comes through
the gateway, or the admin entry that `set_lz_config` leaves is the admin of `init`.
-/

variable {host : Host} {context : Context} {before after : State} {calls : List (Context × Call)}
  {admin gateway endpoint : Address} {sourceChain sourceAddress : Bytes} {srcEid : UInt32}
  {sender : BytesN 32} {input : Context × Call} {config : SourceConfig}

/-- A successful `init` with this configuration. -/
def Initialises (host : Host) (config : SourceConfig) (state : State) (input : Context × Call) : Prop :=
  input.2 = .init config.admin config.gateway config.sourceChain config.sourceAddress ∧
    input.1.authorized config.admin = true ∧ (step host state input).isOk = true

/-- A successful `set_lz_config` that the caller has authorized. -/
def Configures (host : Host) (caller : Address) (trusted : LayerZeroConfig) (state : State)
    (input : Context × Call) : Prop := input.2 = .setLzConfig caller trusted.endpoint trusted.srcEid trusted.sender ∧
    input.1.authorized caller = true ∧ (step host state input).isOk = true

/-- The message of a call is delivered in the way that the admin of `init` has decided on. -/
inductive Delivered (host : Host) (calls : List (Context × Call)) (config : SourceConfig) :
    Context × Call -> Prop
  | gateway {context : Context} {messageId payload : Bytes} :
      Occurs (step host) deployed (Initialises host config) calls ->
      context.validateMessage config.gateway ⟨context.currentContract, config.sourceChain, messageId,
        config.sourceAddress, host.keccak256 payload⟩ = some true -> Delivered host calls config
        (context, .execute config.sourceChain messageId config.sourceAddress payload)
  | endpoint {context : Context} {trusted : LayerZeroConfig} {nonce : UInt64} {guid : BytesN 32}
      {message : Bytes} :
      Occurs (step host) deployed (Configures host config.admin trusted) calls ->
      context.authorized trusted.endpoint = true -> Delivered host calls config
        (context, .lzReceive ⟨trusted.srcEid, trusted.sender, nonce⟩ guid message)

/-- The endpoint delivers only while the admin of `init` is the one who has configured it. -/
def OwnEndpoint (state : State) (input : Context × Call) : Prop :=
  ∀ config, state.config = some config -> ∀ origin guid message,
    input.2 = .lzReceive origin guid message -> state.admin = some config.admin

/-! ## What a run configures -/

/-- Where the three entries come from. -/
structure Configured (host : Host) (calls : List (Context × Call)) (state : State) : Prop where
  config : ∀ config, state.config = some config -> Occurs (step host) deployed (Initialises host config) calls
  endpoint : ∀ trusted, state.lzConfig = some trusted -> ∃ caller, state.admin = some caller ∧
      Occurs (step host) deployed (Configures host caller trusted) calls
  /-- Whoever has configured the endpoint is its admin, unless it is the admin of `init`. -/
  admin : ∀ caller trusted, Occurs (step host) deployed (Configures host caller trusted) calls ->
    state.admin = some caller ∨ ∃ config, state.config = some config ∧ state.admin = some config.admin

theorem init_ok (success : init context before admin gateway sourceChain sourceAddress = .ok after) :
    before.config = none ∧ context.authorized admin = true ∧
      after = { before with config := some ⟨admin, gateway, sourceChain, sourceAddress⟩ } := by
  simp only [init, requireAuth, eq_ok] at success
  rcases success with ⟨free, signed, -, rfl⟩
  exact ⟨free, signed, rfl⟩

theorem setLzConfig_ok {caller : Address}
    (success : setLzConfig context before caller endpoint srcEid sender = .ok after) :
    context.authorized caller = true ∧ (∀ config, before.config = some config -> caller = config.admin) ∧
      (before.config = none -> ∀ admin, before.admin = some admin -> caller = admin) ∧ after = { before with
        admin := some caller, lzConfig := some ⟨endpoint, srcEid, sender⟩ } := by
  simp only [setLzConfig, requireAuth, eq_ok] at success
  rcases success with ⟨signed, allowed, -, rfl⟩
  rw [← allowed]
  refine ⟨signed, fun config stored => ?_, fun absent admin stored => ?_, rfl⟩
  · rw [stored] at allowed
    exact allowed
  · rw [absent, stored] at allowed
    exact allowed

/-- A call that configures no endpoint and keeps the three entries. -/
theorem Configured.quiet (configured : Configured host calls before) (quiet : ∀ caller trusted,
      ¬ Configures host caller trusted (run (step host) deployed calls) input)
    (config : after.config = before.config) (admin : after.admin = before.admin)
    (lzConfig : after.lzConfig = before.lzConfig) : Configured host (calls ++ [input]) after := by
  constructor
  · intro own stored
    rw [config] at stored
    exact occurs_concat.mpr (.inl (configured.config own stored))
  · intro trusted stored
    rw [lzConfig] at stored
    rcases configured.endpoint trusted stored with ⟨caller, known, occurred⟩
    exact ⟨caller, admin.trans known, occurs_concat.mpr (.inl occurred)⟩
  · intro caller trusted occurred
    rcases occurs_concat.mp occurred with earlier | now
    · rw [admin, config]
      exact configured.admin caller trusted earlier
    · exact absurd now (quiet caller trusted)

theorem Configured.init (configured : Configured host calls (run (step host) deployed calls))
    (success : step host (run (step host) deployed calls)
      (context, .init admin gateway sourceChain sourceAddress) = .ok after) :
    Configured host (calls ++ [(context, .init admin gateway sourceChain sourceAddress)]) after := by
  have succeeds := congrArg Except.isOk success
  rcases init_ok success with ⟨free, signed, rfl⟩
  constructor
  · intro own stored
    cases stored
    exact occurs_concat.mpr (.inr ⟨rfl, signed, succeeds⟩)
  · intro trusted stored
    rcases configured.endpoint trusted stored with ⟨caller, known, occurred⟩
    exact ⟨caller, known, occurs_concat.mpr (.inl occurred)⟩
  · intro caller trusted occurred
    rcases occurs_concat.mp occurred with earlier | ⟨other, -⟩
    · rcases configured.admin caller trusted earlier with known | ⟨config, stored, -⟩
      · exact .inl known
      · rw [free] at stored
        cases stored
    · cases other

theorem Configured.setLzConfig {caller : Address} (configured : Configured host calls (run (step host) deployed calls))
    (success : step host (run (step host) deployed calls)
      (context, .setLzConfig caller endpoint srcEid sender) = .ok after) :
    Configured host (calls ++ [(context, .setLzConfig caller endpoint srcEid sender)]) after := by
  have succeeds := congrArg Except.isOk success
  rcases setLzConfig_ok success with ⟨signed, own, first, rfl⟩
  constructor
  · intro config stored
    exact occurs_concat.mpr (.inl (configured.config config stored))
  · intro trusted stored
    cases stored
    exact ⟨caller, rfl, occurs_concat.mpr (.inr ⟨rfl, signed, succeeds⟩)⟩
  · intro other trusted occurred
    cases stored : (run (step host) deployed calls).config with
    | some config => exact .inr ⟨config, rfl, congrArg some (own config stored)⟩
    | none =>
      rcases occurs_concat.mp occurred with earlier | ⟨same, -⟩
      · rcases configured.admin other trusted earlier with known | ⟨config, absurdly, -⟩
        · exact .inl (congrArg some (first stored other known))
        · rw [stored] at absurdly
          cases absurdly
      · cases same
        exact .inl rfl

theorem configured_run (host : Host) (calls : List (Context × Call)) :
    Configured host calls (run (step host) deployed calls) := by
  refine trail_invariant ?_ ?_ ?_ (admissible_true deployed calls)
  · refine ⟨?_, ?_, ?_⟩
    · rintro config ⟨⟩
    · rintro trusted ⟨⟩
    · intro caller trusted occurred
      exact absurd occurred not_occurs_nil
  · rintro calls ⟨context, call⟩ next configured - success
    have delivered {payload : Bytes} (message : call.payload = some payload) :
        Configured host (calls ++ [(context, call)]) next := by
      rcases step_records message next success with ⟨status, proof, event, -, rfl⟩
      refine configured.quiet ?_ rfl rfl rfl
      rintro caller trusted ⟨same, -⟩
      cases (same : call = _)
      cases message
    cases call with
    | init => exact configured.init success
    | setLzConfig => exact configured.setLzConfig success
    | execute | lzReceive => exact delivered rfl
  · intro calls input reason configured failure
    refine configured.quiet ?_ rfl rfl rfl
    rintro caller trusted ⟨-, -, succeeds⟩
    rw [failure] at succeeds
    cases succeeds

/-! ## Main result -/

theorem Delivered.configures (delivered : Delivered host calls config input) {origin : Origin}
    {guid : BytesN 32} {message : Bytes} (received : input.2 = .lzReceive origin guid message) :
    ∃ trusted, Occurs (step host) deployed (Configures host config.admin trusted) calls := by
  cases delivered with
  | gateway => cases received
  | endpoint occurred => exact ⟨_, occurred⟩

theorem Configured.own {state : State} {trusted : LayerZeroConfig}
    (configured : Configured host calls state) (stored : state.config = some config)
    (occurred : Occurs (step host) deployed (Configures host config.admin trusted) calls) :
    state.admin = some config.admin := by
  rcases configured.admin config.admin trusted occurred with known | ⟨other, same, known⟩
  · exact known
  · cases stored.symm.trans same
    exact known

/-- In every run and after `init`, an accepted message is delivered as the admin has decided if
and only if it is not delivered by an endpoint that somebody else has configured. -/
theorem delivery_trusted_iff (host : Host) (calls : List (Context × Call))
    (input : Context × Call) (next : State) (config : SourceConfig) (payload : Bytes)
    (initialised : (run (step host) deployed calls).config = some config) (message : input.2.payload = some payload)
    (accepted : step host (run (step host) deployed calls) input = .ok next) :
    Delivered host calls config input ↔ OwnEndpoint (run (step host) deployed calls) input := by
  have configured := configured_run host calls
  generalize run (step host) deployed calls = state at *
  rcases input with ⟨context, call⟩
  cases call with
  | execute =>
    simp only [step, stateOf, execute, eq_ok] at accepted
    rcases accepted with ⟨_, ⟨trusted, stored, ⟨rfl, rfl⟩, -, _, -, approved, -⟩, -⟩
    cases initialised.symm.trans stored
    refine ⟨fun _ _ _ _ _ _ other => ?_, fun _ => ?_⟩
    · cases other
    · exact .gateway (configured.config config initialised) approved
  | lzReceive origin guid own =>
    simp only [step, stateOf, lzReceive, getLzConfig, requireAuth, eq_ok] at accepted
    rcases accepted with ⟨_, ⟨trusted, stored, signed, source, sender, -⟩, -⟩
    constructor
    · intro delivered other same _ _ _ _
      cases initialised.symm.trans same
      rcases delivered.configures rfl with ⟨_, occurred⟩
      exact configured.own initialised occurred
    · intro endpoint
      have admin := endpoint config initialised origin guid own rfl
      rcases configured.endpoint trusted stored with ⟨caller, known, occurred⟩
      cases admin.symm.trans known
      rcases origin with ⟨srcEid, remote, nonce⟩
      dsimp only at source sender
      subst source sender
      exact .endpoint occurred signed
  | _ => cases message

open Address (accountOfNat)

/-- A host on which no message is hashed and no proof is decoded. -/
def plainHost : Host := ⟨fun _ => 0, fun _ => none⟩

/-- A call that the account with this number authorizes, with no gateway in reach. -/
def calledBy (number : Nat) (call : Call) : Context × Call :=
  ({ Env.signedBy [accountOfNat number] 100 1 (.contract 4) (by simp [accountOfNat]) with
    validateMessage := fun _ _ => none }, call)

/-- Revision 1 on a UID, valid until 200. -/
def positiveVerdict : Bytes := [1] ++ BytesN.toArray (UID.ofNat 5).hash ++ toBeBytes 1 ++ toBeBytes 200 ++ [1]

def sourceConfig : SourceConfig := ⟨accountOfNat 1, .contract 3, ascii "ethereum", ascii "0xaa"⟩

def initCall : Call :=
  .init sourceConfig.admin sourceConfig.gateway sourceConfig.sourceChain sourceConfig.sourceAddress

/-- The endpoint is account 8, and it delivers a message of the remote sender 7 on chain 1. -/
def endpointDelivers : Context × Call := calledBy 8 (.lzReceive ⟨1, 7, 1⟩ 1 positiveVerdict)

/-- The admin initialises the verifier and configures the endpoint. -/
def ownRun : List (Context × Call) :=
  [calledBy 1 initCall, calledBy 1 (.setLzConfig (accountOfNat 1) (accountOfNat 8) 1 7)]

theorem delivery_trusted_iff_own : Delivered plainHost ownRun sourceConfig endpointDelivers := by
  have succeeds : (step plainHost (run (step plainHost) deployed ownRun) endpointDelivers).isOk = true := by
    decide
  rcases exists_of_isOk succeeds with ⟨next, accepted⟩
  have initialised : (run (step plainHost) deployed ownRun).config = some sourceConfig := by decide
  have admin : (run (step plainHost) deployed ownRun).admin = some sourceConfig.admin := by decide
  refine (delivery_trusted_iff plainHost ownRun endpointDelivers next sourceConfig positiveVerdict
    initialised rfl accepted).mpr ?_
  intro config stored _ _ _ _
  cases initialised.symm.trans stored
  exact admin

/-- Account 9 configures the endpoint before account 1 initialises the verifier. -/
def foreignRun : List (Context × Call) :=
  [calledBy 9 (.setLzConfig (accountOfNat 9) (accountOfNat 8) 1 7), calledBy 1 initCall]

/-- The verdict of the endpoint that account 9 has chosen is recorded and relied on. -/
theorem foreign_endpoint_trusted :
    let state := run (step plainHost) deployed foreignRun
    state.config = some sourceConfig ∧ (step plainHost state endpointDelivers).isOk = true ∧
      verifyRemote (commit (step plainHost) state endpointDelivers) 150 (UID.ofNat 5) = true ∧
      ¬ Delivered plainHost foreignRun sourceConfig endpointDelivers := by
  intro state
  have initialised : state.config = some sourceConfig := by decide
  refine ⟨initialised, by decide, by decide, fun delivered => ?_⟩
  have foreign : state.admin ≠ some sourceConfig.admin := by decide
  rcases delivered.configures rfl with ⟨_, occurred⟩
  exact foreign ((configured_run plainHost foreignRun).own initialised occurred)

end SorobanSas.CrossChain
