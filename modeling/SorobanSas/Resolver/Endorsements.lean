import Mathlib.Data.Finset.Card
import SorobanSas.Resolver.Approval

namespace SorobanSas.Resolver

open Library List

/-!
# Which endorsements are counted

The parser takes the data apart at fixed offsets and the loop skips every block whose key it has
seen.  Both are replaced here by what they compute: the data is a concatenation of blocks, the
first block of each key decides, and the count is the number of keys.

The check of a policy counts differently.  `validate_config` compares the threshold with the length
of the list of signers, in which a key may occur twice.
-/

variable {crypto : Crypto} {ed25519 : Ed25519} {config : ResolverConfig} {digest : BytesN 32}
  {endorsements : List Endorsement} {endorsement : Endorsement} {payload : Bytes}

/-! ## Blocks -/

/-- The 96 bytes of an endorsement. -/
def block (endorsement : Endorsement) : Bytes :=
  BytesN.toArray endorsement.signer ++ BytesN.toArray endorsement.signature

theorem length_block : (block endorsement).length = 96 := by
  simp [block, BytesN.length_toArray]

theorem flatMap_block_eq_nil : endorsements.flatMap block = [] <-> endorsements = [] := by
  rw [flatMap_eq_nil_iff, eq_nil_iff_forall_not_mem]
  refine forall₂_congr fun endorsement _ => iff_of_false (fun empty => ?_) id
  cases length_block.symm.trans (congrArg List.length empty)

theorem blocks_past {offset : Nat} (past : payload.length <= offset) :
    [] = endorsements <-> payload.drop offset = endorsements.flatMap block := by
  rw [drop_eq_nil_of_le past, eq_comm, ← flatMap_block_eq_nil, eq_comm]

theorem parseBlocks_eq_ok {turns offset : Nat} (enough : payload.length - offset <= turns) :
    parseBlocks payload turns offset = .ok endorsements <-> payload.drop offset = endorsements.flatMap block := by
  induction turns generalizing offset endorsements with
  | zero =>
    rw [parseBlocks, pure_eq_ok]
    exact blocks_past (by omega)
  | succ turns ih =>
    rw [parseBlocks]
    by_cases more : offset < payload.length
    · simp only [if_pos more, readArray, eq_ok, mapM_range_eq_ok,
        ih (show payload.length - (offset + 32 + 64) <= turns by omega)]
      constructor
      · rintro ⟨signer, ⟨wide, rest, split⟩, signature, ⟨wide', rest', split'⟩, others, later, rfl⟩
        rw [flatMap_cons, block, BytesN.toArray_ofArray wide, BytesN.toArray_ofArray wide',
          ← later, drop_past wide' split', append_assoc, ← split', drop_past wide split, split]
      · intro split
        cases endorsements with
        | nil => exact absurd (List.drop_eq_nil_iff.mp split) (by omega)
        | cons first others =>
          rw [flatMap_cons, block, append_assoc] at split
          have signer := BytesN.length_toArray first.signer
          have signature := BytesN.length_toArray first.signature
          have split' := drop_past signer split
          exact ⟨_, ⟨signer, _, split⟩, _, ⟨signature, _, split'⟩, others,
            drop_past signature split', by simp only [BytesN.ofArray_toArray]⟩
    · rw [if_neg more, pure_eq_ok]
      exact blocks_past (by omega)

theorem parseEndorsements_eq_ok :
    parseEndorsements payload = .ok endorsements <-> payload = endorsements.flatMap block := by
  unfold parseEndorsements
  have parsed : parseBlocks payload payload.length 0 = .ok endorsements <->
      payload = endorsements.flatMap block := parseBlocks_eq_ok (Nat.sub_le payload.length 0)
  cases payload with
  | nil =>
    rw [isEmpty_nil, if_pos rfl, pure_eq_ok]
    change [] = endorsements <-> List.drop 0 [] = _
    exact blocks_past (Nat.le_refl 0)
  | cons first rest =>
    rw [isEmpty_cons, if_neg Bool.false_ne_true, bind_eq_ok, exists_unit, require_eq_ok, parsed, and_iff_right_iff_imp]
    intro split
    rw [split, length_flatMap]
    simp [length_block]

/-! ## Acceptance -/

/-- The keys that occur. -/
def keys (endorsements : List Endorsement) : Finset (BytesN 32) := (endorsements.map Endorsement.signer).toFinset

theorem length_seen : (seen endorsements).length = (keys endorsements).card := by
  rw [seen, length_reverse, keys, ← toFinset_reverse, card_toFinset]

/-- The data is the concatenation of the endorsements, the first one of each key is valid, and
there are enough keys. -/
structure Carries (crypto : Crypto) (ed25519 : Ed25519) (config : ResolverConfig)
    (attestation : Attestation) (endorsements : List Endorsement) : Prop where
  data : attestation.data = endorsements.flatMap block
  valid : ∀ first, First endorsements first -> Valid ed25519 config (endorsementDigest crypto attestation) first
  enough : config.threshold <= (keys endorsements).card

variable {attestation : Attestation}

theorem verifyEndorsements_eq_ok {count : Nat} :
    verifyEndorsements crypto ed25519 ⟨some config⟩ attestation = .ok count <->
      ∃ endorsements, Carries crypto ed25519 config attestation endorsements ∧ count = (keys endorsements).card := by
  simp only [verifyEndorsements, requireConfig, resolveValidCount, eq_ok, Option.some.injEq,
    exists_eq_left', parseEndorsements_eq_ok, countLoop_eq_ok]
  constructor
  · rintro ⟨endorsements, data, _, ⟨valid, rfl⟩, enough, rfl⟩
    exact ⟨endorsements, ⟨data, valid, length_seen ▸ enough⟩, length_seen⟩
  · rintro ⟨endorsements, ⟨data, valid, enough⟩, rfl⟩
    exact ⟨endorsements, data, _, ⟨valid, rfl⟩, length_seen.symm ▸ enough, length_seen⟩

theorem onAttest_eq_ok : onAttest crypto ed25519 ⟨some config⟩ attestation = .ok () <->
    ∃ endorsements, Carries crypto ed25519 config attestation endorsements := by
  have counted : onAttest crypto ed25519 ⟨some config⟩ attestation = .ok () <->
      ∃ count, verifyEndorsements crypto ed25519 ⟨some config⟩ attestation = .ok count := by
    simp only [onAttest, checkApproval, verifyEndorsements, eq_ok, and_true]
    constructor
    · rintro ⟨config, stored, count, counts⟩
      exact ⟨count, config, stored, counts⟩
    · rintro ⟨count, config, stored, counts⟩
      exact ⟨config, stored, count, counts⟩
  rw [counted]
  simp only [verifyEndorsements_eq_ok]
  rw [exists_comm]
  exact exists_congr fun endorsements => by simp

/-- The attestation with these endorsements in its data. -/
def endorse (attestation : Attestation) (endorsements : List Endorsement) : Attestation :=
  { attestation with data := endorsements.flatMap block }

/-- The data determines the endorsements. -/
theorem carries_endorse {others : List Endorsement} :
    Carries crypto ed25519 config (endorse attestation endorsements) others <->
      others = endorsements ∧ (∀ first, First endorsements first ->
          Valid ed25519 config (endorsementDigest crypto attestation) first) ∧
        config.threshold <= (keys endorsements).card := by
  constructor
  · rintro ⟨data, valid, enough⟩
    cases (parseEndorsements_eq_ok.mpr data).symm.trans (parseEndorsements_eq_ok.mpr rfl)
    exact ⟨rfl, valid, enough⟩
  · rintro ⟨rfl, valid, enough⟩
    exact ⟨rfl, valid, enough⟩

theorem first_iff_mem (distinct : (endorsements.map Endorsement.signer).Nodup) :
    First endorsements endorsement <-> endorsement ∈ endorsements := by
  refine ⟨First.mem, fun member => ?_⟩
  rcases append_of_mem member with ⟨earlier, later, rfl⟩
  refine ⟨earlier, later, rfl, fun again => ?_⟩
  rw [map_append, nodup_append] at distinct
  exact distinct.2.2 _ again _ (by simp) rfl

/-- An attestation is accepted if its data is a concatenation of blocks of which the first one of
each key is valid, with as many keys as the threshold asks for, and the count is the number of
keys.  A further block of a key that occurs does not change the count, and blocks of different keys
may be put in any order. -/
theorem endorsements_counted (crypto : Crypto) (ed25519 : Ed25519) (config : ResolverConfig)
    (attestation : Attestation) : (onAttest crypto ed25519 ⟨some config⟩ attestation = .ok () <->
      ∃ endorsements, Carries crypto ed25519 config attestation endorsements) ∧
    (forall count, verifyEndorsements crypto ed25519 ⟨some config⟩ attestation = .ok count <->
      ∃ endorsements, Carries crypto ed25519 config attestation endorsements ∧ count = (keys endorsements).card) ∧
    (forall earlier repeated later count, repeated.signer ∈ keys (earlier ++ later) ->
      verifyEndorsements crypto ed25519 ⟨some config⟩
        (endorse attestation (earlier ++ repeated :: later)) = .ok count -> count = (keys (earlier ++ later)).card) ∧
    forall endorsements reordered, (endorsements.map Endorsement.signer).Nodup -> endorsements.Perm reordered ->
      (onAttest crypto ed25519 ⟨some config⟩ (endorse attestation endorsements) = .ok () <->
        onAttest crypto ed25519 ⟨some config⟩ (endorse attestation reordered) = .ok ()) := by
  refine ⟨onAttest_eq_ok, fun count => verifyEndorsements_eq_ok, ?_, ?_⟩
  · intro earlier repeated later count occurs counted
    rcases verifyEndorsements_eq_ok.mp counted with ⟨_, carried, rfl⟩
    rw [(carries_endorse.mp carried).1]
    have same : keys (earlier ++ repeated :: later) = keys (earlier ++ later) := by
      simp only [keys, map_append, map_cons, toFinset_append, toFinset_cons, Finset.union_insert] at occurs ⊢
      exact Finset.insert_eq_of_mem occurs
    rw [same]
  · intro endorsements reordered distinct permuted
    have distinct' : (reordered.map Endorsement.signer).Nodup :=
      (permuted.map Endorsement.signer).nodup_iff.mp distinct
    have same : keys endorsements = keys reordered := toFinset_eq_of_perm _ _ (permuted.map Endorsement.signer)
    simp only [onAttest_eq_ok, carries_endorse, exists_eq_left, first_iff_mem distinct,
      first_iff_mem distinct', permuted.mem_iff, same]

/-! ## Policies that can be met -/

def Call.signers : Call -> List (BytesN 32)
  | .init _ signers | .initialise _ signers | .configure _ signers | .setPolicy _ signers
  | .setSigners signers => signers
  | .setThreshold _ | .onAttest _ | .onRevoke _ => []

/-- The stored policy asks for no more signatures than it lists signers, each of them once. -/
def Attainable (state : State) : Prop :=
  ∀ config, state.config = some config -> config.threshold <= config.signers.length ∧ config.signers.Nodup

theorem validateConfig_eq_ok {threshold : Nat} {signers : List (BytesN 32)}
    (success : validateConfig threshold signers = .ok ()) : threshold <= signers.length := by
  rw [validateConfig, require_eq_ok] at success
  omega

theorem attainable_init {state next : State} {threshold : Nat} {signers : List (BytesN 32)}
    (distinct : signers.Nodup) (success : init state threshold signers = .ok next) : Attainable next := by
  simp only [init, eq_ok] at success
  rcases success with ⟨valid, rfl⟩
  rintro _ ⟨⟩
  exact ⟨validateConfig_eq_ok valid, distinct⟩

theorem Attainable.step {state next : State} {input : Env × Call} (attainable : Attainable state)
    (distinct : input.2.signers.Nodup) (success : step crypto ed25519 state input = .ok next) : Attainable next := by
  rcases input with ⟨env, call⟩
  cases call with
  | init threshold signers | initialise threshold signers | configure threshold signers
  | setPolicy threshold signers =>
    change init state threshold signers = .ok next at success
    exact attainable_init distinct success
  | setThreshold =>
    simp only [Resolver.step, setThreshold, requireConfig, eq_ok] at success
    rcases success with ⟨config, stored, valid, rfl⟩
    rintro _ ⟨⟩
    exact ⟨validateConfig_eq_ok valid, (attainable config stored).2⟩
  | setSigners =>
    simp only [Resolver.step, setSigners, requireConfig, eq_ok] at success
    rcases success with ⟨config, stored, valid, rfl⟩
    rintro _ ⟨⟩
    exact ⟨validateConfig_eq_ok valid, distinct⟩
  | onAttest attestation | onRevoke attestation =>
    simp only [Resolver.step, eq_ok] at success
    exact success.2 ▸ attainable

/-- The blocks of all configured signers, in the order of the configuration. -/
def signedByAll (config : ResolverConfig) (sign : BytesN 32 -> BytesN 64) : List Endorsement :=
  config.signers.map fun key => ⟨key, sign key⟩

theorem keys_signedByAll {sign : BytesN 32 -> BytesN 64} :
    keys (signedByAll config sign) = config.signers.toFinset := by
  rw [keys, signedByAll, map_map]
  exact congrArg _ (map_id _)

/-- If all configured signers sign, the attestation is accepted if and only if there are as many
different ones as the threshold asks for.  That is so in every run in which no call passes a list
with a key that occurs twice. -/
theorem policy_met_by_all (crypto : Crypto) (ed25519 : Ed25519) (calls : List (Env × Call))
    (config : ResolverConfig) (attestation : Attestation) (sign : BytesN 32 -> BytesN 64)
    (stored : (run (step crypto ed25519) deployed calls).config = some config)
    (signed : forall key, key ∈ config.signers -> ed25519.fromBytes key = true ∧
      ed25519.verify key (BytesN.toArray (endorsementDigest crypto attestation)) (sign key) = true) :
    (onAttest crypto ed25519 (run (step crypto ed25519) deployed calls)
        (endorse attestation (signedByAll config sign)) = .ok () <-> config.threshold ≤ config.signers.toFinset.card) ∧
    ((forall input, input ∈ calls -> input.2.signers.Nodup) ->
      onAttest crypto ed25519 (run (step crypto ed25519) deployed calls)
        (endorse attestation (signedByAll config sign)) = .ok ()) := by
  have state : run (step crypto ed25519) deployed calls = ⟨some config⟩ := by rw [← stored]
  have accepts : onAttest crypto ed25519 ⟨some config⟩ (endorse attestation (signedByAll config sign)) = .ok () <->
      config.threshold ≤ config.signers.toFinset.card := by
    simp only [onAttest_eq_ok, carries_endorse, exists_eq_left, keys_signedByAll]
    refine and_iff_right ?_
    intro first occurs
    rcases List.mem_map.mp occurs.mem with ⟨key, configured, rfl⟩
    exact ⟨configured, (signed key configured).1, (signed key configured).2⟩
  rw [state]
  refine ⟨accepts, fun distinct => accepts.mpr ?_⟩
  have attainable : Attainable (run (step crypto ed25519) deployed calls) :=
    run_invariant (fun _ _ _ attainable distinct success => attainable.step distinct success)
      (by rintro _ ⟨⟩) (admissible_of_forall (fun input member _ => distinct input member) _)
  rcases attainable config stored with ⟨enough, once⟩
  rwa [toFinset_card_of_nodup once]

/-- The only signer has signed. -/
theorem policy_met_by_one : onAttest okDigests okSignatures
      (run (step okDigests okSignatures) deployed [calledBy 1 (.init 1 [1])])
      (endorse (endorsedBy 1) (signedByAll ⟨1, [1]⟩ fun _ => 9)) = .ok () := by
  refine (policy_met_by_all okDigests okSignatures [calledBy 1 (.init 1 [1])] ⟨1, [1]⟩ (endorsedBy 1)
    (fun _ => 9) rfl ?_).2 ?_
  · simp only [mem_singleton, forall_eq]
    exact ⟨rfl, by decide +kernel⟩
  · simp [calledBy, Call.signers]

/-- A policy is accepted that lists one key twice and asks for two signatures.  The signatures of
all listed keys are not enough for it. -/
theorem repeated_signer_unmet :
    let config : ResolverConfig := ⟨2, [1, 1]⟩
    let state := run (step okDigests okSignatures) deployed [calledBy 1 (.init 2 [1, 1])]
    state.config = some config ∧ (forall key, key ∈ config.signers -> okSignatures.fromBytes key = true ∧
      okSignatures.verify key (BytesN.toArray (endorsementDigest okDigests (endorsedBy 1))) 9 = true) ∧
    onAttest okDigests okSignatures state (endorse (endorsedBy 1) (signedByAll config fun _ => 9)) =
      .error .insufficientSignatures := by
  refine ⟨rfl, ?_, ?_⟩
  · simp only [mem_cons, not_mem_nil, or_false, or_self, forall_eq]
    exact ⟨rfl, by decide +kernel⟩
  · decide +kernel

end SorobanSas.Resolver
