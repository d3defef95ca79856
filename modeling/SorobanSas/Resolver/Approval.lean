import Mathlib.Data.List.Dedup
import SorobanSas.Resolver.Contract

namespace SorobanSas.Resolver

open Library List

/-!
# What an approval is worth

An accepted attestation carries the valid signatures of as many distinct configured keys as the
threshold asks for.  The loop shows this: the keys that it has seen are distinct, each of them
is configured and has signed the digest, and the count is their number.

That is the policy of the moment.  None of the six entry points that set it asks for an
authorization, so the policy that the resolver was initialised with binds only in runs in which
nobody else changes it.
-/

variable {crypto : Crypto} {ed25519 : Ed25519} {config : ResolverConfig} {digest : BytesN 32}
  {endorsements : List Endorsement} {endorsement last : Endorsement}
  {counted : List (BytesN 32) × Nat} {attestation : Attestation}

/-! ## The counting loop -/

/-- The attestation carries valid signatures of enough distinct keys among the signers. -/
structure Endorsed (crypto : Crypto) (ed25519 : Ed25519) (config : ResolverConfig)
    (attestation : Attestation) (keys : List (BytesN 32)) : Prop where
  distinct : keys.Nodup
  enough : config.threshold <= keys.length
  configured : ∀ key ∈ keys, key ∈ config.signers
  signed : ∀ key ∈ keys, ∃ endorsements signature,
    parseEndorsements attestation.data = .ok endorsements ∧ ⟨key, signature⟩ ∈ endorsements ∧
      ed25519.fromBytes key = true ∧
      ed25519.verify key (BytesN.toArray (endorsementDigest crypto attestation)) signature = true

/-- What the loop has established about the keys it has seen. -/
structure Counted (ed25519 : Ed25519) (config : ResolverConfig) (digest : BytesN 32)
    (endorsements : List Endorsement) (counted : List (BytesN 32) × Nat) : Prop where
  distinct : counted.1.Nodup
  count : counted.2 = counted.1.length
  configured : ∀ key ∈ counted.1, key ∈ config.signers
  signed : ∀ key ∈ counted.1, ∃ signature, ⟨key, signature⟩ ∈ endorsements ∧
    ed25519.fromBytes key = true ∧ ed25519.verify key (BytesN.toArray digest) signature = true

theorem signerIsAuthorized_iff {signer : BytesN 32} :
    signerIsAuthorized config signer = true ↔ signer ∈ config.signers := by
  simp [signerIsAuthorized]

/-- The endorsement is the first one of its key. -/
def First (endorsements : List Endorsement) (endorsement : Endorsement) : Prop :=
  ∃ earlier later, endorsements = earlier ++ endorsement :: later ∧ endorsement.signer ∉ earlier.map Endorsement.signer

/-- The key is a configured signer, and the signature of the digest verifies. -/
structure Valid (ed25519 : Ed25519) (config : ResolverConfig) (digest : BytesN 32)
    (endorsement : Endorsement) : Prop where
  configured : endorsement.signer ∈ config.signers
  key : ed25519.fromBytes endorsement.signer = true
  signed : ed25519.verify endorsement.signer (BytesN.toArray digest) endorsement.signature = true

open Endorsement (signer)

theorem First.mem (first : First endorsements endorsement) : endorsement ∈ endorsements := by
  rcases first with ⟨earlier, later, rfl, -⟩
  simp

theorem first_concat : First (endorsements ++ [last]) endorsement <-> First endorsements endorsement ∨
      endorsement = last ∧ last.signer ∉ endorsements.map signer := by
  constructor
  · rintro ⟨earlier, later, split, fresh⟩
    rcases eq_nil_or_concat later with rfl | ⟨later, final, rfl⟩
    · rcases append_inj' split rfl with ⟨rfl, same⟩
      cases same
      exact .inr ⟨rfl, fresh⟩
    · have shorter : endorsements ++ [last] = (earlier ++ endorsement :: later) ++ [final] := by
        simpa using split
      exact .inl ⟨earlier, later, (append_inj' shorter rfl).1, fresh⟩
  · rintro (⟨earlier, later, rfl, fresh⟩ | ⟨rfl, fresh⟩)
    · exact ⟨earlier, later ++ [last], by simp, fresh⟩
    · exact ⟨endorsements, [], rfl, fresh⟩

/-- The keys in the order in which they occur first. -/
def seen (endorsements : List Endorsement) : List (BytesN 32) :=
  (endorsements.map Endorsement.signer).reverse.dedup.reverse

theorem mem_seen {key : BytesN 32} : key ∈ seen endorsements <-> key ∈ endorsements.map signer := by
  simp [seen]

theorem seen_concat : seen (endorsements ++ [last]) =
    if last.signer ∈ endorsements.map signer then seen endorsements
    else seen endorsements ++ [last.signer] := by
  unfold seen
  rw [map_append, map_singleton, reverse_append, reverse_singleton, singleton_append]
  by_cases known : last.signer ∈ endorsements.map signer
  · rw [if_pos known, dedup_cons_of_mem (List.mem_reverse.mpr known)]
  · rw [if_neg known, dedup_cons_of_notMem (mt List.mem_reverse.mp known), reverse_cons]

theorem countEndorsement_eq_ok :
    countEndorsement ed25519 config digest (seen endorsements, (seen endorsements).length) last = .ok counted <->
      (last.signer ∉ endorsements.map signer -> Valid ed25519 config digest last) ∧
        counted = (seen (endorsements ++ [last]), (seen (endorsements ++ [last])).length) := by
  rw [countEndorsement, seen_concat]
  simp only [mem_seen]
  by_cases known : last.signer ∈ endorsements.map signer
  · rw [if_pos known, if_pos known, pure_eq_ok, eq_comm]
    exact (and_iff_right fun fresh => absurd known fresh).symm
  · simp only [if_neg known, verifyPayloadSignature, eq_ok, signerIsAuthorized_iff, length_append, length_singleton]
    constructor
    · rintro ⟨configured, ⟨key, signed⟩, rfl⟩
      exact ⟨fun _ => ⟨configured, key, signed⟩, rfl⟩
    · rintro ⟨valid, rfl⟩
      rcases valid known with ⟨configured, key, signed⟩
      exact ⟨configured, ⟨key, signed⟩, rfl⟩

theorem countLoop_eq_ok : endorsements.foldlM (countEndorsement ed25519 config digest) ([], 0) = .ok counted <->
      (∀ first, First endorsements first -> Valid ed25519 config digest first) ∧
        counted = (seen endorsements, (seen endorsements).length) := by
  induction endorsements using List.reverseRecOn generalizing counted with
  | nil =>
    rw [foldlM_nil, pure_eq_ok, eq_comm]
    refine (and_iff_right ?_).symm
    rintro first ⟨earlier, later, split, -⟩
    cases earlier <;> cases split
  | append_singleton endorsements last ih =>
    simp only [foldlM_append, foldlM_cons, foldlM_nil, bind_pure, bind_eq_ok, ih]
    constructor
    · rintro ⟨_, ⟨earlier, rfl⟩, taken⟩
      rcases countEndorsement_eq_ok.mp taken with ⟨valid, rfl⟩
      refine ⟨fun first occurs => ?_, rfl⟩
      rcases first_concat.mp occurs with before | ⟨rfl, fresh⟩
      · exact earlier first before
      · exact valid fresh
    · rintro ⟨valid, rfl⟩
      exact ⟨_, ⟨fun first occurs => valid first (first_concat.mpr (.inl occurs)), rfl⟩, countEndorsement_eq_ok.mpr
          ⟨fun fresh => valid last (first_concat.mpr (.inr ⟨rfl, fresh⟩)), rfl⟩⟩

theorem first_of_mem {key : BytesN 32} (occurs : key ∈ endorsements.map signer) :
    ∃ endorsement, First endorsements endorsement ∧ endorsement.signer = key := by
  induction endorsements using List.reverseRecOn with
  | nil => cases occurs
  | append_singleton endorsements last ih =>
    simp only [first_concat]
    by_cases known : key ∈ endorsements.map signer
    · rcases ih known with ⟨endorsement, first, rfl⟩
      exact ⟨endorsement, .inl first, rfl⟩
    · have same : key = last.signer := by simpa [known] using occurs
      exact ⟨last, .inr ⟨rfl, same ▸ known⟩, same.symm⟩

theorem counted_of_loop (success : endorsements.foldlM (countEndorsement ed25519 config digest) ([], 0) =
      .ok counted) : Counted ed25519 config digest endorsements counted := by
  rcases countLoop_eq_ok.mp success with ⟨valid, rfl⟩
  refine ⟨List.nodup_reverse.mpr (nodup_dedup _), rfl, fun key listed => ?_, fun key listed => ?_⟩
  all_goals
    rcases first_of_mem (mem_seen.mp listed) with ⟨endorsement, first, rfl⟩
    have checked := valid endorsement first
  · exact checked.configured
  · exact ⟨endorsement.signature, first.mem, checked.key, checked.signed⟩

theorem endorsed_of_count {count : Nat} (success : resolveValidCount crypto ed25519 attestation config = .ok count) :
    ∃ keys, Endorsed crypto ed25519 config attestation keys ∧ keys.length = count := by
  simp only [resolveValidCount, eq_ok] at success
  rcases success with ⟨endorsements, parsed, counted, looped, enough, rfl⟩
  have loop := counted_of_loop looped
  refine ⟨counted.1, ⟨loop.distinct, loop.count ▸ enough, loop.configured, ?_⟩, loop.count.symm⟩
  intro key seen
  rcases loop.signed key seen with ⟨signature, listed, valid⟩
  exact ⟨endorsements, signature, parsed, listed, valid⟩

theorem onAttest_endorsed {state : State} (stored : state.config = some config)
    (accepted : onAttest crypto ed25519 state attestation = .ok ()) :
    ∃ keys, Endorsed crypto ed25519 config attestation keys := by
  simp only [onAttest, checkApproval, requireConfig, eq_ok, stored, Option.some.injEq,
    exists_eq_left', and_true] at accepted
  rcases accepted with ⟨count, success⟩
  rcases endorsed_of_count success with ⟨keys, endorsed, -⟩
  exact ⟨keys, endorsed⟩

/-! ## Who changes the policy -/

variable (crypto ed25519)

/-- The call changes the stored configuration. -/
def Reconfigures (state : State) (input : Env × Call) : Prop :=
  (commit (step crypto ed25519) state input).config ≠ state.config

/-- The call changes the stored configuration, and the party has authorized it. -/
def ReconfiguresFor (party : Address) (state : State) (input : Env × Call) : Prop :=
  Reconfigures crypto ed25519 state input ∧ input.1.authorized party = true

/-- Whoever changes the configuration does so with the party's authorization. -/
def ChangesOnlyFor (party : Address) (state : State) (input : Env × Call) : Prop :=
  Reconfigures crypto ed25519 state input -> input.1.authorized party = true

variable {crypto ed25519}

theorem init_eq_ok {state next : State} {threshold : Nat} {signers : List (BytesN 32)}
    (success : init state threshold signers = .ok next) : next.config = some ⟨threshold, signers⟩ := by
  simp only [init, eq_ok] at success
  rw [← success.2]

/-- The configuration is the first one, or the party has changed it. -/
def FirstOrChanged (crypto : Crypto) (ed25519 : Ed25519) (party : Address) (first : State)
    (config : ResolverConfig) (later : List (Env × Call)) (state : State) : Prop :=
  state.config = some config ∨ Occurs (step crypto ed25519) first (ReconfiguresFor crypto ed25519 party) later

theorem firstOrChanged_run {party : Address} {first : State} {later : List (Env × Call)}
    (stored : first.config = some config)
    (changes : Admissible (step crypto ed25519) (ChangesOnlyFor crypto ed25519 party) first later) :
    FirstOrChanged crypto ed25519 party first config later (run (step crypto ed25519) first later) := by
  refine trail_invariant (.inl stored) ?_ ?_ changes
  · rintro later input next (kept | changed) allowed success
    · by_cases changes : Reconfigures crypto ed25519 (run (step crypto ed25519) first later) input
      · exact .inr (occurs_concat.mpr (.inr ⟨changes, allowed changes⟩))
      · rw [Reconfigures, commit_of_ok success, not_not] at changes
        exact .inl (changes.trans kept)
    · exact .inr (occurs_concat.mpr (.inl changed))
  · rintro later input failure (kept | changed) -
    · exact .inl kept
    · exact .inr (occurs_concat.mpr (.inl changed))

/-- After `init` and in every run in which the configuration changes only with the authorization
of a party, an attestation is accepted only if it is endorsed under the policy of `init`, or
after that party has had the configuration changed. -/
theorem endorsement_policy_kept (crypto : Crypto) (ed25519 : Ed25519) (party : Address)
    (earlier later : List (Env × Call)) {threshold : Nat} {signers : List (BytesN 32)}
    {first : State} {attestation : Attestation}
    (initialised : init (run (step crypto ed25519) deployed earlier) threshold signers = .ok first)
    (changes : Admissible (step crypto ed25519) (ChangesOnlyFor crypto ed25519 party) first later)
    (accepted : onAttest crypto ed25519 (run (step crypto ed25519) first later) attestation = .ok ()) :
    (∃ keys, Endorsed crypto ed25519 ⟨threshold, signers⟩ attestation keys) ∨
      Occurs (step crypto ed25519) first (ReconfiguresFor crypto ed25519 party) later := by
  rcases firstOrChanged_run (init_eq_ok initialised) changes with kept | changed
  · exact .inl (onAttest_endorsed kept accepted)
  · exact .inr changed

open Address (accountOfNat)

/-- A call that the account with this number makes. -/
def calledBy (number : Nat) (call : Call) : Env × Call :=
  (Env.signedBy [accountOfNat number] 100 1 (.contract 5) (by simp [accountOfNat]), call)

/-- A library that takes any bytes for a key, and knows the listed signatures of a message under
a key. -/
def Ed25519.ofTable (signatures : List (BytesN 32 × Bytes × BytesN 64)) : Ed25519 where
  fromBytes := fun _ => true
  verify := (Crypto.ofTable [] signatures).ed25519Verify

/-- An attestation with one endorsement: signature 9 by the key. -/
def endorsedBy (key : BytesN 32) : Attestation :=
  ⟨UID.ofNat 5, UID.ofNat 4, 0, 0, 0, UID.zero, accountOfNat 3, accountOfNat 2, true,
    BytesN.toArray key ++ BytesN.toArray (9 : BytesN 64), 0⟩

def okDigests : Crypto := Crypto.ofTable [] []

/-- The keys 1 and 3 have each signed the digest of that attestation. -/
def okSignatures : Ed25519 :=
  .ofTable [(1, BytesN.toArray (endorsementDigest okDigests (endorsedBy 1)), 9),
    (3, BytesN.toArray (endorsementDigest okDigests (endorsedBy 3)), 9)]

/-- Key 1 decides, and account 9 asks for more signatures than there are signers. -/
theorem endorsement_policy_kept_refused : ∃ keys, Endorsed okDigests okSignatures ⟨1, [1, 2]⟩ (endorsedBy 1) keys := by
  let asked := calledBy 9 (.setThreshold 3)
  have succeeds : (init deployed 1 [1, 2]).isOk = true := rfl
  rcases exists_of_isOk succeeds with ⟨first, initialised⟩
  have stored : first = ⟨some ⟨1, [1, 2]⟩⟩ := by
    cases initialised
    rfl
  have still : ¬ Reconfigures okDigests okSignatures first asked := by
    rw [stored, Reconfigures, not_not]
    decide
  have approves : (onAttest okDigests okSignatures (run (step okDigests okSignatures) first [asked])
      (endorsedBy 1)).isOk = true := by
    rw [stored]
    decide +kernel
  rcases exists_of_isOk approves with ⟨⟨⟩, accepted⟩
  rcases endorsement_policy_kept okDigests okSignatures (accountOfNat 1) [] [asked] initialised
    ⟨fun changes => absurd changes still, trivial⟩ accepted with endorsed | changed
  · exact endorsed
  · exact absurd (occurs_singleton.mp changed).1 still

/-- Account 1 has initialised the resolver with two keys that must both sign.  Account 9 calls
`init` with a key of its own, and the signature of that key is enough. -/
theorem policy_replaced_by_anyone :
    let asked := calledBy 9 (.init 1 [3])
    ∃ first, init deployed 2 [1, 2] = .ok first ∧
      onAttest okDigests okSignatures (run (step okDigests okSignatures) first [asked])
        (endorsedBy 3) = .ok () ∧ (¬ ∃ keys, Endorsed okDigests okSignatures ⟨2, [1, 2]⟩ (endorsedBy 3) keys) ∧
      ¬ Occurs (step okDigests okSignatures) first
        (ReconfiguresFor okDigests okSignatures (accountOfNat 1)) [asked] := by
  intro asked
  have approves : (onAttest okDigests okSignatures (run (step okDigests okSignatures)
      ⟨some ⟨2, [1, 2]⟩⟩ [asked]) (endorsedBy 3)).isOk = true := by decide +kernel
  rcases exists_of_isOk approves with ⟨⟨⟩, accepted⟩
  refine ⟨⟨some ⟨2, [1, 2]⟩⟩, rfl, accepted, ?_, ?_⟩
  · rintro ⟨keys, endorsed⟩
    have parsed : parseEndorsements (endorsedBy 3).data = .ok [⟨3, 9⟩] := by decide +kernel
    have foreign (key : BytesN 32) (member : key ∈ keys) : False := by
      have configured := endorsed.configured key member
      rcases endorsed.signed key member with ⟨endorsements, signature, read, listed, -⟩
      cases parsed.symm.trans read
      cases (List.mem_singleton.mp listed)
      revert configured
      decide
    have none : keys = [] := List.eq_nil_iff_forall_not_mem.mpr foreign
    have enough := endorsed.enough
    rw [none] at enough
    cases enough
  · intro changed
    have signed := (occurs_singleton.mp changed).2
    revert signed
    decide

end SorobanSas.Resolver
