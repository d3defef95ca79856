import Mathlib.Algebra.Order.Field.Rat
import Mathlib.Data.List.FinRange
import Mathlib.Data.List.Sort

namespace SorobanSas.Js
namespace Resilient

open List

/-!
# Reads that retry

`ResilientTransport.read` takes at each attempt the endpoint whose place in the ranking is the number
of the attempt.  A failure lowers the score of its endpoint, and the ranking is computed again.  So
the endpoint that failed can have moved to just the next place.

The weights and scores may be of any type that has the operations and is linearly ordered.
-/

inductive EndpointKind where
  | rpc
  | indexer
  deriving DecidableEq

/-- `Internal`, without what only the diagnostics read. -/
structure Internal (K : Type) where
  kind : EndpointKind
  weight : K
  score : K
  consecutiveFailures : Nat
  openUntil : Nat

structure ResilienceOptions (K : Type) where
  maxAttempts : Nat
  failureThreshold : Nat
  cooldownMs : Nat
  healthAlpha : K

/-- How the request to an endpoint ends: with a result, with an error that is the endpoint's fault, or
with another error. -/
inductive Answer (α : Type) where
  | value (result : α)
  | fault
  | refusal

inductive ReadError (n : Nat) where
  | noEndpoint
  | refusal
  | allEndpointsFailed (tried : List (Fin n))
  deriving DecidableEq

variable {K α : Type} [LinearOrder K] {n : Nat}

/-! ## Places in the ranking -/

section Places

variable {worth : Fin n -> K} {entries : List (Fin n)} {e : Fin n}

/-- Of higher worth, or of the same worth and earlier in the configuration. -/
def Prior (worth : Fin n -> K) (a b : Fin n) : Prop := worth b < worth a ∨ worth a = worth b ∧ a < b

instance : DecidableRel (Prior worth) := fun _ _ => inferInstanceAs (Decidable (_ ∨ _))

theorem Prior.trans {a b c : Fin n} (one : Prior worth a b) (two : Prior worth b c) : Prior worth a c := by
  unfold Prior at one two ⊢
  grind

theorem Prior.asymm {a b : Fin n} (one : Prior worth a b) : ¬ Prior worth b a := by
  unfold Prior at one ⊢
  grind

/-- Inserting an endpoint that is configured before all others. -/
theorem prior_orderedInsert (sorted : entries.Pairwise (Prior worth)) (earlier : ∀ other ∈ entries, e < other) :
    (entries.orderedInsert (fun a b => worth b <= worth a) e).Pairwise (Prior worth) := by
  induction entries with
  | nil => exact pairwise_singleton _ e
  | cons head rest ih =>
    rcases pairwise_cons.mp sorted with ⟨first, others⟩
    rw [orderedInsert_cons]
    split
    · rename_i before
      have prior : Prior worth e head := before.lt_or_eq.imp_right fun same => ⟨same.symm, earlier head mem_cons_self⟩
      refine pairwise_cons.mpr ⟨fun other member => ?_, sorted⟩
      rcases mem_cons.mp member with rfl | later
      · exact prior
      · exact prior.trans (first other later)
    · rename_i behind
      refine pairwise_cons.mpr ⟨fun other member => ?_, ih others fun other later => earlier other (.tail _ later)⟩
      rcases (mem_orderedInsert _).mp member with rfl | later
      · exact .inl (not_le.mp behind)
      · exact first other later

theorem prior_insertionSort (increasing : entries.Pairwise (· < ·)) :
    (entries.insertionSort fun a b => worth b <= worth a).Pairwise (Prior worth) := by
  induction entries with
  | nil => exact .nil
  | cons head rest ih =>
    rcases pairwise_cons.mp increasing with ⟨first, others⟩
    exact prior_orderedInsert (ih others) fun other member => first other ((mem_insertionSort _).mp member)

/-- The place of an endpoint is the number of those ranked before it. -/
theorem getElem?_eq_some_iff_place (sorted : entries.Pairwise (Prior worth)) (member : e ∈ entries) (place : Nat) :
    entries[place]? = some e ↔ (entries.filter fun other => Prior worth other e).length = place := by
  have irreflexive (a : Fin n) : ¬ Prior worth a a := fun itself => itself.asymm itself
  have nodup : entries.Nodup := by
    refine sorted.imp ?_
    rintro a _ before rfl
    exact irreflexive a before
  rcases append_of_mem member with ⟨earlier, later, rfl⟩
  rcases pairwise_append.mp sorted with ⟨-, tail, across⟩
  have first : earlier.filter (fun other => Prior worth other e) = earlier :=
    filter_eq_self.mpr fun other before => decide_eq_true (across other before e mem_cons_self)
  have last : later.filter (fun other => Prior worth other e) = [] :=
    filter_eq_nil_iff.mpr fun other behind => by simpa using (rel_of_pairwise_cons tail behind).asymm
  have here : (earlier ++ e :: later)[earlier.length]? = some e := by simp
  rw [filter_append, filter_cons_of_neg (by simpa using irreflexive e), first, last, append_nil]
  constructor
  · intro there
    have inside : earlier.length < (earlier ++ e :: later).length := by simp
    exact (getElem?_inj inside nodup).mp (here.trans there.symm)
  · rintro rfl
    exact here

end Places

variable [Mul K]

section Definitions

variable (options : ResilienceOptions K) (kind : Option EndpointKind)
  (endpoints : Fin n -> Internal K) (now : Nat)

def record [Add K] [Sub K] [One K] (ep : Fin n) (ok : Bool) : Fin n -> Internal K :=
  let a := options.healthAlpha
  let old := endpoints ep
  let failures := if ok then 0 else old.consecutiveFailures + 1
  Function.update endpoints ep
    { old with
      score := if ok then old.score + a * (1 - old.score) else old.score * (1 - a)
      consecutiveFailures := failures
      openUntil :=
        if ok then 0
        else if options.failureThreshold <= failures then now + options.cooldownMs
        else old.openUntil }

def pool : List (Fin n) := (List.finRange n).filter fun e => (endpoints e).kind = kind.getD .rpc

def usable : List (Fin n) := (pool kind endpoints).filter fun e => (endpoints e).openUntil <= now

/-- The first endpoint is ranked before the second, or at the same place. -/
def Before (a b : Fin n) : Prop :=
  (endpoints b).weight * (endpoints b).score <= (endpoints a).weight * (endpoints a).score

instance : DecidableRel (Before endpoints) := fun _ _ => inferInstanceAs (Decidable (_ <= _))

/-- Both this sort and the one of the runtime are stable. -/
def ranked : List (Fin n) :=
  (if usable kind endpoints now = [] then pool kind endpoints else usable kind endpoints now).insertionSort
    (Before endpoints)

def pick (attempt : Nat) : Option (Fin n) := (ranked kind endpoints now)[attempt % (ranked kind endpoints now).length]?

/-- The rest of the loop of `read`, with the attempts that are left.  The clock gives the times of the
choice and of the end of each attempt. -/
def readFrom [Add K] [Sub K] [One K] (clock : Nat -> Nat × Nat) (answer : Nat -> Fin n -> Answer α) :
    Nat -> Nat -> (Fin n -> Internal K) -> List (Fin n) -> Except (ReadError n) α
  | 0, _, _, tried => .error (.allEndpointsFailed tried)
  | left + 1, attempt, endpoints, tried =>
    match pick kind endpoints (clock attempt).1 attempt with
    | none => .error .noEndpoint
    | some ep =>
      match answer attempt ep with
      | .value result => .ok result
      | .refusal => .error .refusal
      | .fault =>
        readFrom clock answer left (attempt + 1)
          (record options endpoints (clock attempt).2 ep false) (tried ++ [ep])

def read [Add K] [Sub K] [One K] (clock : Nat -> Nat × Nat) (answer : Nat -> Fin n -> Answer α) :
    Except (ReadError n) α := readFrom options kind clock answer options.maxAttempts 0 endpoints []

end Definitions

section Moving

variable {options : ResilienceOptions K} {kind : Option EndpointKind}
  {endpoints after : Fin n -> Internal K} {now later attempt : Nat} {e : Fin n}

theorem ranked_perm : (ranked kind endpoints now).Perm
    (if usable kind endpoints now = [] then pool kind endpoints else usable kind endpoints now) :=
  perm_insertionSort _ _

theorem pick_mem (picked : pick kind endpoints now attempt = some e) : e ∈ ranked kind endpoints now :=
  mem_of_getElem? picked

theorem pick_eq_some_iff (member : e ∈ usable kind endpoints now) (attempt : Nat) :
    pick kind endpoints now attempt = some e ↔ ((usable kind endpoints now).filter fun other =>
        Prior (fun ep => (endpoints ep).weight * (endpoints ep).score) other e).length =
          attempt % (usable kind endpoints now).length := by
  have perm : (ranked kind endpoints now).Perm (usable kind endpoints now) := by
    have same : (ranked kind endpoints now).Perm _ := ranked_perm
    rwa [if_neg (ne_nil_of_mem member)] at same
  have sorted : (ranked kind endpoints now).Pairwise
      (Prior fun ep => (endpoints ep).weight * (endpoints ep).score) := by
    rw [ranked, if_neg (ne_nil_of_mem member)]
    exact prior_insertionSort (((pairwise_lt_finRange n).filter _).filter _)
  rw [pick, getElem?_eq_some_iff_place sorted (perm.mem_iff.mpr member), perm.length_eq, (perm.filter _).length_eq]

theorem picked_mem (picked : pick kind endpoints now attempt = some e) : e ∈ pool kind endpoints := by
  have found := ranked_perm.subset (pick_mem picked)
  split at found
  · exact found
  · exact mem_of_mem_filter found

theorem exists_pick (nonempty : usable kind endpoints now ≠ []) (attempt : Nat) :
    ∃ e, pick kind endpoints now attempt = some e := by
  have length : (ranked kind endpoints now).length = _ := ranked_perm.length_eq
  rw [if_neg nonempty] at length
  have positive := List.length_pos_iff.mpr nonempty
  exact ⟨_, List.getElem?_eq_getElem (Nat.mod_lt attempt (length ▸ positive))⟩

variable [Add K] [Sub K] [One K]

section Failure

variable (options : ResilienceOptions K) (kind : Option EndpointKind) (endpoints : Fin n -> Internal K)
  (recorded later attempt : Nat) (e : Fin n)

/-- The other endpoints that are usable at the next attempt. -/
def rivals : List (Fin n) := (usable kind endpoints later).filter fun other => other ≠ e

/-- Weight times score, after the failure of an endpoint. -/
def loweredWorth (ep : Fin n) : K :=
  (endpoints ep).weight * if ep = e then (endpoints e).score * (1 - options.healthAlpha) else (endpoints ep).score

/-- At the next attempt the circuit is open. -/
def StaysOpen : Prop :=
  later < if options.failureThreshold <= (endpoints e).consecutiveFailures + 1 then recorded + options.cooldownMs
    else (endpoints e).openUntil

/-- The endpoint that failed is not at the next place in turn: its circuit is open, or another number of
the usable endpoints is ranked before it. -/
def Leaves : Prop :=
  StaysOpen options endpoints recorded later e ∨
    ((rivals kind endpoints later e).filter fun other => Prior (loweredWorth options endpoints e) other e).length ≠
      (attempt + 1) % ((rivals kind endpoints later e).length + 1)

end Failure

omit [LinearOrder K] in
theorem mem_usable_failed {other : Fin n} {recorded : Nat} (different : other ≠ e) :
    other ∈ usable kind (record options endpoints recorded e false) later ↔ other ∈ usable kind endpoints later := by
  simp only [usable, pool, mem_filter, record, Function.update_of_ne different]

omit [LinearOrder K] in
theorem usable_failed_iff {recorded : Nat} (member : e ∈ pool kind endpoints) :
    e ∈ usable kind (record options endpoints recorded e false) later ↔
      ¬ StaysOpen options endpoints recorded later e := by
  have own : (endpoints e).kind = kind.getD .rpc := by simpa [pool] using member
  simp [usable, pool, record, StaysOpen, own]

omit [LinearOrder K] in
/-- After a failure the usable endpoints are the others, and the one that failed if its circuit is closed. -/
theorem usable_failed_perm {recorded : Nat}
    (listed : e ∈ usable kind (record options endpoints recorded e false) later) :
    (usable kind (record options endpoints recorded e false) later).Perm (e :: rivals kind endpoints later e) := by
  have distinct (endpoints : Fin n -> Internal K) : (usable kind endpoints later).Nodup :=
    ((nodup_finRange n).filter _).filter _
  have fresh : (e :: rivals kind endpoints later e).Nodup :=
    nodup_cons.mpr ⟨by simp [rivals], (distinct endpoints).filter _⟩
  rw [perm_ext_iff_of_nodup (distinct _) fresh]
  intro other
  by_cases same : other = e
  · subst same
    simp [listed]
  · simp [rivals, mem_usable_failed same, same]

omit [LinearOrder K] in
theorem worth_failed {recorded : Nat} (ep : Fin n) :
    (record options endpoints recorded e false ep).weight * (record options endpoints recorded e false ep).score =
      loweredWorth options endpoints e ep := by
  by_cases same : ep = e
  · subst same
    simp [record, loweredWorth]
  · simp [record, loweredWorth, same]

theorem pick_moves_on {recorded : Nat} (member : e ∈ pool kind endpoints)
    (another : ∃ other ∈ usable kind (record options endpoints recorded e false) later, other ≠ e) :
    pick kind (record options endpoints recorded e false) later (attempt + 1) ≠ some e ↔
      Leaves options kind endpoints recorded later attempt e := by
  rcases another with ⟨other, present, different⟩
  by_cases stays : StaysOpen options endpoints recorded later e
  · refine iff_of_true (fun again => ?_) (.inl stays)
    have found := ranked_perm.subset (pick_mem again)
    rw [if_neg (ne_nil_of_mem present)] at found
    exact (usable_failed_iff member).mp found stays
  · have listed := (usable_failed_iff member).mpr stays
    have perm := usable_failed_perm listed
    have worth : (fun ep => (record options endpoints recorded e false ep).weight *
      (record options endpoints recorded e false ep).score) = loweredWorth options endpoints e := funext worth_failed
    have itself : ¬ Prior (loweredWorth options endpoints e) e e := fun prior => prior.asymm prior
    rw [Ne, pick_eq_some_iff listed, worth, perm.length_eq, (perm.filter _).length_eq,
      filter_cons_of_neg (by simpa using itself), length_cons, Leaves, or_iff_right stays]

omit [LinearOrder K] in
/-- Of two usable endpoints one remains when the other fails. -/
theorem another_usable (options : ResilienceOptions K) (ep : Fin n) (recorded : Nat)
    (two : 2 <= (usable kind endpoints now).length) (forward : now <= later) :
    ∃ other ∈ usable kind (record options endpoints recorded ep false) later, other ≠ ep := by
  have nodup : (usable kind endpoints now).Nodup := ((nodup_finRange n).filter _).filter _
  have another : ∃ other ∈ usable kind endpoints now, other ≠ ep := by
    by_contra none
    have single : usable kind endpoints now ⊆ [ep] := fun other member => by
      by_contra different
      exact none ⟨other, member, by simpa using different⟩
    have short : (usable kind endpoints now).length <= 1 := (subperm_of_subset nodup single).length_le
    omega
  rcases another with ⟨other, member, different⟩
  refine ⟨other, (mem_usable_failed different).mpr ?_, different⟩
  simp only [usable, mem_filter, decide_eq_true_eq] at member ⊢
  exact ⟨member.1, Nat.le_trans member.2 forward⟩

end Moving

/-- After a failure of an endpoint while another one is usable, the next attempt goes to another endpoint
exactly if the one that failed is not at the next place in turn.  Then one faulty endpoint does not make
a read fail. -/
theorem failed_read_moves_on_iff [Add K] [Sub K] [One K] (options : ResilienceOptions K)
    (kind : Option EndpointKind) (endpoints : Fin n -> Internal K) (e : Fin n) :
    (forall now recorded later attempt, pick kind endpoints now attempt = some e ->
      let after := record options endpoints recorded e false
      (∃ other ∈ usable kind after later, other ≠ e) ->
      (pick kind after later (attempt + 1) ≠ some e ↔ Leaves options kind endpoints recorded later attempt e)) ∧
    forall (clock : Nat -> Nat × Nat) (answer : Nat -> Fin n -> Answer α), 2 ≤ options.maxAttempts ->
      2 ≤ (usable kind endpoints (clock 0).1).length -> (clock 0).1 ≤ (clock 1).1 ->
      (forall attempt other, other ≠ e -> ∃ result, answer attempt other = .value result) ->
      Leaves options kind endpoints (clock 0).2 (clock 1).1 0 e ->
      answer 0 e = .fault -> ∃ result, read options kind endpoints clock answer = .ok result := by
  refine ⟨fun now recorded later attempt picked => pick_moves_on (picked_mem picked), ?_⟩
  intro clock answer attempts two forward others leaves faulty
  rcases Nat.exists_eq_add_of_le' attempts with ⟨left, attempts⟩
  have nonempty : usable kind endpoints (clock 0).1 ≠ [] := by
    intro empty
    rw [empty] at two
    contradiction
  rcases exists_pick nonempty 0 with ⟨first, picked⟩
  unfold read
  rw [attempts]
  simp only [readFrom, picked]
  by_cases same : first = e
  · subst same
    have another := another_usable options first (clock 0).2 two forward
    rcases exists_pick (ne_nil_of_mem another.choose_spec.1) 1 with ⟨second, next⟩
    have moved : second ≠ first := fun again =>
      (pick_moves_on (picked_mem picked) another).mpr leaves (next.trans (congrArg some again))
    rcases others 1 second moved with ⟨result, answered⟩
    simp only [faulty, Nat.zero_add, next, answered]
    exact ⟨result, rfl⟩
  · rcases others 0 first same with ⟨result, answered⟩
    simp only [answered]
    exact ⟨result, rfl⟩

/-- Three endpoints of the same weight: the first falls to the third place, and the second attempt goes to
the endpoint at the second. -/
theorem failed_read_moves_on_iff_three :
    pick none (record ⟨2, 3, 30000, 3 / 10⟩ (fun _ : Fin 3 => ⟨.rpc, (1 : ℚ), 1, 0, 0⟩) 1 0 false) 2 1 ≠ some 0 :=
  ((failed_read_moves_on_iff (α := Unit) ⟨2, 3, 30000, 3 / 10⟩ none _ 0).1 0 1 2 0 (by decide +kernel)
    ⟨1, by decide +kernel, by decide⟩).mpr (.inr (by decide +kernel))

/-- Two endpoints of the same weight.  The failure of the first puts it at the second place, where the
second attempt finds it again. -/
theorem failed_read_repeats :
    let endpoints : Fin 2 -> Internal ℚ := fun _ => ⟨.rpc, 1, 1, 0, 0⟩
    let options : ResilienceOptions ℚ := ⟨2, 3, 30000, 3 / 10⟩
    let answer : Nat -> Fin 2 -> Answer Unit := fun _ ep => if ep = 0 then .fault else .value ()
    usable none (record options endpoints 1 0 false) 2 = [0, 1] ∧
      read options none endpoints (fun attempt => (attempt, attempt + 1)) answer =
        .error (.allEndpointsFailed [0, 0]) := by
  decide +kernel

end Resilient
end SorobanSas.Js
