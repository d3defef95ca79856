import SorobanSas.Indexer.Runs

namespace SorobanSas.Indexer

open Library List

/-!
# Recipient and attester histories

The lists of an address as recipient and as attester have one counter each but
share their chunk row.  As long as an address plays one role only, its row has the
usual layout and is read back exactly.  As soon as it plays both, the two lists are
interleaved in the row while each reader counts its own entries from the start of
it, so both readers return the same first entries.

The theorem at the end of this file determines exactly when both readers are right
at the default chunk capacity.
-/

/-- The UIDs written to the row of an address, in order: an entry in which the
address plays both roles is written twice. -/
def addressWrites (address : Address) (entries : History) : List UID :=
  entries.flatMap fun entry => (if entry.2.recipient = address then [entry.1] else []) ++
      (if entry.2.attester = address then [entry.1] else [])

theorem addressWrites_concat (address : Address) (entries : History) (uid : UID) (record : IndexRecord) :
    addressWrites address (entries ++ [(uid, record)]) =
      addressWrites address entries ++ (if record.recipient = address then [uid] else []) ++
        (if record.attester = address then [uid] else []) := by
  simp [addressWrites, append_assoc]

variable {uid : UID} {address : Address} {entries : History}

theorem mem_addressWrites : uid ∈ addressWrites address entries ↔
      uid ∈ recipientUids address entries ∨ uid ∈ attesterUids address entries := by
  simp only [addressWrites, mem_flatMap, mem_append, recipientUids, attesterUids, mem_uidsWhere, decide_eq_true_eq]
  constructor
  · rintro ⟨⟨other, record⟩, member, written | written⟩
    · split at written
      · rename_i plays
        simp only [mem_singleton] at written
        exact .inl ⟨record, written ▸ member, plays⟩
      · simp at written
    · split at written
      · rename_i plays
        simp only [mem_singleton] at written
        exact .inr ⟨record, written ▸ member, plays⟩
      · simp at written
  · rintro (⟨record, member, plays⟩ | ⟨record, member, plays⟩)
    · exact ⟨(uid, record), member, .inl (by simp [plays])⟩
    · exact ⟨(uid, record), member, .inr (by simp [plays])⟩

theorem length_addressWrites (address : Address) (entries : History) : (addressWrites address entries).length =
      (recipientUids address entries).length + (attesterUids address entries).length := by
  induction entries using List.reverseRecOn with
  | nil => rfl
  | append_singleton entries entry ih =>
    rcases entry with ⟨uid, record⟩
    rw [addressWrites_concat, recipientUids_concat, attesterUids_concat]
    simp only [length_append, ih]
    omega

/-! ## The invariant of the shared rows -/

/-- What the row of every address holds.  The first field is about addresses that
play both roles; the other two are about addresses that play one. -/
structure SharedRows (entries : History) (state : State) : Prop where
  counted : Counted entries state
  starts : ∀ address, ((state.addressChunks address 0).getD []).take 2 = (addressWrites address entries).take 2
  recipientOnly : ∀ address, attesterUids address entries = [] ->
    Layout (chunkCapacity state) 1 (recipientUids address entries) (state.addressChunks address)
  attesterOnly : ∀ address, recipientUids address entries = [] ->
    Layout (chunkCapacity state) 1 (attesterUids address entries) (state.addressChunks address)

namespace SharedRows

theorem initial : SharedRows [] deployed where
  counted := Counted.initial
  starts := fun _ => rfl
  recipientOnly := fun _ _ => Layout.empty (by decide)
  attesterOnly := fun _ _ => Layout.empty (by decide)

variable {before after : State} {record : IndexRecord}

private theorem writtenRow_starts (counted : Counted entries before) (dimension : AddressDimension)
    {row : Row} {writes : List UID} (uid : UID) (more : (addressWrites address entries).length <= writes.length)
    (agrees : ((row 0).getD []).take 2 = writes.take 2) :
    ((writtenRow before dimension address row uid 0).getD []).take 2 = (writes ++ [uid]).take 2 := by
  have wide := chunkCapacity_bounds before
  refine appendUid_take_two uid (by omega) ?_ agrees
  rw [length_addressWrites] at more
  cases dimension with
  | recipient => rw [counted.recipient]; omega
  | attester => rw [counted.attester]; omega

private theorem row_after (change : NewlyIndexed before uid record after) (address : Address) :
    after.addressChunks address =
      (let row :=
        if record.recipient = address then
          writtenRow before .recipient address (before.addressChunks address) uid
        else before.addressChunks address
      if record.attester = address then writtenRow before .attester address row uid else row) := by
  rcases change.addressChunks with ⟨middle, rfl, chunks⟩
  rw [chunks]
  by_cases attests : record.attester = address
  · subst attests
    by_cases receives : record.recipient = record.attester
    · simp [receives]
    · simp [receives, update_of_ne (Ne.symm receives)]
  · rw [update_of_ne (Ne.symm attests)]
    by_cases receives : record.recipient = address
    · subst receives
      simp [attests]
    · simp [attests, receives, update_of_ne (Ne.symm receives)]

theorem files (rows : SharedRows entries before) (fresh : before.indexed uid = none)
    (change : NewlyIndexed before uid record after) : SharedRows (entries ++ [(uid, record)]) after := by
  have capacity : chunkCapacity after = chunkCapacity before := by
    simp only [chunkCapacity, change.capacity]
  refine ⟨rows.counted.files fresh change, fun address => ?_, fun address idle => ?_, fun address idle => ?_⟩
  · rw [row_after change, addressWrites_concat]
    by_cases receives : record.recipient = address <;> by_cases attests : record.attester = address
    · simp only [receives, attests, if_true]
      refine writtenRow_starts rows.counted _ uid (by simp) ?_
      exact writtenRow_starts rows.counted _ uid le_rfl (rows.starts address)
    rotate_right
    · simpa only [receives, attests, if_false, append_nil] using rows.starts address
    all_goals
      simp only [receives, attests, if_true, if_false, append_nil]
      exact writtenRow_starts rows.counted _ uid le_rfl (rows.starts address)
  · rw [attesterUids_concat, append_eq_nil_iff] at idle
    have attests : ¬ record.attester = address := by
      intro plays
      simp [plays] at idle
    have layout := rows.recipientOnly address idle.1
    rw [capacity, row_after change, recipientUids_concat]
    by_cases receives : record.recipient = address
    · have written := appendUid_layout layout uid
      rw [← rows.counted.recipient] at written
      simpa [receives, attests, writtenRow] using written
    · simpa [receives, attests] using layout
  · rw [recipientUids_concat, append_eq_nil_iff] at idle
    have receives : ¬ record.recipient = address := by
      intro plays
      simp [plays] at idle
    have layout := rows.attesterOnly address idle.1
    rw [capacity, row_after change, attesterUids_concat]
    by_cases attests : record.attester = address
    · have written := appendUid_layout layout uid
      rw [← rows.counted.attester] at written
      simpa [receives, attests, writtenRow] using written
    · simpa [receives, attests] using layout

theorem same (rows : SharedRows entries before) (unchanged : SameIndex before after) : SharedRows entries after := by
  have capacity : chunkCapacity after = chunkCapacity before := by
    simp only [chunkCapacity, unchanged.capacity]
  refine ⟨rows.counted.same unchanged.indexed unchanged.addressTotal unchanged.schemaTotal, ?_, ?_, ?_⟩
  · rw [unchanged.addressChunks]; exact rows.starts
  · rw [unchanged.addressChunks, capacity]; exact rows.recipientOnly
  · rw [unchanged.addressChunks, capacity]; exact rows.attesterOnly

/-- The invariant holds after every run that never tunes the chunk capacity. -/
theorem run {calls : List (Env × Call)} (untuned : ∀ call ∈ calls, ∀ tier, call.2 ≠ .setChunkTier tier) :
    SharedRows (history deployed calls) (Library.run step deployed calls) := by
  have admissible : Admissible step (fun _ call => ∀ tier, call.2 ≠ .setChunkTier tier) deployed calls :=
    admissible_of_forall (fun call member _ => untuned call member) deployed
  rw [← nil_append (history _ _)]
  refine history_invariant ?_ ?_ ?_ initial admissible
  · intro entries before after uid record rows fresh change
    exact rows.files fresh change
  · intro entries before call tier after _ permitted tuned
    exact absurd tuned (permitted tier)
  · intro entries before after rows unchanged
    exact rows.same unchanged

end SharedRows

/-! ## Both readers of one row -/

section Readers

variable {state : State}

/-- A read that counts at least one entry returns the first writes to the row first,
whichever dimension made them. -/
private theorem read_starts (rows : SharedRows entries state) {total : Nat} (positive : 0 < total)
    (written : addressWrites address entries ≠ []) {result : List UID}
    (success : collectFiltered state total (state.addressChunks address) true = .ok result) :
    (addressWrites address entries).take (min total 2) <+: result := by
  have starts := rows.starts address
  cases zero : state.addressChunks address 0 with
  | none =>
    rw [zero] at starts
    have vanishes : addressWrites address entries = [] := by simpa using starts.symm
    exact absurd vanishes written
  | some chunk =>
    rw [zero, Option.getD_some] at starts
    have nonempty : chunk ≠ [] := by
      rintro rfl
      have vanishes : addressWrites address entries = [] := by simpa using starts.symm
      exact written vanishes
    have first := collectLoop_starts positive nonempty zero (fun _ => rfl) success
    rw [← take_take, ← starts, take_take, Nat.min_comm, ← take_take]
    exact .trans ( take_prefix _ _) first

/-- If the first UID written to a row was written in both roles, the second write is
the same UID. -/
private theorem second_write {other : UID} {rest : List UID}
    (writes : addressWrites address entries = uid :: other :: rest) (both : ∀ record, (uid, record) ∈ entries ->
      record.recipient = address ∧ record.attester = address) : other = uid := by
  induction entries with
  | nil => simp [addressWrites] at writes
  | cons entry entries ih =>
    rcases entry with ⟨first, record⟩
    simp only [addressWrites, flatMap_cons] at writes
    by_cases receives : record.recipient = address <;>
      by_cases attests : record.attester = address
    · simp only [receives, attests, if_true, cons_append, nil_append, List.cons.injEq] at writes
      exact writes.2.1.symm.trans writes.1
    · simp only [receives, attests, if_true, if_false, append_nil, cons_append, nil_append, List.cons.injEq] at writes
      exact absurd (both record (by simp [writes.1])).2 attests
    · simp only [receives, attests, if_true, if_false, nil_append, cons_append, List.cons.injEq] at writes
      exact absurd (both record (by simp [writes.1])).1 receives
    · simp only [receives, attests, if_false, nil_append] at writes
      exact ih writes (fun record' member => both record' (mem_cons_of_mem _ member))

/-- A list that starts with the writes contains the first of them. -/
private theorem mem_of_start {rest uids : List UID} (positive : 0 < uids.length)
    (start : (uid :: rest).take (min uids.length 2) <+: uids) : uid ∈ uids := by
  apply start.subset
  have nonempty : min uids.length 2 = min uids.length 2 - 1 + 1 := by omega
  rw [nonempty, take_succ_cons]
  exact mem_cons_self

/-- A list without duplicates that starts with a repeated write is that write alone. -/
private theorem eq_singleton_of_start {rest uids : List UID} (nodup : uids.Nodup)
    (positive : 0 < uids.length) (start : (uid :: uid :: rest).take (min uids.length 2) <+: uids) : uids = [uid] := by
  by_cases long : 2 <= uids.length
  · rw [Nat.min_eq_right long] at start
    have duplicate := nodup.sublist start.sublist
    simp at duplicate
  · have one : uids.length = 1 := by omega
    rw [one] at start
    exact (start.eq_of_length (by simp [one])).symm

/-- A read of a list that plays both roles is right for both only when each list is
the same single UID. -/
private theorem exact_of_both (rows : SharedRows entries state)
    (receives : recipientUids address entries ≠ []) (attests : attesterUids address entries ≠ [])
    (recipientRead : getAttestationsByRecipient state address = .ok (recipientUids address entries))
    (attesterRead : getAttestationsByAttester state address = .ok (attesterUids address entries)) :
    ∃ uid, recipientUids address entries = [uid] ∧ attesterUids address entries = [uid] := by
  have counted := rows.counted
  have receivesPos := List.length_pos_iff.mpr receives
  have attestsPos := List.length_pos_iff.mpr attests
  have lengths := length_addressWrites address entries
  have twoWrites : ∃ uid other rest, addressWrites address entries = uid :: other :: rest := by
    match addressWrites address entries, lengths with
    | [], short => simp at short; omega
    | [_], short => simp at short; omega
    | uid :: other :: rest, _ => exact ⟨uid, other, rest, rfl⟩
  rcases twoWrites with ⟨uid, other, rest, writes⟩
  have written : addressWrites address entries ≠ [] := by simp [writes]
  have recipientStart := read_starts rows (by rw [counted.recipient]; exact receivesPos) written
    recipientRead
  have attesterStart := read_starts rows (by rw [counted.attester]; exact attestsPos) written
    attesterRead
  rw [counted.recipient, writes] at recipientStart
  rw [counted.attester, writes] at attesterStart
  -- Both lists start with the first write, so its entry plays both roles.
  have received : uid ∈ recipientUids address entries := mem_of_start receivesPos recipientStart
  have attested : uid ∈ attesterUids address entries := mem_of_start attestsPos attesterStart
  have repeated : other = uid := by
    apply second_write writes
    intro record member
    rcases mem_uidsWhere.mp received with ⟨asRecipient, memberRecipient, plays⟩
    rcases mem_uidsWhere.mp attested with ⟨asAttester, memberAttester, playsToo⟩
    rw [counted.record_unique member memberRecipient]
    refine ⟨of_decide_eq_true plays, ?_⟩
    rw [counted.record_unique memberRecipient memberAttester]
    exact of_decide_eq_true playsToo
  -- A second entry on either list would repeat the first.
  subst repeated
  exact ⟨other, eq_singleton_of_start (counted.uidsWhere_nodup _) receivesPos recipientStart,
    eq_singleton_of_start (counted.uidsWhere_nodup _) attestsPos attesterStart⟩

/-- A single entry that plays both roles is read back by both readers. -/
private theorem read_single (rows : SharedRows entries state)
    (received : recipientUids address entries = [uid]) (attested : attesterUids address entries = [uid]) :
    collectFiltered state 1 (state.addressChunks address) true = .ok [uid] := by
  have lengths := length_addressWrites address entries
  rw [received, attested] at lengths
  rcases List.length_eq_two.mp lengths with ⟨first, second, writes⟩
  have firstIs : first = uid := by
    have member : first ∈ addressWrites address entries := by simp [writes]
    rw [mem_addressWrites, received, attested] at member
    simpa using member
  have starts := rows.starts address
  rw [writes, firstIs] at starts
  cases zero : state.addressChunks address 0 with
  | none => simp [zero] at starts
  | some chunk =>
    rw [zero, Option.getD_some] at starts
    have long : 1 <= chunk.length := by
      have sizes := congrArg List.length starts
      simp only [length_take, length_cons] at sizes
      omega
    rw [collectFiltered_first zero Nat.one_pos long]
    have one := congrArg (List.take 1) starts
    rw [take_take] at one
    simpa using one

end Readers

/-- At the default capacity the recipient and the attester history of an address are
both returned exactly if and only if the address never plays one of the roles, or the
single UID it received is also the single UID it attested. -/
theorem histories_exact_iff (calls : List (Env × Call))
    (untuned : forall call, call ∈ calls -> forall tier, call.2 ≠ .setChunkTier tier) (address : Address) :
    let state := run step deployed calls
    let received := recipientUids address (history deployed calls)
    let attested := attesterUids address (history deployed calls)
    received.Nodup ∧ attested.Nodup ∧ ((getAttestationsByRecipient state address = .ok received ∧
          getAttestationsByAttester state address = .ok attested) ↔
        received = [] ∨ attested = [] ∨ ∃ uid, received = [uid] ∧ attested = [uid]) := by
  intro state received attested
  have rows := SharedRows.run untuned
  have counted := rows.counted
  refine ⟨counted.uidsWhere_nodup _, counted.uidsWhere_nodup _, ?_, ?_⟩
  · rintro ⟨recipientRead, attesterRead⟩
    by_cases receives : received = []
    · exact .inl receives
    · by_cases attests : attested = []
      · exact .inr (.inl attests)
      · exact .inr (.inr (exact_of_both rows receives attests recipientRead attesterRead))
  · have recipientTotal : state.addressTotal .recipient address = received.length :=
      counted.recipient address
    have attesterTotal : state.addressTotal .attester address = attested.length := counted.attester address
    unfold getAttestationsByRecipient getAttestationsByAttester
    rintro (idle | idle | ⟨uid, one, other⟩)
    · refine ⟨?_, collectFiltered_layout (rows.attesterOnly address idle) attesterTotal⟩
      rw [recipientTotal, idle]
      exact collectFiltered_zero _ _ _
    · refine ⟨collectFiltered_layout (rows.recipientOnly address idle) recipientTotal, ?_⟩
      rw [attesterTotal, idle]
      exact collectFiltered_zero _ _ _
    · have single := read_single rows one other
      rw [recipientTotal, attesterTotal, one, other]
      exact ⟨single, single⟩

open Address (accountOfNat)
open UID (ofNat)

/-- Account `2` receives the first attestation and issues the second one. -/
def bothRolesRun : List (Env × Call) :=
  [(sasCall, .init true (accountOfNat 1) (.contract 1)),
    (sasCall, .indexAttestation (ofNat 1) ⟨accountOfNat 2, ofNat 0, accountOfNat 3, 0⟩),
    (sasCall, .indexAttestation (ofNat 2) ⟨accountOfNat 4, ofNat 0, accountOfNat 2, 0⟩)]

theorem histories_exact_iff_bothRoles :
    let state := run step deployed bothRolesRun
    (forall call, call ∈ bothRolesRun -> forall tier, call.2 ≠ .setChunkTier tier) ∧
      recipientUids (accountOfNat 3) (history deployed bothRolesRun) = [] ∧
      getAttestationsByAttester state (accountOfNat 3) = .ok [ofNat 1] := by
  have untuned : ∀ call ∈ bothRolesRun, forall tier, call.2 ≠ .setChunkTier tier := by simp [bothRolesRun]
  have idle : recipientUids (accountOfNat 3) (history deployed bothRolesRun) = [] := by decide
  have attested : attesterUids (accountOfNat 3) (history deployed bothRolesRun) = [ofNat 1] := by decide
  have exactly := (histories_exact_iff bothRolesRun untuned (accountOfNat 3)).2.2.mpr (.inl idle)
  refine ⟨untuned, idle, ?_⟩
  rw [← attested]
  exact exactly.2

/-- The attester history of account `2` is the UID it received, and the one it issued
is missing. -/
theorem attester_history_shadowed :
    let state := run step deployed bothRolesRun
    attesterUids (accountOfNat 2) (history deployed bothRolesRun) = [ofNat 2] ∧
      getAttestationsByAttester state (accountOfNat 2) = .ok [ofNat 1] := by
  decide

end SorobanSas.Indexer
