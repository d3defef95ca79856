import SorobanSas.Indexer.Chunks

namespace SorobanSas.Indexer

open Library List

/-!
# Reads that can leave out inactive UIDs

Eleven readers take a flag `include_revoked`.  The plain ones return a whole history, the
paged ones a window from a cursor, and the recent ones the newest entries.  Without the flag
they skip the UIDs whose status is revoked or replaced; a window then reaches further, so it
still shows every active UID that the same window with the flag shows.

The readers count their calls in each ledger.  The counter is no part of `State`, since
nothing else reads it; it is passed along.

A chunk that a loop of the source keeps between two turns is read anew here, which makes no
difference while storage does not change.
-/

def isAttestationIndexed (state : State) (uid : UID) : Bool := (state.indexed uid).isSome

/-- `get_valid_from`: zero when nothing was recorded. -/
def getValidFrom (state : State) (uid : UID) : UInt64 := (state.validFrom uid).getD 0

def hasRecipientAttestation (state : State) (recipient : Address) (uid : UID) : Bool :=
  state.recipientAttestation recipient uid

def hasSchemaAttestation (state : State) (schemaUid uid : UID) : Bool := state.schemaAttestation schemaUid uid

def maxQueriesPerBlock : Nat := 1000

/-- `QUERY_COUNTER_SEQ` and `QUERY_COUNTER_COUNT`. -/
structure QueryCounter where
  sequence : Option Nat
  count : Option Nat
  deriving DecidableEq

def checkQueryLimit (env : Env) (counter : QueryCounter) : Except Trap QueryCounter := do
  let count := if env.sequence = counter.sequence.getD 0 then counter.count.getD 0 else 0
  require (count < maxQueriesPerBlock) (.contract .limitExceeded)
  return ⟨some env.sequence, some (saturatingAdd count 1)⟩

/-- A read that counts towards the limit. -/
def metered (env : Env) (counter : QueryCounter) (read : Except Trap (List UID)) :
    Except Trap (List UID × QueryCounter) := do
  let counted <- checkQueryLimit env counter
  let uids <- read
  return (uids, counted)

/-- The loop of the paged readers.  Every turn advances `index`, so `fuel` bounds the number
of turns. -/
def pageLoop (capacity total limit : Nat) (getChunk : Row) (keep : UID -> Bool) :
    Nat -> Nat -> List UID -> Except Trap (List UID)
  | 0, _, out => .ok out
  | fuel + 1, index, out =>
    if index < total ∧ out.length < limit then
      match getChunk (index / capacity) with
      | none => .ok out
      | some chunk =>
        match chunk[index % capacity]? with
        | none => do
            let next <- checkedU32 ((index / capacity + 1) * capacity)
            pageLoop capacity total limit getChunk keep fuel next out
        | some uid =>
          if keep uid then
            if limit <= out.length + 1 then .ok (out ++ [uid])
            else pageLoop capacity total limit getChunk keep fuel (index + 1) (out ++ [uid])
          else pageLoop capacity total limit getChunk keep fuel (index + 1) out
    else .ok out

/-- The body of the paged readers. -/
def pageFiltered (state : State) (capacity total : Nat) (getChunk : Row) (cursor limit : Nat)
    (includeRevoked : Bool) : Except Trap (List UID) :=
  if limit = 0 then .ok []
  else if total <= cursor then .ok []
  else pageLoop capacity total limit getChunk (fun uid => includeRevoked || isActive state uid)
    (total - cursor) cursor []

structure ReversePage where
  uids : List UID
  nextCursor : Option Nat

/-- One turn of `collect_reverse_page` at a position, and then the rest of the walk. -/
def reverseTurn (limit : Nat) (getChunk : Row) (keep : UID -> Bool) (index : Nat)
    (rest : List UID -> ReversePage) (out : List UID) : ReversePage := if out.length < limit then
    match getChunk (index / maxChunkSize) with
    | none => ⟨out, none⟩
    | some chunk =>
      match chunk[index % maxChunkSize]? with
      | none => ⟨out, none⟩
      | some uid => rest (if keep uid then out ++ [uid] else out)
  else ⟨out, some index⟩

/-- The loop of `collect_reverse_page`, which walks down from a position. -/
def reverseLoop (limit : Nat) (getChunk : Row) (keep : UID -> Bool) : Nat -> List UID -> ReversePage
  | 0 => reverseTurn limit getChunk keep 0 fun out => ⟨out, none⟩
  | previous + 1 =>
    reverseTurn limit getChunk keep (previous + 1) (reverseLoop limit getChunk keep previous)

/-- `collect_reverse_page`: chunks are found at `MAX_CHUNK_SIZE`, whatever the capacity. -/
def collectReversePage (state : State) (total : Nat) (cursor : Option Nat) (limit : Nat)
    (includeRevoked : Bool) (getChunk : Row) : ReversePage :=
  if total = 0 ∨ limit = 0 then ⟨[], none⟩
  else
    let index := cursor.getD (total - 1)
    if total <= index then ⟨[], none⟩
    else reverseLoop limit getChunk (fun uid => includeRevoked || isActive state uid) index []

/-! ## The readers -/

section Readers

variable (env : Env) (counter : QueryCounter) (state : State)

def getRecipientFiltered (recipient : Address) (includeRevoked : Bool) : Except Trap (List UID × QueryCounter) :=
  metered env counter (collectFiltered state (state.addressTotal .recipient recipient)
    (state.addressChunks recipient) includeRevoked)

def getSchemaFiltered (schemaUid : UID) (includeRevoked : Bool) : Except Trap (List UID × QueryCounter) :=
  metered env counter (collectFiltered state (state.schemaTotal schemaUid)
    (state.schemaChunks schemaUid) includeRevoked)

def getAttesterFiltered (attester : Address) (includeRevoked : Bool) : Except Trap (List UID × QueryCounter) :=
  metered env counter (collectFiltered state (state.addressTotal .attester attester)
    (state.addressChunks attester) includeRevoked)

/-- `get_issuer_filtered`, another name for the attester's reader. -/
def getIssuerFiltered (issuer : Address) (includeRevoked : Bool) : Except Trap (List UID × QueryCounter) :=
  getAttesterFiltered env counter state issuer includeRevoked

def getExpirationFiltered (expirationStatus : ExpirationStatus) (includeRevoked : Bool) :
    Except Trap (List UID × QueryCounter) :=
  metered env counter (collectFiltered state (state.expirationTotal expirationStatus)
    (state.expirationChunks expirationStatus) includeRevoked)

def getRecipientPageFiltered (recipient : Address) (cursor limit : Nat) (includeRevoked : Bool) :
    Except Trap (List UID × QueryCounter) := metered env counter (pageFiltered state (chunkCapacity state)
    (state.addressTotal .recipient recipient) (state.addressChunks recipient) cursor limit includeRevoked)

def getIssuerPageFiltered (issuer : Address) (cursor limit : Nat) (includeRevoked : Bool) :
    Except Trap (List UID × QueryCounter) := metered env counter (pageFiltered state (chunkCapacity state)
    (state.addressTotal .attester issuer) (state.addressChunks issuer) cursor limit includeRevoked)

/-- `get_expiration_page_filtered`: like the write path, at `MAX_CHUNK_SIZE`. -/
def getExpirationPageFiltered (expirationStatus : ExpirationStatus) (cursor limit : Nat)
    (includeRevoked : Bool) : Except Trap (List UID × QueryCounter) :=
  metered env counter (pageFiltered state maxChunkSize (state.expirationTotal expirationStatus)
    (state.expirationChunks expirationStatus) cursor limit includeRevoked)

def getRecipientRecentFiltered (recipient : Address) (limit : Nat) (includeRevoked : Bool) :
    Except Trap (List UID × QueryCounter) :=
  metered env counter (.ok (collectReversePage state (state.addressTotal .recipient recipient) none
    limit includeRevoked (state.addressChunks recipient)).uids)

def getSchemaRecentFiltered (schemaUid : UID) (limit : Nat) (includeRevoked : Bool) :
    Except Trap (List UID × QueryCounter) :=
  metered env counter (.ok (collectReversePage state (state.schemaTotal schemaUid) none limit
    includeRevoked (state.schemaChunks schemaUid)).uids)

def getAttesterRecentFiltered (attester : Address) (limit : Nat) (includeRevoked : Bool) :
    Except Trap (List UID × QueryCounter) :=
  metered env counter (.ok (collectReversePage state (state.addressTotal .attester attester) none
    limit includeRevoked (state.addressChunks attester)).uids)

end Readers

/-- The reads with the flag `include_revoked`. -/
inductive Read where
  | recipientFiltered (recipient : Address)
  | schemaFiltered (schemaUid : UID)
  | attesterFiltered (attester : Address)
  | issuerFiltered (issuer : Address)
  | expirationFiltered (expirationStatus : ExpirationStatus)
  | recipientPageFiltered (recipient : Address) (cursor limit : Nat)
  | issuerPageFiltered (issuer : Address) (cursor limit : Nat)
  | expirationPageFiltered (expirationStatus : ExpirationStatus) (cursor limit : Nat)
  | recipientRecentFiltered (recipient : Address) (limit : Nat)
  | schemaRecentFiltered (schemaUid : UID) (limit : Nat)
  | attesterRecentFiltered (attester : Address) (limit : Nat)

def Read.answer (env : Env) (counter : QueryCounter) (state : State) (includeRevoked : Bool) :
    Read -> Except Trap (List UID × QueryCounter)
  | .recipientFiltered recipient =>
    getRecipientFiltered env counter state recipient includeRevoked
  | .schemaFiltered schemaUid => getSchemaFiltered env counter state schemaUid includeRevoked
  | .attesterFiltered attester => getAttesterFiltered env counter state attester includeRevoked
  | .issuerFiltered issuer => getIssuerFiltered env counter state issuer includeRevoked
  | .expirationFiltered expirationStatus =>
    getExpirationFiltered env counter state expirationStatus includeRevoked
  | .recipientPageFiltered recipient cursor limit =>
    getRecipientPageFiltered env counter state recipient cursor limit includeRevoked
  | .issuerPageFiltered issuer cursor limit =>
    getIssuerPageFiltered env counter state issuer cursor limit includeRevoked
  | .expirationPageFiltered expirationStatus cursor limit =>
    getExpirationPageFiltered env counter state expirationStatus cursor limit includeRevoked
  | .recipientRecentFiltered recipient limit =>
    getRecipientRecentFiltered env counter state recipient limit includeRevoked
  | .schemaRecentFiltered schemaUid limit =>
    getSchemaRecentFiltered env counter state schemaUid limit includeRevoked
  | .attesterRecentFiltered attester limit =>
    getAttesterRecentFiltered env counter state attester limit includeRevoked

/-! ## What the flag changes -/

variable {uid : UID} {all : List UID} {limit : Nat}

section Loops

variable {capacity total : Nat} {row : Row} {keep : UID -> Bool} {fuel index : Nat} {out : List UID}
  {kept : List UID}

/-- What a loop returns with a filter, against what it returns without. -/
def Selects (keep : UID -> Bool) (everything selected : List UID) : Prop :=
  ∀ uid ∈ everything, (uid ∈ selected ↔ keep uid = true)

theorem selects_filter (keep : UID -> Bool) (everything : List UID) :
    Selects keep everything (everything.filter keep) := by
  intro uid member
  simp [mem_filter, member]

theorem collectLoop_filter (all : List UID) : collectLoop capacity total row keep fuel index (all.filter keep) =
      (collectLoop capacity total row (fun _ => true) fuel index all).map (·.filter keep) := by
  induction fuel generalizing index all with
  | zero => rfl
  | succ fuel ih =>
    simp only [collectLoop]
    split
    · split
      · rfl
      · split
        · cases checkedU32 ((index / capacity + 1) * capacity) with
          | ok next => exact ih all
          | error failure => rfl
        · rw [← filter_append, ih, filter_true]
    · rfl

/-- An output that has grown, by entries to keep. -/
structure Grown (keep : UID -> Bool) (out result : List UID) : Prop where
  longer : out <+: result
  origin : ∀ uid ∈ result, uid ∈ out ∨ keep uid = true

theorem Grown.refl (keep : UID -> Bool) (out : List UID) : Grown keep out out := ⟨prefix_rfl, fun _ => .inl⟩

theorem Grown.of_take {result : List UID} (wanted : keep uid = true)
    (grown : Grown keep (out ++ [uid]) result) : Grown keep out result where
  longer := (prefix_append out [uid]).trans grown.longer
  origin := by
    intro other member
    rcases grown.origin other member with taken | keeps
    · rcases List.mem_append.mp taken with earlier | last
      · exact .inl earlier
      · rw [List.mem_singleton.mp last]
        exact .inr wanted
    · exact .inr keeps

/-- Two outputs in step: the second one has exactly the entries to keep, and is no longer. -/
structure InStep (keep : UID -> Bool) (all kept : List UID) : Prop where
  shorter : kept.length <= all.length
  selects : Selects keep all kept
  only : ∀ uid ∈ kept, keep uid = true

namespace InStep

theorem nil (keep : UID -> Bool) : InStep keep [] [] where
  shorter := Nat.le_refl 0
  selects := by
    intro uid member
    cases member
  only := by
    intro uid member
    cases member

theorem take (inStep : InStep keep all kept) (wanted : keep uid = true) :
    InStep keep (all ++ [uid]) (kept ++ [uid]) where
  shorter := by
    simp only [length_append, length_singleton]
    exact Nat.succ_le_succ inStep.shorter
  selects := by
    intro other member
    rcases List.mem_append.mp member with earlier | last
    · rw [mem_append, inStep.selects other earlier]
      constructor
      · rintro (keeps | last)
        · exact keeps
        · rw [List.mem_singleton.mp last]
          exact wanted
      · exact .inl
    · rw [List.mem_singleton.mp last]
      simp [wanted]
  only := by
    intro other member
    rcases List.mem_append.mp member with earlier | last
    · exact inStep.only other earlier
    · rw [List.mem_singleton.mp last]
      exact wanted

theorem skip (inStep : InStep keep all kept) (unwanted : keep uid ≠ true) : InStep keep (all ++ [uid]) kept where
  shorter := by
    rw [length_append]
    exact Nat.le_add_right_of_le inStep.shorter
  selects := by
    intro other member
    rcases List.mem_append.mp member with earlier | last
    · exact inStep.selects other earlier
    · rw [List.mem_singleton.mp last]
      exact ⟨inStep.only uid, fun wanted => absurd wanted unwanted⟩
  only := inStep.only

/-- The filtered output may go on after the other one has ended. -/
theorem ended (inStep : InStep keep all kept) {selected : List UID}
    (grown : Grown keep kept selected) : Selects keep all selected := by
  intro uid member
  constructor
  · intro shown
    exact (grown.origin uid shown).elim (inStep.only uid) id
  · intro wanted
    exact grown.longer.subset ((inStep.selects uid member).mpr wanted)

end InStep

theorem pageLoop_grown {result : List UID}
    (success : pageLoop capacity total limit row keep fuel index out = .ok result) : Grown keep out result := by
  induction fuel generalizing index out with
  | zero =>
    cases success
    exact .refl keep _
  | succ fuel ih =>
    simp only [pageLoop] at success
    split at success
    · split at success
      · cases success
        exact .refl keep _
      · split at success
        · rcases bind_eq_ok.mp success with ⟨next, -, rest⟩
          exact ih rest
        · split at success
          · rename_i uid _ wanted
            split at success
            · cases success
              exact .of_take wanted (.refl keep _)
            · exact .of_take wanted (ih success)
          · exact ih success
    · cases success
      exact .refl keep _

/-- A page without the flag shows the active part of the page with it. -/
theorem pageLoop_selects {everything selected : List UID} (inStep : InStep keep all kept)
    (unfiltered : pageLoop capacity total limit row (fun _ => true) fuel index all =
      .ok everything) (filtered : pageLoop capacity total limit row keep fuel index kept = .ok selected) :
    Selects keep everything selected := by
  induction fuel generalizing index all kept with
  | zero =>
    cases unfiltered
    exact inStep.ended (pageLoop_grown filtered)
  | succ fuel ih =>
    have ended := inStep.ended (pageLoop_grown filtered)
    have shorter := inStep.shorter
    rw [pageLoop] at unfiltered filtered
    by_cases going : index < total ∧ all.length < limit
    · have going' : index < total ∧ kept.length < limit := ⟨going.1, by omega⟩
      rw [if_pos going] at unfiltered
      rw [if_pos going'] at filtered
      cases stored : row (index / capacity) with
      | none =>
        simp only [stored] at unfiltered
        cases unfiltered
        exact ended
      | some chunk =>
        cases found : chunk[index % capacity]? with
        | none =>
          simp only [stored, found, bind_eq_ok] at unfiltered filtered
          rcases unfiltered with ⟨next, advanced, unfiltered⟩
          rcases filtered with ⟨next', advanced', filtered⟩
          cases advanced.symm.trans advanced'
          exact ih inStep unfiltered filtered
        | some uid =>
          simp only [stored, found, if_true] at unfiltered filtered
          by_cases wanted : keep uid = true
          · have taken := inStep.take wanted
            rw [if_pos wanted] at filtered
            split at filtered
            · cases filtered
              rw [if_pos (by omega)] at unfiltered
              cases unfiltered
              exact taken.selects
            · split at unfiltered
              · cases unfiltered
                exact taken.ended (pageLoop_grown filtered)
              · exact ih taken unfiltered filtered
          · have skipped := inStep.skip wanted
            rw [if_neg wanted] at filtered
            split at unfiltered
            · cases unfiltered
              exact skipped.ended (pageLoop_grown filtered)
            · exact ih skipped unfiltered filtered
    · rw [if_neg going] at unfiltered
      cases unfiltered
      exact ended

/-! ### Walking back -/

theorem reverseTurn_grown {rest : List UID -> ReversePage} (grows : ∀ taken, Grown keep taken (rest taken).uids) :
    Grown keep out (reverseTurn limit row keep index rest out).uids := by
  unfold reverseTurn
  split
  · split
    · exact .refl keep out
    · split
      · exact .refl keep out
      · rename_i uid _
        split
        · rename_i wanted
          exact .of_take wanted (grows _)
        · exact grows out
  · exact .refl keep out

theorem reverseLoop_grown : Grown keep out (reverseLoop limit row keep index out).uids := by
  induction index generalizing out with
  | zero => exact reverseTurn_grown fun taken => .refl keep taken
  | succ index ih => exact reverseTurn_grown fun taken => ih

theorem reverseTurn_selects {unfiltered filtered : List UID -> ReversePage} (inStep : InStep keep all kept)
    (grows : ∀ taken, Grown keep taken (filtered taken).uids) (selects : ∀ all kept, InStep keep all kept ->
      Selects keep (unfiltered all).uids (filtered kept).uids) :
    Selects keep (reverseTurn limit row (fun _ => true) index unfiltered all).uids
      (reverseTurn limit row keep index filtered kept).uids := by
  have ended : Selects keep all (reverseTurn limit row keep index filtered kept).uids :=
    inStep.ended (reverseTurn_grown grows)
  by_cases going : all.length < limit
  · have going' : kept.length < limit := Nat.lt_of_le_of_lt inStep.shorter going
    simp only [reverseTurn, if_pos going, if_pos going'] at ended ⊢
    cases stored : row (index / maxChunkSize) with
    | none =>
      simp only [stored] at ended ⊢
      exact ended
    | some chunk =>
      cases found : chunk[index % maxChunkSize]? with
      | none =>
        simp only [stored, found] at ended ⊢
        exact ended
      | some uid =>
        simp only [found, if_true]
        by_cases wanted : keep uid = true
        · rw [if_pos wanted]
          exact selects _ _ (inStep.take wanted)
        · rw [if_neg wanted]
          exact selects _ _ (inStep.skip wanted)
  · rw [reverseTurn, if_neg going]
    exact ended

/-- The newest entries without the flag show the active part of those with it. -/
theorem reverseLoop_selects (inStep : InStep keep all kept) :
    Selects keep (reverseLoop limit row (fun _ => true) index all).uids
      (reverseLoop limit row keep index kept).uids := by
  induction index generalizing all kept with
  | zero =>
    exact reverseTurn_selects inStep (fun taken => .refl keep taken) fun _ _ inStep => inStep.selects
  | succ index ih =>
    exact reverseTurn_selects inStep (fun _ => reverseLoop_grown) fun _ _ inStep => ih inStep

end Loops

/-! ## The readers hide exactly the inactive UIDs -/

section Answers

variable {env : Env} {counter : QueryCounter} {state : State} {total : Nat} {row : Row}

theorem metered_ok {read : Except Trap (List UID)} {answer : List UID × QueryCounter}
    (success : metered env counter read = .ok answer) : read = .ok answer.1 := by
  simp only [metered, eq_ok] at success
  rcases success with ⟨counted, -, uids, found, rfl⟩
  exact found

theorem collectFiltered_selects {shown : List UID} (unfiltered : collectFiltered state total row true = .ok all)
    (filtered : collectFiltered state total row false = .ok shown) : Selects (isActive state) all shown := by
  have filters : collectFiltered state total row false =
      (collectFiltered state total row true).map (·.filter (isActive state)) := collectLoop_filter []
  rw [filters, unfiltered] at filtered
  cases filtered
  exact selects_filter _ all

theorem pageFiltered_selects {capacity cursor : Nat} {shown : List UID}
    (unfiltered : pageFiltered state capacity total row cursor limit true = .ok all)
    (filtered : pageFiltered state capacity total row cursor limit false = .ok shown) :
    Selects (isActive state) all shown := by
  have nothing {shown : List UID} : Selects (isActive state) [] shown := by
    intro uid member
    cases member
  unfold pageFiltered at unfiltered filtered
  split at unfiltered
  · cases unfiltered
    exact nothing
  · rename_i positive
    rw [if_neg positive] at filtered
    split at unfiltered
    · cases unfiltered
      exact nothing
    · rename_i inside
      rw [if_neg inside] at filtered
      exact pageLoop_selects (.nil _) unfiltered filtered

theorem collectReversePage_selects {cursor : Option Nat} :
    Selects (isActive state) (collectReversePage state total cursor limit true row).uids
      (collectReversePage state total cursor limit false row).uids := by
  have nothing : Selects (isActive state) [] [] := selects_filter _ []
  unfold collectReversePage
  split
  · exact nothing
  · simp only
    split
    · exact nothing
    · exact reverseLoop_selects (.nil _)

/-- A read without the flag shows, of what it shows with it, exactly the active UIDs. -/
theorem Read.answer_selects {read : Read} {all shown : List UID × QueryCounter}
    (unfiltered : read.answer env counter state true = .ok all)
    (filtered : read.answer env counter state false = .ok shown) : Selects (isActive state) all.1 shown.1 := by
  cases read with
  | recipientFiltered | schemaFiltered | attesterFiltered | issuerFiltered _
  | expirationFiltered =>
    exact collectFiltered_selects (metered_ok unfiltered) (metered_ok filtered)
  | recipientPageFiltered | issuerPageFiltered | expirationPageFiltered =>
    exact pageFiltered_selects (metered_ok unfiltered) (metered_ok filtered)
  | recipientRecentFiltered | schemaRecentFiltered | attesterRecentFiltered =>
    rw [← Except.ok.inj (metered_ok unfiltered), ← Except.ok.inj (metered_ok filtered)]
    exact collectReversePage_selects

/-- The read leaves out a UID that it shows with the flag. -/
def Omits (state : State) (read : Read) (uid : UID) : Prop :=
  ∃ env counter all shown, read.answer env counter state true = .ok all ∧
    read.answer env counter state false = .ok shown ∧ uid ∈ all.1 ∧ uid ∉ shown.1

theorem Omits.inactive {read : Read} (omits : Omits state read uid) : isActive state uid = false := by
  rcases omits with ⟨env, counter, all, shown, unfiltered, filtered, listed, hidden⟩
  rw [← Bool.not_eq_true]
  intro active
  exact hidden ((Read.answer_selects unfiltered filtered uid listed).mpr active)

end Answers

end SorobanSas.Indexer
