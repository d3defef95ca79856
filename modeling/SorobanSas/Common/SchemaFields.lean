import SorobanSas.Common.SchemaSyntax

namespace SorobanSas

open Library List

/-!
# The fields of a schema definition

`validate_schema_syntax` reads a definition field by field and keeps none of them.  The reader
here follows its loop and returns the name and the type of each field, without the checks.

Two accepted definitions of which the second continues the first after a comma are read alike
up to that comma: the fields of the first are the first fields of the second, which has more.
The comma must follow the first definition directly, and that it has no space at its end is
what the lexical check of the second adds.
-/

namespace SchemaSyntax

def slice (bytes : Bytes) (start stop : Nat) : Bytes := (bytes.take stop).drop start

/-- The name and the type of the field in `[start, fieldEnd)`. -/
def fieldAt (bytes : Bytes) (start fieldEnd : Nat) : Option (Bytes × Bytes) := do
  let (fieldStart, fe) <- trimBounds bytes start fieldEnd
  let splitIndex <- scanFor space bytes fe (fe - fieldStart) fieldStart
  return (slice bytes fieldStart splitIndex, slice bytes (splitIndex + 1) fe)

/-- Where the field after a comma starts: one space may precede it. -/
def nextField (bytes : Bytes) (stop fieldEnd : Nat) : Nat :=
  if fieldEnd + 1 < stop ∧ bytes[fieldEnd + 1]? = some space then fieldEnd + 2 else fieldEnd + 1

/-- The fields that the loop of `validate_schema_syntax` reads. -/
def readFields (bytes : Bytes) (stop : Nat) : Nat -> Nat -> List (Bytes × Bytes)
  | 0, _ => []
  | fuel + 1, start =>
    if start < stop then
      match scanFor comma bytes stop (stop - start) start with
      | none => []
      | some fieldEnd =>
        (fieldAt bytes start fieldEnd).toList ++
          if stop <= fieldEnd then []
          else readFields bytes stop fuel (nextField bytes stop fieldEnd)
    else []

def schemaFields (schema : Bytes) : List (Bytes × Bytes) :=
  match trimBounds schema 0 schema.length with
  | none => []
  | some (start, stop) => readFields schema stop (stop - start) start

/-- `a B, c D` has the fields `a` of type `B` and `c` of type `D`. -/
example : schemaFields [0x61, 0x20, 0x42, 0x2c, 0x20, 0x63, 0x20, 0x44] = [([0x61], [0x42]), ([0x63], [0x44])] := by
  decide

/-! ## The reader follows the validator -/

variable {regionStart : Nat} {count : Nat} {total : Nat} {schema : Bytes}

section Following

variable {bytes : Bytes} {stop start fieldEnd fuel : Nat}

theorem validateField_reads (valid : validateField bytes regionStart start fieldEnd = .ok ()) :
    ∃ field, fieldAt bytes start fieldEnd = some field := by
  simp only [validateField, eq_ok] at valid
  rcases valid with ⟨-, ⟨fieldStart, fe⟩, trimmed, -, splitIndex, found, -⟩
  refine ⟨(slice bytes fieldStart splitIndex, slice bytes (splitIndex + 1) fe), ?_⟩
  simp only [fieldAt, trimmed, Option.bind_eq_bind, Option.bind_some]
  dsimp only at found
  rw [found]
  rfl

/-- One turn of the field loop that is accepted. -/
theorem validateFields_step (inside : start < stop)
    (accepted : validateFields bytes regionStart stop (fuel + 1) start count = .ok total) :
    ∃ fieldEnd field, scanFor comma bytes stop (stop - start) start = some fieldEnd ∧
      fieldAt bytes start fieldEnd = some field ∧
      (stop <= fieldEnd ∧ total = count + 1 ∨ fieldEnd < stop ∧ nextField bytes stop fieldEnd < stop ∧
          validateFields bytes regionStart stop fuel (nextField bytes stop fieldEnd) (count + 1) = .ok total) := by
  rw [validateFields, if_pos inside] at accepted
  simp only [eq_ok] at accepted
  rcases accepted with ⟨fieldEnd, found, valid, -, accepted⟩
  rcases validateField_reads valid with ⟨field, read⟩
  refine ⟨fieldEnd, field, found, read, ?_⟩
  split at accepted
  · rename_i ended
    exact .inl ⟨ended, (pure_eq_ok.mp accepted).symm⟩
  · rename_i continues
    refine .inr ⟨by omega, ?_⟩
    split at accepted
    · rename_i spaced
      simp only [eq_ok] at accepted
      rcases accepted with ⟨-, within, accepted⟩
      rw [nextField, if_pos spaced]
      exact ⟨within, accepted⟩
    · rename_i unspaced
      simp only [eq_ok] at accepted
      rcases accepted with ⟨within, accepted⟩
      rw [nextField, if_neg unspaced]
      exact ⟨within, accepted⟩

theorem readFields_step {field : Bytes × Bytes} (inside : start < stop)
    (found : scanFor comma bytes stop (stop - start) start = some fieldEnd)
    (read : fieldAt bytes start fieldEnd = some field) : readFields bytes stop (fuel + 1) start = field ::
      if stop <= fieldEnd then [] else readFields bytes stop fuel (nextField bytes stop fieldEnd) := by
  simp only [readFields, if_pos inside, found, read, Option.toList_some, singleton_append]

end Following

/-- What an accepted definition has passed. -/
theorem validateSchemaSyntax_ok (valid : validateSchemaSyntax schema = .ok ()) :
    ∃ start stop total, trimBounds schema 0 schema.length = some (start, stop) ∧
      validateFields schema start stop (stop - start) start 0 = .ok total ∧ total ≠ 0 ∧
      containsControlOrInvalidWhitespace schema = false := by
  simp only [validateSchemaSyntax, eq_ok] at valid
  rcases valid with ⟨-, -, visible, ⟨start, stop⟩, trimmed, -, total, accepted, counted⟩
  exact ⟨start, stop, total, trimmed, accepted, counted, visible⟩

theorem mem_of_scanFor {bytes : Bytes} {target : UInt8} {stop fuel start found : Nat}
    (enough : stop <= start + fuel) (scanned : scanFor target bytes stop fuel start = some found)
    (inside : found < stop) : target ∈ bytes := by
  induction fuel generalizing start with
  | zero =>
    have here := Option.some.inj scanned
    omega
  | succ fuel ih =>
    rw [scanFor] at scanned
    split at scanned
    · split at scanned
      · cases scanned
      · rename_i byte read
        split at scanned
        · rename_i same
          exact same ▸ mem_of_getElem? read
        · exact ih (by omega) scanned
    · have here := Option.some.inj scanned
      omega

/-- An accepted definition has a space: the first field splits at one. -/
theorem space_mem_of_valid (valid : validateSchemaSyntax schema = .ok ()) : space ∈ schema := by
  rcases validateSchemaSyntax_ok valid with ⟨start, stop, total, -, accepted, counted, -⟩
  cases fuel : stop - start with
  | zero =>
    rw [fuel] at accepted
    exact absurd (Except.ok.inj accepted).symm counted
  | succ fuel' =>
    rw [fuel, validateFields, if_pos (by omega)] at accepted
    simp only [eq_ok] at accepted
    rcases accepted with ⟨fieldEnd, -, field, -⟩
    simp only [validateField, eq_ok] at field
    rcases field with ⟨-, ⟨fieldStart, fe⟩, -, -, splitIndex, found, ⟨-, before⟩, -⟩
    exact mem_of_scanFor (by dsimp only; omega) found before

/-! ## Scanning a definition and its continuation -/

section Continuing

variable {older newer : Bytes} {target : UInt8} {start stop cut fuel : Nat} {bytes : Bytes}
  {found further : Nat}

/-- The two strings are the same up to a position. -/
def Agree (cut : Nat) (older newer : Bytes) : Prop := ∀ index, index < cut -> newer[index]? = older[index]?

theorem Agree.mono (agree : Agree cut older newer) (lower : stop <= cut) : Agree stop older newer :=
  fun index inside => agree index (Nat.lt_of_lt_of_le inside lower)

theorem scanFor_congr (agree : Agree stop older newer) :
    scanFor target newer stop fuel start = scanFor target older stop fuel start := by
  induction fuel generalizing start with
  | zero => rfl
  | succ fuel ih =>
    rw [scanFor, scanFor]
    by_cases inside : start < stop
    · rw [if_pos inside, if_pos inside, agree start inside]
      simp only [ih]
    · rw [if_neg inside, if_neg inside]

theorem trimLeft_congr (agree : Agree stop older newer) :
    trimLeft newer stop fuel start = trimLeft older stop fuel start := by
  induction fuel generalizing start with
  | zero => rfl
  | succ fuel ih =>
    rw [trimLeft, trimLeft]
    by_cases inside : start < stop
    · rw [if_pos inside, if_pos inside, agree start inside]
      simp only [ih]
    · rw [if_neg inside, if_neg inside]

theorem trimRight_congr (agree : Agree stop older newer) :
    trimRight newer start fuel stop = trimRight older start fuel stop := by
  induction fuel generalizing stop with
  | zero => rfl
  | succ fuel ih =>
    rw [trimRight, trimRight]
    by_cases inside : start < stop
    · rw [if_pos inside, if_pos inside, agree (stop - 1) (by omega)]
      simp only [ih (agree.mono (Nat.sub_le stop 1))]
    · rw [if_neg inside, if_neg inside]

theorem trimRight_le {ended : Nat} (trimmed : trimRight bytes start fuel stop = some ended) : ended <= stop := by
  induction fuel generalizing stop with
  | zero => exact Nat.le_of_eq (Option.some.inj trimmed).symm
  | succ fuel ih =>
    rw [trimRight] at trimmed
    split at trimmed
    · split at trimmed
      · cases trimmed
      · split at trimmed
        · exact (ih trimmed).trans (Nat.sub_le stop 1)
        · exact Nat.le_of_eq (Option.some.inj trimmed).symm
    · exact Nat.le_of_eq (Option.some.inj trimmed).symm

theorem lt_of_trimRight {ended position : Nat} {byte : UInt8}
    (trimmed : trimRight bytes start fuel stop = some ended) (after : start <= position)
    (inside : position < stop) (stored : bytes[position]? = some byte)
    (kept : isAsciiWhitespace byte = false) : position < ended := by
  induction fuel generalizing stop with
  | zero => rwa [← Option.some.inj trimmed]
  | succ fuel ih =>
    rw [trimRight, if_pos (Nat.lt_of_le_of_lt after inside)] at trimmed
    split at trimmed
    · cases trimmed
    · rename_i last found
      split at trimmed
      · rename_i white
        refine ih trimmed (Nat.lt_of_le_of_ne (Nat.le_sub_one_of_lt inside) fun same => ?_)
        rw [← same, stored] at found
        cases found
        rw [kept] at white
        cases white
      · rwa [← Option.some.inj trimmed]

theorem trimBounds_eq_some {left right : Nat} :
    trimBounds bytes start stop = some (left, right) ↔ trimLeft bytes stop (stop - start) start = some left ∧
        trimRight bytes left (stop - left) stop = some right ∧ left < right := by
  simp only [trimBounds, Option.bind_eq_bind, Option.bind_eq_some_iff]
  constructor
  · rintro ⟨first, begins, last, ends, bounds⟩
    split at bounds
    · cases bounds
    · rename_i nonempty
      cases bounds
      exact ⟨begins, ends, by omega⟩
  · rintro ⟨begins, ends, nonempty⟩
    exact ⟨left, begins, right, ends, if_neg (by omega)⟩

theorem trimBounds_congr (agree : Agree stop older newer) :
    trimBounds newer start stop = trimBounds older start stop := by
  rw [trimBounds, trimBounds, trimLeft_congr agree]
  simp only [trimRight_congr agree]

theorem slice_congr (agree : Agree stop older newer) : slice newer start stop = slice older start stop := by
  have same : newer.take stop = older.take stop := by
    refine ext_getElem? fun index => ?_
    rw [List.getElem?_take, List.getElem?_take]
    split
    · rename_i inside
      exact agree index inside
    · rfl
  rw [slice, slice, same]

theorem scanFor_le (below : start <= stop) (scanned : scanFor target bytes stop fuel start = some found) :
    found <= stop := by
  induction fuel generalizing start with
  | zero => rwa [← Option.some.inj scanned]
  | succ fuel ih =>
    rw [scanFor] at scanned
    split at scanned
    · rename_i inside
      split at scanned
      · cases scanned
      · split at scanned
        · rwa [← Option.some.inj scanned]
        · exact ih inside scanned
    · rwa [← Option.some.inj scanned]

theorem le_scanFor (scanned : scanFor target bytes stop fuel start = some found) : start <= found := by
  induction fuel generalizing start with
  | zero => exact Nat.le_of_eq (Option.some.inj scanned)
  | succ fuel ih =>
    rw [scanFor] at scanned
    split at scanned
    · split at scanned
      · cases scanned
      · split at scanned
        · exact Nat.le_of_eq (Option.some.inj scanned)
        · exact (Nat.le_succ start).trans (ih scanned)
    · exact Nat.le_of_eq (Option.some.inj scanned)

theorem lt_nextField (bytes : Bytes) (stop fieldEnd : Nat) : fieldEnd < nextField bytes stop fieldEnd := by
  unfold nextField
  split <;> omega

/-- A field is read from its own bytes. -/
theorem fieldAt_congr (agree : Agree stop older newer) : fieldAt newer start stop = fieldAt older start stop := by
  rw [fieldAt, fieldAt, trimBounds_congr agree]
  cases trimmed : trimBounds older start stop with
  | none => rfl
  | some bounds =>
    rcases bounds with ⟨left, right⟩
    rcases trimBounds_eq_some.mp trimmed with ⟨-, ends, nonempty⟩
    have within : Agree right older newer := agree.mono (trimRight_le ends)
    simp only [Option.bind_eq_bind, Option.bind_some, scanFor_congr within]
    cases scanned : scanFor space older right (right - left) left with
    | none => rfl
    | some splitIndex =>
      have before : splitIndex <= right := scanFor_le (Nat.le_of_lt nonempty) scanned
      simp only [Option.bind_some, slice_congr within, slice_congr (within.mono before)]

section Longer

variable {longer : Nat} (agree : Agree older.length older newer) (beyond : older.length < longer)

include agree beyond

/-- The end of the first string is a place where the scan of the second one stops. -/
theorem scanFor_extend (stops : newer[older.length]? = some target) (inside : start <= older.length)
    (enough : older.length - start <= fuel) (plenty : longer - start <= further) :
    scanFor target newer longer further start = scanFor target older older.length fuel start := by
  induction fuel generalizing start further with
  | zero =>
    have ended : start = older.length := by omega
    rcases Nat.exists_eq_succ_of_ne_zero (show further ≠ 0 by omega) with ⟨further, rfl⟩
    subst ended
    simp [scanFor, beyond, stops]
  | succ fuel ih =>
    rcases Nat.exists_eq_succ_of_ne_zero (show further ≠ 0 by omega) with ⟨further, rfl⟩
    by_cases within : start < older.length
    · rw [scanFor, scanFor, if_pos within, if_pos (Nat.lt_trans within beyond), agree start within,
        List.getElem?_eq_getElem within]
      dsimp only
      rw [ih within (by omega) (by omega)]
    · have ended : start = older.length := by omega
      subst ended
      simp [scanFor, beyond, stops]

theorem trimLeft_extend (trimmed : trimLeft older older.length fuel start = some found)
    (nonempty : found < older.length) (enough : older.length - start <= fuel)
    (plenty : longer - start <= further) : trimLeft newer longer further start = some found := by
  induction fuel generalizing start further with
  | zero =>
    have here : start = found := Option.some.inj trimmed
    omega
  | succ fuel ih =>
    rw [trimLeft] at trimmed
    by_cases within : start < older.length
    · rcases Nat.exists_eq_succ_of_ne_zero (show further ≠ 0 by omega) with ⟨further, rfl⟩
      rw [if_pos within, List.getElem?_eq_getElem within] at trimmed
      rw [trimLeft, if_pos (Nat.lt_trans within beyond), agree start within, List.getElem?_eq_getElem within]
      dsimp only at trimmed ⊢
      split at trimmed
      · rename_i white
        rw [if_pos white]
        exact ih trimmed (by omega) (by omega)
      · rename_i kept
        rw [if_neg kept]
        exact trimmed
    · rw [if_neg within] at trimmed
      have here : start = found := Option.some.inj trimmed
      omega

/-- A separator within the first string is the same in the second. -/
theorem nextField_extend {fieldEnd : Nat} (next : nextField older older.length fieldEnd < older.length) :
    nextField newer longer fieldEnd = nextField older older.length fieldEnd := by
  have inside : fieldEnd + 1 < older.length := Nat.lt_of_le_of_lt (lt_nextField older older.length fieldEnd) next
  rw [nextField, nextField, agree (fieldEnd + 1) inside]
  simp only [inside, Nat.lt_trans inside beyond, true_and]

end Longer

theorem readFields_ne_nil (inside : start < stop) (enough : stop - start <= fuel)
    (accepted : validateFields bytes regionStart stop fuel start count = .ok total) :
    readFields bytes stop fuel start ≠ [] := by
  rcases Nat.exists_eq_succ_of_ne_zero (show fuel ≠ 0 by omega) with ⟨fuel, rfl⟩
  rcases validateFields_step inside accepted with ⟨fieldEnd, field, found, read, -⟩
  rw [readFields_step inside found read]
  exact cons_ne_nil _ _

/-- Both definitions are read alike up to the end of the first, and a further field follows. -/
theorem readFields_extend {longer others all : Nat} (agree : Agree older.length older newer)
    (stops : newer[older.length]? = some comma) (beyond : older.length < longer)
    (inside : start < older.length) (enough : older.length - start <= fuel) (plenty : longer - start <= further)
    (accepted : validateFields older regionStart older.length fuel start count = .ok total)
    (extended : validateFields newer regionStart longer further start others = .ok all) :
    ∃ more, more ≠ [] ∧ readFields newer longer further start = readFields older older.length fuel start ++ more := by
  induction fuel generalizing start further count others with
  | zero => omega
  | succ fuel ih =>
    rcases Nat.exists_eq_succ_of_ne_zero (show further ≠ 0 by omega) with ⟨further, rfl⟩
    have within : start < longer := Nat.lt_trans inside beyond
    rcases validateFields_step inside accepted with ⟨fieldEnd, field, found, read, accepted⟩
    have before : fieldEnd <= older.length := scanFor_le (Nat.le_of_lt inside) found
    have after : start <= fieldEnd := le_scanFor found
    have located : scanFor comma newer longer (longer - start) start = some fieldEnd :=
      (scanFor_extend agree beyond stops (Nat.le_of_lt inside) (Nat.le_refl _) (Nat.le_refl _)).trans found
    have same : fieldAt newer start fieldEnd = some field := (fieldAt_congr (agree.mono before)).trans read
    rcases validateFields_step within extended with ⟨place, -, also, -, extended⟩
    cases located.symm.trans also
    have later := lt_nextField newer longer fieldEnd
    rw [readFields_step within located same, readFields_step inside found read,
      if_neg (show ¬ longer <= fieldEnd by omega)]
    rcases extended with ⟨ended, -⟩ | ⟨-, next, extended⟩
    · omega
    rcases accepted with ⟨ended, -⟩ | ⟨continues, following, accepted⟩
    · refine ⟨_, readFields_ne_nil next (by omega) extended, ?_⟩
      rw [if_pos ended]
      rfl
    · rw [nextField_extend agree beyond following] at later next extended ⊢
      rcases ih following (by omega) (by omega) accepted extended with ⟨more, nonempty, split⟩
      refine ⟨more, nonempty, ?_⟩
      rw [if_neg (by omega), split, cons_append]

end Continuing

/-! ## Appended fields -/

theorem isAsciiWhitespace_of_visible {byte : UInt8}
    (visible : containsControlOrInvalidWhitespace schema = false) (member : byte ∈ schema)
    (other : byte ≠ space) : isAsciiWhitespace byte = false := by
  simp only [containsControlOrInvalidWhitespace, Bool.or_eq_false_iff, any_eq_false,
    Bool.or_eq_true, decide_eq_true_eq, not_or, UInt8.not_lt] at visible
  have printable := (visible.1 byte member).1
  simp only [isAsciiWhitespace, Bool.or_eq_false_iff, decide_eq_false_iff_not]
  refine ⟨⟨⟨⟨⟨other, ?_⟩, ?_⟩, ?_⟩, ?_⟩, ?_⟩ <;> rintro rfl <;> exact absurd printable (by decide)

theorem not_space_before_comma {position : Nat} (lexical : validateSchemaLexical schema = .ok ())
    (stops : schema[position + 1]? = some comma) : schema[position]? ≠ some space := by
  intro spaced
  have inside : position + 1 < schema.length := (List.getElem?_eq_some_iff.mp stops).1
  rw [validateSchemaLexical, if_neg (by omega)] at lexical
  simp only [eq_ok, all_eq_true, mem_range] at lexical
  have allowed := lexical.2.2.1 position (by omega)
  simp [separatorAllowed, spaced, stops] at allowed

/-- A definition that continues an accepted one after a comma, and is accepted itself, has the
same first fields and at least one more. -/
theorem schemaFields_append {older rest : Bytes} (wellFormed : validateSchemaSyntax older = .ok ())
    (lexical : validateSchemaLexical (older ++ comma :: rest) = .ok ())
    (extended : validateSchemaSyntax (older ++ comma :: rest) = .ok ()) :
    ∃ more, more ≠ [] ∧ schemaFields (older ++ comma :: rest) = schemaFields older ++ more := by
  have agree : Agree older.length older (older ++ comma :: rest) :=
    fun index inside => List.getElem?_append_left inside
  have stops : (older ++ comma :: rest)[older.length]? = some comma := by simp
  generalize older ++ comma :: rest = newer at *
  have beyond : older.length < newer.length := (List.getElem?_eq_some_iff.mp stops).1
  rcases validateSchemaSyntax_ok wellFormed with ⟨start, stop, total, trimmed, accepted, -, visible⟩
  rcases validateSchemaSyntax_ok extended with ⟨start', stop', all, trimmed', accepted', -, -⟩
  rcases trimBounds_eq_some.mp trimmed with ⟨begins, ends, nonempty⟩
  rcases trimBounds_eq_some.mp trimmed' with ⟨begins', ends', -⟩
  have bounded : stop <= older.length := trimRight_le ends
  -- the first definition does not end in white space, so its region is the whole string
  have whole : stop = older.length := by
    rcases Nat.exists_eq_succ_of_ne_zero (show older.length ≠ 0 by omega) with ⟨last, length⟩
    have present : last < older.length := by omega
    have stored := List.getElem?_eq_getElem present
    have unspaced : older[last] ≠ space := by
      intro spaced
      refine not_space_before_comma lexical (length ▸ stops) ?_
      rw [agree last present, stored, spaced]
    have kept := isAsciiWhitespace_of_visible visible (getElem_mem present) unspaced
    have reached := lt_of_trimRight ends (by omega) present stored kept
    omega
  subst whole
  have same : start' = start := by
    have begun := trimLeft_extend agree beyond begins nonempty (Nat.le_refl _) (Nat.le_refl _)
    exact Option.some.inj (begins'.symm.trans begun)
  subst same
  have later : older.length < stop' := lt_of_trimRight ends' (Nat.le_of_lt nonempty) beyond stops (by decide)
  rw [schemaFields, schemaFields, trimmed, trimmed']
  exact readFields_extend agree stops later nonempty (Nat.le_refl _) (Nat.le_refl _) accepted
    accepted'

end SchemaSyntax

end SorobanSas
