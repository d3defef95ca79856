import SorobanSas.Cli.Bulk
import SorobanSas.Common.SchemaFields

namespace SorobanSas.Cli

open Library List

/-!
# Payloads of migrated attestations

`decode_attestation_data` reads the ABI encoding of an EAS attestation.  The words of the payload are
whatever the source chain holds, so every sum of an offset and a length has to be checked.  All are
but the first one: `read_length` adds 32 to the offset before it compares.
-/

inductive SorobanType where
  | u64 | i32 | u128 | address | bytes | bytes32 | bool | string | symbol | u256

inductive SchemaMappingError where
  | unsupportedType (name : Text)
  | invalidType (name : Text) (reason : String)
  | emptySchema
  | duplicateField (name : Text)
  | invalidField (part : Text)
  | decodeError (schema reason : String)
  | dataLengthMismatch (schema : String) (expected found : Nat)

def SorobanType.asStr : SorobanType -> String
  | .u64 => "u64"
  | .i32 => "i32"
  | .u128 => "u128"
  | .address => "address"
  | .bytes => "bytes"
  | .bytes32 => "bytes32"
  | .bool => "bool"
  | .string => "string"
  | .symbol => "symbol"
  | .u256 => "u256"

/-- `SorobanSchemaField`, without what is kept for the audit log. -/
structure SorobanSchemaField where
  name : Text
  typeName : String
  sorobanType : SorobanType

structure SorobanSchema where
  name : String
  fields : List SorobanSchemaField

/-! ## Schemas -/

def parseFixedBytes (typeName : Text) : Option UInt64 :=
  if "bytes".toList.isPrefixOf typeName ∧ (typeName.drop 5).all Char.isDigit then
    (parseU64 (typeName.drop 5)).filter fun length => 1 <= length ∧ length <= 32
  else none

def mapEvmType (evmType : Text) : Except SchemaMappingError SorobanType :=
  let trimmed := trim evmType
  if trimmed = [] then .error (.invalidType evmType "type is empty")
  else if trimmed.getLast? = some ']' then .ok .bytes
  else match String.ofList trimmed with
    | "uint8" | "uint16" | "uint32" | "uint64" => .ok .u64
    | "uint128" | "int128" => .ok .u128
    | "uint256" | "int256" => .ok .u256
    | "int8" | "int16" | "int32" | "int64" => .ok .i32
    | "address" => .ok .address
    | "bool" => .ok .bool
    | "string" => .ok .string
    | "bytes" => .ok .bytes
    | "bytes32" => .ok .bytes32
    | _ => match parseFixedBytes trimmed with
      | some length => .ok (if length = 32 then .bytes32 else .bytes)
      | none => .error (.unsupportedType evmType)

/-- `parse_evm_schema`: the names and the types. -/
def parseEvmSchema (schema : Text) : Except SchemaMappingError (List (Text × Text)) := do
  let fields <- ((trim schema).splitOn ',').foldlM (fun fields raw =>
    let part := trim raw
    if part = [] then .ok fields
    else match (part.splitOnP fun c => SchemaSyntax.isWhitespace c.toNat).filter (· ≠ []) with
      | [typeName, name] => do
        require (name.all fun c => c.isAlphanum || c = '_') (.invalidField part)
        require (name ∉ fields.map Prod.fst) (.duplicateField name)
        return fields ++ [(name, typeName)]
      | _ => .error (.invalidField part)) []
  require (fields ≠ []) .emptySchema
  return fields

def translateSchema (name : String) (evmSchema : Text) : Except SchemaMappingError SorobanSchema := do
  let evmFields <- parseEvmSchema evmSchema
  let fields <- evmFields.mapM fun field => do
    let sorobanType <- mapEvmType field.2
    return ⟨field.1, sorobanType.asStr, sorobanType⟩
  return ⟨name, fields⟩

def SorobanSchema.asSasString (schema : SorobanSchema) : Text :=
  [','].intercalate (schema.fields.map fun field => field.name ++ ':' :: field.typeName.toList)

/-! ## What the registry makes of the string -/

/-- The bytes of a text. -/
def utf8 (text : Text) : Bytes := text.flatMap String.utf8EncodeChar

theorem space_mem_utf8 {text : Text} (member : SchemaSyntax.space ∈ utf8 text) : ' ' ∈ text := by
  rcases List.mem_flatMap.mp member with ⟨c, inside, member⟩
  suffices c = ' ' from this ▸ inside
  have bound := c.val.toNat_lt
  unfold String.utf8EncodeChar at member
  dsimp only at member
  split at member
  · have same := congrArg UInt8.toNat (List.mem_singleton.mp member)
    rw [UInt8.toNat_ofNat'] at same
    apply Char.ext
    apply UInt32.toNat.inj
    change 32 = _ at same
    change _ = 32
    omega
  · exfalso
    repeat' split at member
    all_goals
      simp [SchemaSyntax.space, ← UInt8.toNat_inj] at member
      omega

theorem notMem_intercalate {c : Char} {separator : Text} {parts : List Text} (between : c ∉ separator)
    (each : ∀ part ∈ parts, c ∉ part) : c ∉ separator.intercalate parts := by
  induction parts with
  | nil => exact not_mem_nil
  | cons part parts ih =>
    rw [forall_mem_cons] at each
    by_cases last : parts = []
    · rw [last, intercalate_singleton]
      exact each.1
    · simp [intercalate_cons_of_ne_nil last, each.1, between, ih each.2]

theorem parseEvmSchema_names {schema : Text} {fields : List (Text × Text)}
    (parsed : parseEvmSchema schema = .ok fields) : ∀ field ∈ fields, ' ' ∉ field.1 := by
  simp only [parseEvmSchema, eq_ok] at parsed
  rcases parsed with ⟨_, loop, -, rfl⟩
  refine foldlM_related (σ := List (Text × Text)) (fun first last => (∀ field ∈ first, ' ' ∉ field.1) ->
    ∀ field ∈ last, ' ' ∉ field.1) ⟨fun _ => id, fun first second => second ∘ first⟩ ?_ loop nofun
  intro raw _ fields next taken known
  split at taken
  · exact Except.ok.inj taken ▸ known
  · split at taken
    · simp only [eq_ok] at taken
      rcases taken with ⟨valid, -, rfl⟩
      rw [forall_mem_append, forall_mem_singleton]
      exact ⟨known, fun spaced => absurd (List.all_eq_true.mp valid ' ' spaced) (by decide)⟩
    · cases taken

theorem translateSchema_fields {name : String} {evmSchema : Text} {schema : SorobanSchema}
    (translated : translateSchema name evmSchema = .ok schema) :
    ∀ field ∈ schema.fields, ' ' ∉ field.name ++ ':' :: field.typeName.toList := by
  simp only [translateSchema, eq_ok, mapM_eq_ok] at translated
  rcases translated with ⟨evmFields, parsed, fields, mapped, rfl⟩
  have named := parseEvmSchema_names parsed
  clear parsed
  dsimp only
  induction mapped with
  | nil => simp
  | cons made _ ih =>
    rw [forall_mem_cons] at named ⊢
    refine ⟨?_, ih named.2⟩
    rcases made with ⟨sorobanType, -, rfl⟩
    have plain : ' ' ∉ sorobanType.asStr.toList := by cases sorobanType <;> decide
    simp [named.1, plain]

/-- No translated schema is accepted: a field is written with a colon, and the registry splits it at a
space. -/
theorem asSasString_refused (name : String) (evmSchema : Text) (schema : SorobanSchema)
    (translated : translateSchema name evmSchema = .ok schema) :
    SchemaSyntax.validateSchemaSyntax (utf8 schema.asSasString) ≠ .ok () := by
  intro valid
  refine notMem_intercalate (by decide) ?_ (space_mem_utf8 (SchemaSyntax.space_mem_of_valid valid))
  intro part member
  rcases List.mem_map.mp member with ⟨field, inside, rfl⟩
  exact translateSchema_fields translated field inside

/-- `bool ok` becomes `ok:bool`. -/
theorem asSasString_refused_flag : ∃ schema, translateSchema "s" "bool ok".toList = .ok schema ∧
    SchemaSyntax.validateSchemaSyntax (utf8 schema.asSasString) ≠ .ok () :=
  ⟨⟨"s", [⟨['o', 'k'], "bool", .bool⟩]⟩, rfl, asSasString_refused "s" "bool ok".toList _ rfl⟩

theorem asSasString_invalid : ∃ schema, translateSchema "s" "bool ok".toList = .ok schema ∧
    SchemaSyntax.validateSchemaSyntax (utf8 schema.asSasString) = .error .invalidSchemaDefinition :=
  ⟨⟨"s", [⟨['o', 'k'], "bool", .bool⟩]⟩, rfl, rfl⟩

/-! ## Payloads -/

inductive DecodedValue where
  | u64 (value : UInt64)
  | i32 (value : Int32)
  | u128 (value : BitVec 128)
  | u256 (hex : Text)
  | address (hex : Text)
  | bytes (hex : Text)
  | bytes32 (hex : Text)
  | bool (value : Bool)
  | string (text : Text)

/-- How a function ends that returns no value. -/
inductive Abort where
  | error (reason : SchemaMappingError)
  | overflow
  | outOfBounds

/-- The value of a sum or of a product of `usize`. -/
def usize (value : Nat) : Except Abort Nat := do
  require (value < 2 ^ 64) .overflow
  return value

theorem usize_eq {value : Nat} (small : value < 2 ^ 64) : usize value = .ok value := by
  rw [usize, require, if_pos small]
  rfl

/-- The bytes from `start` up to `stop`. -/
def slice (data : Bytes) (start stop : Nat) : Except Abort Bytes := do
  require (start <= stop ∧ stop <= data.length) .outOfBounds
  return (data.take stop).drop start

def readU64 (word : Bytes) : Except Abort UInt64 := do
  require (word.length = 32) (.error (.decodeError "attestation" "expected 32-byte word"))
  let low <- slice word 24 32
  return fromBeBytes low

def readI32 (word : Bytes) : Except Abort Int32 := do
  require (word.length = 32) (.error (.decodeError "attestation" "expected 32-byte word"))
  let low <- slice word 28 32
  return .ofInt (fromBigEndian low)

def readU128 (word : Bytes) : Except Abort (BitVec 128) := do
  let low <- slice word 16 32
  return .ofNat 128 (fromBigEndian low)

def readLength (data : Bytes) (offset : Nat) : Except Abort Nat := do
  let stop <- usize (offset + 32)
  require (stop <= data.length) (.error (.decodeError "attestation" "dynamic offset out of bounds"))
  let word <- slice data offset stop
  let length <- readU64 word
  return length.toNat

section Decoder

variable (hexEncode fromUtf8Lossy : Bytes -> Text) (schema : String) (data : Bytes)

/-- The branch for a field whose head is an offset. -/
def readDynamic (name : Text) (head : Bytes) : Except Abort Bytes := do
  let offset <- readU64 head
  let length <- readLength data offset.toNat
  let start <- usize (offset.toNat + 32)
  require (start + length < 2 ^ 64)
    (.error (.decodeError schema s!"bytes overflow for field `{String.ofList name}`"))
  require (start + length <= data.length) (.error (.dataLengthMismatch schema (start + length) data.length))
  slice data start (start + length)

/-- One turn of the loop over the fields. -/
def decodeField (field : SorobanSchemaField) (index : Nat) : Except Abort DecodedValue := do
  let start <- usize (index * 32)
  let stop <- usize (start + 32)
  let head <- slice data start stop
  match field.sorobanType with
  | .u64 => return .u64 (<- readU64 head)
  | .i32 => return .i32 (<- readI32 head)
  | .u128 => return .u128 (<- readU128 head)
  | .u256 => return .u256 (hexEncode head)
  | .address => do
      let raw <- slice data (start + 12) stop
      let trimmed := (hexEncode raw).dropWhile (· = '0')
      return .address (if trimmed = [] then ['0'] else trimmed)
  | .bytes32 => return .bytes32 (hexEncode head)
  | .bool => do
      let last <- expect head[31]? .outOfBounds
      let front <- slice head 0 31
      require (¬ (1 < last ∨ front.any (· ≠ 0)))
        (.error (.decodeError schema s!"invalid bool encoding for field `{String.ofList field.name}`"))
      return .bool (last = 1)
  | .bytes => return .bytes (hexEncode (<- readDynamic schema data field.name head))
  | .string | .symbol => return .string (fromUtf8Lossy (<- readDynamic schema data field.name head))

end Decoder

/-- With two conversions of bytes to text: to hexadecimal digits, and as UTF-8 with what is not UTF-8
replaced. -/
def decodeAttestationData (hexEncode fromUtf8Lossy : Bytes -> Text) (schema : SorobanSchema) (data : Bytes) :
    Except Abort (List DecodedValue) := do
  let width <- usize (schema.fields.length * 32)
  require (width <= data.length) (.error (.dataLengthMismatch schema.name width data.length))
  schema.fields.zipIdx.mapM fun entry => decodeField hexEncode fromUtf8Lossy schema.name data entry.1 entry.2

/-! ## It returns -/

/-- The function returns, with a value or with an error. -/
def Returns {α : Type} (computation : Except Abort α) : Prop :=
  ∀ abort, computation = .error abort -> ∃ reason, abort = .error reason

namespace Returns

variable {α β : Type}

theorem pure (value : α) : Returns (pure value) := nofun

theorem bind {first : Except Abort α} {next : α -> Except Abort β} (returns : Returns first)
    (rest : ∀ value, first = .ok value -> Returns (next value)) : Returns (first >>= next) := by
  cases first with
  | ok value => exact rest value rfl
  | error abort =>
    rintro _ ⟨⟩
    exact returns _ rfl

theorem check {condition : Prop} [Decidable condition] {reason : SchemaMappingError}
    {next : Unit -> Except Abort β} (rest : condition -> Returns (next ())) :
    Returns (require condition (.error reason) >>= next) := by
  by_cases holds : condition
  · rw [require, if_pos holds]
    exact rest holds
  · rw [require, if_neg holds]
    rintro _ ⟨⟩
    exact ⟨reason, rfl⟩

theorem usize {value : Nat} {next : Nat -> Except Abort β} (small : value < 2 ^ 64)
    (rest : Returns (next value)) : Returns (usize value >>= next) := by
  rw [usize_eq small]
  exact rest

theorem slice {data : Bytes} {start stop : Nat} {next : Bytes -> Except Abort β} (ordered : start <= stop)
    (inside : stop <= data.length) (rest : Returns (next ((data.take stop).drop start))) :
    Returns (slice data start stop >>= next) := by
  rw [Cli.slice, require, if_pos ⟨ordered, inside⟩]
  exact rest

/-- A loop returns if every turn does that it gets to. -/
theorem mapM_iff {f : α -> Except Abort β} {items : List α} : Returns (items.mapM f) ↔
    ∀ earlier item later, items = earlier ++ item :: later -> (∀ other ∈ earlier, (f other).isOk = true) ->
      Returns (f item) := by
  induction items with
  | nil => simp [Returns, Pure.pure, Except.pure]
  | cons head items ih =>
    rw [List.mapM_cons]
    constructor
    · rintro returns (_ | ⟨_, earlier⟩) item later ⟨⟩ passed abort failed
      · exact returns abort (by rw [failed]; rfl)
      · rw [forall_mem_cons] at passed
        rcases exists_of_isOk passed.1 with ⟨value, done⟩
        refine ih.mp (fun abort failed => ?_) earlier item later rfl passed.2 abort failed
        exact returns abort (by rw [done, failed]; rfl)
    · intro each
      refine .bind (each [] head items rfl nofun) fun value done => .bind (ih.mpr ?_) fun _ _ => .pure _
      intro earlier item later split passed
      refine each (head :: earlier) item later (by rw [split]; rfl) ?_
      rw [forall_mem_cons, done]
      exact ⟨rfl, passed⟩

end Returns

/-- The field lies behind an offset. -/
def SorobanType.dynamic : SorobanType -> Bool
  | .bytes | .string | .symbol => true
  | _ => false

section Payloads

variable {data : Bytes}

theorem readU64_returns (word : Bytes) : Returns (readU64 word) :=
  .check fun full => .slice (by decide) (Nat.le_of_eq full.symm) (.pure _)

theorem readLength_returns {offset : Nat} (small : offset + 32 < 2 ^ 64) : Returns (readLength data offset) :=
  .usize small (.check fun inside => .slice (Nat.le_add_right offset 32) inside
    (.bind (readU64_returns _) fun _ _ => .pure _))

theorem readDynamic_returns {schema : String} {name : Text} {head : Bytes}
    (small : ∀ offset, readU64 head = .ok offset -> offset.toNat + 32 < 2 ^ 64) :
    Returns (readDynamic schema data name head) := by
  refine .bind (readU64_returns head) fun offset read => ?_
  refine .bind (readLength_returns (small offset read)) fun length _ => .usize (small offset read) ?_
  refine .check fun _ => .check fun inside => ?_
  rw [← bind_pure (slice data _ _)]
  exact .slice (Nat.le_add_right _ length) inside (.pure _)

/-- The offset in the head of the field is not among the last 32. -/
def OffsetFits (data : Bytes) (index : Nat) : Prop :=
  ∀ head offset, slice data (index * 32) (index * 32 + 32) = .ok head -> readU64 head = .ok offset ->
    offset.toNat + 32 < 2 ^ 64

variable {hexEncode fromUtf8Lossy : Bytes -> Text} {schema : String} {field : SorobanSchemaField} {index : Nat}

theorem decodeField_returns (inside : index * 32 + 32 <= data.length) (representable : data.length < 2 ^ 64)
    (fits : field.sorobanType.dynamic = true -> OffsetFits data index) :
    Returns (decodeField hexEncode fromUtf8Lossy schema data field index) := by
  refine .usize (by omega) (.usize (by omega) (.slice (Nat.le_add_right _ _) inside ?_))
  have full : ((data.take (index * 32 + 32)).drop (index * 32)).length = 32 := by
    rw [length_drop, length_take_of_le inside, Nat.add_sub_cancel_left]
  generalize same : (data.take (index * 32 + 32)).drop (index * 32) = head at full ⊢
  have dynamic (behind : field.sorobanType.dynamic = true) : Returns (readDynamic schema data field.name head) := by
    refine readDynamic_returns fun offset => fits behind head offset ?_
    rw [slice, require, if_pos ⟨Nat.le_add_right _ _, inside⟩, ← same]
    rfl
  cases kind : field.sorobanType with
  | u64 => exact .bind (readU64_returns _) fun _ _ => .pure _
  | i32 => exact .bind (.check fun _ => .slice (by decide) (Nat.le_of_eq full.symm) (.pure _)) fun _ _ => .pure _
  | u128 => exact .bind (.slice (by decide) (Nat.le_of_eq full.symm) (.pure _)) fun _ _ => .pure _
  | u256 | bytes32 => exact .pure _
  | address => exact .slice (by omega) inside (.pure _)
  | bool =>
    have last : head[31]? = some (head.get ⟨31, by omega⟩) := List.getElem?_eq_getElem _
    rw [last]
    exact .bind nofun fun _ _ => .slice (by decide) (by omega) (.check fun _ => .pure _)
  | bytes | string | symbol => exact .bind (dynamic (by rw [kind]; rfl)) fun _ _ => .pure _

theorem decodeField_overflows (small : index * 32 + 32 < 2 ^ 64) (dynamic : field.sorobanType.dynamic = true)
    {head : Bytes} {offset : UInt64} (sliced : slice data (index * 32) (index * 32 + 32) = .ok head)
    (read : readU64 head = .ok offset) (large : ¬ offset.toNat + 32 < 2 ^ 64) :
    decodeField hexEncode fromUtf8Lossy schema data field index = .error .overflow := by
  have length : readLength data offset.toNat = .error .overflow := by
    rw [readLength, usize, require, if_neg large]
    rfl
  have behind : readDynamic schema data field.name head = .error .overflow := by
    rw [readDynamic, read]
    change (readLength data offset.toNat >>= _) = _
    rw [length]
    rfl
  rw [decodeField, usize_eq (by omega)]
  change (usize (index * 32 + 32) >>= _) = _
  rw [usize_eq small]
  change (slice data (index * 32) (index * 32 + 32) >>= _) = _
  rw [sliced]
  cases kind : field.sorobanType with
  | bytes | string | symbol =>
    change (readDynamic schema data field.name head >>= _) = _
    rw [behind]
    rfl
  | _ =>
    rw [kind] at dynamic
    cases dynamic

/-- The decoder returns, exactly if no field that it gets to has an offset among the last 32.  The other
bounds hold of everything that fits the memory. -/
theorem decodeAttestationData_returns (hexEncode fromUtf8Lossy : Bytes -> Text) (schema : SorobanSchema) (data : Bytes)
    (representable : data.length < 2 ^ 63) (countable : schema.fields.length * 32 < 2 ^ 63) :
    Returns (decodeAttestationData hexEncode fromUtf8Lossy schema data) ↔
      (schema.fields.length * 32 <= data.length -> ∀ earlier field index later,
        schema.fields.zipIdx = earlier ++ (field, index) :: later -> field.sorobanType.dynamic = true ->
        (∀ other ∈ earlier, (decodeField hexEncode fromUtf8Lossy schema.name data other.1 other.2).isOk = true) ->
        OffsetFits data index) := by
  have inside {field : SorobanSchemaField} {index : Nat} (member : (field, index) ∈ schema.fields.zipIdx) :
      index < schema.fields.length := (List.getElem?_eq_some_iff.mp (List.mem_zipIdx_iff_getElem?.mp member)).1
  rw [decodeAttestationData, usize_eq (by omega)]
  change Returns (require (schema.fields.length * 32 <= data.length) _ >>= _) ↔ _
  by_cases wide : schema.fields.length * 32 <= data.length
  · rw [require, if_pos wide]
    change Returns (schema.fields.zipIdx.mapM _) ↔ _
    rw [Returns.mapM_iff]
    constructor
    · intro returns _ earlier field index later split dynamic passed head offset sliced read
      by_contra large
      have below := inside (split ▸ mem_append_right earlier List.mem_cons_self)
      rcases returns earlier (field, index) later split passed _
        (decodeField_overflows (by omega) dynamic sliced read large) with ⟨_, ⟨⟩⟩
    · rintro fits earlier ⟨field, index⟩ later split passed
      have below := inside (split ▸ mem_append_right earlier List.mem_cons_self)
      exact decodeField_returns (by dsimp only; omega) (by omega) fun dynamic =>
        fits wide earlier field index later split dynamic passed
  · rw [require, if_neg wide]
    refine iff_of_true ?_ fun wider => absurd wider wide
    rintro _ ⟨⟩
    exact ⟨_, rfl⟩

end Payloads

/-- An offset of 32, a length of one and one byte. -/
theorem decodeAttestationData_returns_text :
    let data := List.replicate 31 0 ++ [32] ++ List.replicate 31 0 ++ [1, 97]
    ∃ schema, translateSchema "s" "string x".toList = .ok schema ∧
      Returns (decodeAttestationData (fun _ => []) (fun _ => []) schema data) := by
  intro data
  refine ⟨_, rfl, (decodeAttestationData_returns _ _ _ data (by decide) (by decide)).mpr ?_⟩
  rintro - (_ | ⟨_, _⟩) field index later split dynamic passed head offset sliced read
  · cases split
    cases sliced
    have known : readU64 (List.replicate 31 0 ++ [32]) = .ok 32 := rfl
    rw [← Except.ok.inj (known.symm.trans read)]
    decide
  · simp at split

/-- The offset is the largest number. -/
theorem decodeAttestationData_overflows : ∃ schema, translateSchema "s" "string x".toList = .ok schema ∧
      decodeAttestationData (fun _ => []) (fun _ => []) schema (List.replicate 32 255) = .error .overflow :=
  ⟨_, rfl, rfl⟩

end SorobanSas.Cli
