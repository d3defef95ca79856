import SorobanSas.Js.Values
import Mathlib.Data.List.Sort
import Mathlib.Tactic.Positivity
import Mathlib.Tactic.Zify

namespace SorobanSas.Js
namespace Typegen

open Library List

/-!
# The encoder of the type generator

`encodeSchemaValue` encodes a record field by field.  A map is sorted by the XDR of its keys, and
the host wants it sorted by the keys themselves.  The XDR of a string starts with its length and the
XDR of a negative number with its sign bit, so the two orders differ.

The fields are those that `parseSchema` has read.  `Address.fromString` is the Stellar SDK's.  The
XDR writer's limits on lengths are checked where a value is built, and not when it is written.
-/

inductive SchemaType where
  | primitive (name : String)
  | array (item : SchemaType)
  | option (item : SchemaType)
  | vector (item : SchemaType)
  | map (key value : SchemaType)
  | tuple (items : List SchemaType)

structure SchemaField where
  name : JsString
  type : SchemaType

/-- One part of the path that an error names. -/
inductive PathPart where
  | field (name : JsString)
  | index (position : Nat)
  | key
  | entry (key : JsValue)

inductive EncodeError where
  /-- `invalid value for`, with the path and the description of the type. -/
  | invalid (path : List PathPart) (described : String)
  | missing (name : JsString)
  | unexpected (key : JsString)
  /-- An error of the Stellar SDK. -/
  | refused

/-- The property lookup of an object, inherited properties included, and its own keys. -/
structure JsRecord where
  keys : List JsString
  property : JsString -> Option JsValue

def normalizePrimitive (source : String) : String :=
  match String.ofList (source.toList.map Char.toLower) with
  | "uint8" | "uint16" | "uint32" | "u8" | "u16" => "u32"
  | "uint64" => "u64"
  | "uint128" => "u128"
  | "uint256" => "u256"
  | "int8" | "int16" | "int32" | "i8" | "i16" => "i32"
  | "int64" => "i64"
  | "int128" => "i128"
  | "int256" => "i256"
  | name => name

/-- What the tests on a normalized name tell apart. -/
inductive Primitive where
  | string
  | symbol
  | address
  | bool
  | bytes
  | bytesN (length : Option Nat)
  | integer (type : IntegerType)
  deriving DecidableEq

def primitive (name : String) : Option Primitive :=
  match name with
  | "string" => some .string
  | "symbol" => some .symbol
  | "address" | "account" => some .address
  | "bool" | "boolean" => some .bool
  | "bytes" => some .bytes
  | "bytesn" => some (.bytesN none)
  | "u32" => some (.integer .u32)
  | "i32" => some (.integer .i32)
  | "u64" => some (.integer .u64)
  | "i64" => some (.integer .i64)
  | "u128" => some (.integer .u128)
  | "i128" => some (.integer .i128)
  | "u256" => some (.integer .u256)
  | "i256" => some (.integer .i256)
  | name =>
    -- The regular expression of `bytesn<…>` with its decimal length.
    let digits := (name.toList.drop 7).dropLast
    if name.toList.take 7 = "bytesn<".toList ∧ name.toList.drop 7 = digits ++ ['>'] ∧
        digits ≠ [] ∧ digits.all Char.isDigit then
      some (.bytesN (some (digits.foldl (fun value digit => value * 10 + (digit.toNat - 48)) 0)))
    else
      none

/-- `Object.entries`, or the entries of a `Map`. -/
def entriesOf : JsValue -> Option (List (JsValue × JsValue))
  | .map entries => some entries
  | .object entries => some (entries.map fun (key, item) => (.string key, item))
  | .array items =>
    some (items.zipIdx.map fun (item, index) => (.string (units (toString index)), item))
  | .bytes content =>
    some (content.zipIdx.map fun (byte, index) => (.string (units (toString index)), .integer byte.toNat))
  | _ => none

variable (addressFromString : JsString -> Option Address) {kind : Primitive}

def encodePrimitive (path : List PathPart) (source : String) (value : JsValue) : Except EncodeError ScVal :=
  match primitive (normalizePrimitive source), value with
  | some .string, .string text => do
      require ((utf8 text).length < 2 ^ 32) .refused
      pure (.string text)
  | some .symbol, .string text => do
      require ((utf8 text).length <= 32) .refused
      pure (.symbol text)
  | some .address, .string text => do
      let address <- expect (addressFromString text) .refused
      pure (.address address)
  | some .bool, .bool value => pure (.bool value)
  | some .bytes, .bytes content => do
      require (content.length < 2 ^ 32) .refused
      pure (.bytes content)
  | some (.bytesN length), .bytes content => do
      require (∀ expected ∈ length, content.length = expected)
        (.invalid path source)
      require (content.length < 2 ^ 32) .refused
      pure (.bytes content)
  | some (.integer type), .integer value =>
    if type.width = 4 then do
      require (type.Fits value) (.invalid path source)
      pure (.integer type value)
    else do
      -- `Number.isSafeInteger`, and then as for a bigint.
      require (-(2 ^ 53) < value ∧ value < 2 ^ 53) (.invalid path source)
      require (type.signed ∨ 0 <= value) (.invalid path source)
      require (type.Fits value) .refused
      pure (.integer type value)
  | some (.integer type), .bigint value => do
      require (type.width ≠ 4 ∧ (type.signed ∨ 0 <= value)) (.invalid path source)
      require (type.Fits value) .refused
      pure (.integer type value)
  | _, _ => throw (.invalid path source)

/-- `Buffer.compare` of the keys' XDR, as the order in which an entry may stand before another. -/
def xdrOrder (first second : ScVal × ScVal) : Prop := first.1.toXdr <= second.1.toXdr

instance (first second : ScVal × ScVal) : Decidable (xdrOrder first second) := inferInstanceAs (Decidable (_ <= _))

mutual

def encodeValue : SchemaType -> JsValue -> List PathPart -> Except EncodeError ScVal
  | .option _, .null, _ => pure (.vec [.symbol (units "None")])
  | .option _, .undefined, _ => pure (.vec [.symbol (units "None")])
  | .option item, value, path => do
      let encoded <- encodeValue item value path
      pure (.vec [.symbol (units "Some"), encoded])
  | .array item, .array values, path => do
      let encoded <- values.zipIdx.mapM fun (value, index) =>
        encodeValue item value (path ++ [.index index])
      pure (.vec encoded)
  | .array _, _, path => throw (.invalid path "array")
  | .vector item, .array values, path => do
      let encoded <- values.zipIdx.mapM fun (value, index) =>
        encodeValue item value (path ++ [.index index])
      pure (.vec encoded)
  | .vector _, _, path => throw (.invalid path "vector")
  | .tuple items, .array values, path => do
      require (items.length = values.length) (.invalid path "tuple")
      let encoded <- encodeTuple items values.zipIdx path
      pure (.vec encoded)
  | .tuple _, _, path => throw (.invalid path "tuple")
  | .map key item, value, path => do
      let entries <- expect (entriesOf value) (.invalid path "map")
      let encoded <- entries.mapM fun (name, value) => do
        let encodedKey <- encodeValue key name (path ++ [.key])
        let encodedItem <- encodeValue item value (path ++ [.entry name])
        pure (encodedKey, encodedItem)
      pure (.map (encoded.insertionSort xdrOrder))
  | .primitive name, value, path => encodePrimitive addressFromString path name value

def encodeTuple : List SchemaType -> List (JsValue × Nat) -> List PathPart -> Except EncodeError (List ScVal)
  | type :: types, (value, index) :: values, path => do
      let encoded <- encodeValue type value (path ++ [.index index])
      let rest <- encodeTuple types values path
      pure (encoded :: rest)
  | _, _, _ => pure []

end

def encodeFields (fields : List SchemaField) (value : JsRecord) : Except EncodeError (List ScVal) := do
  whenSome (value.keys.find? (· ∉ fields.map SchemaField.name)) fun key => throw (.unexpected key)
  fields.mapM fun field => do
    let found <- expect (value.property field.name) (.missing field.name)
    encodeValue addressFromString field.type found [.field field.name]

def encodeSchemaValue (fields : List SchemaField) (value : JsRecord) : Except EncodeError Bytes := do
  let encoded <- encodeFields addressFromString fields value
  pure (ScVal.vec encoded).toXdr

/-! ## The order of the keys -/

/-- What the host compares of a key. -/
inductive HostKey where
  | number (type : IntegerType) (value : Int)
  | content (tag : Nat) (bytes : Bytes)
  /-- A key that is not of the types considered here. -/
  | other
  deriving DecidableEq

def hostKey : ScVal -> HostKey
  | .integer type value => .number type value
  | .bytes content => .content 13 content
  | .string text => .content 14 (utf8 text)
  | .symbol text => .content 15 (utf8 text)
  | _ => .other

/-- What the host will compare of a key that is given for a type. -/
def givenKey : Primitive -> JsValue -> HostKey
  | .integer type, .integer value => .number type value
  | .integer type, .bigint value => .number type value
  | .bytes, .bytes content => .content 13 content
  | .bytesN _, .bytes content => .content 13 content
  | .string, .string text => .content 14 (utf8 text)
  | .symbol, .string text => .content 15 (utf8 text)
  | _, _ => .other

def givenKeys (kind : Primitive) (given : List (JsValue × JsValue)) : List HostKey :=
  given.map fun entry => givenKey kind entry.1

def hostKeys (entries : List (ScVal × ScVal)) : List HostKey := entries.map fun entry => hostKey entry.1

namespace HostKey

/-- The order of the host: by value, or by the bytes from the first one on. -/
def Less : HostKey -> HostKey -> Prop
  | number type value, number type' value' => type = type' ∧ value < value'
  | content tag bytes, content tag' bytes' => tag = tag' ∧ bytes < bytes'
  | _, _ => False

/-- A longer key is not the lesser one, and a negative number does not meet one that is not. -/
def Aligned : HostKey -> HostKey -> Prop
  | number _ value, number _ value' => ¬ (0 <= value ∧ value' < 0)
  | content _ bytes, content _ bytes' => bytes.length < bytes'.length -> bytes < bytes'
  | _, _ => True

def xdr : HostKey -> Bytes
  | number type value => (ScVal.integer type value).toXdr
  | content tag bytes => Xdr.word tag ++ Xdr.lengthPrefixed bytes
  | other => []

end HostKey

/-- The keys of a type, within the limits of the XDR writer. -/
inductive KeyOf : Primitive -> HostKey -> Prop where
  | number {type : IntegerType} {value : Int} (fits : type.Fits value) : KeyOf (.integer type) (.number type value)
  | string {bytes : Bytes} (short : bytes.length < 2 ^ 32) : KeyOf .string (.content 14 bytes)
  | symbol {bytes : Bytes} (short : bytes.length < 2 ^ 32) : KeyOf .symbol (.content 15 bytes)
  | bytes {bytes : Bytes} (short : bytes.length < 2 ^ 32) : KeyOf .bytes (.content 13 bytes)
  | bytesN {length : Option Nat} {bytes : Bytes} (short : bytes.length < 2 ^ 32) :
      KeyOf (.bytesN length) (.content 13 bytes)

/-- The types whose keys the host compares as above. -/
def Primitive.Ordered : Primitive -> Prop
  | .address | .bool => False
  | _ => True

theorem encodePrimitive_key {path : List PathPart} {source : String} {value : JsValue}
    {encoded : ScVal} (accepted : encodePrimitive addressFromString path source value = .ok encoded)
    (named : primitive (normalizePrimitive source) = some kind) (ordered : kind.Ordered) :
    hostKey encoded = givenKey kind value ∧ KeyOf kind (hostKey encoded) ∧ (hostKey encoded).xdr = encoded.toXdr := by
  rw [encodePrimitive.eq_def, named] at accepted
  cases kind with
  | address | bool => exact ordered.elim
  | string =>
    cases value <;>
      simp only [eq_ok] at accepted
    rcases accepted with ⟨short, rfl⟩
    exact ⟨rfl, .string short, rfl⟩
  | symbol =>
    cases value <;>
      simp only [eq_ok] at accepted
    rcases accepted with ⟨short, rfl⟩
    exact ⟨rfl, .symbol (by omega), rfl⟩
  | bytes =>
    cases value <;>
      simp only [eq_ok] at accepted
    rcases accepted with ⟨short, rfl⟩
    exact ⟨rfl, .bytes short, rfl⟩
  | bytesN =>
    cases value <;>
      simp only [eq_ok] at accepted
    rcases accepted with ⟨_, short, rfl⟩
    exact ⟨rfl, .bytesN short, rfl⟩
  | integer type =>
    have fitting : ∃ number, type.Fits number ∧ encoded = .integer type number ∧
        givenKey (.integer type) value = .number type number := by
      cases value <;> simp only [throw_eq_ok] at accepted
      · split at accepted <;>
          simp only [eq_ok] at accepted
        · exact ⟨_, accepted.1, accepted.2.symm, rfl⟩
        · exact ⟨_, accepted.2.2.1, accepted.2.2.2.symm, rfl⟩
      · simp only [eq_ok] at accepted
        exact ⟨_, accepted.2.1, accepted.2.2.symm, rfl⟩
    rcases fitting with ⟨number, fits, rfl, same⟩
    exact ⟨same.symm, .number fits, rfl⟩

theorem number_xdr_le {type : IntegerType} {value value' : Int} :
    (HostKey.number type value).xdr <= (HostKey.number type value').xdr <->
      value % 256 ^ type.width <= value' % 256 ^ type.width := by
  have positive : (0 : Int) < 256 ^ type.width := by positivity
  have residue : ∀ number : Int, ((number % 256 ^ type.width).toNat : Int) =
      number % 256 ^ type.width := fun number => Int.toNat_of_nonneg (Int.emod_nonneg _ positive.ne')
  have bound : ∀ number : Int, (number % 256 ^ type.width).toNat < 256 ^ type.width := by
    intro number
    have below := Int.emod_lt_of_pos number positive
    have cast := residue number
    zify
    omega
  rw [← List.not_lt, HostKey.xdr, HostKey.xdr, ScVal.toXdr, ScVal.toXdr,
    append_lt_append (by simp), bigEndian_lt (bound _) (bound _)]
  have := residue value
  have := residue value'
  simp
  omega

theorem content_xdr_le {tag : Nat} {bytes bytes' : Bytes} (short : bytes.length < 2 ^ 32)
    (short' : bytes'.length < 2 ^ 32) : (HostKey.content tag bytes).xdr <= (HostKey.content tag bytes').xdr <->
      bytes.length < bytes'.length ∨ bytes.length = bytes'.length ∧ bytes <= bytes' := by
  have lengths : Xdr.word bytes'.length < Xdr.word bytes.length <-> bytes'.length < bytes.length :=
    bigEndian_lt short' short
  have sameLength : Xdr.word bytes'.length = Xdr.word bytes.length <->
      bytes'.length = bytes.length := ⟨bigEndian_injective short' short, congrArg _⟩
  rw [← List.not_lt, ← List.not_lt, HostKey.xdr, HostKey.xdr, append_lt_append rfl,
    Xdr.lengthPrefixed, Xdr.lengthPrefixed, List.append_assoc, List.append_assoc,
    append_lt_append (by simp [Xdr.word]), lengths, sameLength]
  by_cases same : bytes'.length = bytes.length
  · rw [append_lt_append same, same]
    simp
  · simp [same]
    omega

variable {first second : HostKey}

/-- Two keys of one type are two numbers of one type or two byte strings with one tag. -/
theorem KeyOf.alike {kind : Primitive} (ofFirst : KeyOf kind first) (ofSecond : KeyOf kind second) :
    (∃ type value value', IntegerType.Fits type value ∧ type.Fits value' ∧
      first = .number type value ∧ second = .number type value') ∨
    ∃ tag bytes bytes', bytes.length < 2 ^ 32 ∧ bytes'.length < 2 ^ 32 ∧
      first = .content tag bytes ∧ second = .content tag bytes' := by
  cases ofFirst with
  | number fits =>
    rcases ofSecond with ⟨fits'⟩
    exact .inl ⟨_, _, _, fits, fits', rfl, rfl⟩
  | string short | symbol short | bytes short | bytesN short =>
    rcases ofSecond with _ | short' | short' | short' | short'
    exact .inr ⟨_, _, _, short, short', rfl, rfl⟩

theorem residue_eq {type : IntegerType} {value : Int} (fits : type.Fits value) :
    value % 256 ^ type.width = if 0 <= value then value else value + 256 ^ type.width := by
  rcases fits with ⟨lower, upper⟩
  have positive : (0 : Int) < 256 ^ type.width := by positivity
  have least : -(256 ^ type.width : Int) <= type.least ∧ type.least <= 0 := by
    unfold IntegerType.least
    split <;> omega
  split
  · exact Int.emod_eq_of_lt (by omega) (by omega)
  · rw [← Int.add_emod_right]
    exact Int.emod_eq_of_lt (by omega) (by omega)

/-- The XDR order of two aligned keys is that of the host. -/
theorem less_of_aligned (ofFirst : KeyOf kind first) (ofSecond : KeyOf kind second)
    (sorted : first.xdr <= second.xdr) (different : first ≠ second) (aligned : first.Aligned second) :
    first.Less second := by
  rcases ofFirst.alike ofSecond with ⟨type, value, value', fits, fits', rfl, rfl⟩ |
    ⟨tag, bytes, bytes', short, short', rfl, rfl⟩
  · rw [number_xdr_le, residue_eq fits, residue_eq fits'] at sorted
    have apart : value ≠ value' := fun same => different (same ▸ rfl)
    have sameSign : ¬ (0 <= value ∧ value' < 0) := aligned
    have lower := fits.1
    have upper := fits'.2
    refine ⟨rfl, ?_⟩
    split at sorted <;> split at sorted <;> omega
  · rw [content_xdr_le short short'] at sorted
    refine ⟨rfl, ?_⟩
    rcases sorted with shorter | ⟨_, order⟩
    · exact aligned shorter
    · exact Std.lt_of_le_of_ne order fun same => different (same ▸ rfl)

/-- The XDR order of two misaligned keys is not that of the host. -/
theorem misaligned_xdr (ofFirst : KeyOf kind first) (ofSecond : KeyOf kind second)
    (misaligned : ¬ first.Aligned second) : ¬ first.Less second ∧ ¬ second.xdr <= first.xdr := by
  rcases ofFirst.alike ofSecond with ⟨type, value, value', fits, fits', rfl, rfl⟩ |
    ⟨tag, bytes, bytes', short, short', rfl, rfl⟩
  · rcases not_not.mp misaligned with ⟨positive, negative⟩
    rw [number_xdr_le, residue_eq fits, residue_eq fits', if_pos positive, if_neg (by omega)]
    have upper := fits.2
    have lower := fits'.1
    exact ⟨fun less => absurd less.2 (by omega), by omega⟩
  · rcases Classical.not_imp.mp misaligned with ⟨shorter, notLess⟩
    rw [content_xdr_le short' short]
    exact ⟨fun less => notLess less.2, by omega⟩

/-- Keys in the order of their XDR are in the order of the host if no two are misaligned. -/
theorem sorted_iff_aligned {keys : List HostKey} (typed : ∀ key ∈ keys, KeyOf kind key)
    (sorted : keys.Pairwise fun first second => first.xdr <= second.xdr) :
    keys.Pairwise HostKey.Less <-> keys.Nodup ∧ ∀ first ∈ keys, ∀ second ∈ keys, first.Aligned second := by
  constructor
  · intro increasing
    refine ⟨increasing.imp ?_, ?_⟩
    · rintro first second less rfl
      cases first with
      | number => exact lt_irrefl _ less.2
      | content => exact List.lt_irrefl _ less.2
      | other => exact less
    · intro first inFirst second inSecond
      by_contra misaligned
      rcases misaligned_xdr (typed _ inFirst) (typed _ inSecond) misaligned with ⟨notLess, later⟩
      let either (a b : HostKey) : Prop := (a.xdr <= b.xdr ∧ a.Less b) ∨ (b.xdr <= a.xdr ∧ b.Less a)
      have symmetric : Std.Symm either := ⟨fun _ _ => Or.symm⟩
      have ordered : keys.Pairwise either := (sorted.and increasing).imp .inl
      have different : first ≠ second := by
        rintro rfl
        exact later (List.le_refl _)
      rcases ordered.forall inFirst inSecond different with order | order
      · exact notLess order.2
      · exact later order.1
  · rintro ⟨different, aligned⟩
    refine (sorted.and different).imp_of_mem ?_
    rintro first second inFirst inSecond ⟨order, apart⟩
    exact less_of_aligned (typed _ inFirst) (typed _ inSecond) order apart (aligned _ inFirst _ inSecond)

instance : Std.Total xdrOrder := ⟨fun _ _ => Std.le_total⟩

instance : IsTrans (ScVal × ScVal) xdrOrder := ⟨fun _ _ _ => Std.le_trans⟩

/-- A map is encoded with its keys in the order of their XDR. -/
theorem encodeValue_map {key item : SchemaType} {value : JsValue} {path : List PathPart} {encoded : ScVal}
    (accepted : encodeValue addressFromString (.map key item) value path = .ok encoded) :
    ∃ given encodings entries, entriesOf value = some given ∧ encoded = .map entries ∧
      entries.Perm encodings ∧ entries.Pairwise xdrOrder ∧ Forall₂ (fun entry (encoding : ScVal × ScVal) =>
        encodeValue addressFromString key entry.1 (path ++ [.key]) = .ok encoding.1) given encodings := by
  simp only [encodeValue, eq_ok, mapM_eq_ok] at accepted
  rcases accepted with ⟨given, listed, encodings, each, rfl⟩
  refine ⟨given, encodings, _, listed, rfl, perm_insertionSort _ _, pairwise_insertionSort _ _, each.imp ?_⟩
  rintro ⟨name, value⟩ _ ⟨_, encodes, _, _, rfl⟩
  exact encodes

/-- The keys of an encoded map are those that were given.  They are in the order of the host exactly if
the given ones differ and no two of them are misaligned. -/
theorem map_sorted_iff_aligned (fields : List SchemaField) (record : JsRecord) (bytes : Bytes)
    (accepted : encodeSchemaValue addressFromString fields record = .ok bytes)
    (index : Nat) (name : JsString) (key : String) (kind : Primitive) (item : SchemaType)
    (field : fields[index]? = some ⟨name, .map (.primitive key) item⟩)
    (named : primitive (normalizePrimitive key) = some kind) (ordered : kind.Ordered) :
    ∃ value given values entries, record.property name = some value ∧ entriesOf value = some given ∧
      bytes = (ScVal.vec values).toXdr ∧ values[index]? = some (.map entries) ∧
      (hostKeys entries).Perm (givenKeys kind given) ∧
      ((hostKeys entries).Pairwise HostKey.Less <-> (givenKeys kind given).Nodup ∧
        forall first, first ∈ givenKeys kind given -> forall second, second ∈ givenKeys kind given ->
          first.Aligned second) := by
  simp only [encodeSchemaValue, encodeFields, bind_eq_ok, pure_eq_ok, mapM_eq_ok, expect_eq_ok] at accepted
  rcases accepted with ⟨values, ⟨_, _, each⟩, rfl⟩
  rcases List.getElem?_eq_some_iff.mp field with ⟨bound, listed⟩
  have bound' : index < values.length := each.length_eq ▸ bound
  have encodes := each.get bound bound'
  rw [get_eq_getElem, listed] at encodes
  rcases encodes with ⟨value, found, encodes⟩
  rcases encodeValue_map addressFromString encodes with ⟨given, encodings, entries, of, isMap, perm, sorted, typed⟩
  have keys := typed.imp fun entry encoding encodes => by
    rw [encodeValue] at encodes
    exact encodePrimitive_key addressFromString encodes named ordered
  have same : hostKeys encodings = givenKeys kind given := by
    have alike : Forall₂ Eq (givenKeys kind given) (hostKeys encodings) :=
      forall₂_map_left_iff.mpr (forall₂_map_right_iff.mpr (keys.imp fun _ _ fact => fact.1.symm))
    rw [forall₂_eq_eq_eq] at alike
    exact alike.symm
  have permuted : (hostKeys entries).Perm (givenKeys kind given) := same ▸ perm.map _
  have each (entry : ScVal × ScVal) (member : entry ∈ entries) :
      KeyOf kind (hostKey entry.1) ∧ (hostKey entry.1).xdr = entry.1.toXdr :=
    ((forall₂_and_left _ _).mp (keys.flip.imp fun _ _ => And.symm)).1 entry (perm.mem_iff.mp member)
  refine ⟨value, given, values, entries, found, of, rfl, List.getElem?_eq_some_iff.mpr ⟨bound', isMap⟩, permuted, ?_⟩
  simp only [← permuted.nodup_iff, ← permuted.mem_iff]
  apply sorted_iff_aligned
  · intro hosted member
    rcases List.mem_map.mp member with ⟨entry, listed, rfl⟩
    exact (each entry listed).1
  · rw [hostKeys, pairwise_map]
    refine sorted.imp_of_mem ?_
    intro first second inFirst inSecond order
    rw [(each first inFirst).2, (each second inSecond).2]
    exact order

def wordCounts : List SchemaField := [⟨units "m", .map (.primitive "string") (.primitive "u32")⟩]

/-- A record whose field is a map with two keys. -/
def twoWords (first second : String) : JsRecord where
  keys := [units "m"]
  property name := if name = units "m" then
    some (.map [(.string (units first), .integer 1), (.string (units second), .integer 2)]) else none

/-- Two keys of one length, given in the wrong order. -/
theorem map_sorted_iff_aligned_letters :
    ∃ bytes values entries, encodeSchemaValue (fun _ => none) wordCounts (twoWords "b" "a") = .ok bytes ∧
      bytes = (ScVal.vec values).toXdr ∧ values[0]? = some (.map entries) ∧
      (hostKeys entries).Pairwise HostKey.Less := by
  rcases map_sorted_iff_aligned (fun _ => none) wordCounts (twoWords "b" "a") _ rfl 0 _ _ .string _ rfl (by decide)
    trivial with ⟨_, _, values, entries, ⟨⟩, ⟨⟩, encoded, listed, -, sorted⟩
  refine ⟨_, values, entries, rfl, encoded, listed, sorted.mpr ⟨by decide, ?_⟩⟩
  intro first one second two
  simp only [givenKeys, map_cons, map_nil, mem_cons, not_mem_nil, or_false] at one two
  rcases one with rfl | rfl <;> rcases two with rfl | rfl <;> exact fun shorter => absurd shorter (by decide)

/-- The entries of a map with the keys aa and b, as they are encoded. -/
def encodedWords : List (ScVal × ScVal) :=
  [(.string (units "b"), .integer .u32 2), (.string (units "aa"), .integer .u32 1)]

theorem shorter_key_first :
    encodeSchemaValue (fun _ => none) wordCounts (twoWords "aa" "b") = .ok (ScVal.vec [.map encodedWords]).toXdr ∧
      (hostKeys encodedWords).Nodup ∧ ¬ (hostKeys encodedWords).Pairwise HostKey.Less := by
  refine ⟨rfl, by decide, ?_⟩
  intro increasing
  have less := (List.pairwise_cons.mp increasing).1 _ mem_cons_self
  exact absurd less.2 (by decide)

end Typegen
end SorobanSas.Js
