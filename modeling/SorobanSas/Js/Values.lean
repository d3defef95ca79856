import SorobanSas.Common.Hashing

namespace SorobanSas.Js

/-!
# JavaScript values and ScVals

The payload codecs of the SDK read JavaScript values and build ScVals with the Stellar SDK.  Values
are told apart as far as the codecs do.  Strings keep their UTF-16 code units; the XDR writer turns
them into UTF-8.
-/

/-- A string is the list of its UTF-16 code units. -/
abbrev JsString := List UInt16

/-- The code units of an ASCII text. -/
def units (literal : String) : JsString := literal.toList.map fun character => UInt16.ofNat character.toNat

/-- A code unit that is not half of a pair; a surrogate becomes the replacement character. -/
def loneUnit (unit : UInt16) : Bytes :=
  String.utf8EncodeChar
    (if 0xd800 <= unit ∧ unit < 0xe000 then Char.ofNat 0xfffd else Char.ofNat unit.toNat)

/-- The UTF-8 form that `Buffer.from` gives a string. -/
def utf8 : JsString -> Bytes
  | high :: low :: rest =>
    if 0xd800 <= high ∧ high < 0xdc00 ∧ 0xdc00 <= low ∧ low < 0xe000 then
      let point := 0x10000 + (high.toNat - 0xd800) * 0x400 + (low.toNat - 0xdc00)
      String.utf8EncodeChar (Char.ofNat point) ++ utf8 rest
    else
      loneUnit high ++ utf8 (low :: rest)
  | [unit] => loneUnit unit
  | [] => []

inductive JsValue where
  | undefined
  | null
  | bool (value : Bool)
  /-- A Number that is an integer. -/
  | integer (value : Int)
  /-- Any other Number. -/
  | number
  | bigint (value : Int)
  | string (text : JsString)
  /-- A `Uint8Array`. -/
  | bytes (content : Bytes)
  | array (items : List JsValue)
  /-- A `Map`. -/
  | map (entries : List (JsValue × JsValue))
  | object (entries : List (JsString × JsValue))
  /-- A function or a symbol. -/
  | other

inductive IntegerType where
  | u32 | i32 | u64 | i64 | u128 | i128 | u256 | i256
  deriving DecidableEq, Repr

namespace IntegerType

def signed : IntegerType -> Bool
  | u32 | u64 | u128 | u256 => false
  | i32 | i64 | i128 | i256 => true

def width : IntegerType -> Nat
  | u32 | i32 => 4
  | u64 | i64 => 8
  | u128 | i128 => 16
  | u256 | i256 => 32

def tag : IntegerType -> Nat
  | u32 => 3
  | i32 => 4
  | u64 => 5
  | i64 => 6
  | u128 => 9
  | i128 => 10
  | u256 => 11
  | i256 => 12

def least (type : IntegerType) : Int := if type.signed then -(256 ^ type.width / 2) else 0

def Fits (type : IntegerType) (value : Int) : Prop := type.least <= value ∧ value < type.least + 256 ^ type.width

instance (type : IntegerType) (value : Int) : Decidable (type.Fits value) := inferInstanceAs (Decidable (_ ∧ _))

end IntegerType

inductive ScVal where
  | bool (value : Bool)
  | void
  | integer (type : IntegerType) (value : Int)
  | bytes (content : Bytes)
  | string (text : JsString)
  | symbol (text : JsString)
  | vec (items : List ScVal)
  | map (entries : List (ScVal × ScVal))
  | address (address : Address)
  /-- Any other value, by its XDR. -/
  | other (xdr : Bytes)

mutual

def ScVal.toXdr : ScVal -> Bytes
  | .bool value => Xdr.word 0 ++ Xdr.word value.toNat
  | .void => Xdr.word 1
  | .integer type value =>
    Xdr.word type.tag ++ Library.bigEndian type.width (value % 256 ^ type.width).toNat
  | .bytes content => Xdr.scBytes content
  | .string text => Xdr.scString (utf8 text)
  | .symbol text => Xdr.word 15 ++ Xdr.lengthPrefixed (utf8 text)
  | .vec items => Xdr.word 16 ++ Xdr.word 1 ++ Xdr.word items.length ++ itemsXdr items
  | .map entries => Xdr.word 17 ++ Xdr.word 1 ++ Xdr.word entries.length ++ entriesXdr entries
  | .address address => Xdr.scAddress address
  | .other xdr => xdr

def itemsXdr : List ScVal -> Bytes
  | [] => []
  | item :: rest => item.toXdr ++ itemsXdr rest

def entriesXdr : List (ScVal × ScVal) -> Bytes
  | [] => []
  | entry :: rest => entryXdr entry ++ entriesXdr rest

def entryXdr : ScVal × ScVal -> Bytes
  | (key, value) => key.toXdr ++ value.toXdr

end

end SorobanSas.Js
