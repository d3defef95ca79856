import SorobanSas.Js.Values
import Mathlib.Tactic.IntervalCases

namespace SorobanSas.Js.QrCode

open List

/-!
# Data codewords of a QR code

`encodeQrCode` writes a text bit by bit into a buffer, pads it and cuts it to the capacity of the version.
The version is chosen for a count of 8 bits, while the versions from 10 on have one of 16.
-/

/-- `VersionInfo`, without what places the modules and the error correction. -/
structure VersionInfo where
  version : Nat
  totalDataBytes : Nat

def versionTableM : List VersionInfo :=
  [⟨1, 16⟩, ⟨2, 28⟩, ⟨3, 44⟩, ⟨4, 64⟩, ⟨5, 86⟩, ⟨6, 108⟩, ⟨7, 124⟩, ⟨8, 154⟩, ⟨9, 182⟩, ⟨10, 216⟩,
    ⟨11, 254⟩, ⟨12, 290⟩, ⟨13, 334⟩, ⟨14, 365⟩]

structure BitBuffer where
  buffer : Bytes
  length : Nat

namespace BitBuffer

def putBit (bits : BitBuffer) (bit : Bool) : BitBuffer :=
  let bufIndex := bits.length / 8
  let buffer := if bits.buffer.length <= bufIndex then bits.buffer ++ [0] else bits.buffer
  ⟨if bit then buffer.modify bufIndex (· ||| 0x80 >>> UInt8.ofNat (bits.length % 8)) else buffer, bits.length + 1⟩

def put (bits : BitBuffer) (num length : Nat) : BitBuffer :=
  (range length).foldl (fun bits i => bits.putBit (num.testBit (length - i - 1))) bits

/-- The loop that completes a byte. -/
def complete : Nat -> BitBuffer -> BitBuffer
  | 0, bits => bits
  | fuel + 1, bits => if bits.length % 8 ≠ 0 then complete fuel (bits.putBit false) else bits

/-- The loop over the padding bytes. -/
def fill (maxBits : Nat) : Nat -> Nat -> BitBuffer -> BitBuffer
  | 0, _, bits => bits
  | fuel + 1, padByte, bits =>
    if bits.length < maxBits then
      fill maxBits fuel (if padByte = 0xec then 0x11 else 0xec) (bits.put padByte 8)
    else bits

end BitBuffer

def selectVersion (dataLen : Nat) : VersionInfo :=
  (versionTableM.find? fun v => (4 + 8 + dataLen * 8 + 7) / 8 <= v.totalDataBytes).getD ⟨14, 365⟩

def countBits (version : Nat) : Nat := if version < 10 then 8 else 16

/-- `rawData`.  A terminator of negative length is none. -/
def dataCodewords (selected : VersionInfo) (utf8Bytes : Bytes) : Bytes :=
  let bb := (BitBuffer.mk [] 0).put 0x04 4
  let bb := bb.put utf8Bytes.length (countBits selected.version)
  let bb := utf8Bytes.foldl (fun bb byte => bb.put byte.toNat 8) bb
  let maxBits := selected.totalDataBytes * 8
  let bb := bb.put 0 (min 4 (maxBits - bb.length))
  ((bb.complete 8).fill maxBits maxBits 0xec).buffer.take selected.totalDataBytes

/-- `encodeQrCode` up to the data codewords. -/
def encodeQrCode (text : JsString) : VersionInfo × Bytes :=
  let utf8Bytes := utf8 text
  let selectedVersion := selectVersion utf8Bytes.length
  (selectedVersion, dataCodewords selectedVersion utf8Bytes)

/-! ## The standard's reading in byte mode -/

/-- The low bits of a number, the highest one first. -/
def bitsOf (num width : Nat) : List Bool := (range width).map fun i => num.testBit (width - i - 1)

def bitsOfBytes (bytes : Bytes) : List Bool := bytes.flatMap fun byte => bitsOf byte.toNat 8

def number (bits : List Bool) : Nat := bits.foldl (fun value bit => 2 * value + bit.toNat) 0

def readBytes : Nat -> List Bool -> Bytes
  | 0, _ => []
  | count + 1, bits => .ofNat (number (bits.take 8)) :: readBytes count (bits.drop 8)

/-- The mode, the count and that many bytes. -/
def decodeByteMode (version : Nat) (codewords : Bytes) : Option Bytes :=
  let bits := bitsOfBytes codewords
  let count := number ((bits.drop 4).take (countBits version))
  let content := (bits.drop 4).drop (countBits version)
  if number (bits.take 4) = 4 ∧ 8 * count <= content.length then some (readBytes count content) else none

@[simp] theorem length_bitsOf (num width : Nat) : (bitsOf num width).length = width := by simp [bitsOf]

@[simp] theorem length_bitsOfBytes (bytes : Bytes) : (bitsOfBytes bytes).length = 8 * bytes.length := by
  simp [bitsOfBytes, Nat.mul_comm]

@[simp] theorem length_readBytes (count : Nat) (bits : List Bool) : (readBytes count bits).length = count := by
  induction count generalizing bits with
  | zero => rfl
  | succ count ih => rw [readBytes, length_cons, ih]

theorem number_bitsOf (num width : Nat) : number (bitsOf num width) = num % 2 ^ width := by
  induction width generalizing num with
  | zero => simp [bitsOf, number, Nat.mod_one]
  | succ width ih =>
    have shifted : bitsOf num (width + 1) = bitsOf (num / 2) width ++ [num.testBit 0] := by
      rw [bitsOf, range_succ, map_append, map_singleton, Nat.add_sub_cancel_left]
      congr 1
      refine map_congr_left fun i inside => ?_
      have below := mem_range.mp inside
      rw [Nat.testBit_div_two]
      congr 1
      omega
    have last : (num.testBit 0).toNat = num % 2 := by
      rcases Nat.mod_two_eq_zero_or_one num with even | odd <;> simp [*]
    rw [shifted, number, foldl_append, ← number, ih, Nat.pow_succ', Nat.mod_mul, ← last, Nat.add_comm]
    rfl

theorem bitsOfBytes_cons (byte : UInt8) (bytes : Bytes) :
    bitsOfBytes (byte :: bytes) = bitsOf byte.toNat 8 ++ bitsOfBytes bytes := rfl

theorem readBytes_bitsOfBytes (bytes : Bytes) (rest : List Bool) :
    readBytes bytes.length (bitsOfBytes bytes ++ rest) = bytes := by
  induction bytes with
  | nil => rfl
  | cons byte bytes ih =>
    rw [length_cons, readBytes, bitsOfBytes_cons, append_assoc, take_left' (length_bitsOf _ _),
      drop_left' (length_bitsOf _ _), ih, number_bitsOf]
    simp

theorem bitsOfBytes_take (bytes : Bytes) (count : Nat) :
    bitsOfBytes (bytes.take count) = (bitsOfBytes bytes).take (8 * count) := by
  induction bytes generalizing count with
  | nil => simp [bitsOfBytes]
  | cons byte bytes ih =>
    cases count with
    | zero => rfl
    | succ count =>
      rw [take_succ_cons, bitsOfBytes_cons, bitsOfBytes_cons, ih, Nat.mul_succ, Nat.add_comm, take_append,
        length_bitsOf, Nat.add_sub_cancel_left, take_of_length_le (l := bitsOf _ _) (by simp)]

/-! ## What the buffer holds -/

theorem bitsOf_or (byte : UInt8) {index : Nat} (inside : index < 8) :
    bitsOf (byte ||| 0x80 >>> UInt8.ofNat index).toNat 8 = (bitsOf byte.toNat 8).set index true := by
  have mask : (0x80 >>> UInt8.ofNat index).toNat = 2 ^ (7 - index) := by interval_cases index <;> rfl
  rw [UInt8.toNat_or, mask]
  refine ext_getElem (by simp) fun i below _ => ?_
  rw [length_bitsOf] at below
  have same : 7 - index = 8 - i - 1 ↔ index = i := by omega
  simp [bitsOf, getElem_set, Nat.testBit_or, Nat.testBit_two_pow, same, Bool.or_comm]

theorem bitsOfBytes_modify {bytes : Bytes} {position index : Nat} (present : position < bytes.length)
    (inside : index < 8) : bitsOfBytes (bytes.modify position (· ||| 0x80 >>> UInt8.ofNat index)) =
      (bitsOfBytes bytes).set (8 * position + index) true := by
  induction bytes generalizing position with
  | nil => cases present
  | cons byte bytes ih =>
    cases position with
    | zero =>
      rw [modify_zero_cons, bitsOfBytes_cons, bitsOfBytes_cons, bitsOf_or byte inside,
        set_append_left _ _ (by simpa using inside), Nat.mul_zero, Nat.zero_add]
    | succ position =>
      rw [modify_succ_cons, bitsOfBytes_cons, bitsOfBytes_cons, ih (Nat.lt_of_succ_lt_succ present),
        set_append_right _ _ (by simp; omega), length_bitsOf]
      congr 2
      omega

/-- The bits that were put, and zeros up to the next byte. -/
structure Holds (stream : List Bool) (bits : BitBuffer) : Prop where
  length : bits.length = stream.length
  content : ∃ zeros, zeros < 8 ∧ bitsOfBytes bits.buffer = stream ++ replicate zeros false

theorem Holds.putBit {stream : List Bool} {bits : BitBuffer} (holds : Holds stream bits) (bit : Bool) :
    Holds (stream ++ [bit]) (bits.putBit bit) := by
  rcases holds with ⟨length, zeros, few, content⟩
  have total := congrArg List.length content
  rw [length_bitsOfBytes, length_append, length_replicate] at total
  unfold BitBuffer.putBit
  dsimp only
  generalize same : (if bits.buffer.length <= bits.length / 8 then bits.buffer ++ [0] else bits.buffer) = buffer
  -- The byte that the position lies in is there, or it is appended.
  have grown : ∃ zeros, zeros < 8 ∧ bitsOfBytes buffer = stream ++ replicate (zeros + 1) false := by
    rw [← same]
    split
    · refine ⟨7, by decide, ?_⟩
      have whole : zeros = 0 := by omega
      rw [bitsOfBytes, flatMap_append, ← bitsOfBytes, content, whole, replicate_zero, append_nil]
      rfl
    · refine ⟨zeros - 1, by omega, ?_⟩
      rw [content, Nat.sub_add_cancel (by omega)]
  rcases grown with ⟨zeros, few, content⟩
  refine ⟨by simp [length], zeros, few, ?_⟩
  cases bit with
  | false => rw [if_neg Bool.false_ne_true, content, append_assoc, replicate_succ, singleton_append]
  | true =>
    have total := congrArg List.length content
    rw [length_bitsOfBytes, length_append, length_replicate] at total
    rw [if_pos rfl, bitsOfBytes_modify (by omega) (Nat.mod_lt _ (by decide)), content, Nat.div_add_mod, length,
      set_append_right _ _ le_rfl, Nat.sub_self, replicate_succ, set_cons_zero, append_assoc, singleton_append]

theorem holds_foldl (stream : List Bool) : Holds stream (stream.foldl .putBit ⟨[], 0⟩) := by
  induction stream using List.reverseRecOn with
  | nil => exact ⟨rfl, 0, by decide, rfl⟩
  | append_singleton stream bit ih =>
    rw [foldl_append]
    exact ih.putBit bit

namespace BitBuffer

variable (bits : BitBuffer)

theorem length_foldl (more : List Bool) : (more.foldl putBit bits).length = bits.length + more.length := by
  induction more generalizing bits with
  | nil => rfl
  | cons bit more ih =>
    rw [foldl_cons, ih, length_cons, Nat.add_comm more.length, ← Nat.add_assoc]
    rfl

theorem put_eq (num width : Nat) : bits.put num width = (bitsOf num width).foldl putBit bits := by
  rw [bitsOf, foldl_map, put]

theorem complete_eq (fuel : Nat) : ∃ more, bits.complete fuel = foldl putBit bits more := by
  induction fuel generalizing bits with
  | zero => exact ⟨[], rfl⟩
  | succ fuel ih =>
    rw [complete]
    split
    · rcases ih (bits.putBit false) with ⟨more, same⟩
      exact ⟨false :: more, same⟩
    · exact ⟨[], rfl⟩

theorem fill_eq {maxBits fuel : Nat} (padByte : Nat) (enough : maxBits <= bits.length + fuel) :
    ∃ more, bits.fill maxBits fuel padByte = foldl putBit bits more ∧ maxBits <= bits.length + more.length := by
  induction fuel generalizing bits padByte with
  | zero => exact ⟨[], rfl, enough⟩
  | succ fuel ih =>
    rw [fill]
    split
    · have longer := length_foldl bits (bitsOf padByte 8)
      rw [← put_eq, length_bitsOf] at longer
      rcases ih (bits.put padByte 8) (if padByte = 0xec then 0x11 else 0xec) (by omega) with ⟨more, same, full⟩
      rw [longer, Nat.add_assoc] at full
      refine ⟨bitsOf padByte 8 ++ more, ?_, by simpa using full⟩
      rw [same, put_eq, foldl_append]
    · rename_i full
      exact ⟨[], rfl, Nat.not_lt.mp full⟩

end BitBuffer

open BitBuffer

section Codewords

variable {selected : VersionInfo} {utf8Bytes : Bytes}

/-- The data codewords are the mode, the count and as much of the text and the padding as fits. -/
theorem bitsOf_dataCodewords (header : 3 <= selected.totalDataBytes) :
    ∃ content, bitsOfBytes (dataCodewords selected utf8Bytes) =
        bitsOf 4 4 ++ (bitsOf utf8Bytes.length (countBits selected.version) ++ content) ∧
      content.length + 4 + countBits selected.version = 8 * selected.totalDataBytes ∧
      (8 * utf8Bytes.length <= content.length -> ∃ rest, content = bitsOfBytes utf8Bytes ++ rest) := by
  have short : countBits selected.version <= 16 := by
    unfold countBits
    split <;> decide
  unfold dataCodewords
  simp only [put_eq, ← foldl_flatMap, ← foldl_append]
  rw [← bitsOfBytes]
  generalize bitsOf 0 _ = terminator
  rcases complete_eq (foldl putBit _ _) 8 with ⟨first, same⟩
  rw [same, ← foldl_append]
  rcases fill_eq (foldl putBit _ _) 0xec (Nat.le_add_left (selected.totalDataBytes * 8) _) with ⟨last, same, full⟩
  rw [same, ← foldl_append]
  generalize more : terminator ++ (first ++ last) = padding
  have total : terminator.length + (first.length + last.length) = padding.length := by simp [← more]
  simp only [length_foldl, append_assoc, more, length_append, length_bitsOf] at full ⊢
  rcases (holds_foldl (bitsOf 4 4 ++ (bitsOf _ _ ++ (bitsOfBytes utf8Bytes ++ padding)))).content
    with ⟨zeros, -, content⟩
  refine ⟨(bitsOfBytes utf8Bytes ++ padding).take (8 * selected.totalDataBytes - 4 - countBits selected.version),
    ?_, ?_, ?_⟩
  · rw [bitsOfBytes_take, content, take_append_of_le_length (by simp only [length_append, length_bitsOf]; omega),
      take_append, length_bitsOf, take_of_length_le (by rw [length_bitsOf]; omega), take_append, length_bitsOf,
      take_of_length_le (by rw [length_bitsOf]; omega)]
  · rw [length_take, length_append]
    omega
  · intro fits
    rw [length_take, length_append] at fits
    rw [take_append, take_of_length_le (by rw [length_bitsOfBytes]; omega)]
    exact ⟨_, rfl⟩

/-- A text is read back if its bits fit the version. -/
theorem decodeByteMode_iff (header : 3 <= selected.totalDataBytes)
    (countable : 4 + countBits selected.version + 8 * utf8Bytes.length <= 8 * selected.totalDataBytes ->
      utf8Bytes.length < 2 ^ countBits selected.version) :
    decodeByteMode selected.version (dataCodewords selected utf8Bytes) = some utf8Bytes ↔
      4 + countBits selected.version + 8 * utf8Bytes.length <= 8 * selected.totalDataBytes := by
  rcases bitsOf_dataCodewords header with ⟨content, bits, length, text⟩
  rw [decodeByteMode, bits, take_left' (length_bitsOf _ _), drop_left' (length_bitsOf _ _),
    take_left' (length_bitsOf _ _), drop_left' (length_bitsOf _ _), number_bitsOf, number_bitsOf]
  constructor
  · intro decoded
    split at decoded
    · rename_i fits
      have count := congrArg List.length (Option.some.inj decoded)
      rw [length_readBytes] at count
      omega
    · cases decoded
  · intro fits
    rcases text (by omega) with ⟨rest, rfl⟩
    rw [Nat.mod_eq_of_lt (countable fits), if_pos ⟨rfl, by omega⟩, readBytes_bitsOfBytes]

end Codewords

theorem selectVersion_fits (dataLen : Nat) :
    let selected := selectVersion dataLen
    let fits := 4 + countBits selected.version + 8 * dataLen <= 8 * selected.totalDataBytes
    3 <= selected.totalDataBytes ∧ (fits -> dataLen < 2 ^ countBits selected.version) ∧
      (fits ↔ dataLen <= 362 ∧ dataLen ∉ [214, 252, 288, 332]) := by
  simp only [selectVersion, versionTableM, find?_cons, find?_nil]
  repeat' split
  all_goals simp [countBits] at *
  all_goals omega

/-- The data codewords carry the whole text but at four lengths, and up to 362 bytes. -/
theorem qr_carries_text_iff (text : JsString) :
    decodeByteMode (encodeQrCode text).1.version (encodeQrCode text).2 = some (utf8 text) ↔
      (utf8 text).length <= 362 ∧ (utf8 text).length ∉ [214, 252, 288, 332] := by
  rcases selectVersion_fits (utf8 text).length with ⟨header, countable, fits⟩
  rw [encodeQrCode, decodeByteMode_iff header countable, fits]

/-- A text of 214 bytes is cut. -/
theorem qr_text_cut :
    let text := replicate 214 97
    decodeByteMode (encodeQrCode text).1.version (encodeQrCode text).2 ≠ some (utf8 text) := by
  intro text
  have length : (utf8 text).length = 214 := rfl
  rcases selectVersion_fits (utf8 text).length with ⟨header, countable, fits⟩
  rw [Ne, encodeQrCode, decodeByteMode_iff header countable, fits, length]
  decide

end SorobanSas.Js.QrCode
