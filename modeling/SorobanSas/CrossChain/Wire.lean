import SorobanSas.CrossChain.Contract

namespace SorobanSas.CrossChain

open Library List
open BytesN (length_toArray ofArray_toArray toArray toArray_ofArray)

/-!
# The wire format

The decoders read the fields at fixed offsets, and the rules about lengths and versions are spread
over both of them.  Here the payload is written down as one concatenation of fields, and the
decoders accept exactly these.

What follows an offset is described by `drop`: a field that was read at the offset is the front of
it, and the next offset is behind the field.
-/

/-- The fields that both versions have. -/
def statusBytes (version : UInt8) (status : RemoteAttestation) : Bytes :=
  version :: (toArray status.uid.hash ++ (toBeBytes status.revision ++
    (toBeBytes status.validUntil ++ [if status.valid = true then 1 else 0])))

/-- The fields that version 2 adds.  The recipient is in its text form. -/
def proofBytes (proof : RemoteProof) (strkey : Bytes) : Bytes :=
  toArray proof.schemaUid.hash ++ (toArray proof.evmRecipient ++ (strkey ++
    (bigEndian 2 proof.data.length ++ proof.data)))

/-- The payload is the message of these contents. -/
def Encodes (host : Host) (payload : Bytes) (status : RemoteAttestation) : Option RemoteProof -> Prop
  | none => payload = statusBytes 1 status
  | some proof => ∃ strkey, strkey.length = 56 ∧
      host.addressFromStringBytes strkey = some proof.recipient ∧ proof.data.length <= 1024 ∧
      payload = statusBytes 2 status ++ proofBytes proof strkey

variable {host : Host} {payload : Bytes} {status : RemoteAttestation} {rest : Bytes} {start length : Nat}
  {version : UInt8}

/-! ## The status -/

theorem shift_or_byte (value : Nat) (byte : UInt8) :
    UInt64.ofNat value <<< 8 ||| byte.toUInt64 = UInt64.ofNat (value * 256 + byte.toNat) := by
  have small : byte.toNat < 2 ^ 8 := byte.toNat_lt
  apply UInt64.toNat.inj
  rw [UInt64.toNat_or, UInt64.toNat_shiftLeft, UInt8.toNat_toUInt64, UInt64.toNat_ofNat', UInt64.toNat_ofNat']
  have high : (value % 2 ^ 64) <<< (UInt64.toNat 8 % 64) % 2 ^ 64 = (value % 2 ^ 56) <<< 8 := by
    change (value % 2 ^ 64) <<< 8 % 2 ^ 64 = _
    rw [Nat.shiftLeft_eq, Nat.shiftLeft_eq]
    omega
  rw [high, ← Nat.shiftLeft_add_eq_or_of_lt small, Nat.shiftLeft_eq]
  omega

theorem fromBeBytes_concat (bytes : Bytes) (byte : UInt8) :
    fromBeBytes (bytes ++ [byte]) = fromBeBytes bytes <<< 8 ||| byte.toUInt64 := by
  rw [fromBeBytes, fromBigEndian_append_singleton, fromBeBytes, shift_or_byte]

theorem toBeBytes_fromBeBytes {bytes : Bytes} (full : bytes.length = 8) : toBeBytes (fromBeBytes bytes) = bytes := by
  have below := fromBigEndian_lt bytes
  rw [full] at below
  rw [toBeBytes, fromBeBytes, UInt64.toNat_ofNat_of_lt' below, ← full, bigEndian_fromBigEndian]

theorem readLoop_eq_ok {count : Nat} {words : UInt64 × UInt64} : (List.range count).foldlM (fun words i => do
        let revision <- expect payload[33 + i]? (Abort.error .invalidPayload)
        let validUntil <- expect payload[41 + i]? (Abort.error .invalidPayload)
        return (words.1 <<< 8 ||| revision.toUInt64, words.2 <<< 8 ||| validUntil.toUInt64))
      ((0, 0) : UInt64 × UInt64) = .ok words <-> ∃ first second, words = (fromBeBytes first, fromBeBytes second) ∧
      (List.range count).mapM (fun i => expect payload[33 + i]? (Abort.error .invalidPayload)) = .ok first ∧
      (List.range count).mapM (fun i => expect payload[41 + i]? (Abort.error .invalidPayload)) = .ok second := by
  induction count generalizing words with
  | zero =>
    simp only [range_zero, foldlM_nil, mapM_nil, pure_eq_ok]
    constructor
    · rintro rfl
      exact ⟨[], [], rfl, rfl, rfl⟩
    · rintro ⟨_, _, rfl, rfl, rfl⟩
      rfl
  | succ count ih =>
    simp only [range_succ, foldlM_append, foldlM_cons, foldlM_nil, mapM_append, mapM_cons, mapM_nil, eq_ok, ih]
    constructor
    · rintro ⟨_, ⟨first, second, rfl, read, read'⟩, _, ⟨byte, found, byte', found', rfl⟩, rfl⟩
      exact ⟨first ++ [byte], second ++ [byte'], by rw [fromBeBytes_concat, fromBeBytes_concat],
        ⟨first, read, _, ⟨byte, found, _, rfl, rfl⟩, rfl⟩,
        ⟨second, read', _, ⟨byte', found', _, rfl, rfl⟩, rfl⟩⟩
    · rintro ⟨_, _, rfl, ⟨first, read, _, ⟨byte, found, _, rfl, rfl⟩, rfl⟩,
        ⟨second, read', _, ⟨byte', found', _, rfl, rfl⟩, rfl⟩⟩
      exact ⟨_, ⟨first, second, rfl, read, read'⟩, _, ⟨byte, found, byte', found', rfl⟩,
        by rw [fromBeBytes_concat, fromBeBytes_concat]⟩

/-- A field at an offset, and what follows it. -/
theorem field_iff {field : Bytes} (full : field.length = length) : payload.drop start = field ++ rest <->
      window payload start length = field ∧ payload.drop (start + length) = rest := by
  constructor
  · intro split
    exact ⟨by rw [window, split, ← full, take_left], drop_past full split⟩
  · rintro ⟨rfl, rfl⟩
    rw [window, ← drop_drop, take_append_drop]

theorem mapM_window {read : Bytes} :
    (List.range length).mapM (fun i => expect payload[start + i]? (Abort.error .invalidPayload)) =
        .ok read <-> read.length = length ∧ window payload start length = read := by
  rw [mapM_range_eq_ok]
  refine and_congr_right fun full => ?_
  simp only [field_iff full, exists_and_left, exists_eq', and_true]

theorem readWords_eq_ok {revision validUntil : UInt64} : readWords payload = .ok (revision, validUntil) <->
      window payload 33 8 = toBeBytes revision ∧ window payload 41 8 = toBeBytes validUntil := by
  simp only [readWords, readLoop_eq_ok, mapM_window]
  constructor
  · rintro ⟨_, _, words, ⟨full, rfl⟩, full', rfl⟩
    cases words
    rw [toBeBytes_fromBeBytes full, toBeBytes_fromBeBytes full']
    exact ⟨rfl, rfl⟩
  · rintro ⟨first, second⟩
    exact ⟨_, _, by rw [fromBeBytes_toBeBytes, fromBeBytes_toBeBytes],
      ⟨length_toBeBytes _, first⟩, length_toBeBytes _, second⟩

theorem byte_iff {index : Nat} {byte : UInt8} : payload[index]? = some byte <-> window payload index 1 = [byte] := by
  rw [← List.head?_drop, window]
  cases payload.drop index with
  | nil => simp
  | cons first rest => simp

theorem two_bytes_iff {index : Nat} {high low : UInt8} :
    (payload[index]? = some high ∧ payload[index + 1]? = some low) <-> window payload index 2 = [high, low] := by
  rw [← List.head?_drop, ← List.head?_drop, ← drop_drop, window]
  rcases payload.drop index with _ | ⟨first, _ | ⟨second, rest⟩⟩
  · simp
  · simp
  · simp

theorem decodeFlag_eq_ok {flag : Option UInt8} {valid : Bool} :
    decodeFlag flag = .ok valid <-> flag = some (if valid = true then 1 else 0) := by
  unfold decodeFlag
  split
  · cases valid <;> simp
  · cases valid <;> simp
  · rename_i zero one
    cases valid with
    | false => exact iff_of_false (nofun) zero
    | true => exact iff_of_false (nofun) one

theorem length_statusBytes : (statusBytes version status).length = 50 := by
  simp [statusBytes, length_toArray, length_toBeBytes]

/-- The version decides about the length. -/
def Admits (version : UInt8) (length : Nat) : Prop :=
  version = 1 ∧ length = statusPayloadLen ∨ version = 2 ∧ proofPayloadHeaderLen <= length

theorem admits_iff : ¬ ((payload[0]? = some 1 ∧ payload.length ≠ statusPayloadLen) ∨
        (payload[0]? = some 2 ∧ payload.length < proofPayloadHeaderLen) ∨
        ¬ (payload[0]? = some 1 ∨ payload[0]? = some 2)) <->
      ∃ version, payload[0]? = some version ∧ Admits version payload.length := by
  constructor
  · intro guard
    by_contra unversioned
    refine guard (.inr (.inr ?_))
    rintro (one | two)
    · exact guard (.inl ⟨one, fun short => unversioned ⟨1, one, .inl ⟨rfl, short⟩⟩⟩)
    · exact guard (.inr (.inl ⟨two, Nat.lt_of_not_le fun long => unversioned ⟨2, two, .inr ⟨rfl, long⟩⟩⟩))
  · rintro ⟨version, first, ⟨rfl, short⟩ | ⟨rfl, long⟩⟩
    · simp [first, short]
    · simp [first, long]

theorem statusBytes_iff : payload = statusBytes version status ++ rest <->
      window payload 0 1 = [version] ∧ window payload 1 32 = toArray status.uid.hash ∧
        (window payload 33 8 = toBeBytes status.revision ∧ window payload 41 8 = toBeBytes status.validUntil) ∧
        window payload 49 1 = [if status.valid = true then 1 else 0] ∧ payload.drop 50 = rest := by
  have whole : payload = statusBytes version status ++ rest <-> payload.drop 0 = [version] ++
      (toArray status.uid.hash ++ (toBeBytes status.revision ++
        (toBeBytes status.validUntil ++ ([if status.valid = true then 1 else 0] ++ rest)))) := by
    simp [statusBytes]
  rw [whole, field_iff rfl, field_iff (length_toArray _), field_iff (length_toBeBytes _),
    field_iff (length_toBeBytes _), field_iff rfl, and_assoc]
  rfl

/-- What is behind the status is not looked at. -/
theorem decodeStatus_eq_ok : decodeStatus payload = .ok status <-> ∃ version, Admits version payload.length ∧
      payload = statusBytes version status ++ payload.drop 50 := by
  simp only [decodeStatus, eq_ok, mapM_window, decodeFlag_eq_ok, admits_iff]
  simp only [byte_iff, statusBytes_iff]
  constructor
  · rintro ⟨⟨version, start, admitted⟩, _, ⟨full, rfl⟩, ⟨revision, validUntil⟩, words, valid, flagged, rfl⟩
    exact ⟨version, admitted, start, (toArray_ofArray full).symm, readWords_eq_ok.mp words, flagged, trivial⟩
  · rintro ⟨version, admitted, start, named, words, flagged, -⟩
    exact ⟨⟨version, start, admitted⟩, _, ⟨length_toArray _, named⟩, _,
      readWords_eq_ok.mpr words, _, flagged, by rw [ofArray_toArray]⟩

/-! ## The proof -/

theorem length_window (inside : start + length <= payload.length) : (window payload start length).length = length := by
  rw [window, length_take, length_drop]
  omega

/-- The length of the data is the number that the two bytes before it denote. -/
theorem bigEndian_two {high low : UInt8} (small : length <= 1024) :
    bigEndian 2 length = [high, low] <-> high.toNat * 256 + low.toNat = length := by
  have number : fromBigEndian [high, low] = high.toNat * 256 + low.toNat := by simp [fromBigEndian]
  rw [← number]
  constructor
  · intro bytes
    rw [← bytes, fromBigEndian_bigEndian (by omega)]
  · rintro rfl
    exact bigEndian_fromBigEndian [high, low]

variable {proof : RemoteProof}

theorem proofBytes_iff {strkey : Bytes} (wide : strkey.length = 56) : payload.drop 50 = proofBytes proof strkey <->
      window payload 50 32 = toArray proof.schemaUid.hash ∧
        window payload 82 20 = toArray proof.evmRecipient ∧ window payload 102 56 = strkey ∧
        window payload 158 2 = bigEndian 2 proof.data.length ∧ payload.drop 160 = proof.data := by
  rw [proofBytes, field_iff (length_toArray _), field_iff (length_toArray _),
    field_iff wide, field_iff (length_bigEndian 2 _)]

theorem decodeProof_eq_ok : decodeProof host payload = .ok (some proof) <->
    payload[0]? = some 2 ∧ ∃ strkey, strkey.length = 56 ∧
      host.addressFromStringBytes strkey = some proof.recipient ∧ proof.data.length <= 1024 ∧
      payload.drop 50 = proofBytes proof strkey := by
  unfold decodeProof
  by_cases two : payload[0]? = some 2
  · rw [if_neg (not_not.mpr two), and_iff_right two]
    simp only [eq_ok, Option.some.injEq]
    constructor
    · rintro ⟨high, first, low, second, ⟨small, length⟩, recipient, decoded, rfl⟩
      have inside : 160 + (high.toNat * 256 + low.toNat) = payload.length := length.symm
      have full := length_window (Nat.le_of_eq inside)
      have wide : (window payload 102 56).length = 56 := length_window (by omega)
      refine ⟨_, wide, decoded, full.trans_le small, (proofBytes_iff wide).mpr ?_⟩
      refine ⟨?_, ?_, rfl, ?_, ?_⟩
      · rw [toArray_ofArray (length_window (by omega))]
      · rw [toArray_ofArray (length_window (by omega))]
      · rw [full, (bigEndian_two small).mpr rfl, two_bytes_iff.mp ⟨first, second⟩]
      · refine (take_of_length_le ?_).symm
        rw [length_drop]
        omega
    · rintro ⟨strkey, wide, decoded, small, split⟩
      rcases (proofBytes_iff wide).mp split with ⟨named, remote, text, size, data⟩
      rcases List.length_eq_two.mp (length_bigEndian 2 proof.data.length) with ⟨high, low, bytes⟩
      rcases two_bytes_iff.mpr (size.trans bytes) with ⟨first, second⟩
      have length : payload.length = 160 + proof.data.length := by
        have reached := (List.getElem?_eq_some_iff.mp second).1
        rw [← data, length_drop]
        omega
      refine ⟨high, first, low, second, ?_⟩
      rw [(bigEndian_two small).mp bytes, text, named, remote, ofArray_toArray,
        ofArray_toArray, window, data, take_length]
      exact ⟨⟨small, length⟩, proof.recipient, decoded, rfl⟩
  · rw [if_pos two]
    exact iff_of_false (nofun) fun both => two both.1

theorem decodeProof_eq_none : decodeProof host payload = .ok none <-> payload[0]? ≠ some 2 := by
  unfold decodeProof
  by_cases two : payload[0]? = some 2
  · rw [if_neg (not_not.mpr two)]
    simp only [eq_ok]
    refine iff_of_false ?_ (not_not.mpr two)
    rintro ⟨_, -, _, -, _, -, _, -, ⟨⟩⟩
  · rw [if_pos two]
    exact iff_of_true rfl two

/-! ## Both -/

theorem admits_statusBytes (admitted : Admits version (50 + rest.length))
    (split : payload = statusBytes version status ++ rest) :
    payload[0]? = some version ∧ decodeStatus payload = .ok status ∧ payload.drop 50 = rest := by
  have behind : payload.drop 50 = rest := drop_past length_statusBytes (show payload.drop 0 = _ from split)
  refine ⟨by rw [split]; rfl, decodeStatus_eq_ok.mpr ⟨version, ?_, by rw [behind, ← split]⟩, behind⟩
  rwa [split, length_append, length_statusBytes]

theorem decodes_iff {proof : Option RemoteProof} :
    (decodeStatus payload = .ok status ∧ decodeProof host payload = .ok proof) <->
      Encodes host payload status proof := by
  constructor
  · rintro ⟨decoded, proved⟩
    rcases decodeStatus_eq_ok.mp decoded with ⟨version, admitted, split⟩
    have first : payload[0]? = some version := by
      rw [split]
      rfl
    cases proof with
    | none =>
      rcases admitted with ⟨rfl, length⟩ | ⟨rfl, -⟩
      · rwa [drop_eq_nil_of_le (show payload.length <= 50 from Nat.le_of_eq length), append_nil] at split
      · exact absurd first (decodeProof_eq_none.mp proved)
    | some proof =>
      rcases decodeProof_eq_ok.mp proved with ⟨two, strkey, wide, address, small, behind⟩
      cases first.symm.trans two
      exact ⟨strkey, wide, address, small, by rw [← behind, ← split]⟩
  · intro encodes
    cases proof with
    | none =>
      have split : payload = statusBytes 1 status ++ [] := encodes.trans (append_nil _).symm
      rcases admits_statusBytes (.inl ⟨rfl, rfl⟩) split with ⟨first, decoded, -⟩
      refine ⟨decoded, decodeProof_eq_none.mpr ?_⟩
      rw [first]
      decide
    | some proof =>
      rcases encodes with ⟨strkey, wide, address, small, split⟩
      have long : proofPayloadHeaderLen <= 50 + (proofBytes proof strkey).length := by
        simp only [proofPayloadHeaderLen, statusPayloadLen, proofBytes, length_append,
          length_toArray, wide, length_bigEndian]
        omega
      rcases admits_statusBytes (.inr ⟨rfl, long⟩) split with ⟨first, decoded, behind⟩
      exact ⟨decoded, decodeProof_eq_ok.mpr ⟨first, strkey, wide, address, small, behind⟩⟩

/-- The decoders accept exactly the messages of version 1 and of version 2, and return their fields.
Since different texts denote different addresses, no two messages have the same contents. -/
theorem wire_format_exact (host : Host)
    (injective : forall first second address, host.addressFromStringBytes first = some address ->
      host.addressFromStringBytes second = some address -> first = second) :
    (forall payload status proof, (decodeStatus payload = .ok status ∧ decodeProof host payload = .ok proof) <->
        Encodes host payload status proof) ∧
    forall first second status proof, decodeStatus first = .ok status -> decodeProof host first = .ok proof ->
      decodeStatus second = .ok status -> decodeProof host second = .ok proof -> first = second := by
  refine ⟨fun _ _ _ => decodes_iff, ?_⟩
  intro first second status proof one two three four
  have encodes := decodes_iff.mp ⟨one, two⟩
  have encodes' := decodes_iff.mp ⟨three, four⟩
  cases proof with
  | none => exact encodes.trans encodes'.symm
  | some proof =>
    rcases encodes with ⟨strkey, -, decoded, -, rfl⟩
    rcases encodes' with ⟨strkey', -, decoded', -, rfl⟩
    rw [injective strkey strkey' proof.recipient decoded decoded']

/-- The strkey of the account whose key is zero. -/
def zeroStrkey : Bytes := ascii "GAAAAAAAAAAAAAAAAAAAAAAAAAAAAAAAAAAAAAAAAAAAAAAAAAAAAWHF"

/-- A host that knows one strkey. -/
def strkeyHost : Host where
  keccak256 := fun _ => 0
  addressFromStringBytes := fun text => if text = zeroStrkey then some (.account 0) else none

/-- A message to that account is decoded, and no other one has its contents. -/
theorem wire_format_exact_strkey :
    let status : RemoteAttestation := ⟨.ofNat 5, 1, 200, true⟩
    let proof : RemoteProof := ⟨.ofNat 6, 0, .account 0, [7]⟩
    let payload := statusBytes 2 status ++ proofBytes proof zeroStrkey
    (decodeStatus payload = .ok status ∧ decodeProof strkeyHost payload = .ok (some proof)) ∧
      forall other, decodeStatus other = .ok status -> decodeProof strkeyHost other = .ok (some proof) ->
        other = payload := by
  intro status proof payload
  have injective (first second : Bytes) (address : Address)
      (one : strkeyHost.addressFromStringBytes first = some address)
      (two : strkeyHost.addressFromStringBytes second = some address) : first = second := by
    have known (text : Bytes) (decoded : strkeyHost.addressFromStringBytes text = some address) :
        text = zeroStrkey := by
      by_contra unknown
      cases (if_neg unknown).symm.trans decoded
    exact (known first one).trans (known second two).symm
  rcases wire_format_exact strkeyHost injective with ⟨exact', unique⟩
  have decoded := (exact' payload status (some proof)).mpr ⟨zeroStrkey, rfl, rfl, by decide, rfl⟩
  exact ⟨decoded, fun other one two => unique other payload status _ one two decoded.1 decoded.2⟩

end SorobanSas.CrossChain
