import SorobanSas.Common.Types

namespace SorobanSas

open Library

/-!
# Schema definition strings

`validate_schema_lexical` and `validate_schema_syntax` decide which strings the
registry accepts as schema definitions.  Both scan the bytes by position, and the
functions here keep those positions, so that a reader can follow the source line by
line.  Each `while` loop advances a position below a bound; the number of turns it
can take is the explicit `fuel` argument.
-/

namespace SchemaSyntax

def maxSchemaLength : Nat := 1024

def maxSchemaFields : Nat := 64

def space : UInt8 := 0x20

def comma : UInt8 := 0x2c

def underscore : UInt8 := 0x5f

variable (byte : UInt8)

def isAsciiWhitespace : Bool := byte = space || byte = 0x0a || byte = 0x0d || byte = 0x09 || byte = 0x0b || byte = 0x0c

def isAsciiAlphabetic : Bool := (0x41 <= byte && byte <= 0x5a) || (0x61 <= byte && byte <= 0x7a)

def isAsciiDigit : Bool := 0x30 <= byte && byte <= 0x39

def isAsciiAlphanumeric : Bool := isAsciiAlphabetic byte || isAsciiDigit byte

def toAsciiLowercase : UInt8 := if 0x41 <= byte && byte <= 0x5a then byte + 0x20 else byte

/-! ## Characters -/

def isContinuation : Bool := 0x80 <= byte && byte <= 0xbf

/-- `core::str::from_utf8` followed by `chars`: the code points of a well-formed
UTF-8 string.  Overlong forms, surrogates and values beyond the last code point are
rejected. -/
def decodeUtf8 : Bytes -> Option (List Nat)
  | [] => some []
  | a :: rest =>
    if a <= 0x7f then (decodeUtf8 rest).map (a.toNat :: ·)
    else match rest with
      | b :: rest =>
        if 0xc2 <= a && a <= 0xdf && isContinuation b then
          (decodeUtf8 rest).map ((a.toNat % 32 * 64 + b.toNat % 64) :: ·)
        else match rest with
          | c :: rest =>
            if (((a = 0xe0 && 0xa0 <= b && b <= 0xbf) || (a = 0xed && 0x80 <= b && b <= 0x9f) ||
                (0xe1 <= a && a <= 0xef && a ≠ 0xed && isContinuation b)) && isContinuation c) then
              (decodeUtf8 rest).map
                (((a.toNat % 16 * 64 + b.toNat % 64) * 64 + c.toNat % 64) :: ·)
            else match rest with
              | d :: rest =>
                if (((a = 0xf0 && 0x90 <= b && b <= 0xbf) || (a = 0xf4 && 0x80 <= b && b <= 0x8f) ||
                    (0xf1 <= a && a <= 0xf3 && isContinuation b)) && isContinuation c && isContinuation d) then
                  (decodeUtf8 rest).map
                    ((((a.toNat % 8 * 64 + b.toNat % 64) * 64 + c.toNat % 64) * 64 + d.toNat % 64) :: ·)
                else none
              | [] => none
          | [] => none
      | [] => none

/-- `char::is_whitespace`. -/
def isWhitespace (point : Nat) : Bool :=
  (0x09 <= point && point <= 0x0d) || point = 0x20 || point = 0x85 || point = 0xa0 ||
    point = 0x1680 || (0x2000 <= point && point <= 0x200a) || point = 0x2028 || point = 0x2029 ||
    point = 0x202f || point = 0x205f || point = 0x3000

/-- The invisible characters listed by `contains_control_or_invalid_whitespace`. -/
def isInvisible (point : Nat) : Bool :=
  point = 0x85 || point = 0xa0 || point = 0x1680 || (0x2000 <= point && point <= 0x200b) ||
    point = 0x200c || point = 0x200d || point = 0x2028 || point = 0x2029 || point = 0x202f ||
    point = 0x205f || point = 0x2060 || point = 0x3000 || point = 0xfeff || point = 0xad

def containsControlOrInvalidWhitespace (bytes : Bytes) : Bool :=
  bytes.any (fun byte => byte < 32 || byte = 127) ||
    match decodeUtf8 bytes with
    | some points =>
      points.any (fun point => (point ≠ 0x20 && isWhitespace point) || isInvisible point)
    | none => true

/-! ## Scanning by position -/

/-- The first loop of `trim_bounds`. -/
def trimLeft (bytes : Bytes) (stop : Nat) : Nat -> Nat -> Option Nat
  | 0, start => some start
  | fuel + 1, start =>
    if start < stop then
      match bytes[start]? with
      | none => none
      | some byte =>
        if isAsciiWhitespace byte then trimLeft bytes stop fuel (start + 1) else some start
    else some start

/-- The second loop of `trim_bounds`. -/
def trimRight (bytes : Bytes) (start : Nat) : Nat -> Nat -> Option Nat
  | 0, stop => some stop
  | fuel + 1, stop =>
    if start < stop then
      match bytes[stop - 1]? with
      | none => none
      | some byte =>
        if isAsciiWhitespace byte then trimRight bytes start fuel (stop - 1) else some stop
    else some stop

def trimBounds (bytes : Bytes) (start stop : Nat) : Option (Nat × Nat) := do
  let start <- trimLeft bytes stop (stop - start) start
  let stop <- trimRight bytes start (stop - start) stop
  if stop <= start then none else some (start, stop)

/-- Advance to the next occurrence of a byte, or to `stop`.  A position outside the
string gives `none`. -/
def scanFor (target : UInt8) (bytes : Bytes) (stop : Nat) : Nat -> Nat -> Option Nat
  | 0, index => some index
  | fuel + 1, index =>
    if index < stop then
      match bytes[index]? with
      | none => none
      | some byte =>
        if byte = target then some index else scanFor target bytes stop fuel (index + 1)
    else some index

def isValidIdentifier (bytes : Bytes) (start stop : Nat) : Bool :=
  if stop <= start then false
  else match bytes[start]? with
    | none => false
    | some first =>
      (isAsciiAlphabetic first || first = underscore) &&
        (List.range' (start + 1) (stop - (start + 1))).all fun index =>
          match bytes[index]? with
          | none => false
          | some byte => isAsciiAlphanumeric byte || byte = underscore

/-- The characters of a field type: `_ < > [ ] , : ( ) ?`, space, letters and digits. -/
def isTypeByte (byte : UInt8) : Bool :=
  isAsciiAlphanumeric byte || byte = underscore || byte = 0x3c || byte = 0x3e || byte = 0x5b ||
    byte = 0x5d || byte = comma || byte = 0x3a || byte = 0x28 || byte = 0x29 || byte = space ||
    byte = 0x3f

/-- `is_valid_type`: the loop keeps whether a letter was seen and whether the last
byte was a space. -/
def isValidType (bytes : Bytes) (start stop : Nat) : Bool :=
  if stop <= start then false
  else
    let scanned := (List.range' start (stop - start)).foldlM (fun (seen : Bool × Bool) index => do
      let byte <- bytes[index]?
      if byte = space && seen.2 then none
      else if isTypeByte byte then
        some (seen.1 || isAsciiAlphabetic byte, decide (byte = space))
      else none) (false, false)
    match scanned with
    | some (hasAlpha, prevSpace) => hasAlpha && !prevSpace
    | none => false

def eqIgnoreAsciiCase (bytes : Bytes) (a0 a1 b0 b1 : Nat) : Bool :=
  if a1 < a0 || b1 < b0 || a1 - a0 ≠ b1 - b0 then false
  else (List.range (a1 - a0)).all fun offset =>
    match bytes[a0 + offset]?, bytes[b0 + offset]? with
    | some a, some b => toAsciiLowercase a = toAsciiLowercase b
    | _, _ => false

def fieldNameCollides (bytes : Bytes) (until_ nameStart nameEnd : Nat) : Nat -> Nat -> Bool
  | 0, _ => false
  | fuel + 1, cursor =>
    if cursor < until_ then
      match scanFor comma bytes until_ (until_ - cursor) cursor with
      | none => false
      | some fieldEnd =>
        match trimBounds bytes cursor fieldEnd with
        | none => false
        | some (fieldStart, trimmedEnd) =>
          match scanFor space bytes trimmedEnd (trimmedEnd - fieldStart) fieldStart with
          | none => false
          | some split =>
            if fieldStart < split &&
                eqIgnoreAsciiCase bytes fieldStart split nameStart nameEnd then true
            else if until_ <= fieldEnd then false
            else
              let cursor := fieldEnd + 1
              let cursor :=
                if cursor < until_ && bytes[cursor]? = some space then cursor + 1
                else cursor
              fieldNameCollides bytes until_ nameStart nameEnd fuel cursor
    else false

/-! ## The two validators -/

/-- The checks on one field in `[start, fieldEnd)`. -/
def validateField (bytes : Bytes) (regionStart start fieldEnd : Nat) : Except SASError Unit := do
  require (¬ (start < fieldEnd ∧ bytes[fieldEnd - 1]? = some space)) .invalidSchemaDefinition
  let (fieldStart, fe) <- expect (trimBounds bytes start fieldEnd) .invalidSchemaDefinition
  require (fe - fieldStart <= 64) .invalidSchemaDefinition
  let splitIndex <- expect (scanFor space bytes fe (fe - fieldStart) fieldStart)
    .invalidSchemaDefinition
  require (splitIndex ≠ fieldStart ∧ splitIndex < fe) .invalidSchemaDefinition
  require (splitIndex - fieldStart <= 32) .invalidSchemaDefinition
  let tyStart := splitIndex + 1
  require (tyStart < fe ∧ bytes[tyStart]? ≠ some space) .invalidSchemaDefinition
  require (fe - tyStart <= 32) .invalidSchemaDefinition
  require (isValidIdentifier bytes fieldStart splitIndex = true ∧
    isValidType bytes tyStart fe = true) .invalidSchemaDefinition
  require (fieldNameCollides bytes fieldStart fieldStart splitIndex
    (fieldStart - regionStart) regionStart = false) .invalidSchemaDefinition

/-- The field loop of `validate_schema_syntax`, returning the number of fields. -/
def validateFields (bytes : Bytes) (regionStart stop : Nat) : Nat -> Nat -> Nat -> Except SASError Nat
  | 0, _, fieldCount => .ok fieldCount
  | fuel + 1, start, fieldCount =>
    if start < stop then do
      let fieldEnd <- expect (scanFor comma bytes stop (stop - start) start)
        .invalidSchemaDefinition
      validateField bytes regionStart start fieldEnd
      require (fieldCount + 1 <= maxSchemaFields) .invalidSchemaDefinition
      if stop <= fieldEnd then
        return fieldCount + 1
      else
        let nextStart := fieldEnd + 1
        if nextStart < stop ∧ bytes[nextStart]? = some space then
          require (¬ (nextStart + 1 < stop ∧ bytes[nextStart + 1]? = some space))
            .invalidSchemaDefinition
          require (nextStart + 1 < stop) .invalidSchemaDefinition
          validateFields bytes regionStart stop fuel (nextStart + 1) (fieldCount + 1)
        else
          require (nextStart < stop) .invalidSchemaDefinition
          validateFields bytes regionStart stop fuel nextStart (fieldCount + 1)
    else .ok fieldCount

def validateSchemaSyntax (schema : Bytes) : Except SASError Unit := do
  require (schema.length ≠ 0) .emptySchema
  require (schema.length <= maxSchemaLength) .invalidSchemaDefinition
  require (containsControlOrInvalidWhitespace schema = false) .invalidSchemaDefinition
  let (start, stop) <- expect (trimBounds schema 0 schema.length) .invalidSchemaDefinition
  require (schema[start]? ≠ some comma ∧ schema[stop - 1]? ≠ some comma) .invalidSchemaDefinition
  let fieldCount <- validateFields schema start stop (stop - start) start 0
  require (fieldCount ≠ 0) .emptySchema

/-- The separator rules of `validate_schema_lexical` at one position. -/
def separatorAllowed (bytes : Bytes) (index : Nat) : Bool :=
  match bytes[index]? with
  | none => true
  | some byte =>
    if byte = space then
      bytes[index + 1]? ≠ some space && bytes[index + 1]? ≠ some comma
    else if byte = comma then
      index + 1 < bytes.length && bytes[index + 1]? ≠ some comma &&
        !(bytes[index + 1]? = some space && bytes[index + 2]? = some space)
    else true

/-- `validate_schema_lexical`.  The empty string is left to the syntax check. -/
def validateSchemaLexical (schema : Bytes) : Except SASError Unit :=
  if schema.length = 0 then .ok ()
  else do
    require (schema.length <= maxSchemaLength) .invalidSchemaDefinition
    require (containsControlOrInvalidWhitespace schema = false) .invalidSchemaDefinition
    require ((List.range schema.length).all (separatorAllowed schema) = true)
      .invalidSchemaDefinition
    require (schema[0]? ≠ some comma) .invalidSchemaDefinition

/-- `a B, c D` is a definition, `a B,A D` repeats a name up to case. -/
example : validateSchemaSyntax [0x61, 0x20, 0x42, 0x2c, 0x20, 0x63, 0x20, 0x44] = .ok () ∧
    validateSchemaSyntax [0x61, 0x20, 0x42, 0x2c, 0x41, 0x20, 0x44] = .error .invalidSchemaDefinition := by
  decide

end SchemaSyntax

end SorobanSas
