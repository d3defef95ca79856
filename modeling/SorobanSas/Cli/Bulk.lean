import SorobanSas.Cli.Records
import SorobanSas.Common.SchemaSyntax
import Mathlib.Data.List.DropRight

namespace SorobanSas.Cli

open Library List

/-!
# Bulk attestations from a CSV file

`parse_bulk_csv` finds the columns by the names in the header and stops at the first bad row.
`parse_import` writes each row out again behind the header, reads that as a file of its own and goes on
after a bad row.  The two agree, because writing a record out and splitting it gives the record back.
-/

/-- `str::trim`. -/
def trim (text : Text) : Text :=
  (text.dropWhile fun c => SchemaSyntax.isWhitespace c.toNat).rdropWhile fun c =>
    SchemaSyntax.isWhitespace c.toNat

/-- `str::parse::<u64>`. -/
def parseU64 (text : Text) : Option UInt64 :=
  let digits := if text.head? = some '+' then text.tail else text
  let value := digits.foldl (fun value c => value * 10 + (c.toNat - '0'.toNat)) 0
  if digits ≠ [] ∧ digits.all Char.isDigit ∧ value < 2 ^ 64 then some (.ofNat value) else none

def parseBool (text : Text) : Option Bool :=
  let lower := String.ofList (text.map Char.toLower)
  if lower ∈ ["true", "t", "yes", "y", "1"] then some true
  else if lower ∈ ["false", "f", "no", "n", "0"] then some false
  else none

def maxBulkRows : Nat := 5000

structure BulkRow where
  line : Nat
  schemaUid : Text
  recipient : Text
  data : Text
  expiration : UInt64
  revocable : Bool
  deriving DecidableEq

inductive Column where
  | schemaUid | recipient | data | expiration | revocable
  deriving DecidableEq

def Column.name : Column -> String
  | .schemaUid => "schema_uid"
  | .recipient => "recipient"
  | .data => "data"
  | .expiration => "expiration"
  | .revocable => "revocable"

def supportedColumns : List Column := [.schemaUid, .recipient, .data, .expiration, .revocable]

/-- A record in which every field is blank is skipped. -/
def isBlank (fields : List Text) : Bool := fields.all fun field => trim field = []

def names (header : List Text) : List String := header.map fun name => String.ofList ((trim name).map Char.toLower)

/-- The two loops over the header. -/
def checkHeader (line : Nat) (header : List String) : Except String Unit := do
  [Column.schemaUid, .recipient].forM fun column =>
    let required := column.name
    require (required ∈ header) (s!"line {line}: missing required column `{required}`; " ++
      "the header must contain schema_uid and recipient")
  header.forM fun name =>
    require (name ∈ supportedColumns.map Column.name) (s!"line {line}: unknown column `{name}`; " ++
      "expected one of schema_uid, recipient, data, expiration, revocable")

section Rows

variable (header : List String) (line : Nat) (fields : List Text)

/-- The field under the first column of this name, trimmed. -/
def field (column : Column) : Option Text := ((header.idxOf? column.name).bind fun index => fields[index]?).map trim

/-- A blank rest behind the last column is cut off. -/
def fitted : List Text :=
  if header.length < fields.length ∧ isBlank (fields.drop header.length) then
    fields.take header.length
  else fields

/-- A cell that may be empty. -/
def parseCell {α : Type} (default : α) (parse : Text -> Option α) (failure : String -> String) :
    Option Text -> Except String α
  | none | some [] => .ok default
  | some raw => expect (parse raw) (failure (String.ofList raw))

/-- The body of the loop over the rows, when so many rows have been read. -/
def parseRow (count : Nat) : Except String BulkRow := do
  let found := (fitted header fields).length
  let width := header.length
  let ending := if width = 1 then "" else "s"
  require (found = width) s!"line {line}: expected {width} field{ending} to match the header, found {found}"
  require (count ≠ maxBulkRows)
    s!"too many rows: this command accepts at most {maxBulkRows} attestations per file"
  let cell := field header (fitted header fields)
  let schemaUid := (cell .schemaUid).getD []
  require (schemaUid ≠ []) s!"line {line}: `schema_uid` must not be empty"
  let recipient := (cell .recipient).getD []
  require (recipient ≠ []) s!"line {line}: `recipient` must not be empty"
  let expiration <- parseCell 0 parseU64 (fun raw =>
    s!"line {line}: `expiration` must be a whole number of seconds, found `{raw}`") (cell .expiration)
  let revocable <- parseCell false parseBool (fun raw =>
    s!"line {line}: `revocable` must be true or false, found `{raw}`") (cell .revocable)
  return ⟨line, schemaUid, recipient, (cell .data).getD [], expiration, revocable⟩

end Rows

/-- What both readers of CSV files do: the first record that is not blank is the header, and the loop
makes one row of each of the others, given how many it has made. -/
def parseTable {β : Type} (missing empty : String) (check : Nat -> List Text -> Except String Unit)
    (turn : List Text -> Nat -> Nat × List Text -> Except String β) (input : Text) : Except String (List β) := do
  let records <- splitRecords input
  match records.filter fun record => !isBlank record.2 with
  | [] => throw missing
  | (line, header) :: records =>
    check line header
    let rows <- records.foldlM (fun rows record => do
      let row <- turn header rows.length record
      return rows ++ [row]) []
    require (rows ≠ []) empty
    return rows

def parseBulkCsv : Text -> Except String (List BulkRow) :=
  parseTable "CSV file is empty; expected a header row"
    "CSV file has a header row but no attestation rows"
    (fun line header => checkHeader line (names header))
    fun header count record => parseRow (names header) record.1 record.2 count

/-! ## The import -/

def csvField (value : Text) : Text :=
  if ',' ∈ value ∨ '\n' ∈ value ∨ '\r' ∈ value ∨ '"' ∈ value then
    '"' :: Cell.escape value ++ ['"']
  else value

/-- A record, written out. -/
def csvLine (fields : List Text) : Text := [','].intercalate (fields.map csvField) ++ ['\n']

/-- One record of an import. -/
def importRow (header fields : List Text) (line : Nat) : Except String BulkRow :=
  (do
    let items <- parseBulkCsv (csvLine header ++ csvLine fields)
    let item <- expect items.getLast? "missing CSV row"
    return { item with line := line }).mapError fun failure => s!"line {line}: {failure}"

/-- The branch of `parse_import` for the extension `csv`. -/
def parseImport : Text -> Except String (List (Nat × Except String BulkRow)) :=
  parseTable "CSV file is empty; expected a header" "import file has no data rows" (fun _ _ => pure ())
    fun header count record => do
      require (count < maxBulkRows) s!"import may contain at most {maxBulkRows} rows"
      return (record.1, importRow header record.2 record.1)

/-! ## Both agree -/

/-- The value of a cell that may be empty. -/
def CellReads {α : Type} (default : α) (parse : Text -> Option α) (value : α) : Option Text -> Prop
  | none | some [] => default = value
  | some raw => parse raw = some value

theorem parseCell_eq_ok {α : Type} {default value : α} {parse : Text -> Option α}
    {failure : String -> String} {cell : Option Text} :
    parseCell default parse failure cell = .ok value <-> CellReads default parse value cell := by
  rcases cell with _ | _ | ⟨c, rest⟩
  · simp [parseCell, CellReads]
  · simp [parseCell, CellReads]
  · exact expect_eq_ok

/-- The row says what the record does. -/
structure RowOf (header : List String) (record : Nat × List Text) (row : BulkRow) : Prop where
  line : row.line = record.1
  width : (fitted header record.2).length = header.length
  schemaUid : row.schemaUid = (field header (fitted header record.2) .schemaUid).getD []
  schemaUid_ne : row.schemaUid ≠ []
  recipient : row.recipient = (field header (fitted header record.2) .recipient).getD []
  recipient_ne : row.recipient ≠ []
  data : row.data = (field header (fitted header record.2) .data).getD []
  expiration : CellReads 0 parseU64 row.expiration (field header (fitted header record.2) .expiration)
  revocable : CellReads false parseBool row.revocable (field header (fitted header record.2) .revocable)

variable {header : List String} {line : Nat} {fields head : List Text} {row : BulkRow} {input : Text}
  {records : Records} {rows : List BulkRow}

theorem parseRow_eq_ok {count : Nat} (few : count <= maxBulkRows) : parseRow header line fields count = .ok row <->
      count < maxBulkRows ∧ RowOf header (line, fields) row := by
  simp only [parseRow, eq_ok, parseCell_eq_ok, ← few.lt_iff_ne]
  constructor
  · rintro ⟨width, below, uid, recipient, expiration, dated, revocable, flagged, rfl⟩
    exact ⟨below, rfl, width, rfl, uid, rfl, recipient, rfl, dated, flagged⟩
  · rintro ⟨below, of⟩
    refine ⟨of.width, below, of.schemaUid ▸ of.schemaUid_ne, of.recipient ▸ of.recipient_ne,
      row.expiration, of.expiration, row.revocable, of.revocable, ?_⟩
    rw [← of.schemaUid, ← of.recipient, ← of.data, ← show row.line = line from of.line]

/-- Every column of the header is known, and the required ones are there. -/
def KnownColumns (header : List String) : Prop :=
  (∀ column ∈ [Column.schemaUid, .recipient], column.name ∈ header) ∧
    ∀ name ∈ header, name ∈ supportedColumns.map Column.name

theorem checkHeader_eq_ok : checkHeader line header = .ok () <-> KnownColumns header := by
  simp only [checkHeader, eq_ok, forM_eq_ok, KnownColumns]

/-- The file has this header, and these records after it. -/
def Body (input : Text) (line : Nat) (header : List Text) (records : Records) : Prop :=
  ∃ all, splitRecords input = .ok all ∧ all.filter (fun record => !isBlank record.2) = (line, header) :: records

theorem parseTable_eq_ok {β : Type} {missing empty : String} {check : Nat -> List Text -> Except String Unit}
    {turn : List Text -> Nat -> Nat × List Text -> Except String β}
    {rows : List β} (related : List Text -> Nat × List Text -> β -> Prop)
    (each : ∀ header count record row, count <= maxBulkRows ->
      (turn header count record = .ok row <-> count < maxBulkRows ∧ related header record row)) :
    parseTable missing empty check turn input = .ok rows <->
      ∃ line header records, Body input line header records ∧ check line header = .ok () ∧
        records.length <= maxBulkRows ∧ List.Forall₂ (related header) records rows ∧ rows ≠ [] := by
  simp only [parseTable, eq_ok]
  constructor
  · rintro ⟨all, split, success⟩
    split at success
    · cases success
    · rename_i line header records found
      simp only [eq_ok] at success
      rcases success with ⟨checked, rows, loop, nonempty, rfl⟩
      rcases (foldlM_collects (each header) (Nat.zero_le _)).mp loop with ⟨few, _, all, rfl⟩
      exact ⟨line, header, records, ⟨_, split, found⟩, checked, by simpa using few, all, nonempty⟩
  · rintro ⟨line, header, records, ⟨all, split, found⟩, checked, few, related, nonempty⟩
    refine ⟨all, split, ?_⟩
    rw [found]
    simp only [eq_ok]
    exact ⟨checked, rows, (foldlM_collects (each header) (Nat.zero_le _)).mpr
      ⟨by simpa using few, rows, related, rfl⟩, nonempty, rfl⟩

theorem parseBulkCsv_eq_ok : parseBulkCsv input = .ok rows <->
      ∃ line header records, Body input line header records ∧ KnownColumns (names header) ∧
        records.length <= maxBulkRows ∧ List.Forall₂ (RowOf (names header)) records rows ∧ rows ≠ [] := by
  rw [parseBulkCsv, parseTable_eq_ok (fun header => RowOf (names header)) fun _ _ _ _ => parseRow_eq_ok]
  simp only [checkHeader_eq_ok]

/-! Writing a record out -/

/-- The cell that is written. -/
def cellOf (value : Text) : Cell :=
  if ',' ∈ value ∨ '\n' ∈ value ∨ '\r' ∈ value ∨ '"' ∈ value then .quoted value [] else .plain value

theorem cellOf_admits (value : Text) : Format.scanned.Admits (cellOf value) := by
  rw [cellOf]
  split
  · exact forall_mem_nil _
  · exact show Ordinary value by grind [Ordinary]

theorem cellOf_text (value : Text) : (cellOf value).text = csvField value := by
  rw [cellOf, csvField]
  split <;> rfl

theorem cellOf_value (value : Text) : (cellOf value).value = value := by
  rw [cellOf]
  split
  · exact append_nil value
  · rfl

/-- A record that is written out is read back. -/
theorem csv_csvLine (nonempty : fields ≠ []) (start line : Nat) (record : List Text) : ∃ next, ∀ rest records,
    Csv .scanned next next [] rest records ->
      Csv .scanned start line record (csvLine fields ++ rest) ((start, record ++ fields) :: records) := by
  induction fields generalizing line record with
  | nil => exact absurd rfl nonempty
  | cons value fields ih =>
    have own := cellOf_admits value
    have same := cellOf_value value
    cases fields with
    | nil =>
      refine ⟨line + (cellOf value).breaks + 1, fun rest records others => ?_⟩
      have csv := Csv.line start line record (cellOf value) ['\n'] rest records own (.inl rfl) others
      simpa [csvLine, cellOf_text, same] using csv
    | cons second fields =>
      rcases ih (cons_ne_nil _ _) (line + (cellOf value).breaks) (record ++ [(cellOf value).value]) with ⟨next, later⟩
      refine ⟨next, fun rest records others => ?_⟩
      have csv := Csv.cell start line record (cellOf value) _ _ own (later rest records others)
      simpa [csvLine, cellOf_text, same] using csv

theorem csv_nil (line : Nat) : Csv .scanned line line [] [] [] :=
  .last line line [] (.plain []) (forall_mem_nil _) fun _ => trivial

/-- Records that are written out one after another are read back, whatever their fields hold. -/
theorem splitRecords_csvLines (rows : List { fields : List Text // fields ≠ [] }) : ∃ records,
    splitRecords (rows.flatMap fun row => csvLine row) = .ok records ∧ records.map Prod.snd = rows.unattach := by
  have csv (line : Nat) : ∃ records,
      Csv .scanned line line [] (rows.flatMap fun row => csvLine row) records ∧
        records.map Prod.snd = rows.unattach := by
    induction rows generalizing line with
    | nil => exact ⟨[], csv_nil line, rfl⟩
    | cons row rest ih =>
      rcases csv_csvLine row.2 line line [] with ⟨next, first⟩
      rcases ih next with ⟨records, others, same⟩
      exact ⟨_, first _ _ others, congrArg (row.1 :: ·) same⟩
  rcases csv 1 with ⟨records, csv, same⟩
  exact ⟨records, scan_of_csv csv [], same⟩

theorem Body.unique {other : Nat} {head' : List Text} {records' : Records}
    (body : Body input line head records) (same : Body input other head' records') :
    line = other ∧ head = head' ∧ records = records' := by
  rcases body with ⟨all, split, found⟩
  rcases same with ⟨all', split', found'⟩
  cases split.symm.trans split'
  cases found.symm.trans found'
  exact ⟨rfl, rfl, rfl⟩

theorem Body.filled (body : Body input line head records) :
    ∀ record ∈ (line, head) :: records, isBlank record.2 = false := by
  rcases body with ⟨all, split, found⟩
  intro record member
  rw [← found, mem_filter] at member
  simpa using member.2

/-- The file that is made for one record. -/
theorem body_csvLines (named : isBlank head = false) (filled : isBlank fields = false) :
    ∃ next, Body (csvLine head ++ csvLine fields) 1 head [(next, fields)] := by
  have nonempty {fields : List Text} (filled : isBlank fields = false) : fields ≠ [] := by
    rintro rfl
    cases filled
  rcases csv_csvLine (nonempty named) 1 1 [] with ⟨next, first⟩
  rcases csv_csvLine (nonempty filled) next next [] with ⟨last, second⟩
  have csv := first _ _ (second [] [] (csv_nil last))
  rw [append_nil] at csv
  exact ⟨next, _, scan_of_csv csv [], by simp [named, filled]⟩

theorem importRow_eq_ok (named : isBlank head = false) (filled : isBlank fields = false) :
    importRow head fields line = .ok row <-> KnownColumns (names head) ∧ RowOf (names head) (line, fields) row := by
  rcases body_csvLines named filled with ⟨next, body⟩
  simp only [importRow, mapError_eq_ok, eq_ok]
  constructor
  · rintro ⟨items, success, item, last, rfl⟩
    rcases parseBulkCsv_eq_ok.mp success with ⟨_, _, _, same, known, -, related, -⟩
    rcases body.unique same with ⟨rfl, rfl, rfl⟩
    rcases related with _ | ⟨of, ⟨⟩⟩
    cases last
    exact ⟨known, { of with line := rfl }⟩
  · rintro ⟨known, of⟩
    have located : row.line = line := of.line
    subst located
    have related : RowOf (names head) (next, fields) { row with line := next } := { of with line := rfl }
    exact ⟨_, parseBulkCsv_eq_ok.mpr ⟨1, head, _, body, known, by simp [maxBulkRows],
      .cons related .nil, by simp⟩, _, rfl, rfl⟩

/-- The strict reader and the import agree. -/
theorem parseBulkCsv_eq_ok_iff_parseImport (input : Text) (rows : List BulkRow) : parseBulkCsv input = .ok rows <->
      parseImport input = .ok (rows.map fun row => (row.line, .ok row)) := by
  rw [parseBulkCsv_eq_ok, parseImport, parseTable_eq_ok
    (fun header record entry => (record.1, importRow header record.2 record.1) = entry)
    fun _ _ _ _ _ => by simp only [eq_ok]]
  refine exists_congr fun line => exists_congr fun head => exists_congr fun records =>
    and_congr_right fun body => ?_
  have filled := List.forall_mem_cons.mp body.filled
  have entry {record : Nat × List Text} {row : BulkRow} (full : isBlank record.2 = false) :
      (record.1, importRow head record.2 record.1) = (row.line, .ok row) <->
        KnownColumns (names head) ∧ RowOf (names head) record row := by
    rw [Prod.mk.injEq, importRow_eq_ok filled.1 full, and_iff_right_iff_imp]
    exact fun of => of.2.line.symm
  rw [forall₂_map_right_iff, List.map_eq_nil_iff.ne]
  constructor
  · rintro ⟨known, few, related, nonempty⟩
    have both := (forall₂_and_left _ _).mpr ⟨filled.2, related⟩
    exact ⟨rfl, few, both.imp fun _ _ of => (entry of.1).mpr ⟨known, of.2⟩, nonempty⟩
  · rintro ⟨-, few, related, nonempty⟩
    have both := (forall₂_and_left _ _).mpr ⟨filled.2, related⟩
    have all := both.imp fun _ _ of => (entry of.1).mp of.2
    cases all with
    | nil => exact absurd rfl nonempty
    | cons first rest =>
      exact ⟨first.1, few, .cons first.2 (rest.imp fun _ _ => And.right), nonempty⟩

/-! ## No cell is ignored -/

/-- The row has what is written under this column. -/
def BulkRow.Shows (row : BulkRow) (raw : Text) : Column -> Prop
  | .schemaUid => row.schemaUid = raw
  | .recipient => row.recipient = raw
  | .data => row.data = raw
  | .expiration => parseU64 raw = some row.expiration
  | .revocable => parseBool raw = some row.revocable

section Cells

variable {index : Nat} {cell : Text}

/-- Only blank cells are cut off. -/
theorem fitted_cell (found : fields[index]? = some cell) (written : trim cell ≠ []) :
    (fitted header fields)[index]? = some cell := by
  rw [fitted]
  split
  · rename_i wide
    have inside : index < header.length := by
      by_contra outside
      have member : cell ∈ fields.drop header.length := by
        refine mem_of_getElem? (i := index - header.length) ?_
        rw [List.getElem?_drop, Nat.add_sub_cancel' (not_lt.mp outside), found]
      exact written (by simpa using List.all_eq_true.mp wide.2 cell member)
    rw [List.getElem?_take_of_lt inside, found]
  · exact found

/-- A cell says the same as the one under the first column of its name. -/
def Column.SameAs (raw : Text) (first : Option Text) : Column -> Prop
  | .schemaUid | .recipient | .data => first.getD [] = raw
  | .expiration => ∃ value, parseU64 raw = some value ∧ CellReads 0 parseU64 value first
  | .revocable => ∃ value, parseBool raw = some value ∧ CellReads false parseBool value first

theorem CellReads.exists_iff {α : Type} {default value : α} {parse : Text -> Option α} {raw : Text}
    {first : Option Text} (reads : CellReads default parse value first) :
    parse raw = some value <-> ∃ other, parse raw = some other ∧ CellReads default parse other first := by
  refine ⟨fun parsed => ⟨value, parsed, reads⟩, ?_⟩
  rintro ⟨other, parsed, again⟩
  rcases first with _ | _ | ⟨c, rest⟩
  · exact parsed.trans (congrArg some (again.symm.trans reads))
  · exact parsed.trans (congrArg some (again.symm.trans reads))
  · exact parsed.trans (again.symm.trans reads)

variable {record : Nat × List Text}

theorem RowOf.shows_iff (of : RowOf header record row) (raw : Text) (column : Column) :
    row.Shows raw column <-> column.SameAs raw (field header (fitted header record.2) column) := by
  cases column with
  | schemaUid => exact Eq.congr_left of.schemaUid
  | recipient => exact Eq.congr_left of.recipient
  | data => exact Eq.congr_left of.data
  | expiration => exact of.expiration.exists_iff
  | revocable => exact of.revocable.exists_iff

/-- A cell that is not blank stands under a column. -/
theorem RowOf.column (of : RowOf header record row) (known : KnownColumns header)
    (found : record.2[index]? = some cell) (written : trim cell ≠ []) :
    ∃ column, header[index]? = some (Column.name column) := by
  rcases List.getElem?_eq_some_iff.mp (fitted_cell found written) with ⟨inside, -⟩
  rw [of.width] at inside
  rcases List.mem_map.mp (known.2 _ (getElem_mem inside)) with ⟨column, -, name⟩
  exact ⟨column, by rw [name, List.getElem?_eq_getElem inside]⟩

theorem Column.name_injective {first second : Column} (same : first.name = second.name) : first = second := by
  cases first <;> cases second <;> first | rfl | exact absurd same (by decide)

/-- The row shows every cell that is not blank. -/
def ShowsCells (header : List String) (record : Nat × List Text) (row : BulkRow) : Prop :=
  ∀ (index : Nat) (cell : Text), record.2[index]? = some cell -> trim cell ≠ [] ->
    ∃ column, header[index]? = some (Column.name column) ∧ row.Shows (trim cell) column

/-- Every cell that is not blank says the same as the one under the first column of its name. -/
def RepeatsAgree (header : List String) (record : Nat × List Text) : Prop :=
  ∀ (index : Nat) (cell : Text) (column : Column), record.2[index]? = some cell -> trim cell ≠ [] ->
    header[index]? = some column.name -> column.SameAs (trim cell) (field header (fitted header record.2) column)

theorem RowOf.showsCells_iff (of : RowOf header record row) (known : KnownColumns header) :
    ShowsCells header record row <-> RepeatsAgree header record := by
  constructor
  · intro shown index cell column found written named
    rcases shown index cell found written with ⟨other, named', shows'⟩
    cases Column.name_injective (Option.some.inj (named.symm.trans named'))
    exact (of.shows_iff _ column).mp shows'
  · intro agree index cell found written
    rcases of.column known found written with ⟨column, named⟩
    exact ⟨column, named, (of.shows_iff _ column).mpr (agree index cell column found written named)⟩

end Cells

theorem forall₂_iff_left {α β : Type} {related property : α -> β -> Prop} {condition : α -> Prop} {xs : List α}
    {ys : List β} (all : List.Forall₂ related xs ys) (each : ∀ x y, related x y -> (property x y <-> condition x)) :
    List.Forall₂ property xs ys <-> ∀ x ∈ xs, condition x := by
  induction all with
  | nil => simp
  | cons first rest ih => rw [forall₂_cons, forall_mem_cons, each _ _ first, ih]

/-- The rows show every cell that is not blank, exactly if the cells under a repeated column all say
the same as the first one. -/
theorem cells_shown_iff {input : Text} {rows : List BulkRow} {line : Nat} {header : List Text}
    {records : Records} (success : parseBulkCsv input = .ok rows) (body : Body input line header records) :
    List.Forall₂ (ShowsCells (names header)) records rows <->
      forall record, record ∈ records -> RepeatsAgree (names header) record := by
  rcases parseBulkCsv_eq_ok.mp success with ⟨_, _, _, same, known, -, related, -⟩
  rcases body.unique same with ⟨rfl, rfl, rfl⟩
  exact forall₂_iff_left related fun _ _ of => of.showsCells_iff known

/-- A header that names a column twice. -/
def repeatedHeader : List Text := ["schema_uid".toList, "recipient".toList, "data".toList, "data".toList]

/-- The second of the two cells is blank. -/
theorem cells_shown_iff_blank :
    let row : BulkRow := ⟨2, "aa".toList, "G".toList, "bb".toList, 0, false⟩
    List.Forall₂ (ShowsCells (names repeatedHeader)) [(2, ["aa".toList, "G".toList, "bb".toList, []])] [row] := by
  intro row
  have success : parseBulkCsv "schema_uid,recipient,data,data\naa,G,bb,\n".toList = .ok [row] := rfl
  have body : Body "schema_uid,recipient,data,data\naa,G,bb,\n".toList 1 repeatedHeader
    [(2, ["aa".toList, "G".toList, "bb".toList, []])] := ⟨_, rfl, rfl⟩
  refine (cells_shown_iff success body).mpr ?_
  intro record member index cell column found written named
  cases List.mem_singleton.mp member
  rcases index with _ | _ | _ | _ | _
  all_goals cases found
  all_goals cases column <;> first | rfl | exact absurd named (by decide) | exact absurd rfl written

/-- The first of two columns of one name counts, also if its cell is empty. -/
theorem second_column_ignored :
    let input := "schema_uid,recipient,data,data\naa,G,,bb\n".toList
    splitRecords input = .ok [(1, ["schema_uid".toList, "recipient".toList, "data".toList, "data".toList]),
      (2, ["aa".toList, "G".toList, [], "bb".toList])] ∧
    parseBulkCsv input = .ok [⟨2, "aa".toList, "G".toList, [], 0, false⟩] := ⟨rfl, rfl⟩

end SorobanSas.Cli
