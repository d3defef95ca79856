import Mathlib.Algebra.Order.Ring.Nat

namespace SorobanSas.Cli

open List

/-!
# Records of a CSV file

`split_records` goes through a file character by character.  What it accepts is described here without
the scanner: a file is a sequence of lines, a line is a sequence of cells, and a cell is plain or
quoted.  The documented format is described in the same way.  Three things go beyond it: a carriage return
alone ends a line, a quoted cell may be continued by plain text, and a last line that consists of one
empty quoted cell is not counted.  Where a text needs one of the three, the records are not those of the
documentation, and nowhere else.
-/

/-- A `str`, by its characters. -/
abbrev Text := List Char

/-- Each record with the line where it starts. -/
abbrev Records := List (Nat × List Text)

/-- The local variables of `split_records`, but for `in_quotes`. -/
structure Splitter where
  records : Records
  record : List Text
  field : Text
  line : Nat
  recordLine : Nat

namespace Splitter

variable (state : Splitter)

def push (c : Char) : Splitter := { state with field := state.field ++ [c] }

def endField : Splitter := { state with record := state.record ++ [state.field], field := [] }

def endRecord : Splitter where
  records := state.records ++ [(state.recordLine, state.record ++ [state.field])]
  record := []
  field := []
  line := state.line + 1
  recordLine := state.line + 1

/-- What is returned at the end of the file. -/
def finish : Records := if state.field ≠ [] ∨ state.record ≠ [] then state.endRecord.records else state.records

/-- The loop of `split_records`. -/
def scan (state : Splitter) : Bool -> Text -> Except String Records
  | true, [] => .error (s!"line {state.recordLine}: unterminated quoted field; " ++
      "a quoted value must be closed with `\"`")
  | false, [] => .ok state.finish
  | true, '"' :: '"' :: rest => scan (state.push '"') true rest
  | true, '"' :: rest => scan state false rest
  | true, '\n' :: rest => scan { state.push '\n' with line := state.line + 1 } true rest
  | true, c :: rest => scan (state.push c) true rest
  | false, '"' :: rest =>
    if state.field ≠ [] then
      .error (s!"line {state.recordLine}: unexpected `\"` in the middle of an unquoted field; " ++
        "quote the whole field and double any quote inside it")
    else scan state true rest
  | false, ',' :: rest => scan state.endField false rest
  | false, '\r' :: '\n' :: rest => scan state.endRecord false rest
  | false, '\r' :: rest => scan state.endRecord false rest
  | false, '\n' :: rest => scan state.endRecord false rest
  | false, c :: rest => scan (state.push c) false rest

end Splitter

def splitRecords (input : Text) : Except String Records := Splitter.scan ⟨[], [], [], 1, 1⟩ false input

/-! ## Dialects of the format -/

/-- No character has a meaning outside quotes. -/
def Ordinary (text : Text) : Prop := ∀ c ∈ text, c ≠ '"' ∧ c ≠ ',' ∧ c ≠ '\r' ∧ c ≠ '\n'

/-- The same, where a carriage return alone has none either. -/
def Unquoted (text : Text) : Prop := ∀ c ∈ text, c ≠ '"' ∧ c ≠ ',' ∧ c ≠ '\n'

inductive Cell where
  | plain (text : Text)
  | quoted (inner after : Text)

namespace Cell

/-- Quotes are doubled. -/
def escape (text : Text) : Text := text.flatMap fun c => if c = '"' then ['"', '"'] else [c]

def text : Cell -> Text
  | plain text => text
  | quoted inner after => '"' :: escape inner ++ '"' :: after

def value : Cell -> Text
  | plain text => text
  | quoted inner after => inner ++ after

/-- The line breaks inside the cell. -/
def breaks : Cell -> Nat
  | plain _ => 0
  | quoted inner _ => inner.count '\n'

end Cell

def lineEnds (ending rest : Text) : Prop :=
  ending = ['\n'] ∨ ending = ['\r', '\n'] ∨ ending = ['\r'] ∧ rest.head? ≠ some '\n'

/-- In what the readers of such files differ. -/
structure Format where
  plain : Text -> Prop
  /-- What may stand behind a closing quote, before the separator. -/
  after : Text -> Prop
  /-- How a line ends, between its last cell and the rest of the file. -/
  ends : Cell -> Text -> Text -> Prop
  /-- A last line may be this one cell. -/
  last : Cell -> Prop
  /-- If it is, there is no record. -/
  empty : Cell -> Bool

namespace Format

/-- What `split_records` goes by. -/
def scanned : Format where
  plain := Ordinary
  after := Ordinary
  ends _ := lineEnds
  last _ := True
  empty cell := cell.value.isEmpty

/-- The format that is documented.  A carriage return before a line feed belongs to the line break, any
other one is data, and only the empty text behind the last line break is no record. -/
def documented : Format where
  plain := Unquoted
  after text := text = []
  ends cell ending _ := ending = ['\n'] ∧ cell.text.getLast? ≠ some '\r' ∨ ending = ['\r', '\n']
  last _ := True
  empty cell := cell.text.isEmpty

/-- What the two have in common: no carriage return outside quotes but in a line break, no text behind a
closing quote, and no last line that is one empty quoted cell. -/
def shared : Format where
  plain := Ordinary
  after text := text = []
  ends _ ending _ := ending = ['\n'] ∨ ending = ['\r', '\n']
  last cell := cell ≠ .quoted [] []
  empty cell := cell.text.isEmpty

def Admits (format : Format) : Cell -> Prop
  | .plain text => format.plain text
  | .quoted _ after => format.after after

end Format

/-- The text, from a cell on, has these records.  The first one starts on line `start`, the cell on line
`line`, and the fields before it are given. -/
inductive Csv (format : Format) : Nat -> Nat -> List Text -> Text -> Records -> Prop where
  | last start line record (cell : Cell) (proper : format.Admits cell) (last : record = [] -> format.last cell) :
      Csv format start line record cell.text
        (if record = [] ∧ format.empty cell then [] else [(start, record ++ [cell.value])])
  | cell start line record (cell : Cell) rest (records : Records) (proper : format.Admits cell)
      (others : Csv format start (line + cell.breaks) (record ++ [cell.value]) rest records) :
      Csv format start line record (cell.text ++ ',' :: rest) records
  | line start line record (cell : Cell) ending rest (records : Records) (proper : format.Admits cell)
      (ends : format.ends cell ending rest)
      (others : Csv format (line + cell.breaks + 1) (line + cell.breaks + 1) [] rest records) :
      Csv format start line record (cell.text ++ (ending ++ rest)) ((start, record ++ [cell.value]) :: records)

open Splitter Format

open Cell (escape)

variable {state : Splitter} {text rest ending : Text} {cell : Cell} {start line : Nat} {record : List Text}
  {records : Records}

section Complete

theorem scan_plain (ordinary : Ordinary text) :
    state.scan false (text ++ rest) = { state with field := state.field ++ text }.scan false rest := by
  induction text generalizing state with
  | nil => simp
  | cons c text ih =>
    rcases ordinary c mem_cons_self with ⟨quote, comma, cr, lf⟩
    rw [cons_append, scan, ih fun c member => ordinary c (mem_cons_of_mem _ member)]
    · simp [push]
    all_goals simp_all

theorem scan_escaped (closes : rest.head? ≠ some '"') (inner : Text) : state.scan true (escape inner ++ '"' :: rest) =
      { state with field := state.field ++ inner, line := state.line + inner.count '\n' }.scan false rest := by
  induction inner generalizing state with
  | nil =>
    change state.scan true ('"' :: rest) = _
    rw [scan]
    · simp
    · rintro after rfl
      exact closes rfl
  | cons c inner ih =>
    by_cases quote : c = '"'
    · subst quote
      change state.scan true ('"' :: '"' :: (escape inner ++ '"' :: rest)) = _
      rw [scan, ih]
      simp [push]
    · have single : escape (c :: inner) = c :: escape inner := by simp [escape, quote]
      rw [single, cons_append]
      by_cases lf : c = '\n'
      · subst lf
        rw [scan, ih]
        simp [push, Nat.add_comm, Nat.add_left_comm]
      · rw [scan, ih]
        · simp [push, lf]
        all_goals simp_all

/-- Behind the cell there is a separator, or the end. -/
theorem scan_cell (proper : scanned.Admits cell) (fresh : state.field = []) (closes : rest.head? ≠ some '"') :
    state.scan false (cell.text ++ rest) =
      { state with field := cell.value, line := state.line + cell.breaks }.scan false rest := by
  cases cell with
  | plain text =>
    change state.scan false (text ++ rest) = _
    rw [scan_plain proper, fresh]
    rfl
  | quoted inner after =>
    have behind : (after ++ rest).head? ≠ some '"' := by
      cases after with
      | nil => exact closes
      | cons c after => exact fun same => (proper c mem_cons_self).1 (Option.some.inj same)
    change state.scan false ('"' :: (escape inner ++ '"' :: after) ++ rest) = _
    rw [cons_append, append_assoc, cons_append, scan, if_neg (by simp [fresh]),
      scan_escaped behind, scan_plain proper, fresh]
    rfl

theorem scan_ending (ends : lineEnds ending rest) :
    state.scan false (ending ++ rest) = state.endRecord.scan false rest := by
  rcases ends with rfl | rfl | ⟨rfl, alone⟩
  · change state.scan false ('\n' :: rest) = _
    rw [scan]
  · change state.scan false ('\r' :: '\n' :: rest) = _
    rw [scan]
  · change state.scan false ('\r' :: rest) = _
    rw [scan]
    rintro after rfl
    exact alone rfl

theorem scan_of_csv (csv : Csv scanned start line record text records) (earlier : Records) :
    scan ⟨earlier, record, [], line, start⟩ false text = .ok (earlier ++ records) := by
  induction csv generalizing earlier with
  | last start line record cell proper =>
    rw [← append_nil cell.text, scan_cell proper rfl (by simp), scan, finish]
    by_cases none : record = [] ∧ cell.value = []
    · simp [none, scanned]
    · rw [if_pos (not_and_or.mp none).symm, if_neg (by simpa [scanned] using none)]
      rfl
  | cell start line record cell rest records proper others ih =>
    rw [scan_cell proper rfl (by simp), scan]
    exact ih earlier
  | line start line record cell ending rest records proper ends others ih =>
    have separated : (ending ++ rest).head? ≠ some '"' := by rcases ends with rfl | rfl | ⟨rfl, -⟩ <;> simp
    rw [scan_cell proper rfl separated, scan_ending ends]
    simpa [endRecord] using ih (earlier ++ [(start, record ++ [cell.value])])

end Complete

section Sound

variable {breaks : Nat} {result : Records}

/-- What has been read of a cell, with its line breaks, before the rest of the file. -/
inductive Partial (rest : Text) : Bool -> Text -> Text -> Nat -> Prop where
  | closed (cell : Cell) (proper : scanned.Admits cell) (fresh : cell = .quoted [] [] -> rest.head? ≠ some '"') :
      Partial rest false cell.value cell.text cell.breaks
  | opened inner : Partial rest true inner ('"' :: Cell.escape inner) (inner.count '\n')

theorem Partial.begin (rest : Text) : Partial rest false [] [] 0 := .closed (.plain []) (forall_mem_nil _) nofun

theorem head_ne {c : Char} (other : ∀ after, rest = c :: after -> False) : rest.head? ≠ some c := by
  cases rest with
  | nil => rintro ⟨⟩
  | cons first after =>
    rintro ⟨⟩
    exact other after rfl

/-- The text has the records that are still to come. -/
def Continues (state : Splitter) (line : Nat) (text : Text) (result : Records) : Prop :=
  ∃ records, result = state.records ++ records ∧ Csv scanned state.recordLine line state.record text records

theorem Continues.ended (next : Continues state.endRecord (state.line + 1) rest result)
    (proper : scanned.Admits cell) (field : state.field = cell.value) (reading : state.line = line + cell.breaks)
    (ends : lineEnds ending rest) : Continues state line (cell.text ++ (ending ++ rest)) result := by
  rcases next with ⟨records, rfl, csv⟩
  refine ⟨(state.recordLine, state.record ++ [cell.value]) :: records, by simp [endRecord, field], ?_⟩
  rw [reading] at csv
  refine .line _ line _ cell ending rest records proper ends ?_
  simpa [endRecord, reading] using csv

theorem csv_of_scan {quoted : Bool} {field written : Text} (progress : Partial text quoted field written breaks)
    (same : state.field = field) (reading : state.line = line + breaks)
    (success : state.scan quoted text = .ok result) : Continues state line (written ++ text) result := by
  fun_induction scan state quoted text generalizing field written breaks line with
  | case1 => cases success
  | case2 state =>
    cases success
    rcases progress with ⟨cell, proper, -⟩
    rw [append_nil]
    refine ⟨_, ?_, .last _ line _ cell proper fun _ => trivial⟩
    rw [finish, same]
    by_cases none : state.record = [] ∧ cell.value = []
    · simp [none, scanned]
    · rw [if_pos (not_and_or.mp none).symm, if_neg (by simpa [scanned] using none), ← same]
      rfl
  | case3 state rest ih =>
    rcases progress with ⟨⟩
    have next := ih (.opened _) (congrArg (· ++ ['"']) same) (by simpa [push] using reading) success
    simpa [Continues, push, escape] using next
  | case4 state rest alone ih =>
    rcases progress with ⟨⟩
    have next := ih (.closed (.quoted field []) (forall_mem_nil _) fun _ => head_ne alone)
      (by simpa [Cell.value] using same) reading success
    simpa [Cell.text] using next
  | case5 state rest ih =>
    rcases progress with ⟨⟩
    have next := ih (.opened _) (congrArg (· ++ ['\n']) same) (by simp [reading, Nat.add_assoc]; rfl) success
    simpa [Continues, push, escape] using next
  | case6 state c rest _ quote lf ih =>
    have single : escape (field ++ [c]) = escape field ++ [c] := by simp [escape, show c ≠ '"' from quote]
    rcases progress with ⟨⟩
    have next := ih (.opened _) (congrArg (· ++ [c]) same) (by simpa [push, show c ≠ '\n' from lf] using reading)
      success
    simpa [Continues, push, single] using next
  | case7 => cases success
  | case8 state rest empty ih =>
    rcases progress with ⟨cell, -, fresh⟩
    have value : cell.value = [] := same ▸ not_not.mp empty
    cases cell with
    | plain text =>
      cases value
      simpa [Cell.text, escape] using ih (.opened []) same reading success
    | quoted inner after =>
      rcases append_eq_nil_iff.mp value with ⟨rfl, rfl⟩
      exact absurd rfl (fresh rfl)
  | case9 state rest ih =>
    rcases progress with ⟨cell, proper, -⟩
    rcases ih (.begin rest) rfl rfl success with ⟨records, rfl, csv⟩
    refine ⟨records, rfl, .cell _ line _ cell rest records proper ?_⟩
    rw [← reading, ← same]
    exact csv
  | case10 state rest ih =>
    rcases progress with ⟨cell, proper, -⟩
    exact (ih (.begin rest) rfl rfl success).ended proper same reading (.inr (.inl rfl))
  | case11 state rest alone ih =>
    rcases progress with ⟨cell, proper, -⟩
    exact (ih (.begin rest) rfl rfl success).ended proper same reading (.inr (.inr ⟨rfl, head_ne alone⟩))
  | case12 state rest ih =>
    rcases progress with ⟨cell, proper, -⟩
    exact (ih (.begin rest) rfl rfl success).ended proper same reading (.inl rfl)
  | case13 state c rest quote comma _ cr lf ih =>
    rcases progress with ⟨cell, proper, -⟩
    have extended {text : Text} (ordinary : Ordinary text) : Ordinary (text ++ [c]) :=
      forall_mem_append.mpr ⟨ordinary, forall_mem_singleton.mpr ⟨quote, comma, cr, lf⟩⟩
    cases cell with
    | plain text =>
      have next := ih (.closed (.plain (text ++ [c])) (extended proper) nofun)
        (congrArg (· ++ [c]) same) reading success
      simpa [Continues, push, Cell.text] using next
    | quoted inner after =>
      have next := ih (.closed (.quoted inner (after ++ [c])) (extended proper) (by simp))
        (by simp [push, same, Cell.value]) reading success
      simpa [Continues, push, Cell.text] using next

end Sound

/-- `split_records` succeeds exactly on the texts that are described above, and returns their
records. -/
theorem splitRecords_eq_ok : splitRecords text = .ok records <-> Csv scanned 1 1 [] text records := by
  constructor
  · intro success
    have start : line ⟨[], [], [], 1, 1⟩ = 1 + 0 := rfl
    rcases csv_of_scan (.begin text) rfl start success with ⟨records, rfl, csv⟩
    exact csv
  · intro csv
    exact scan_of_csv csv []

/-! ## Against the documented format -/

structure Format.Narrower (narrow wide : Format) : Prop where
  admits : ∀ cell, narrow.Admits cell -> wide.Admits cell
  ends : ∀ cell ending rest, narrow.Admits cell -> narrow.ends cell ending rest -> wide.ends cell ending rest
  last : ∀ cell, narrow.last cell -> wide.last cell ∧ wide.empty cell = narrow.empty cell

theorem Format.Narrower.refl (format : Format) : format.Narrower format :=
  ⟨fun _ own => own, fun _ _ _ _ own => own, fun _ own => ⟨own, rfl⟩⟩

theorem Csv.mono {narrow wide : Format} (narrower : narrow.Narrower wide)
    (csv : Csv narrow start line record text records) : Csv wide start line record text records := by
  induction csv with
  | last start line record cell proper last =>
    have same : (record = [] ∧ wide.empty cell) = (record = [] ∧ narrow.empty cell) :=
      propext (and_congr_right fun alone => by rw [(narrower.last cell (last alone)).2])
    simp only [← same]
    exact .last start line record cell (narrower.admits cell proper) fun alone => (narrower.last cell (last alone)).1
  | cell start line record cell rest records proper others ih =>
    exact .cell start line record cell rest records (narrower.admits cell proper) ih
  | line start line record cell ending rest records proper ends others ih =>
    exact .line start line record cell ending rest records (narrower.admits cell proper)
      (narrower.ends cell ending rest proper ends) ih

theorem Format.Narrower.shared_scanned : shared.Narrower scanned where
  admits cell proper := by
    cases cell with
    | plain text => exact proper
    | quoted inner after => exact (show after = [] from proper) ▸ forall_mem_nil _
  ends _ _ _ _ := Or.imp_right .inl
  last cell some := by
    refine ⟨trivial, ?_⟩
    cases cell with
    | plain text => rfl
    | quoted inner after => simpa [shared, scanned, Cell.text, Cell.value] using some

theorem Format.Narrower.shared_documented : shared.Narrower documented where
  admits cell proper := by
    cases cell with
    | plain text => exact fun c member => (proper c member).imp_right (And.imp_right And.right)
    | quoted inner after => exact proper
  ends cell _ _ proper := Or.imp_left fun lf => ⟨lf, by
    cases cell with
    | plain text => exact fun last => (proper _ (mem_of_getLast? last)).2.2.1 rfl
    | quoted inner after =>
      rw [show after = [] from proper, Cell.text, getLast?_concat]
      decide⟩
  last _ _ := ⟨trivial, rfl⟩

/-- What may stand behind a cell of the documented format. -/
inductive Follows (cell : Cell) : Text -> Prop where
  | nothing : Follows cell []
  | comma rest : Follows cell (',' :: rest)
  | lf rest (data : cell.text.getLast? ≠ some '\r') : Follows cell ('\n' :: rest)
  | crlf rest : Follows cell ('\r' :: '\n' :: rest)

theorem Follows.of_ends (ends : documented.ends cell ending rest) : Follows cell (ending ++ rest) := by
  rcases ends with ⟨rfl, data⟩ | rfl
  · exact .lf rest data
  · exact .crlf rest

/-! Two readings of one text: what stands behind the first piece of each is `s` and `s'`. -/

section Agreement

variable {s s' : Text} {cell' : Cell}

theorem escape_cons (c : Char) (text : Text) :
    escape (c :: text) = if c = '"' then '"' :: '"' :: escape text else c :: escape text := by
  rw [escape, flatMap_cons]
  split <;> rfl

theorem escape_agree {inner inner' : Text} (closes : s.head? ≠ some '"') (closes' : s'.head? ≠ some '"')
    (same : escape inner ++ '"' :: s = escape inner' ++ '"' :: s') : inner = inner' ∧ s = s' := by
  induction inner generalizing inner' with
  | nil =>
    cases inner' with
    | nil => exact ⟨rfl, (cons.inj same).2⟩
    | cons c inner' =>
      rw [escape_cons] at same
      split at same
      · cases same
        exact absurd rfl closes
      · exact absurd (cons.inj same).1.symm ‹c ≠ '"'›
  | cons c inner ih =>
    rw [escape_cons] at same
    cases inner' with
    | nil =>
      split at same
      · cases same
        exact absurd rfl closes'
      · exact absurd (cons.inj same).1 ‹c ≠ '"'›
    | cons c' inner' =>
      rw [escape_cons] at same
      grind

def Separated (s : Text) : Prop := ∀ c ∈ s.head?, c = ',' ∨ c = '\n' ∨ c = '\r'

theorem Follows.separated (follows : Follows cell s) : Separated s := by
  rcases follows <;> simp [Separated]

theorem Separated.nil_of_ordinary {between : Text} (separated : Separated (between ++ s))
    (ordinary : Ordinary between) : between = [] := by
  cases between with
  | nil => rfl
  | cons c between =>
    rcases ordinary c mem_cons_self with ⟨-, comma, cr, lf⟩
    rcases separated c rfl with equal | equal | equal <;> contradiction

theorem Separated.of_ends (ends : lineEnds ending rest) : Separated (ending ++ rest) := by
  rcases ends with rfl | rfl | ⟨rfl, -⟩ <;> simp [Separated]

/-- A carriage return alone. -/
def LoneReturn (s : Text) : Prop := ∃ after, s = '\r' :: after ∧ after.head? ≠ some '\n'

theorem plain_agree {text text' : Text} (ordinary : Ordinary text) (bare : Unquoted text')
    (separated : Separated s) (follows : Follows (.plain text') s') (same : text ++ s = text' ++ s') :
    text = text' ∧ s = s' ∨ LoneReturn s ∧ ∃ more, text' = text ++ '\r' :: more := by
  rcases append_eq_append_iff.mp same with ⟨between, rfl, rfl⟩ | ⟨between, rfl, rfl⟩
  · cases between with
    | nil => exact .inl ⟨(append_nil text).symm, rfl⟩
    | cons c more =>
      -- The character is data in one reading and separates in the other one.
      have own := bare c (by simp)
      rcases separated c rfl with rfl | rfl | rfl
      · exact absurd rfl own.2.1
      · exact absurd rfl own.2.2
      · refine .inr ⟨⟨_, rfl, ?_⟩, more, rfl⟩
        cases more with
        | nil =>
          rintro head
          rcases follows with _ | _ | ⟨rest, data⟩ | _
          · cases head
          · cases head
          · exact data (by simp [Cell.text])
          · cases head
        | cons c more => exact fun head => (bare c (by simp)).2.2 (Option.some.inj head)
  · cases follows.separated.nil_of_ordinary fun c member => ordinary c (mem_append_right text' member)
    exact .inl ⟨append_nil text', rfl⟩

theorem cell_agree (proper : scanned.Admits cell) (proper' : documented.Admits cell')
    (separated : Separated s) (follows : Follows cell' s') (same : cell.text ++ s = cell'.text ++ s') :
    cell = cell' ∧ s = s' ∨ LoneReturn s ∧ ∃ more, cell'.value = cell.value ++ '\r' :: more := by
  have closes : s.head? ≠ some '"' := by
    intro head
    rcases separated _ head with equal | equal | equal <;> cases equal
  have closes' : s'.head? ≠ some '"' := by rcases follows <;> simp
  cases cell with
  | plain text =>
    cases cell' with
    | plain text' =>
      rcases plain_agree proper proper' separated follows same with ⟨rfl, rfl⟩ | cut
      · exact .inl ⟨rfl, rfl⟩
      · exact .inr cut
    | quoted inner' after' =>
      cases text with
      | nil => exact absurd (congrArg head? same) closes
      | cons c text => exact absurd (cons.inj same).1 (proper c mem_cons_self).1
  | quoted inner after =>
    cases cell' with
    | plain text' =>
      cases text' with
      | nil => exact absurd (congrArg head? same).symm closes'
      | cons c text => exact absurd (cons.inj same).1.symm (proper' c mem_cons_self).1
    | quoted inner' after' =>
      cases show after' = [] from proper'
      have behind : (after ++ s).head? ≠ some '"' := by
        cases after with
        | nil => exact closes
        | cons c after => exact fun head => (proper c mem_cons_self).1 (Option.some.inj head)
      have inside : escape inner ++ '"' :: (after ++ s) = escape inner' ++ '"' :: s' := by
        simpa [Cell.text] using same
      rcases escape_agree behind closes' inside with ⟨rfl, rfl⟩
      cases follows.separated.nil_of_ordinary proper
      exact .inl ⟨rfl, rfl⟩

variable {format : Format} {records' : Records}

theorem not_loneReturn (ends : format.ends cell ending rest) (agree : cell'.value = cell.value ∨ format = shared)
    (cut : ∃ more, cell'.value = cell.value ++ '\r' :: more) : ¬ LoneReturn (ending ++ rest) := by
  rcases agree with same | rfl
  · rcases cut with ⟨more, longer⟩
    simp [same] at longer
  · rintro ⟨after, equal, alone⟩
    rcases ends with rfl | rfl
    · cases equal
    · cases equal
      exact alone rfl

theorem Csv.extends (csv : Csv format start line record text records) (some : record ≠ []) :
    ∃ more others, records = (start, record ++ more) :: others := by
  induction csv with
  | last start line record cell proper last => exact ⟨_, [], if_neg fun none => some none.1⟩
  | cell start line record cell rest records proper others ih =>
    rcases ih (by simp) with ⟨more, later, rfl⟩
    exact ⟨cell.value :: more, later, by simp⟩
  | line => exact ⟨_, _, rfl⟩

/-- What stands behind a cell of the other reading, where the documented one has `cell`. -/
inductive Behind (format : Format) (code cell : Cell) : Text -> Prop where
  | nothing : Behind format code cell []
  | comma rest : Behind format code cell (',' :: rest)
  | ends ending rest (ends : format.ends code ending rest) (agree : cell.value = code.value ∨ format = shared) :
      Behind format code cell (ending ++ rest)

/-- The first cells agree, unless a line ends where the documented reading has data. -/
theorem Behind.agree {code : Cell} (behind : Behind format code cell s) (narrower : format.Narrower scanned)
    (follows : Follows cell s') (proper' : format.Admits code) (proper : documented.Admits cell)
    (same : code.text ++ s = cell.text ++ s') : code = cell ∧ s = s' := by
  have separated : Separated s := by
    cases behind with
    | nothing | comma => simp [Separated]
    | ends ending rest ends => exact .of_ends (narrower.ends code ending rest proper' ends)
  rcases cell_agree (narrower.admits code proper') proper separated follows same with both | ⟨returns, cut⟩
  · exact both
  · cases behind with
    | nothing | comma =>
      rcases returns with ⟨_, equal, -⟩
      cases equal
    | ends ending rest ends agree => exact absurd returns (not_loneReturn ends agree cut)

/-- A reading as documented and one by the scanner are the same, if they have the same records or no
carriage return ends a line alone. -/
theorem Csv.agree (narrower : format.Narrower scanned) (csv : Csv documented start line record text records)
    (other : Csv format start line record text records') (agree : records = records' ∨ format = shared) :
    Csv shared start line record text records ∧ records = records' := by
  have both {cell : Cell} (proper : documented.Admits cell) (proper' : format.Admits cell) : shared.Admits cell := by
    have own := narrower.admits cell proper'
    cases cell with
    | plain text => exact own
    | quoted inner after => exact proper
  induction csv generalizing records' with
  | last start line record cell proper last =>
    generalize whole : cell.text = text at other
    cases other with
    | last _ _ _ code proper' last' =>
      rcases Behind.nothing.agree narrower .nothing proper' proper (by simpa using whole.symm) with ⟨rfl, -⟩
      have some (alone : record = []) : code ≠ .quoted [] [] := by
        rintro rfl
        rcases agree with same | rfl
        · have passed := (narrower.last _ (last' alone)).2
          simp [alone, ← passed, documented, scanned, Cell.text, Cell.value] at same
        · exact last' alone rfl
      refine ⟨.last start line record code (both proper proper') some, agree.elim id ?_⟩
      rintro rfl
      rfl
    | cell _ _ _ code rest _ proper' =>
      rcases (Behind.comma rest).agree narrower .nothing proper' proper (by simpa using whole.symm) with ⟨-, equal⟩
      cases equal
    | line _ _ _ code ending rest later proper' ends =>
      have values := agree.imp_left fun same => show cell.value = code.value by
        split at same
        · cases same
        · simpa using (cons.inj same).1
      rcases (Behind.ends ending rest ends values).agree narrower .nothing proper' proper
        (by simpa using whole.symm) with ⟨-, equal⟩
      rcases narrower.ends code ending rest proper' ends with rfl | rfl | ⟨rfl, -⟩ <;> cases equal
  | cell start line record cell rest records proper others ih =>
    generalize whole : cell.text ++ ',' :: rest = text at other
    cases other with
    | last _ _ _ code proper' =>
      rcases Behind.nothing.agree narrower (.comma rest) proper' proper (by simpa using whole.symm) with ⟨-, equal⟩
      cases equal
    | cell _ _ _ code rest' _ proper' others' =>
      rcases (Behind.comma rest').agree narrower (.comma rest) proper' proper whole.symm with ⟨rfl, equal⟩
      cases equal
      rcases ih others' agree with ⟨read, same⟩
      exact ⟨.cell start line record code rest records (both proper proper') read, same⟩
    | line _ _ _ code ending rest' later proper' ends =>
      rcases others.extends (by simp) with ⟨more, others, rfl⟩
      have values := agree.imp_left fun same => show cell.value = code.value by simp_all
      rcases (Behind.ends ending rest' ends values).agree narrower (.comma rest) proper' proper whole.symm
        with ⟨-, equal⟩
      rcases narrower.ends code ending rest' proper' ends with rfl | rfl | ⟨rfl, -⟩ <;> cases equal
  | line start line record cell ending rest records proper ends others ih =>
    generalize whole : cell.text ++ (ending ++ rest) = text at other
    cases other with
    | last _ _ _ code proper' =>
      rcases Behind.nothing.agree narrower (.of_ends ends) proper' proper (by simpa using whole.symm) with ⟨-, equal⟩
      rcases ends with ⟨rfl, -⟩ | rfl <;> cases equal
    | cell _ _ _ code rest' _ proper' =>
      rcases (Behind.comma rest').agree narrower (.of_ends ends) proper' proper whole.symm with ⟨-, equal⟩
      rcases ends with ⟨rfl, -⟩ | rfl <;> cases equal
    | line _ _ _ code ending' rest' records' proper' ends' others' =>
      have values := agree.imp_left fun same => show cell.value = code.value by
        simpa using (cons.inj same).1
      rcases (Behind.ends ending' rest' ends' values).agree narrower (.of_ends ends) proper' proper whole.symm with
        ⟨rfl, equal⟩
      have same : ending' = ending ∧ rest' = rest := by
        rcases narrower.ends code ending' rest' proper' ends' with rfl | rfl | ⟨rfl, alone⟩ <;>
          rcases ends with ⟨rfl, -⟩ | rfl <;> simp_all
      rcases same with ⟨rfl, rfl⟩
      rcases ih others' (agree.imp_left fun same => (cons.inj same).2) with ⟨read, rfl⟩
      exact ⟨.line start line record code _ _ _ (both proper proper') (ends.imp_left And.left) read, rfl⟩

end Agreement

/-- `split_records` reads a text as documented exactly if the text, where it can be read as lines of cells
in one of the two ways, needs none of the three things that are not common to both. -/
theorem splitRecords_documented_iff (text : Text) :
    (∀ records, splitRecords text = .ok records <-> Csv documented 1 1 [] text records) <->
      ((∃ records, Csv scanned 1 1 [] text records ∨ Csv documented 1 1 [] text records) ->
        ∃ records, Csv shared 1 1 [] text records) := by
  constructor
  · rintro exactly ⟨records, either⟩
    have success : splitRecords text = .ok records := either.elim splitRecords_eq_ok.mpr (exactly records).mpr
    have both := Csv.agree (.refl _) ((exactly records).mp success) (splitRecords_eq_ok.mp success) (.inl rfl)
    exact ⟨records, both.1⟩
  · intro common records
    constructor
    · intro success
      rcases common ⟨records, .inl (splitRecords_eq_ok.mp success)⟩ with ⟨own, read⟩
      cases (splitRecords_eq_ok.mpr (read.mono .shared_scanned)).symm.trans success
      exact read.mono .shared_documented
    · intro csv
      rcases common ⟨records, .inr csv⟩ with ⟨own, read⟩
      cases (csv.agree .shared_scanned read (.inr rfl)).2
      exact splitRecords_eq_ok.mpr (read.mono .shared_scanned)

/-- Two records are returned for a text that has one, and none for a text that has one. -/
theorem splitRecords_beyond_format : (splitRecords "a\rb".toList = .ok [(1, ["a".toList]), (2, ["b".toList])] ∧
      Csv documented 1 1 [] "a\rb".toList [(1, ["a\rb".toList])]) ∧
    splitRecords "\"\"".toList = .ok [] ∧ Csv documented 1 1 [] "\"\"".toList [(1, [[]])] := by
  refine ⟨⟨rfl, .last 1 1 [] (.plain "a\rb".toList) ?_ fun _ => trivial⟩,
    rfl, .last 1 1 [] (.quoted [] []) rfl fun _ => trivial⟩
  change Unquoted ['a', '\r', 'b']
  simp [Unquoted]

end SorobanSas.Cli
