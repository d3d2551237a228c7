import SeriesQuery.Proofs.Csv.Records
import SeriesQuery.Proofs.Decimal.RoundTrip
import SeriesQuery.Proofs.Influx.Grouping
import SeriesQuery.Proofs.Time.RoundTrip

/-!
Tables as an answer spells them, one header and one record for each row, and what is read of a
record under the header of its table.
-/

set_option autoImplicit false

namespace SeriesQuery.Influx

open Csv

/-! ## Cells -/

/-- A cell that is not empty, without white space around it. -/
def Filled (cell : String) : Prop := cell ≠ "" ∧ Text.trim cell = cell

instance (cell : String) : Decidable (Filled cell) :=
  inferInstanceAs (Decidable (cell ≠ "" ∧ Text.trim cell = cell))

theorem filled_of_solid {cell : String} (nonempty : cell.toList ≠ [])
    (solid : Language.Solid cell.toList) : Filled cell := by
  constructor
  · rintro rfl
    exact nonempty rfl
  · rw [Text.trim, solid.trimChars_eq, String.ofList_toList]

section
variable {pairs : List (String × String)} {name cell : String}

theorem lastPlace?_eq_none {columns : List String} (absent : name ∉ columns) :
    lastPlace? name columns = none := by
  induction columns with
  | nil => rfl
  | cons column rest ih =>
    have ⟨other, absent⟩ := not_or.1 (mt List.mem_cons.2 absent)
    rw [lastPlace?, ih absent]
    exact if_neg (Ne.symm other)

theorem lastPlace?_of_mem (distinct : (pairs.map (·.1)).Nodup) (member : (name, cell) ∈ pairs) :
    ∃ place, lastPlace? name (pairs.map (·.1)) = some place ∧
      (pairs.map (·.2))[place]? = some cell := by
  induction pairs with
  | nil => cases member
  | cons pair rest ih =>
    have ⟨fresh, distinct⟩ := List.nodup_cons.1 distinct
    rcases List.mem_cons.1 member with rfl | member
    · refine ⟨0, ?_, rfl⟩
      rw [List.map_cons, lastPlace?, lastPlace?_eq_none fresh]
      exact if_pos rfl
    · obtain ⟨place, found, same⟩ := ih distinct member
      exact ⟨place + 1, by rw [List.map_cons, lastPlace?, found], same⟩

theorem cell?_of_mem (distinct : (pairs.map (·.1)).Nodup) (member : (name, cell) ∈ pairs)
    (filled : Filled cell) :
    Header.cell? ⟨pairs.map (·.1)⟩ (pairs.map (·.2)) name = some cell := by
  obtain ⟨place, found, same⟩ := lastPlace?_of_mem distinct member
  have nonempty : cell.isEmpty = false := by
    rw [Bool.eq_false_iff, Ne, String.isEmpty_iff]
    exact filled.1
  rw [Header.cell?]
  simp only [found, same, Option.bind_some, Option.map_some, filled.2]
  rw [Option.filter_some, nonempty]
  rfl

theorem cell?_eq_none {columns : List String} (absent : name ∉ columns) (record : Record) :
    Header.cell? ⟨columns⟩ record name = none := by
  rw [Header.cell?, lastPlace?_eq_none absent]
  rfl

end

/-! ## Headers -/

/-- The columns by which headers are known. -/
def headWords : List String := ["result", "table", "error", "reference"]

def HeadsTable (record : Record) : Prop := "result" ∈ record ∧ "table" ∈ record

def HeadsReport (record : Record) : Prop := "error" ∈ record ∧ "reference" ∈ record

instance (record : Record) : Decidable (HeadsTable record) :=
  inferInstanceAs (Decidable (_ ∧ _))

instance (record : Record) : Decidable (HeadsReport record) :=
  inferInstanceAs (Decidable (_ ∧ _))

theorem isHeader_iff {record : Record} (trimmed : ∀ field ∈ record, Text.trim field = field) :
    isHeader record = true ↔ HeadsTable record ∨ HeadsReport record := by
  have has (name : String) :
      (record.any fun field => Text.trim field == name) = true ↔ name ∈ record := by
    rw [List.any_eq_true]
    constructor
    · rintro ⟨field, member, same⟩
      rw [trimmed field member, beq_iff_eq] at same
      exact same ▸ member
    · intro member
      exact ⟨name, member, beq_iff_eq.2 (trimmed name member)⟩
  unfold isHeader
  simp only [Bool.or_eq_true, Bool.and_eq_true, has]
  rfl

theorem notMem_headWords {cell : String} (without : 'e' ∉ cell.toList) : cell ∉ headWords := by
  intro member
  have each : ∀ word ∈ headWords, 'e' ∈ word.toList := by decide
  exact without (each cell member)

theorem isBlank_of_isMark {c : Char} (mark : Time.isMark c = true) : Text.isBlank c = false := by
  rcases Bool.or_eq_true_iff.1 mark with digit | mark
  · exact Language.isBlank_of_isDigit digit
  · have each : ∀ c ∈ ['-', 'T', ':', '.', 'Z'], Text.isBlank c = false := by decide
    exact each c (List.contains_iff_mem.1 mark)

/-- Instants and numbers are cells, and never words of a header. -/
theorem filled_of_isMark {cell : String} (nonempty : cell.toList ≠ [])
    (marks : ∀ c ∈ cell.toList, Time.isMark c = true) : Filled cell ∧ cell ∉ headWords := by
  refine ⟨filled_of_solid nonempty fun c member => isBlank_of_isMark (marks c member),
    notMem_headWords fun letter => ?_⟩
  cases marks 'e' letter

theorem filled_zulu {instant : Time.Instant} (low : 0 ≤ instant.date.year)
    (high : instant.date.year ≤ 9999) : Filled instant.zulu ∧ instant.zulu ∉ headWords := by
  refine filled_of_isMark ?_ (Time.isMark_zulu low high)
  rw [Time.toList_zulu low high]
  exact List.append_ne_nil_of_right_ne_nil _ (List.cons_ne_nil _ _)

theorem filled_plain {value : Float} (finite : Decimal.isFinite value = true) :
    Filled (Decimal.plain value) ∧ Decimal.plain value ∉ headWords := by
  have ⟨nonempty, numerals⟩ := Decimal.numeric_plain finite
  refine filled_of_isMark nonempty fun c member => ?_
  have numeral := numerals c member
  simp only [Decimal.isNumeral, Bool.or_eq_true, beq_iff_eq] at numeral
  rcases numeral with (digit | rfl) | rfl
  · rw [Time.isMark, digit, Bool.true_or]
  · decide
  · decide

/-! ## Tables -/

/-- The rows of one series, with what is the same in all of them. -/
structure Table where
  result : String
  table : String
  field : String
  measurement : String
  tags : List (String × String)
  rows : List (Time.Instant × Float)

namespace Table

def id (table : Table) : String × String := (table.result, table.table)

def cells (table : Table) (row : Time.Instant × Float) : List (String × String) :=
  [("", ""), ("result", table.result), ("table", table.table), ("_time", row.1.zulu),
    ("_value", Decimal.plain row.2), ("_field", table.field),
    ("_measurement", table.measurement)] ++ table.tags

def columns (table : Table) : List String :=
  ["", "result", "table", "_time", "_value", "_field", "_measurement"] ++ table.tags.map (·.1)

def record (table : Table) (row : Time.Instant × Float) : Record :=
  (table.cells row).map (·.2)

def records (table : Table) : List Record := table.columns :: table.rows.map table.record

/-- The measurement alone where the field is called `value`. -/
def metric (table : Table) : String :=
  if table.field = "value" then table.measurement else table.measurement ++ "." ++ table.field

def series (table : Table) : Series where
  metric := table.metric
  labels := .ofList table.tags
  readings := table.rows.map fun row => ⟨row.1, some row.2⟩

def texts (table : Table) : List String :=
  [table.result, table.table, table.field, table.measurement] ++ table.tags.map (·.2)

/-- Columns that are told apart, cells that are kept as they are, and instants that the internet date
format can write. -/
structure WellFormed (table : Table) : Prop where
  distinct : (table.tags.map (·.1)).Nodup
  free : ∀ name ∈ table.tags.map (·.1), name ∉ reservedColumns
  named : ∀ name ∈ table.tags.map (·.1), Filled name
  filled : ∀ text ∈ table.texts, Filled text
  nonempty : table.rows ≠ []
  years : ∀ row ∈ table.rows, 0 ≤ row.1.date.year ∧ row.1.date.year ≤ 9999
  finite : ∀ row ∈ table.rows, Decimal.isFinite row.2 = true

/-- The rows look like headers, or like reports of an error. -/
def Confusing (table : Table) : Prop :=
  "error" ∈ table.tags.map (·.1) ∨ HeadsTable table.texts ∨ HeadsReport table.texts

instance (table : Table) : Decidable table.Confusing := inferInstanceAs (Decidable (_ ∨ _ ∨ _))

section
variable (table : Table) (row : Time.Instant × Float)

theorem map_fst_cells : (table.cells row).map (·.1) = table.columns := by
  rw [cells, List.map_append]
  rfl

theorem mem_record_iff {field : String} :
    field ∈ table.record row ↔ field = "" ∨ field = row.1.zulu ∨ field = Decimal.plain row.2 ∨
      field ∈ table.texts := by
  simp only [record, cells, texts, List.map_append, List.map_cons, List.map_nil, List.mem_append,
    List.mem_cons, List.not_mem_nil, or_false]
  exact iff_of_eq (by ac_rfl)

theorem marked_records : ∀ record ∈ table.records, Marked record := by
  refine List.forall_mem_cons.2 ⟨⟨_, _, rfl⟩, fun record member => ?_⟩
  obtain ⟨row, -, rfl⟩ := List.mem_map.1 member
  exact ⟨_, _, rfl⟩

end

/-! ## Rows under their header -/

namespace WellFormed

variable {table : Table} (wellFormed : table.WellFormed)
include wellFormed

theorem nodup_columns : table.columns.Nodup := by
  refine List.nodup_append.2 ⟨by decide, wellFormed.distinct, ?_⟩
  rintro column front name tag rfl
  have reserved : ∀ column ∈ ["", "result", "table", "_time", "_value", "_field", "_measurement"],
      column ∈ reservedColumns := by decide
  exact wellFormed.free column tag (reserved column front)

theorem trimmed_columns : ∀ column ∈ table.columns, Text.trim column = column := by
  have front : ∀ column ∈ ["", "result", "table", "_time", "_value", "_field", "_measurement"],
      Text.trim column = column := by decide
  intro column member
  rcases List.mem_append.1 member with reserved | tag
  · exact front column reserved
  · exact (wellFormed.named column tag).2

theorem ofRecord_columns : Header.ofRecord table.columns = ⟨table.columns⟩ := by
  rw [Header.ofRecord, List.map_congr_left wellFormed.trimmed_columns, List.map_id']

theorem isHeader_columns : isHeader table.columns = true :=
  (isHeader_iff wellFormed.trimmed_columns).2
    (.inl ⟨List.mem_append_left _ (by decide), List.mem_append_left _ (by decide)⟩)

section
variable {row : Time.Instant × Float} (member : row ∈ table.rows)
include member

theorem filled_time : Filled row.1.zulu ∧ row.1.zulu ∉ headWords :=
  filled_zulu (wellFormed.years row member).1 (wellFormed.years row member).2

theorem filled_value : Filled (Decimal.plain row.2) ∧ Decimal.plain row.2 ∉ headWords :=
  filled_plain (wellFormed.finite row member)

theorem trimmed_record : ∀ field ∈ table.record row, Text.trim field = field := by
  intro field inside
  rcases (table.mem_record_iff row).1 inside with rfl | rfl | rfl | text
  · decide
  · exact (wellFormed.filled_time member).1.2
  · exact (wellFormed.filled_value member).1.2
  · exact (wellFormed.filled field text).2

theorem word_mem_record_iff {word : String} (known : word ∈ headWords) :
    word ∈ table.record row ↔ word ∈ table.texts := by
  have noMark : word ≠ "" := by
    rintro rfl
    revert known
    decide
  have noTime : word ≠ row.1.zulu := by
    rintro rfl
    exact (wellFormed.filled_time member).2 known
  have noValue : word ≠ Decimal.plain row.2 := by
    rintro rfl
    exact (wellFormed.filled_value member).2 known
  simp only [table.mem_record_iff row, noMark, noTime, noValue, false_or]

theorem isHeader_record_iff :
    isHeader (table.record row) = true ↔ HeadsTable table.texts ∨ HeadsReport table.texts := by
  have same {word : String} (known : word ∈ headWords) :=
    wellFormed.word_mem_record_iff member known
  rw [isHeader_iff (wellFormed.trimmed_record member), HeadsTable, HeadsReport,
    same (by decide), same (by decide), same (by decide), same (by decide)]
  rfl

end

section
variable {row : Time.Instant × Float}

theorem cell?_record {name cell : String} (has : (name, cell) ∈ table.cells row)
    (filled : Filled cell) :
    Header.cell? ⟨table.columns⟩ (table.record row) name = some cell := by
  have distinct := wellFormed.nodup_columns
  rw [← map_fst_cells table row] at distinct ⊢
  exact cell?_of_mem distinct has filled

theorem labels_record :
    Header.labels ⟨table.columns⟩ (table.record row) [.plain] = .ofList table.tags := by
  have kept : (table.columns.filter fun name => !reservedColumns.contains name &&
      !([Flux.ValueColumn.plain].any (·.column == name))) = table.tags.map (·.1) := by
    rw [columns, List.filter_append]
    refine Eq.trans (congrArg (· ++ _) (by decide)) ((List.nil_append _).trans ?_)
    refine List.filter_eq_self.2 fun name tag => ?_
    have free := wellFormed.free name tag
    have other : Flux.valueColumn ≠ name := fun same => free (same ▸ by decide)
    simp [free, other, Flux.ValueColumn.plain]
  have read : ∀ tag ∈ table.tags,
      (Header.cell? ⟨table.columns⟩ (table.record row) tag.1).map (tag.1, ·) = some tag := by
    intro tag inside
    have text : tag.2 ∈ table.texts :=
      List.mem_append_right _ (List.mem_map_of_mem (f := (·.2)) inside)
    rw [wellFormed.cell?_record (List.mem_append_right _ inside) (wellFormed.filled _ text)]
    rfl
  unfold Header.labels
  simp only [kept]
  rw [List.filterMap_map]
  exact congrArg _ ((List.filterMap_congr read).trans List.filterMap_some)

theorem timestamp?_record (member : row ∈ table.rows) :
    Header.timestamp? ⟨table.columns⟩ (table.record row) = some row.1 := by
  obtain ⟨low, high⟩ := wellFormed.years row member
  have time : Header.cell? ⟨table.columns⟩ (table.record row) "_time" = some row.1.zulu :=
    wellFormed.cell?_record (by simp [cells]) (wellFormed.filled_time member).1
  have first : timeColumns.findSome? (Header.cell? ⟨table.columns⟩ (table.record row)) =
      some row.1.zulu := by
    rw [timeColumns, List.findSome?_cons, time]
  rw [Header.timestamp?, first, Option.bind_some, Time.readStrict?_zulu low high]

theorem value?_record (member : row ∈ table.rows) :
    Header.value? ⟨table.columns⟩ (table.record row) Flux.valueColumn = some row.2 := by
  have finite := wellFormed.finite row member
  have value : Header.cell? ⟨table.columns⟩ (table.record row) Flux.valueColumn =
      some (Decimal.plain row.2) :=
    wellFormed.cell?_record (by simp [cells, Flux.valueColumn]) (wellFormed.filled_value member).1
  rw [Header.value?, value, Option.bind_some, Decimal.readFloat?_plain finite, Option.filter_some,
    Decimal.isNaN_of_isFinite finite]
  rfl

theorem key_record :
    Header.key ⟨table.columns⟩ (table.record row) Flux.valueColumn =
      ⟨table.result, table.table, Flux.valueColumn⟩ := by
  have result : Header.cell? ⟨table.columns⟩ (table.record row) "result" = some table.result :=
    wellFormed.cell?_record (by simp [cells]) (wellFormed.filled _ (by simp [texts]))
  have table : Header.cell? ⟨table.columns⟩ (table.record row) "table" = some table.table :=
    wellFormed.cell?_record (by simp [cells]) (wellFormed.filled _ (by simp [texts]))
  rw [Header.key, result, table]
  rfl

theorem seriesName_record :
    Header.seriesName ⟨table.columns⟩ (table.record row) = table.metric := by
  have field : Header.cell? ⟨table.columns⟩ (table.record row) "_field" = some table.field :=
    wellFormed.cell?_record (by simp [cells]) (wellFormed.filled _ (by simp [texts]))
  have measurement : Header.cell? ⟨table.columns⟩ (table.record row) "_measurement" =
      some table.measurement :=
    wellFormed.cell?_record (by simp [cells]) (wellFormed.filled _ (by simp [texts]))
  rw [Header.seriesName, field, measurement]
  rfl

theorem addRecord_record (member : row ∈ table.rows) (series : KeyedSeries) :
    addRecord [.plain] ⟨table.columns⟩ (table.record row) series =
      addReading ⟨table.result, table.table, Flux.valueColumn⟩
        (.ofMetric table.metric (.ofList table.tags)) ⟨row.1, some row.2⟩ series := by
  have present : ([Flux.ValueColumn.plain].filter fun column =>
      table.columns.contains column.column) = [.plain] := by
    have known : Flux.ValueColumn.plain.column ∈ table.columns :=
      List.mem_append_left _ (by decide)
    simp [known]
  rw [addRecord, wellFormed.timestamp?_record member]
  simp only [present, List.foldl_cons, List.foldl_nil]
  change addReading (Header.key _ _ Flux.valueColumn) (.ofMetric (Header.seriesName _ _) _)
    ⟨_, Header.value? _ _ Flux.valueColumn⟩ series = _
  rw [wellFormed.key_record, wellFormed.seriesName_record, wellFormed.labels_record,
    wellFormed.value?_record member]

theorem cell?_error_eq_none_iff :
    Header.cell? ⟨table.columns⟩ (table.record row) "error" = none ↔
      "error" ∉ table.tags.map (·.1) := by
  constructor
  · intro none alarm
    obtain ⟨tag, inside, named⟩ := List.mem_map.1 alarm
    have text : tag.2 ∈ table.texts :=
      List.mem_append_right _ (List.mem_map_of_mem (f := (·.2)) inside)
    have cell : Header.cell? ⟨table.columns⟩ (table.record row) tag.1 = some tag.2 :=
      wellFormed.cell?_record (List.mem_append_right _ inside) (wellFormed.filled _ text)
    rw [named, none] at cell
    cases cell
  · intro calm
    refine cell?_eq_none (fun inside => ?_) _
    rcases List.mem_append.1 inside with front | tag
    · revert front
      decide
    · exact calm tag

end

end WellFormed

end Table

end SeriesQuery.Influx
