import Mathlib.Algebra.GroupWithZero.Nat
import Mathlib.Data.List.Forall2
import Mathlib.Data.List.Induction
import Mathlib.Data.List.Nodup
import SeriesQuery.Influx.Response
import SeriesQuery.Proofs.Entries
import SeriesQuery.Proofs.Outcomes

/-!
Series from the tables of an answer: each series has one reading of every row with its key, and the
series come in the order of their first rows.
-/

set_option autoImplicit false

namespace SeriesQuery.Influx

open Csv

/-! ## Rows -/

/-- A record of data that has a timestamp, and the header in force. -/
structure Row where
  header : Header
  record : Record
  timestamp : Time.Instant

namespace Row

def present (columns : List Flux.ValueColumn) (row : Row) : List Flux.ValueColumn :=
  columns.filter fun column => row.header.columns.contains column.column

def key (row : Row) (column : String) : SeriesKey := row.header.key row.record column

def keys (columns : List Flux.ValueColumn) (row : Row) : List SeriesKey :=
  (row.present columns).map fun column => row.key column.column

def reading (row : Row) (column : String) : Reading :=
  ⟨row.timestamp, row.header.value? row.record column⟩

def metric (row : Row) (column : Flux.ValueColumn) : String :=
  column.name?.getD (row.header.seriesName row.record)

def labels (columns : List Flux.ValueColumn) (row : Row) : Dictionary String :=
  row.header.labels row.record columns

end Row

def rowOf? (header? : Option Header) (record : Record) : Option Row :=
  header?.bind fun header =>
    (header.timestamp? record).map fun timestamp => ⟨header, record, timestamp⟩

def rowsFrom : Option Header → List Record → List Row
  | _, [] => []
  | header?, record :: rest =>
    if isHeader record then rowsFrom (some (.ofRecord record)) rest
    else (rowOf? header? record).toList ++ rowsFrom header? rest

structure Gathers (columns : List Flux.ValueColumn) (rows : List Row) (key : SeriesKey)
    (series : Series) : Prop where
  readings : series.readings =
    (rows.filter fun row => (row.keys columns).contains key).map (·.reading key.column)
  origin : ∃ first, rows.find? (fun row => (row.keys columns).contains key) = some first ∧
    series.labels = first.labels columns ∧
      ∃ column ∈ columns, column.column = key.column ∧ series.metric = first.metric column

/-! ## Runs over records -/

def headerAfter : Option Header → List Record → Option Header
  | header?, [] => header?
  | header?, record :: rest =>
    headerAfter (if isHeader record then some (.ofRecord record) else header?) rest

section
variable {columns : List Flux.ValueColumn} {number : Nat} {header? : Option Header}
  {series : KeyedSeries} {first rest : List Record}

/-- What comes first is read first, and the rest only if nothing was wrong until then. -/
theorem seriesFrom_append :
    seriesFrom columns number header? series (first ++ rest) =
      (seriesFrom columns number header? series first).bind fun gathered =>
        seriesFrom columns (number + first.length) (headerAfter header? first) gathered rest := by
  induction first generalizing number header? series with
  | nil => rfl
  | cons record others ih =>
    rw [List.length_cons, Nat.add_comm others.length, ← Nat.add_assoc]
    unfold headerAfter
    rw [List.cons_append, seriesFrom.eq_def columns _ _ _ (record :: (others ++ rest)),
      seriesFrom.eq_def columns _ _ _ (record :: others)]
    dsimp only
    split
    · exact ih
    · split
      · rfl
      · split
        · rfl
        · exact ih

theorem valuesFrom_append :
    valuesFrom header? (first ++ rest) =
      valuesFrom header? first ++ valuesFrom (headerAfter header? first) rest := by
  induction first generalizing header? with
  | nil => rfl
  | cons record others ih =>
    unfold headerAfter
    rw [List.cons_append, valuesFrom, valuesFrom]
    split
    · exact ih
    · rw [ih, List.append_assoc]

end

/-! ## Cells -/

/-- What a row adds to one series. -/
structure Cell where
  key : SeriesKey
  metric : String
  labels : Dictionary String
  reading : Reading

def addCell (series : KeyedSeries) (cell : Cell) : KeyedSeries :=
  addReading cell.key (.ofMetric cell.metric cell.labels) cell.reading series

def Row.cells (columns : List Flux.ValueColumn) (row : Row) : List Cell :=
  (row.present columns).map fun column =>
    ⟨row.key column.column, row.metric column, row.labels columns, row.reading column.column⟩

theorem addRecord_eq_foldl (columns : List Flux.ValueColumn) (header : Header) (record : Record)
    (series : KeyedSeries) :
    addRecord columns header record series =
      ((rowOf? (some header) record).toList.flatMap (Row.cells columns)).foldl addCell series := by
  unfold addRecord rowOf?
  rw [Option.bind_some]
  cases header.timestamp? record with
  | none => rfl
  | some timestamp =>
    rw [Option.map_some, Option.toList_some, List.flatMap_singleton, Row.cells, List.foldl_map]
    rfl

theorem seriesFrom_eq_foldl {columns : List Flux.ValueColumn} {number : Nat}
    {header? : Option Header} {series gathered : KeyedSeries} {records : List Record}
    (made : seriesFrom columns number header? series records = .ok gathered) :
    gathered = ((rowsFrom header? records).flatMap (Row.cells columns)).foldl addCell series := by
  induction records generalizing number header? series with
  | nil =>
    cases made
    rfl
  | cons record rest ih =>
    unfold seriesFrom at made
    unfold rowsFrom
    by_cases heads : isHeader record
    · rw [if_pos heads] at made ⊢
      exact ih made
    · rw [if_neg heads] at made ⊢
      cases header? with
      | none => cases made
      | some header =>
        cases told : header.cell? record "error" with
        | some message => simp [told] at made
        -- Only a row behind a header and without a message has cells.
        | none =>
          simp only [told] at made
          rw [ih made, addRecord_eq_foldl, List.flatMap_append, List.foldl_append]

/-! ## Series of cells -/

theorem keys_addCell (series : KeyedSeries) (cell : Cell) :
    (addCell series cell).map (·.1) =
      if cell.key ∈ series.map (·.1) then series.map (·.1) else series.map (·.1) ++ [cell.key] := by
  unfold addCell
  induction series with
  | nil => rfl
  | cons entry rest ih =>
    unfold addReading
    by_cases same : entry.1 = cell.key
    · simp [same]
    · rw [if_neg same, List.map_cons, ih]
      have other : cell.key ≠ entry.1 := Ne.symm same
      by_cases known : cell.key ∈ rest.map (·.1)
      · rw [if_pos known, List.map_cons, if_pos (List.mem_cons_of_mem _ known)]
      · rw [if_neg known, List.map_cons, if_neg (List.not_mem_cons_of_ne_of_not_mem other known),
          List.cons_append]

theorem keys_foldl_addCell (cells : List Cell) :
    (cells.foldl addCell []).map (·.1) = (cells.map Cell.key).eraseDups := by
  -- From the end, since the last cell meets the series of all others.
  induction cells using List.reverseRecOn with
  | nil => rfl
  | append_singleton cells cell ih =>
    rw [List.foldl_append, List.foldl_cons, List.foldl_nil, keys_addCell, ih, List.map_append,
      List.map_singleton, eraseDups_concat]
    simp only [List.mem_eraseDups]

theorem nodup_keys (cells : List Cell) : ((cells.foldl addCell []).map (·.1)).Nodup := by
  rw [keys_foldl_addCell]
  exact nodup_eraseDups _

theorem mem_addCell {series : KeyedSeries} {cell : Cell} {entry : SeriesKey × Series}
    (distinct : (series.map (·.1)).Nodup) (member : entry ∈ addCell series cell) :
    entry.1 ≠ cell.key ∧ entry ∈ series ∨
      (∃ earlier, (cell.key, earlier) ∈ series ∧
        entry = (cell.key, { earlier with readings := earlier.readings ++ [cell.reading] })) ∨
      cell.key ∉ series.map (·.1) ∧
        entry = (cell.key, ⟨cell.metric, cell.labels, [cell.reading]⟩) := by
  unfold addCell at member
  induction series with
  | nil =>
    rw [addReading, List.mem_singleton] at member
    exact .inr (.inr ⟨List.not_mem_nil, member⟩)
  | cons head rest ih =>
    obtain ⟨key, earlier⟩ := head
    have ⟨apart, restDistinct⟩ := List.nodup_cons.1 distinct
    unfold addReading at member
    by_cases same : key = cell.key
    · rw [if_pos same] at member
      rcases List.mem_cons.1 member with rfl | member
      · exact .inr (.inl ⟨earlier, same ▸ List.mem_cons_self, rfl⟩)
      · -- The series behind this one are left as they are, and none of them has the same key.
        refine .inl ⟨fun met => apart ?_, List.mem_cons_of_mem _ member⟩
        rw [same, ← met]
        exact List.mem_map_of_mem (f := (·.1)) member
    · rw [if_neg same] at member
      rcases List.mem_cons.1 member with rfl | member
      · exact .inl ⟨same, List.mem_cons_self⟩
      · rcases ih restDistinct member with ⟨other, present⟩ | ⟨earlier, present, met⟩ | ⟨fresh, met⟩
        · exact .inl ⟨other, List.mem_cons_of_mem _ present⟩
        · exact .inr (.inl ⟨earlier, List.mem_cons_of_mem _ present, met⟩)
        · exact .inr (.inr ⟨List.not_mem_cons_of_ne_of_not_mem (Ne.symm same) fresh, met⟩)

/-- The series has the readings of all cells with this key, and begins as the first of them says. -/
structure Collects (cells : List Cell) (key : SeriesKey) (series : Series) : Prop where
  readings : series.readings = (cells.filter (·.key == key)).map (·.reading)
  origin : ∃ first, cells.find? (·.key == key) = some first ∧ series.metric = first.metric ∧
    series.labels = first.labels

theorem Collects.append_other {cells : List Cell} {key : SeriesKey} {series : Series} {cell : Cell}
    (collects : Collects cells key series) (other : key ≠ cell.key) :
    Collects (cells ++ [cell]) key series := by
  obtain ⟨first, found, named⟩ := collects.origin
  refine ⟨?_, first, ?_, named⟩
  · rw [collects.readings, List.filter_append]
    simp [Ne.symm other]
  · rw [List.find?_append, found]
    rfl

theorem Collects.append_same {cells : List Cell} {series : Series} {cell : Cell}
    (collects : Collects cells cell.key series) :
    Collects (cells ++ [cell]) cell.key
      { series with readings := series.readings ++ [cell.reading] } := by
  obtain ⟨first, found, named⟩ := collects.origin
  refine ⟨?_, first, ?_, named⟩
  · rw [collects.readings, List.filter_append, List.map_append]
    simp
  · rw [List.find?_append, found]
    rfl

theorem Collects.append_first {cells : List Cell} {cell : Cell}
    (fresh : cell.key ∉ cells.map Cell.key) :
    Collects (cells ++ [cell]) cell.key ⟨cell.metric, cell.labels, [cell.reading]⟩ := by
  have others : ∀ earlier ∈ cells, ¬(earlier.key == cell.key) = true := by
    intro earlier member same
    exact fresh (eq_of_beq same ▸ List.mem_map_of_mem member)
  refine ⟨?_, cell, ?_, rfl, rfl⟩
  · rw [List.filter_append, List.filter_eq_nil_iff.2 others]
    simp
  · rw [List.find?_append, List.find?_eq_none.2 others]
    simp

theorem collects_foldl_addCell (cells : List Cell) :
    ∀ entry ∈ cells.foldl addCell [], Collects cells entry.1 entry.2 := by
  induction cells using List.reverseRecOn with
  | nil => exact fun _ member => absurd member List.not_mem_nil
  | append_singleton cells cell ih =>
    intro entry member
    rw [List.foldl_append, List.foldl_cons, List.foldl_nil] at member
    rcases mem_addCell (nodup_keys cells) member with ⟨other, present⟩ | ⟨earlier, present, rfl⟩ |
      ⟨fresh, rfl⟩
    · exact (ih entry present).append_other other
    · exact (ih _ present).append_same
    · rw [keys_foldl_addCell, List.mem_eraseDups] at fresh
      exact .append_first fresh

/-! ## Series of rows -/

section
variable {columns : List Flux.ValueColumn} {row : Row} {key : SeriesKey}

theorem keys_cells : (row.cells columns).map Cell.key = row.keys columns := by
  unfold Row.cells Row.keys
  rw [List.map_map]
  rfl

theorem nodup_row_keys (distinct : (columns.map (·.column)).Nodup) : (row.keys columns).Nodup := by
  have apart : ((row.present columns).map (·.column)).Nodup :=
    distinct.sublist (List.filter_sublist.map _)
  have same : row.keys columns = ((row.present columns).map (·.column)).map row.key := by
    rw [List.map_map]
    rfl
  rw [same]
  exact apart.map fun first second met => congrArg SeriesKey.column met

theorem readings_of_row (distinct : (columns.map (·.column)).Nodup) :
    ((row.cells columns).filter (·.key == key)).map (·.reading) =
      if (row.keys columns).contains key then [row.reading key.column] else [] := by
  have each : ∀ cell ∈ (row.cells columns).filter (·.key == key),
      cell.reading = row.reading key.column := by
    intro cell member
    have ⟨made, same⟩ := List.mem_filter.1 member
    obtain ⟨column, _, rfl⟩ := List.mem_map.1 made
    rw [← eq_of_beq same]
    rfl
  have number : ((row.cells columns).filter (·.key == key)).length =
      (row.keys columns).count key := by
    rw [← keys_cells, List.count, List.countP_map, List.countP_eq_length_filter]
    rfl
  rw [List.map_eq_replicate_iff.2 each, number, (nodup_row_keys distinct).count]
  by_cases has : key ∈ row.keys columns
  · simp [has]
  · simp [has]

theorem find?_cells_eq_none_iff :
    (row.cells columns).find? (·.key == key) = none ↔ (row.keys columns).contains key = false := by
  rw [List.find?_eq_none, ← keys_cells, List.contains_eq_mem, decide_eq_false_iff_not,
    List.mem_map, not_exists]
  refine forall_congr' fun cell => ?_
  rw [beq_iff_eq, not_and]

theorem origin_of_cell {cell : Cell} (member : cell ∈ row.cells columns) :
    cell.labels = row.labels columns ∧
      ∃ column ∈ columns, column.column = cell.key.column ∧ cell.metric = row.metric column := by
  obtain ⟨column, present, rfl⟩ := List.mem_map.1 member
  exact ⟨rfl, column, List.mem_of_mem_filter present, rfl, rfl⟩

end

theorem flatMap_one_or_none (rows : List Row) (has : Row → Bool) (readingOf : Row → Reading) :
    (rows.flatMap fun row => if has row then [readingOf row] else []) =
      (rows.filter has).map readingOf := by
  induction rows with
  | nil => rfl
  | cons row rest ih =>
    rw [List.flatMap_cons, ih]
    by_cases holds : has row
    · rw [if_pos holds, List.filter_cons_of_pos holds, List.map_cons, List.singleton_append]
    · rw [if_neg holds, List.filter_cons_of_neg holds, List.nil_append]

theorem Collects.gathers {columns : List Flux.ValueColumn} {rows : List Row} {key : SeriesKey}
    {series : Series} (distinct : (columns.map (·.column)).Nodup)
    (collects : Collects (rows.flatMap (Row.cells columns)) key series) :
    Gathers columns rows key series := by
  constructor
  · rw [collects.readings, List.filter_flatMap, List.map_flatMap]
    -- With two columns of one name a row would count twice here.
    simp only [readings_of_row distinct]
    exact flatMap_one_or_none rows _ _
  · obtain ⟨first, found, metric, labels⟩ := collects.origin
    rw [List.find?_flatMap, List.findSome?_eq_some_iff] at found
    obtain ⟨earlier, row, later, parts, found, none⟩ := found
    have chosen := List.find?_some found
    have same : first.key = key := eq_of_beq chosen
    have has : (row.keys columns).contains key := by
      by_contra absent
      rw [find?_cells_eq_none_iff.2 (eq_false_of_ne_true absent)] at found
      cases found
    have ⟨labelled, column, known, named, called⟩ :=
      origin_of_cell (List.mem_of_find?_eq_some found)
    refine ⟨row, ?_, labels.trans labelled, column, known, same ▸ named, metric.trans called⟩
    refine List.find?_eq_some_iff_append.2 ⟨has, earlier, later, parts, fun other member => ?_⟩
    rw [find?_cells_eq_none_iff.1 (none other member)]
    rfl

/-! ## Readings in all -/

theorem readingCount_ofSeries (series : List Series) :
    (SeriesResult.ofSeries series).readingCount = (series.map (·.readings.length)).sum := by
  unfold SeriesResult.readingCount SeriesResult.ofSeries
  induction series with
  | nil => rfl
  | cons first rest ih => rw [List.foldr_cons, ih, List.map_cons, List.sum_cons]

theorem readings_addCell (series : KeyedSeries) (cell : Cell) :
    ((addCell series cell).map (·.2.readings.length)).sum =
      (series.map (·.2.readings.length)).sum + 1 := by
  unfold addCell
  induction series with
  | nil => rfl
  | cons entry rest ih =>
    unfold addReading
    by_cases same : entry.1 = cell.key
    · rw [if_pos same, List.map_cons, List.sum_cons, List.length_append, List.length_singleton,
        List.map_cons, List.sum_cons, Nat.add_right_comm]
    · rw [if_neg same, List.map_cons, List.sum_cons, ih, List.map_cons, List.sum_cons,
        Nat.add_assoc]

theorem readings_foldl_addCell (cells : List Cell) :
    ((cells.foldl addCell []).map (·.2.readings.length)).sum = cells.length := by
  induction cells using List.reverseRecOn with
  | nil => rfl
  | append_singleton cells cell ih =>
    rw [List.foldl_append, List.foldl_cons, List.foldl_nil, readings_addCell, ih,
      List.length_append, List.length_singleton]

/-- The series of a readable answer are the groups of its rows, in the order of their first rows,
and no reading is lost or doubled. -/
theorem seriesOfRecords_gathers {columns : List Flux.ValueColumn} {records : List Record}
    {result : SeriesResult} (distinct : (columns.map (·.column)).Nodup)
    (read : seriesOfRecords columns records = .ok result) :
    let rows := rowsFrom none records
    List.Forall₂ (Gathers columns rows) (rows.flatMap (Row.keys columns)).eraseDups result.series ∧
      result.readingCount = (rows.map fun row => (row.present columns).length).sum := by
  intro rows
  obtain ⟨gathered, made, rfl⟩ := exists_of_map read
  rw [seriesFrom_eq_foldl made]
  let cells := rows.flatMap (Row.cells columns)
  have keys : (rows.flatMap (Row.keys columns)).eraseDups =
      (cells.foldl addCell []).map (·.1) := by
    rw [keys_foldl_addCell, List.map_flatMap]
    simp only [keys_cells]
  constructor
  · rw [keys]
    refine List.forall₂_map_left_iff.2 (List.forall₂_map_right_iff.2 (List.forall₂_same.2 ?_))
    exact fun entry member => (collects_foldl_addCell cells entry member).gathers distinct
  · rw [readingCount_ofSeries, List.map_map]
    refine (readings_foldl_addCell cells).trans ?_
    rw [List.length_flatMap]
    simp only [Row.cells, List.length_map]

def usageColumns : List Flux.ValueColumn := [.plain, ⟨"_max", some "highest"⟩]

/-- Two tables under one header, and more of the second under another. One value is missing, and the
last record has no timestamp. -/
def usageRecords : List Record := [
  ["", "result", "table", "_time", "_value", "_measurement", "host"],
  ["", "_result", "0", "2023-10-27T10:00:00Z", "1.5", "cpu", "a"],
  ["", "_result", "1", "2023-10-27T10:00:00Z", "2.5", "cpu", "b"],
  ["", "_result", "1", "2023-10-27T10:01:00Z", "", "cpu", "b"],
  ["", "result", "table", "_stop", "_max", "_value"],
  ["", "_result", "1", "2023-10-27T10:02:00Z", "7", "3"],
  ["", "_result", "1", "", "9", "4"]]

theorem seriesOfRecords_gathers_usage :
    (usageColumns.map (·.column)).Nodup ∧
      ∃ result, seriesOfRecords usageColumns usageRecords = .ok result ∧
        List.Forall₂ (Gathers usageColumns (rowsFrom none usageRecords))
          [⟨"_result", "0", "_value"⟩, ⟨"_result", "1", "_value"⟩, ⟨"_result", "1", "_max"⟩]
          result.series ∧
        result.readingCount = 5 ∧
        result.series =
          [⟨"cpu", .ofList [("host", "a")], [⟨⟨1698400800, 0, by decide⟩, some 1.5⟩]⟩,
            ⟨"cpu", .ofList [("host", "b")], [⟨⟨1698400800, 0, by decide⟩, some 2.5⟩,
              ⟨⟨1698400860, 0, by decide⟩, none⟩, ⟨⟨1698400920, 0, by decide⟩, some 3⟩]⟩,
            ⟨"highest", .empty, [⟨⟨1698400920, 0, by decide⟩, some 7⟩]⟩] := by
  have distinct : (usageColumns.map (·.column)).Nodup := by decide
  have keys : ((rowsFrom none usageRecords).flatMap (Row.keys usageColumns)).eraseDups =
      [⟨"_result", "0", "_value"⟩, ⟨"_result", "1", "_value"⟩, ⟨"_result", "1", "_max"⟩] := by
    decide +kernel
  have number : ((rowsFrom none usageRecords).map fun row =>
      (row.present usageColumns).length).sum = 5 := by decide +kernel
  refine ⟨distinct, _, rfl, ?_, ?_, by decide +kernel⟩
  · rw [← keys]
    exact (seriesOfRecords_gathers distinct rfl).1
  · exact (seriesOfRecords_gathers distinct rfl).2.trans number

end SeriesQuery.Influx
