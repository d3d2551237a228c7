import Mathlib.Algebra.Order.BigOperators.Group.List
import SeriesQuery.Proofs.Influx.Tables

/-!
Tables that are written down are read back as their series, unless the rows of one of them look like
headers or like reports of an error: a header is told by what its cells say and not by where it
stands.
-/

set_option autoImplicit false

namespace SeriesQuery.Influx

open Csv

/-! ## Readings of one series -/

section
variable {key : SeriesKey} {first : Series} {series : KeyedSeries}
  (fresh : key ∉ series.map (·.1))
include fresh

theorem addReading_append (reading : Reading) (rest : KeyedSeries) :
    addReading key first reading (series ++ rest) =
      series ++ addReading key first reading rest := by
  induction series with
  | nil => rfl
  | cons entry others ih =>
    rw [List.map_cons, List.mem_cons, not_or] at fresh
    rw [List.cons_append, addReading, if_neg (Ne.symm fresh.1), ih fresh.2]
    rfl

theorem foldl_addReading_last (readings : List Reading) (last : Series) :
    readings.foldl (fun series reading => addReading key first reading series)
        (series ++ [(key, last)]) =
      series ++ [(key, { last with readings := last.readings ++ readings })] := by
  induction readings generalizing last with
  | nil => rw [List.append_nil]; rfl
  | cons reading others ih =>
    rw [List.foldl_cons, addReading_append fresh, addReading, if_pos rfl, ih, List.append_assoc]
    rfl

theorem foldl_addReading {readings : List Reading} (nonempty : readings ≠ []) :
    readings.foldl (fun series reading => addReading key first reading series) series =
      series ++ [(key, { first with readings := first.readings ++ readings })] := by
  obtain ⟨reading, others, rfl⟩ := List.exists_cons_of_ne_nil nonempty
  have begun : addReading key first reading (series ++ []) =
      series ++ addReading key first reading [] := addReading_append fresh reading []
  rw [List.append_nil] at begun
  rw [List.foldl_cons, begun, addReading, foldl_addReading_last fresh, List.append_assoc]
  rfl

end

/-! ## Tables that are not confusing -/

theorem seriesFrom_header {record : Record} (heads : isHeader record = true)
    (columns : List Flux.ValueColumn) (number : Nat) (header? : Option Header)
    (series : KeyedSeries) (rest : List Record) :
    seriesFrom columns number header? series (record :: rest) =
      seriesFrom columns (number + 1) (some (.ofRecord record)) series rest := by
  rw [seriesFrom.eq_def]
  exact if_pos heads

namespace Table

def key (table : Table) : SeriesKey := ⟨table.result, table.table, Flux.valueColumn⟩

def keyed (table : Table) : SeriesKey × Series := (table.key, table.series)

end Table

section
variable {table : Table} (wellFormed : table.WellFormed) (calm : ¬ table.Confusing)
include wellFormed calm

theorem seriesFrom_record {row : Time.Instant × Float} (member : row ∈ table.rows) (number : Nat)
    (series : KeyedSeries) (rest : List Record) :
    seriesFrom [.plain] number (some ⟨table.columns⟩) series (table.record row :: rest) =
      seriesFrom [.plain] (number + 1) (some ⟨table.columns⟩)
        (addReading table.key (.ofMetric table.metric (.ofList table.tags)) ⟨row.1, some row.2⟩
          series) rest := by
  have ⟨named, spelled⟩ := not_or.1 calm
  have noHeader : ¬ isHeader (table.record row) = true :=
    mt (wellFormed.isHeader_record_iff member).1 spelled
  have noError : Header.cell? ⟨table.columns⟩ (table.record row) "error" = none :=
    wellFormed.cell?_error_eq_none_iff.2 named
  rw [seriesFrom, if_neg noHeader]
  simp only [noError]
  rw [wellFormed.addRecord_record member]
  rfl

theorem seriesFrom_rows {rows : List (Time.Instant × Float)}
    (members : ∀ row ∈ rows, row ∈ table.rows) (number : Nat) (series : KeyedSeries)
    (rest : List Record) :
    seriesFrom [.plain] number (some ⟨table.columns⟩) series (rows.map table.record ++ rest) =
      seriesFrom [.plain] (number + rows.length) (some ⟨table.columns⟩)
        ((rows.map fun row => ⟨row.1, some row.2⟩).foldl
          (fun series reading =>
            addReading table.key (.ofMetric table.metric (.ofList table.tags)) reading series)
          series) rest := by
  induction rows generalizing number series with
  | nil => rfl
  | cons row others ih =>
    have ⟨member, members⟩ := List.forall_mem_cons.1 members
    rw [List.map_cons, List.cons_append, seriesFrom_record wellFormed calm member, ih members,
      List.length_cons, Nat.add_assoc, Nat.add_comm 1]
    rfl

theorem seriesFrom_table {series : KeyedSeries} (fresh : table.key ∉ series.map (·.1))
    (number : Nat) (header? : Option Header) (rest : List Record) :
    seriesFrom [.plain] number header? series (table.records ++ rest) =
      seriesFrom [.plain] (number + table.records.length) (some ⟨table.columns⟩)
        (series ++ [table.keyed]) rest := by
  have nonempty : (table.rows.map fun row => (⟨row.1, some row.2⟩ : Reading)) ≠ [] :=
    List.map_eq_nil_iff.not.2 wellFormed.nonempty
  rw [Table.records, List.cons_append, seriesFrom_header wellFormed.isHeader_columns,
    wellFormed.ofRecord_columns, seriesFrom_rows wellFormed calm fun _ member => member,
    foldl_addReading fresh nonempty, List.length_cons, List.length_map, Nat.add_assoc,
    Nat.add_comm 1]
  rfl

end

theorem seriesFrom_tables {tables : List Table} (wellFormed : ∀ table ∈ tables, table.WellFormed)
    (calm : ∀ table ∈ tables, ¬ table.Confusing) {series : KeyedSeries}
    (distinct : (series.map (·.1) ++ tables.map Table.key).Nodup) (number : Nat)
    (header? : Option Header) :
    seriesFrom [.plain] number header? series (tables.flatMap Table.records) =
      .ok (series ++ tables.map Table.keyed) := by
  induction tables generalizing series number header? with
  | nil =>
    rw [List.map_nil, List.append_nil]
    rfl
  | cons table others ih =>
    have ⟨wellFormed, allWellFormed⟩ := List.forall_mem_cons.1 wellFormed
    have ⟨calm, allCalm⟩ := List.forall_mem_cons.1 calm
    have fresh : table.key ∉ series.map (·.1) := fun known =>
      (List.nodup_append.1 distinct).2.2 _ known _ List.mem_cons_self rfl
    have distinct : ((series ++ [table.keyed]).map (·.1) ++ others.map Table.key).Nodup := by
      rw [List.map_append, List.append_assoc]
      exact distinct
    rw [List.flatMap_cons, seriesFrom_table wellFormed calm fresh,
      ih allWellFormed allCalm distinct, List.append_assoc]
    rfl

/-! ## Tables that are -/

section
variable {columns : List Flux.ValueColumn} {gathered : KeyedSeries}

theorem exists_seriesFrom_of_append {first rest : List Record} {number : Nat}
    {header? : Option Header} {series : KeyedSeries}
    (made : seriesFrom columns number header? series (first ++ rest) = .ok gathered) :
    ∃ number header? series, seriesFrom columns number header? series rest = .ok gathered := by
  rw [seriesFrom_append] at made
  cases earlier : seriesFrom columns number header? series first with
  | error problem =>
    rw [earlier] at made
    cases made
  | ok series =>
    rw [earlier] at made
    exact ⟨_, _, _, made⟩

end

theorem length_rowsFrom_le (header? : Option Header) (records : List Record) :
    (rowsFrom header? records).length ≤ records.countP (!isHeader ·) := by
  induction records generalizing header? with
  | nil => exact Nat.le_refl 0
  | cons record rest ih =>
    unfold rowsFrom
    split
    · next heads =>
      rw [List.countP_cons_of_neg (by simp [heads])]
      exact ih _
    · next data =>
      rw [List.countP_cons_of_pos (by simp [data]), List.length_append, Nat.add_comm]
      have one : (rowOf? header? record).toList.length ≤ 1 := by
        cases rowOf? header? record with
        | none => exact Nat.zero_le 1
        | some row => exact Nat.le_refl 1
      exact Nat.add_le_add (ih header?) one

theorem readings_le {column : Flux.ValueColumn} {number : Nat} {records : List Record}
    {gathered : KeyedSeries}
    (made : seriesFrom [column] number none [] records = .ok gathered) :
    (gathered.map (·.2.readings.length)).sum ≤ records.countP (!isHeader ·) := by
  have each : ∀ count ∈ (rowsFrom none records).map fun row => (row.cells [column]).length,
      count ≤ 1 := by
    intro count member
    obtain ⟨row, -, rfl⟩ := List.mem_map.1 member
    rw [Row.cells, List.length_map]
    exact List.length_filter_le _ _
  have sum := List.sum_le_card_nsmul _ 1 each
  rw [List.length_map, nsmul_one, Nat.cast_id] at sum
  rw [seriesFrom_eq_foldl made, readings_foldl_addCell, List.length_flatMap]
  exact sum.trans (length_rowsFrom_le none records)

namespace Table

def dataCount (table : Table) : Nat := table.records.countP (!isHeader ·)

namespace WellFormed

variable {table : Table} (wellFormed : table.WellFormed)
include wellFormed

theorem dataCount_eq :
    table.dataCount = table.rows.countP fun row => !isHeader (table.record row) := by
  rw [dataCount, records, List.countP_cons_of_neg (by simp [wellFormed.isHeader_columns]),
    List.countP_map]
  rfl

theorem dataCount_le : table.dataCount ≤ table.rows.length := by
  rw [wellFormed.dataCount_eq]
  exact List.countP_le_length

theorem dataCount_lt (spelled : HeadsTable table.texts ∨ HeadsReport table.texts) :
    table.dataCount < table.rows.length := by
  have none : (table.rows.countP fun row => !isHeader (table.record row)) = 0 := by
    refine List.countP_eq_zero.2 fun row member => ?_
    simp [(wellFormed.isHeader_record_iff member).2 spelled]
  rw [wellFormed.dataCount_eq, none]
  exact List.length_pos_of_ne_nil wellFormed.nonempty

end WellFormed

end Table

section
variable {tables : List Table} (wellFormed : ∀ table ∈ tables, table.WellFormed)
  {gathered : KeyedSeries}
  (made : seriesFrom [.plain] 1 none [] (tables.flatMap Table.records) = .ok gathered)
include wellFormed made

theorem not_heads_of_read (same : gathered.map (·.2) = tables.map Table.series) {table : Table}
    (member : table ∈ tables) : ¬ (HeadsTable table.texts ∨ HeadsReport table.texts) := by
  intro spelled
  -- This table comes to nothing, and no other one has records to make up for it.
  have lost : (tables.map Table.dataCount).sum < (tables.map (·.rows.length)).sum :=
    List.sum_lt_sum _ _ (fun table member => (wellFormed table member).dataCount_le)
      ⟨table, member, (wellFormed table member).dataCount_lt spelled⟩
  have readings := readings_le made
  have all : gathered.map (·.2.readings.length) = tables.map (·.rows.length) := by
    have lengths := congrArg (List.map (·.readings.length)) same
    rw [List.map_map, List.map_map] at lengths
    refine lengths.trans (List.map_congr_left fun table _ => ?_)
    exact List.length_map _
  rw [all, List.countP_flatMap] at readings
  exact absurd (lost.trans_le readings) (lt_irrefl _)

theorem not_alarm_of_read {table : Table} (member : table ∈ tables)
    (silent : ¬ (HeadsTable table.texts ∨ HeadsReport table.texts)) :
    "error" ∉ table.tags.map (·.1) := by
  intro alarm
  replace wellFormed := wellFormed table member
  obtain ⟨before, after, rfl⟩ := List.append_of_mem member
  obtain ⟨row, others, rows⟩ := List.exists_cons_of_ne_nil wellFormed.nonempty
  have first : row ∈ table.rows := rows ▸ List.mem_cons_self
  have noHeader := mt (wellFormed.isHeader_record_iff first).1 silent
  -- Whatever the tables before it left behind, the run comes to its header and its first row.
  rw [List.flatMap_append] at made
  obtain ⟨number, header?, series, made⟩ := exists_seriesFrom_of_append made
  rw [List.flatMap_cons, Table.records, List.cons_append,
    seriesFrom_header wellFormed.isHeader_columns, wellFormed.ofRecord_columns, rows,
    List.map_cons, List.cons_append, seriesFrom, if_neg noHeader] at made
  split at made
  · cases made
  · next calm => exact wellFormed.cell?_error_eq_none_iff.1 calm alarm

end

/-! ## Answers -/

def written (tables : List Table) : String := Csv.written (tables.flatMap Table.records)

/-- Tables are read back if and only if none is confusing. -/
theorem readSeries_written_iff {tables : List Table}
    (wellFormed : ∀ table ∈ tables, table.WellFormed) (distinct : (tables.map Table.id).Nodup) :
    readSeries [.plain] (written tables) = .ok (.ofSeries (tables.map Table.series)) ↔
      ∀ table ∈ tables, ¬ table.Confusing := by
  have marked : ∀ record ∈ tables.flatMap Table.records, Marked record := by
    intro record member
    obtain ⟨table, -, inside⟩ := List.mem_flatMap.1 member
    exact table.marked_records record inside
  rw [readSeries, written, records_written marked, seriesOfRecords]
  constructor
  · intro read
    obtain ⟨gathered, made, same⟩ := exists_of_map read
    intro table member confusing
    have silent := not_heads_of_read wellFormed made (congrArg SeriesResult.series same) member
    exact not_alarm_of_read wellFormed made member silent (confusing.resolve_right silent)
  · intro calm
    -- Tables of different names have different keys, so that none of them goes on with another.
    have keys : (([] : KeyedSeries).map (·.1) ++ tables.map Table.key).Nodup := by
      have injective : Function.Injective fun id : String × String =>
          (⟨id.1, id.2, Flux.valueColumn⟩ : SeriesKey) := by
        intro first second same
        exact Prod.ext (congrArg SeriesKey.result same) (congrArg SeriesKey.table same)
      have keys := distinct.map injective
      rw [List.map_map] at keys
      exact keys
    rw [seriesFrom_tables wellFormed calm keys, List.nil_append, Except.map, List.map_map]
    rfl

def usageTable : Table where
  result := "_result"
  table := "0"
  field := "usage"
  measurement := "cpu"
  tags := [("host", "a, b"), ("zone", "error")]
  rows := [(⟨1698400800, 0, by decide⟩, 1.5), (⟨1698400860, 250000000, by decide⟩, -0.25)]

/-- A tag column of this name is taken for the message of a report. -/
def alarmTable : Table := { usageTable with table := "1", tags := [("error", "disk")] }

theorem readSeries_written_iff_usage :
    (∀ table ∈ [usageTable, alarmTable], table.WellFormed) ∧
      ([usageTable, alarmTable].map Table.id).Nodup ∧
      readSeries [.plain] (written [usageTable]) = .ok (.ofSeries [usageTable.series]) ∧
      readSeries [.plain] (written [usageTable, alarmTable]) ≠
        .ok (.ofSeries [usageTable.series, alarmTable.series]) := by
  have years : ∀ row ∈ usageTable.rows, 0 ≤ row.1.date.year ∧ row.1.date.year ≤ 9999 := by
    decide +kernel
  have finite : ∀ row ∈ usageTable.rows, Decimal.isFinite row.2 = true := by decide +kernel
  have usage : usageTable.WellFormed :=
    ⟨by decide, by decide, by decide, by decide, by decide, years, finite⟩
  have alarm : alarmTable.WellFormed :=
    ⟨by decide, by decide, by decide, by decide, by decide, years, finite⟩
  have wellFormed : ∀ table ∈ [usageTable, alarmTable], table.WellFormed :=
    List.forall_mem_cons.2 ⟨usage, List.forall_mem_singleton.2 alarm⟩
  have distinct : ([usageTable, alarmTable].map Table.id).Nodup := by decide
  refine ⟨wellFormed, distinct, ?_, fun read => ?_⟩
  · exact (readSeries_written_iff (List.forall_mem_singleton.2 usage) (by decide)).2
      (List.forall_mem_singleton.2 (by decide))
  · refine (readSeries_written_iff wellFormed distinct).1 read alarmTable ?_ (.inl (by decide))
    exact List.mem_cons_of_mem _ List.mem_cons_self

example : written [alarmTable] =
    ",result,table,_time,_value,_field,_measurement,error\n" ++
    ",_result,1,2023-10-27T10:00:00Z,1.5,usage,cpu,disk\n" ++
    ",_result,1,2023-10-27T10:01:00.250Z,-0.25,usage,cpu,disk\n" := by
  decide +kernel

end SeriesQuery.Influx
