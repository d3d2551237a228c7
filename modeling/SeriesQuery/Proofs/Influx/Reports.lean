import SeriesQuery.Proofs.Influx.RoundTrip

/-!
Reports of failures in an answer. Series stop at the first message of a report, while labels are
read on past it: to them a report is one more table.
-/

set_option autoImplicit false

namespace SeriesQuery.Influx

open Csv

/-! ## Rows of a report -/

theorem headerAfter_rows {rows : List Record} (data : ∀ row ∈ rows, isHeader row = false)
    (header? : Option Header) : headerAfter header? rows = header? := by
  induction rows with
  | nil => rfl
  | cons row others ih =>
    have ⟨data, others⟩ := List.forall_mem_cons.1 data
    rw [headerAfter, data, if_neg Bool.false_ne_true, ih others]

theorem valuesFrom_rows {rows : List Record} (data : ∀ row ∈ rows, isHeader row = false)
    (header : Header) :
    valuesFrom (some header) rows = rows.filterMap fun row => header.cell? row "_value" := by
  induction rows with
  | nil => rfl
  | cons row others ih =>
    have ⟨data, others⟩ := List.forall_mem_cons.1 data
    rw [valuesFrom, data, if_neg Bool.false_ne_true, ih others, Option.bind_some,
      List.filterMap_cons]
    cases header.cell? row "_value" <;> rfl

theorem seriesFrom_rows_of_told {rows : List Record} (data : ∀ row ∈ rows, isHeader row = false)
    {header : Header} {message : String}
    (told : (rows.findSome? fun row => header.cell? row "error") = some message)
    (columns : List Flux.ValueColumn) (number : Nat) (series : KeyedSeries) (rest : List Record) :
    seriesFrom columns number (some header) series (rows ++ rest) = .error (.reported message) := by
  induction rows generalizing number series with
  | nil => cases told
  | cons row others ih =>
    -- No row is a header, so that the one of the report stays in force up to the message.
    have ⟨data, others⟩ := List.forall_mem_cons.1 data
    rw [List.findSome?_cons] at told
    rw [List.cons_append, seriesFrom, data, if_neg Bool.false_ne_true]
    cases cell : header.cell? row "error" with
    | some said =>
      rw [cell] at told
      cases told
      rfl
    | none =>
      rw [cell] at told
      exact ih others told _ _

/-! ## Reports -/

structure Report where
  header : Record
  rows : List Record
  message : String
  heads : HeadsReport (Header.ofRecord header).columns
  data : ∀ row ∈ rows, isHeader row = false
  /-- The first cell in the column of messages that is not empty. -/
  told : (rows.findSome? fun row => (Header.ofRecord header).cell? row "error") = some message

namespace Report

variable (report : Report)

def head : Header := .ofRecord report.header

def records : List Record := report.header :: report.rows

/-- The cells of a column that holds values in other tables, and does not belong in a report. -/
def values : List String := report.rows.filterMap fun row => report.head.cell? row "_value"

theorem isHeader_header : isHeader report.header = true := by
  have has {name : String} (member : name ∈ (Header.ofRecord report.header).columns) :
      (report.header.any fun field => Text.trim field == name) = true := by
    obtain ⟨field, inside, same⟩ := List.mem_map.1 member
    exact List.any_eq_true.2 ⟨field, inside, beq_iff_eq.2 same⟩
  unfold isHeader
  dsimp only
  rw [has report.heads.1, has report.heads.2, Bool.and_self, Bool.or_true]

theorem values_eq_nil (plain : "_value" ∉ report.head.columns) : report.values = [] := by
  rw [values, List.filterMap_eq_nil_iff]
  exact fun row _ => cell?_eq_none plain row

variable (before after : List Record)

theorem seriesOfRecords_eq (columns : List Flux.ValueColumn) :
    seriesOfRecords columns (before ++ report.records ++ after) =
      (seriesOfRecords columns before).bind fun _ => .error (.reported report.message) := by
  rw [seriesOfRecords, seriesOfRecords, List.append_assoc, seriesFrom_append]
  -- What goes wrong before the report is what the answer fails with.
  cases seriesFrom columns 1 none [] before with
  | error problem => rfl
  | ok gathered =>
    simp only [Except.bind]
    rw [records, List.cons_append, seriesFrom_header report.isHeader_header,
      seriesFrom_rows_of_told report.data report.told]
    rfl

theorem valuesFrom_eq :
    valuesFrom none (before ++ report.records ++ after) =
      valuesFrom none before ++ report.values ++ valuesFrom (some report.head) after := by
  have within (header? : Option Header) :
      valuesFrom header? report.records = report.values ∧
        headerAfter header? report.records = some report.head := by
    rw [records, valuesFrom, headerAfter, if_pos report.isHeader_header,
      if_pos report.isHeader_header, headerAfter_rows report.data, valuesFrom_rows report.data]
    exact ⟨rfl, rfl⟩
  rw [List.append_assoc, valuesFrom_append, valuesFrom_append, (within _).1, (within _).2,
    List.append_assoc]

end Report

theorem valuesFrom_of_heads {records : List Record}
    (heads : ∀ record ∈ records.head?, isHeader record = true) (header? other? : Option Header) :
    valuesFrom header? records = valuesFrom other? records := by
  cases records with
  | nil => rfl
  | cons record rest =>
    have heads := heads record rfl
    rw [valuesFrom, valuesFrom, if_pos heads, if_pos heads]

/-- No answer with a report in it has series, but every one has labels: those of the answer without
the report, whatever tables stand around it. -/
theorem readSeries_error_of_report {body : String} {before after : List Record} {report : Report}
    (among : records body = before ++ report.records ++ after) :
    (∀ columns, ∃ problem, readSeries columns body = .error problem ∧
      ((∃ result, seriesOfRecords columns before = .ok result) →
        problem = .reported report.message)) ∧
      (readLabels body).values =
        valuesFrom none before ++ report.values ++ valuesFrom (some report.head) after ∧
      ("_value" ∉ report.head.columns → (∀ record ∈ after.head?, isHeader record = true) →
        (readLabels body).values = valuesFrom none (before ++ after)) := by
  have labels : (readLabels body).values =
      valuesFrom none before ++ report.values ++ valuesFrom (some report.head) after := by
    rw [readLabels, among]
    exact report.valuesFrom_eq before after
  refine ⟨fun columns => ?series, labels, fun plain next => ?erased⟩
  case series =>
    have read : readSeries columns body =
        (seriesOfRecords columns before).bind fun _ => .error (.reported report.message) := by
      rw [readSeries, among, report.seriesOfRecords_eq]
    cases earlier : seriesOfRecords columns before with
    | error problem =>
      rw [earlier] at read
      refine ⟨problem, read, ?_⟩
      rintro ⟨_, made⟩
      cases made
    | ok result =>
      rw [earlier] at read
      exact ⟨_, read, fun _ => rfl⟩
  case erased =>
    rw [labels, report.values_eq_nil plain, List.append_nil, valuesFrom_append,
      valuesFrom_of_heads next]

def listingRecords : List Record :=
  [["", "result", "table", "_value"], ["", "_result", "0", "cpu"]]

def memoryReport : Report where
  header := ["", "error", "reference"]
  rows := [["", "out of memory", "897"]]
  message := "out of memory"
  heads := by decide
  data := by decide
  told := by decide

/-- The listing of an answer that breaks off is taken for all of it. -/
theorem readSeries_error_of_report_listing :
    let body := Csv.written (listingRecords ++ memoryReport.records)
    records body = listingRecords ++ memoryReport.records ++ [] ∧
      readSeries [.plain] body = .error (.reported "out of memory") ∧
      (readLabels body).values = ["cpu"] := by
  intro body
  have among : records body = listingRecords ++ memoryReport.records ++ [] := by
    refine (records_written ?_).trans (List.append_nil _).symm
    intro record member
    fin_cases member <;> exact ⟨_, _, rfl⟩
  obtain ⟨series, -, labels⟩ := readSeries_error_of_report among
  obtain ⟨problem, read, reported⟩ := series [.plain]
  refine ⟨among, ?_, (labels (by decide) (by decide)).trans (by decide)⟩
  rw [read, reported ⟨_, rfl⟩]
  rfl

end SeriesQuery.Influx
