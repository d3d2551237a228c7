import SeriesQuery.Csv.Reader
import SeriesQuery.Flux.Compiler
import SeriesQuery.Result.Basic
import SeriesQuery.Result.Problem
import SeriesQuery.Text.Blank
import SeriesQuery.Time.Reader

/-!
Tables of an answer. A header record names the columns of the records after it; the records of one
result and table make one series for each column of values.
-/

set_option autoImplicit false

namespace SeriesQuery.Influx

open Csv

/-- The names of the columns, without white space around them. -/
structure Header where
  columns : List String
  deriving Repr, DecidableEq

def Header.ofRecord (record : Record) : Header := ⟨record.map Text.trim⟩

def lastPlace? (name : String) : List String → Option Nat
  | [] => none
  | column :: rest =>
    match lastPlace? name rest with
    | some place => some (place + 1)
    | none => if column = name then some 0 else none

/-- The cell of a column, unless it is empty. -/
def Header.cell? (header : Header) (record : Record) (column : String) : Option String :=
  ((lastPlace? column header.columns).bind fun place => record[place]?.map Text.trim).filter
    (!·.isEmpty)

/-- A record with the columns of every table, or of an error report, is a header. -/
def isHeader (record : Record) : Bool :=
  let has := fun (name : String) => record.any fun field => Text.trim field == name
  (has "result" && has "table") || (has "error" && has "reference")

def reservedColumns : List String :=
  ["", "result", "table", "_start", "_stop", "_time", "_value", "_field", "_measurement"]

def timeColumns : List String := ["_time", "_stop", "_start"]

/-- The instant in the first time column that has a cell. -/
def Header.timestamp? (header : Header) (record : Record) : Option Time.Instant :=
  (timeColumns.findSome? (header.cell? record)).bind Time.readStrict?

/-- The measurement and the field, where there is one that is not called `value`. -/
def Header.seriesName (header : Header) (record : Record) : String :=
  match header.cell? record "_measurement", header.cell? record "_field" with
  | some measurement, some field =>
    if field = "value" then measurement else measurement ++ "." ++ field
  | some measurement, none => measurement
  | none, some field => field
  | none, none => "value"

def Header.labels (header : Header) (record : Record) (columns : List Flux.ValueColumn) :
    Dictionary String :=
  let tags := header.columns.filter fun name =>
    !reservedColumns.contains name && !columns.any (·.column == name)
  .ofList (tags.filterMap fun name => (header.cell? record name).map fun cell => (name, cell))

structure SeriesKey where
  result : String
  table : String
  column : String
  deriving Repr, DecidableEq

def Header.key (header : Header) (record : Record) (column : String) : SeriesKey :=
  ⟨(header.cell? record "result").getD "_result", (header.cell? record "table").getD "0", column⟩

/-- A number; anything else is a gap. -/
def Header.value? (header : Header) (record : Record) (column : String) : Option Float :=
  ((header.cell? record column).bind Decimal.readFloat?).filter (!·.isNaN)

abbrev KeyedSeries := List (SeriesKey × Series)

def addReading (key : SeriesKey) (first : Series) (reading : Reading) : KeyedSeries → KeyedSeries
  | [] => [(key, { first with readings := first.readings ++ [reading] })]
  | entry :: rest =>
    if entry.1 = key then
      (key, { entry.2 with readings := entry.2.readings ++ [reading] }) :: rest
    else entry :: addReading key first reading rest

/-- Adds the cells of one record; a record without a timestamp has none. -/
def addRecord (columns : List Flux.ValueColumn) (header : Header) (record : Record)
    (series : KeyedSeries) : KeyedSeries :=
  match header.timestamp? record with
  | none => series
  | some timestamp =>
    (columns.filter fun column => header.columns.contains column.column).foldl
      (fun series column =>
        let name := column.name?.getD (header.seriesName record)
        addReading (header.key record column.column)
          (.ofMetric name (header.labels record columns))
          ⟨timestamp, header.value? record column.column⟩ series)
      series

/-- Reads records from the one with this number on, under the header in force. -/
def seriesFrom (columns : List Flux.ValueColumn) :
    Nat → Option Header → KeyedSeries → List Record → Response KeyedSeries
  | _, _, series, [] => .ok series
  | number, header?, series, record :: rest =>
    if isHeader record then
      seriesFrom columns (number + 1) (some (.ofRecord record)) series rest
    else
      match header? with
      | none => .error (.noHeader number)
      | some header =>
        match header.cell? record "error" with
        | some message => .error (.reported message)
        | none =>
          seriesFrom columns (number + 1) header? (addRecord columns header record series) rest

def seriesOfRecords (columns : List Flux.ValueColumn) (records : List Record) :
    Response SeriesResult :=
  (seriesFrom columns 1 none [] records).map fun series => .ofSeries (series.map (·.2))

def readSeries (columns : List Flux.ValueColumn) (body : String) : Response SeriesResult :=
  seriesOfRecords columns (records body)

def valuesFrom : Option Header → List Record → List String
  | _, [] => []
  | header?, record :: rest =>
    if isHeader record then valuesFrom (some (.ofRecord record)) rest
    else
      (header?.bind fun header => header.cell? record "_value").toList ++ valuesFrom header? rest

def readLabels (body : String) : LabelResult := .ofValues (valuesFrom none (records body))

end SeriesQuery.Influx
