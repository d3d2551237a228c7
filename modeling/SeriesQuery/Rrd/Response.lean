import SeriesQuery.Json.Reader
import SeriesQuery.Result.Basic
import SeriesQuery.Result.Problem
import SeriesQuery.Rrd.Layout
import SeriesQuery.Text.Blank
import SeriesQuery.Text.Split

/-!
What rrdtool prints: exported data as JSON, fetched rows as a table, file information as lines.
-/

set_option autoImplicit false

namespace SeriesQuery.Rrd

open Json

/-! ## Columns -/

/-- The measurement, with the field unless it is the one that stands for any. -/
def seriesName (measurement field : String) : String :=
  if field = "value" then measurement else measurement ++ "." ++ field

/-- The places of the requested columns, or of all of them when none is there. -/
def selectedPlaces (legend requested : List String) : List Nat :=
  let all := legend.zipIdx
  let wanted := all.filter fun column => requested.contains column.1
  (if wanted.isEmpty then all else wanted).map (·.2)

structure Row where
  timestamp? : Option Time.Instant
  values : List (Option Float)

def columnReadings (place : Nat) (rows : List Row) : List Reading :=
  rows.filterMap fun row => row.timestamp?.map fun timestamp => ⟨timestamp, row.values[place]?.join⟩

def seriesOfRows (measurement : String) (requested : List String) (labels : Tags)
    (legend : List String) (rows : List Row) : List Series :=
  (selectedPlaces legend requested).map fun place =>
    ⟨seriesName measurement (legend[place]?.getD ""), labels, columnReadings place rows⟩

def finite? (text : String) : Option Float := (Decimal.readFloat? text).filter Decimal.isFinite

/-! ## Exported data -/

/-- What an answer says: the rows follow one another by the step, each with a cell for every name in
the legend. -/
structure Exported where
  start : Int64
  step : Int64
  legend : List String
  rows : List (List Value)

def cellNumber? : Value → Option Float
  | .integer value => (some (Decimal.ofInt value)).filter Decimal.isFinite
  | .float value => (some value).filter Decimal.isFinite
  | .string text => finite? text
  | _ => none

def exported? (tree : Tree) : Option Exported := do
  let members ← tree.members? ["meta", "data"]
  let (start, step, legend) ← members.required "meta" fun tree => do
    let members ← tree.members? ["start", "step", "legend"]
    let start ← members.required "start" Tree.int64?
    let step ← members.required "step" Tree.int64?
    let legend ← members.defaulted "legend" [] (Tree.list? Tree.string?)
    return (start, step, legend)
  let rows ← members.defaulted "data" [] (Tree.list? (Tree.list? (Tree.value? (Tree.deepest - 3))))
  return ⟨start, step, legend, rows⟩

def word? (number : Int) : Option Int64 :=
  if Int64.minValue.toInt ≤ number ∧ number ≤ Int64.maxValue.toInt then some (Int64.ofInt number)
  else none

/-- The rows follow one another by the step. Neither the distance of a row from the first one nor its
time may overflow. -/
def rowSeconds? (start step : Int64) (row : Nat) : Option Int64 := do
  let distance ← word? (row * step.toInt)
  word? (start.toInt + distance.toInt)

def Exported.timedRow (exported : Exported) (cells : List Value) (row : Nat) : Response Row :=
  match rowSeconds? exported.start exported.step row with
  | some seconds => .ok ⟨Time.Instant.ofSeconds? seconds.toInt, cells.map cellNumber?⟩
  | none => .error (.rowTime row)

def Exported.timedRows (exported : Exported) : Response (List Row) :=
  exported.rows.zipIdx.mapM fun numbered => exported.timedRow numbered.1 numbered.2

def readExported (body measurement : String) (requested : List String) (labels : Tags) :
    Response SeriesResult := do
  let exported ← Payload.xport.expect ((Json.read? (Text.trim body)).bind exported?)
  let rows ← exported.timedRows
  return (SeriesResult.ofSeries (seriesOfRows measurement requested labels exported.legend rows)).note
    "step" (.integer exported.step.toInt)

/-! ## Fetched rows -/

structure Fetched where
  names : List String
  rows : List (Int64 × List (Option Float))
  deriving DecidableEq

def isSpacer (c : Char) : Bool := c == ' ' || c == '\t'

/-- The values after a timestamp, each with spaces or tabs before it, up to the end of the line. -/
def fetchedValues? (text : List Char) : Option (List (Option Float)) :=
  if text.all Text.isBlank then some []
  else
    let rest := text.dropWhile isSpacer
    if _gap : rest.length < text.length then
      let token := rest.takeWhile fun c => !Text.isBlank c
      if token.isEmpty then none
      else do
        let value ← Decimal.readFloat? (String.ofList token)
        let values ← fetchedValues? (rest.drop token.length)
        return (if Decimal.isFinite value then some value else none) :: values
    else none
  termination_by text.length
  decreasing_by
    have shorter : (text.dropWhile isSpacer).length < text.length := _gap
    simp only [List.length_drop]
    omega

def fetchedRow? (line : List Char) : Option (Int64 × List (Option Float)) := do
  let (digits, rest) := (line.dropWhile isSpacer).span Char.isDigit
  let ':' :: rest := rest | none
  let timestamp ← if digits.isEmpty then none else Decimal.readInt64? (String.ofList digits)
  let values ← fetchedValues? rest
  return (timestamp, values)

def fetchedRows : List (List Char) → Response (List (Int64 × List (Option Float)))
  | [] => .ok []
  | line :: rest =>
    match fetchedRow? (Text.dropEndWhile Text.isBlank line) with
    | some row => (fetchedRows rest).map (row :: ·)
    | none => .error (.fetchRow (String.ofList (Text.trimChars line)))

/-- A line of names, then one line for each row; blank lines do not count. -/
def readFetched (output : String) : Response Fetched :=
  match (Text.lines output).filter fun line => !line.all Text.isBlank with
  | [] => .ok ⟨[], []⟩
  | header :: rest => (fetchedRows rest).map fun rows => ⟨Text.words (String.ofList header), rows⟩

def Fetched.result (fetched : Fetched) (measurement : String) (requested : List String)
    (labels : Tags) : SeriesResult :=
  .ofSeries (seriesOfRows measurement requested labels fetched.names
    (fetched.rows.map fun (seconds, values) => ⟨Time.Instant.ofSeconds? seconds.toInt, values⟩))

/-! ## File information -/

structure FileInfo where
  step? : Option UInt64
  lastUpdate? : Option Int64
  /-- In the order of their first lines, each once. -/
  dataSources : List String
  deriving DecidableEq

def infoPair? (line : List Char) : Option (List Char × List Char) :=
  match line.span fun c => c != ' ' && c != '=' with
  | ([], _) => none
  | (name, rest) =>
    match rest.dropWhile isSpacer with
    | '=' :: value => some (name, value.dropWhile isSpacer)
    | _ => none

def infoSource? (name : List Char) : Option (List Char) :=
  ((Text.dropStart? "ds[".toList name).bind (Text.splitFirst? ']')).map (·.1)

namespace FileInfo

def empty : FileInfo := ⟨none, none, []⟩

def addSource (info : FileInfo) (source : String) : FileInfo :=
  if info.dataSources.contains source then info
  else { info with dataSources := info.dataSources ++ [source] }

def addLine (info : FileInfo) (line : List Char) : FileInfo :=
  match infoPair? (Text.trimChars line) with
  | none => info
  | some (name, value) =>
    match infoSource? name with
    | some source => info.addSource (String.ofList source)
    | none =>
      let text := String.ofList (Text.trimChars value)
      if name = "step".toList then
        { info with step? := (Decimal.readNat? UInt64.size text).map UInt64.ofNat }
      else if name = "last_update".toList then { info with lastUpdate? := Decimal.readInt64? text }
      else info

/-- Reads the lines of an answer; lines that are not understood do not count. -/
def read (output : String) : FileInfo := (Text.lines output).foldl addLine empty

end FileInfo

/-- The time of the last update. -/
def readLast (output : String) : Response Int64 :=
  let text := Text.trim output
  match Decimal.readInt64? text with
  | some seconds => .ok seconds
  | none => .error (.lastUpdate text)

end SeriesQuery.Rrd
