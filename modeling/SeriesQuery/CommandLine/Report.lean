import SeriesQuery.CommandLine.Arguments
import SeriesQuery.Csv.Writer
import SeriesQuery.Failure
import SeriesQuery.Result.Json

/-!
Answers as the program prints them.
-/

set_option autoImplicit false

namespace SeriesQuery.CommandLine

def ended (line : String) : String := line ++ "\n"

def linesText (lines : List String) : String := String.join (lines.map ended)

def labelsText (values : List String) : String :=
  if values.isEmpty then ended "(none)" else linesText values

def tagsText (labels : Dictionary String) : String :=
  ",".intercalate (labels.entries.map fun (key, value) => key ++ "=" ++ value)

def filledTo (width : Nat) (text : String) : String :=
  text ++ String.ofList (List.replicate (width - text.length) ' ')

/-! ## Tables -/

def readingRow (reading : Reading) : String :=
  filledTo 27 reading.timestamp.withOffset ++ " " ++
    (match reading.value? with
      | some value => Decimal.fixed 3 value
      | none => "-")

def seriesTitle (series : Series) : String :=
  let tags := tagsText series.labels
  if tags.isEmpty then series.metric else series.metric ++ " " ++ Json.braced tags

def seriesTable (series : Series) : String :=
  linesText ([seriesTitle series, String.ofList (List.replicate 40 '-')] ++
    series.readings.map readingRow ++ [""])

def table : QueryResult → String
  | .labels result => labelsText result.values
  | .series result =>
    if result.isEmpty then ended "No data for the selected time range"
    else String.join (result.series.map seriesTable)

/-! ## Separated values -/

def seriesRecords (series : Series) : List (List String) :=
  series.readings.map fun reading =>
    [series.metric, tagsText series.labels, reading.timestamp.withOffset,
      (reading.value?.map Decimal.plain).getD ""]

def separatedValues (result : QueryResult) : String :=
  let records := match result with
    | .series result => result.series.flatMap seriesRecords
    | .labels _ => []
  String.join ((["metric", "labels", "timestamp", "value"] :: records).map Csv.recordWritten)

def rendered (format : OutputFormat) (result : QueryResult) : String :=
  match format with
  | .table => table result
  | .json => ended result.toJson.indented
  | .csv => separatedValues result

/-! ## Errors -/

def hanging (margin : String) (text : String) : String :=
  ("\n" ++ margin).intercalate (Text.splitAt '\n' text)

def numberedCause (number : Nat) (cause : String) : String :=
  let digits := toString number
  String.ofList (List.replicate (5 - digits.length) ' ') ++ digits ++ ": " ++
    hanging "       " cause

def causesText : List String → String
  | [] => ""
  | [cause] => "\n\nCaused by:\n    " ++ hanging "    " cause
  | causes => "\n\nCaused by:" ++
      String.join (causes.zipIdx.map fun (cause, number) => "\n" ++ numberedCause number cause)

/-- An error and what lies behind it, from the nearest cause on. -/
structure Trouble where
  message : String
  causes : List String
  /-- The program ends at once. -/
  isFatal : Bool
  deriving Repr, DecidableEq

namespace Trouble

def plain (message : String) : Trouble := ⟨message, [], false⟩

def ofFailure (failure : Failure) : Trouble := ⟨failure.message, failure.causes, failure.isFatal⟩

def within (trouble : Trouble) (message : String) : Trouble :=
  ⟨message, trouble.message :: trouble.causes, trouble.isFatal⟩

def text (trouble : Trouble) : String :=
  ended ("Error: " ++ trouble.message ++ causesText trouble.causes)

end Trouble

end SeriesQuery.CommandLine
