import SeriesQuery.Dictionary
import SeriesQuery.Time.Format
import SeriesQuery.Json.Value

/-!
What queries answer: series of timestamped values, or names. The series of one result may have
different lengths; nothing aligns their timestamps.
-/

set_option autoImplicit false

namespace SeriesQuery

structure Reading where
  timestamp : Time.Instant
  value? : Option Float
  deriving DecidableEq

structure Series where
  metric : String
  labels : Dictionary String
  readings : List Reading
  deriving DecidableEq

/-- Notes about a result: the backend, the query sent to it, the step. -/
abbrev Notes := Dictionary Json.Value

structure SeriesResult where
  series : List Series
  notes : Notes

structure LabelResult where
  values : List String
  notes : Notes

inductive QueryResult where
  | series (result : SeriesResult)
  | labels (result : LabelResult)

namespace Series

def ofMetric (metric : String) (labels : Dictionary String) : Series := ⟨metric, labels, []⟩

def values (series : Series) : List Float := series.readings.filterMap (·.value?)

end Series

namespace SeriesResult

def ofSeries (series : List Series) : SeriesResult := ⟨series, .empty⟩

def empty : SeriesResult := .ofSeries []

def note (result : SeriesResult) (key : String) (value : Json.Value) : SeriesResult :=
  { result with notes := result.notes.insert key value }

def isEmpty (result : SeriesResult) : Bool := result.series.isEmpty

def get? (result : SeriesResult) (metric : String) : Option Series :=
  result.series.find? (·.metric == metric)

def readingCount (result : SeriesResult) : Nat :=
  result.series.foldr (fun series count => series.readings.length + count) 0

end SeriesResult

namespace LabelResult

def ofValues (values : List String) : LabelResult := ⟨values, .empty⟩

def note (result : LabelResult) (key : String) (value : Json.Value) : LabelResult :=
  { result with notes := result.notes.insert key value }

def isEmpty (result : LabelResult) : Bool := result.values.isEmpty

end LabelResult

def QueryResult.isEmpty : QueryResult → Bool
  | .series result => result.isEmpty
  | .labels result => result.isEmpty

end SeriesQuery
