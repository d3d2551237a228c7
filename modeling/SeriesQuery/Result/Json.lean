import SeriesQuery.Result.Basic
import SeriesQuery.Query.Json

/-!
The JSON form of results.
-/

set_option autoImplicit false

namespace SeriesQuery

open Json

def Dictionary.toJson {α : Type} (encode : α → Value) (dictionary : Dictionary α) : Value :=
  .object (dictionary.entries.map fun (key, value) => (key, encode value))

def notesOfJson? (room : Nat) (tree : Tree) : Option Notes :=
  tree.dictionary? (Tree.value? room)

namespace Reading

def toJson (reading : Reading) : Value :=
  .object [("timestamp", reading.timestamp.toJson), ("value", .ofOption .float reading.value?)]

def ofJson? (tree : Tree) : Option Reading := do
  let members ← tree.members? ["timestamp", "value"]
  let timestamp ← members.required "timestamp" Time.Instant.ofJson?
  let value? ← members.optional "value" Tree.float?
  return ⟨timestamp, value?⟩

end Reading

namespace Series

def toJson (series : Series) : Value :=
  .object [("metric", .string series.metric), ("labels", series.labels.toJson .string),
    ("points", .ofList Reading.toJson series.readings)]

def ofJson? (tree : Tree) : Option Series := do
  let members ← tree.members? ["metric", "labels", "points"]
  let metric ← members.required "metric" Tree.string?
  let labels ← members.defaulted "labels" .empty (Tree.dictionary? Tree.string?)
  let readings ← members.required "points" (Tree.list? Reading.ofJson?)
  return ⟨metric, labels, readings⟩

end Series

namespace SeriesResult

def jsonMembers (result : SeriesResult) : List (String × Value) :=
  [("series", .ofList Series.toJson result.series), ("metadata", result.notes.toJson id)]

def toJson (result : SeriesResult) : Value := .object result.jsonMembers

def ofJson? (tree : Tree) : Option SeriesResult := do
  let members ← tree.members? ["series", "metadata"]
  let series ← members.required "series" (Tree.list? Series.ofJson?)
  let notes ← members.defaulted "metadata" .empty (notesOfJson? Tree.deepest)
  return ⟨series, notes⟩

end SeriesResult

namespace LabelResult

def jsonMembers (result : LabelResult) : List (String × Value) :=
  [("values", .ofTexts result.values), ("metadata", result.notes.toJson id)]

def toJson (result : LabelResult) : Value := .object result.jsonMembers

def ofJson? (tree : Tree) : Option LabelResult := do
  let members ← tree.members? ["values", "metadata"]
  let values ← members.required "values" (Tree.list? Tree.string?)
  let notes ← members.defaulted "metadata" .empty (notesOfJson? Tree.deepest)
  return ⟨values, notes⟩

end LabelResult

namespace QueryResult

def toJson : QueryResult → Value
  | .series result => .object (("type", .string "time_series") :: result.jsonMembers)
  | .labels result => .object (("type", .string "labels") :: result.jsonMembers)

def ofJson? (tree : Tree) : Option QueryResult := do
  let (kind, rest) ← tree.tagged? Tree.deepest "type"
  match kind with
  | "time_series" => (SeriesResult.ofJson? rest).map .series
  | "labels" => (LabelResult.ofJson? rest).map .labels
  | _ => none

end QueryResult

end SeriesQuery
