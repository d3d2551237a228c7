import SeriesQuery.Write.Schema
import SeriesQuery.Result.Json
import SeriesQuery.Influx.LineProtocol
import SeriesQuery.Rrd.Consolidation
import SeriesQuery.Rrd.Layout

/-!
The JSON form of points, samples and schemas, and of the options of the writing side.
-/

set_option autoImplicit false

namespace SeriesQuery

open Json

namespace FieldValue

def toJson : FieldValue → Value
  | .integer value => .integer value.toInt
  | .float value => .float value

def ofJson? (tree : Tree) : Option FieldValue :=
  match tree.int64? with
  | some value => some (.integer value)
  | none => tree.float?.map .float

end FieldValue

namespace Point

def toJson (point : Point) : Value :=
  .object [("measurement", .string point.measurement),
    ("fields", point.fields.toJson FieldValue.toJson), ("tags", point.tags.toJson .string),
    ("timestamp", point.timestamp.toJson)]

def ofJson? (tree : Tree) : Option Point := do
  let members ← tree.members? ["measurement", "fields", "tags", "timestamp"]
  let measurement ← members.required "measurement" Tree.string?
  let fields ← members.required "fields" (Tree.dictionary? FieldValue.ofJson?)
  let tags ← members.defaulted "tags" .empty (Tree.dictionary? Tree.string?)
  let timestamp ← members.required "timestamp" Time.Instant.ofJson?
  return ⟨measurement, fields, tags, timestamp⟩

end Point

namespace Sample

def toJson (sample : Sample) : Value :=
  .object [("namespace", .string sample.nameSpace), ("name", .string sample.name),
    ("labels", sample.labels.toJson .string), ("value", sample.value.toJson),
    ("timestamp", sample.timestamp.toJson)]

def ofJson? (tree : Tree) : Option Sample := do
  let members ← tree.members? ["namespace", "name", "labels", "value", "timestamp"]
  let nameSpace ← members.required "namespace" Tree.string?
  let name ← members.required "name" Tree.string?
  let labels ← members.defaulted "labels" .empty (Tree.dictionary? Tree.string?)
  let value ← members.required "value" FieldValue.ofJson?
  let timestamp ← members.required "timestamp" Time.Instant.ofJson?
  return ⟨nameSpace, name, labels, value, timestamp⟩

end Sample

namespace FieldKind

def jsonName : FieldKind → String
  | .float => "float"
  | .integer => "integer"

def choices : List (String × FieldKind) := choicesOf jsonName [.float, .integer]

end FieldKind

namespace Schema

def toJson (schema : Schema) : Value :=
  .object [("fields", schema.fields.toJson fun kind => .string kind.jsonName),
    ("required_tags", .ofTexts schema.requiredTags.keys)]

def namesOfJson? (tree : Tree) : Option (Dictionary Unit) :=
  (tree.list? Tree.string?).map fun names => .ofList (names.map fun name => (name, ()))

def ofJson? (tree : Tree) : Option Schema := do
  let members ← tree.members? ["fields", "required_tags"]
  let fields ← members.required "fields" (Tree.dictionary? (Tree.choice? FieldKind.choices))
  let requiredTags ← members.defaulted "required_tags" .empty namesOfJson?
  return ⟨fields, requiredTags⟩

end Schema

def Influx.Precision.choices : List (String × Influx.Precision) :=
  choicesOf Influx.Precision.name [.seconds, .milliseconds, .microseconds, .nanoseconds]

def Rrd.Consolidation.choices : List (String × Rrd.Consolidation) :=
  choicesOf Rrd.Consolidation.name [.average, .min, .max, .last]

def Rrd.Layout.choices : List (String × Rrd.Layout) :=
  choicesOf Rrd.Layout.name [.flat, .folder, .untagged]

end SeriesQuery
