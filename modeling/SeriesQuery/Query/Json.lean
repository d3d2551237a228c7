import SeriesQuery.Query.Basic
import SeriesQuery.Time.Reader
import SeriesQuery.Json.Reader

/-!
The JSON form of queries. Reading accepts every form that writing produces. A literal value carries
no mark of its kind, so that text which reads as an instant becomes one.
-/

set_option autoImplicit false

namespace SeriesQuery

open Json

def choicesOf {α : Type} (name : α → String) (values : List α) : List (String × α) :=
  values.map fun value => (name value, value)

def Time.Instant.toJson (instant : Time.Instant) : Value := .string instant.zulu

def Time.Instant.ofJson? (tree : Tree) : Option Time.Instant := tree.string?.bind Time.readLenient?

/-! ## Durations and windows -/

namespace DurationUnit

def jsonName : DurationUnit → String
  | .seconds => "seconds"
  | .minutes => "minutes"
  | .hours => "hours"
  | .days => "days"
  | .weeks => "weeks"
  | .years => "years"

def choices : List (String × DurationUnit) :=
  choicesOf jsonName [.seconds, .minutes, .hours, .days, .weeks, .years]

end DurationUnit

namespace Duration

def jsonMembers (duration : Duration) : List (String × Value) :=
  [("amount", .integer duration.amount.toNat), ("unit", .string duration.unit.jsonName)]

def toJson (duration : Duration) : Value := .object duration.jsonMembers

def ofJson? (tree : Tree) : Option Duration := do
  let members ← tree.members? ["amount", "unit"]
  let amount ← members.required "amount" (Tree.nat? UInt32.size)
  let unit ← members.required "unit" (Tree.choice? DurationUnit.choices)
  return ⟨UInt32.ofNat amount, unit⟩

end Duration

namespace TimeWindow

def toJson : TimeWindow → Value
  | .unset => .object [("kind", .string "unset")]
  | .absolute start finish =>
    .object [("kind", .string "absolute"), ("start", start.toJson), ("end", finish.toJson)]
  | .relative duration => .object (("kind", .string "relative") :: duration.jsonMembers)

def ofJson? (room : Nat) (tree : Tree) : Option TimeWindow := do
  let (kind, rest) ← tree.tagged? room "kind"
  match kind with
  | "unset" => rest.nothingElse?.map fun _ => .unset
  | "absolute" => do
    let members ← rest.members? ["start", "end"]
    let start ← members.required "start" Time.Instant.ofJson?
    let finish ← members.required "end" Time.Instant.ofJson?
    return .absolute start finish
  | "relative" => (Duration.ofJson? rest).map .relative
  | _ => none

end TimeWindow

/-! ## Conditions -/

namespace Scalar

def toJson : Scalar → Value
  | .null => .null
  | .bool value => .bool value
  | .integer value => .integer value.toInt
  | .float value => .float value
  | .timestamp value => value.toJson
  | .string value => .string value

/-- Whole numbers that do not fit 64 bits are read as doubles. -/
def ofJson? : Tree → Option Scalar
  | .null => some .null
  | .bool value => some (.bool value)
  | .number literal =>
    match (Tree.number literal).int64? with
    | some value => some (.integer value)
    | none => (Tree.number literal).float?.map .float
  | .string text? => text?.map fun text =>
    match Time.readLenient? text with
    | some value => .timestamp value
    | none => .string text
  | _ => none

end Scalar

namespace ConditionValue

def toJson : ConditionValue → Value
  | .scalar value => value.toJson
  | .list values => .ofList Scalar.toJson values

def ofJson? (tree : Tree) : Option ConditionValue :=
  match Scalar.ofJson? tree with
  | some value => some (.scalar value)
  | none => (tree.list? Scalar.ofJson?).map .list

end ConditionValue

namespace Operator

def jsonName : Operator → String
  | .equal => "EQ"
  | .notEqual => "NEQ"
  | .greater => "GT"
  | .greaterOrEqual => "GTE"
  | .less => "LT"
  | .lessOrEqual => "LTE"
  | .isIn => "IN"
  | .notIn => "NOT_IN"
  | .between => "BETWEEN"
  | .regex => "REGEX"
  | .notRegex => "NOT_REGEX"

def choices : List (String × Operator) :=
  choicesOf jsonName [.equal, .notEqual, .greater, .greaterOrEqual, .less, .lessOrEqual, .isIn,
    .notIn, .between, .regex, .notRegex]

end Operator

def Connective.choices : List (String × Connective) := choicesOf Connective.token [.and, .or]

namespace Condition

def toJson (condition : Condition) : Value :=
  .object [("field", .string condition.field), ("operator", .string condition.operator.jsonName),
    ("value", condition.value.toJson), ("logical", .string condition.connective.token)]

def ofJson? (tree : Tree) : Option Condition := do
  let members ← tree.members? ["field", "operator", "value", "logical"]
  let field ← members.required "field" Tree.string?
  let operator ← members.required "operator" (Tree.choice? Operator.choices)
  let value ← members.required "value" ConditionValue.ofJson?
  let connective ← members.required "logical" (Tree.choice? Connective.choices)
  return ⟨field, operator, value, connective⟩

end Condition

/-! ## Aggregations -/

namespace AggregateFunction

def toJson : AggregateFunction → Value
  | .percentile percent => .object [("percentile", .integer percent.toNat)]
  | function => .string function.name

def choices : List (String × AggregateFunction) :=
  choicesOf name [.mean, .sum, .min, .max, .count, .first, .last, .median, .stddev, .spread]

def ofJson? (tree : Tree) : Option AggregateFunction :=
  match tree.choice? choices with
  | some function => some function
  | none =>
    match tree with
    | .object [(some "percentile", percent)] =>
      (percent.nat? UInt8.size).map fun percent => .percentile (UInt8.ofNat percent)
    | _ => none

end AggregateFunction

namespace Aggregation

def toJson (aggregation : Aggregation) : Value :=
  .object [("function", aggregation.function.toJson), ("field", .string aggregation.field),
    ("alias", .ofOption .string aggregation.alias?)]

def ofJson? (tree : Tree) : Option Aggregation := do
  let members ← tree.members? ["function", "field", "alias"]
  let function ← members.required "function" AggregateFunction.ofJson?
  let field ← members.required "field" Tree.string?
  let alias? ← members.optional "alias" Tree.string?
  return ⟨function, field, alias?⟩

end Aggregation

namespace FillPolicy

def jsonName : FillPolicy → String
  | .null => "null"
  | .none => "none"
  | .previous => "previous"
  | .linear => "linear"
  | .value _ => "value"

def toJson (policy : FillPolicy) : Value :=
  let tag := ("policy", Value.string policy.jsonName)
  match policy with
  | .value number => .object [tag, ("value", .float number)]
  | _ => .object [tag]

def choices : List (String × FillPolicy) :=
  choicesOf jsonName [.null, .none, .previous, .linear, .value 0]

/-- A policy without a value may have a value that is null. -/
def ofJson? (tree : Tree) : Option FillPolicy :=
  match tree.chosen? "policy" "value" choices with
  | some (.value _, some found) => found.float?.map .value
  | some (.value _, Option.none) => Option.none
  | some (policy, some found) => if found.isNull then some policy else Option.none
  | some (policy, Option.none) => some policy
  | Option.none => Option.none

end FillPolicy

/-! ## Queries -/

namespace MathExpression

def toJson (math : MathExpression) : Value :=
  .object [("expression", .string math.expression), ("alias", .string math.name)]

def ofJson? (tree : Tree) : Option MathExpression := do
  let members ← tree.members? ["expression", "alias"]
  let expression ← members.required "expression" Tree.string?
  let name ← members.required "alias" Tree.string?
  return ⟨expression, name⟩

end MathExpression

def SortDirection.choices : List (String × SortDirection) :=
  choicesOf SortDirection.token [.ascending, .descending]

namespace Having

def toJson (having : Having) : Value :=
  .object [("field", .string having.field), ("operator", .string having.operator.jsonName),
    ("value", having.value.toJson)]

def ofJson? (tree : Tree) : Option Having := do
  let members ← tree.members? ["field", "operator", "value"]
  let field ← members.required "field" Tree.string?
  let operator ← members.required "operator" (Tree.choice? Operator.choices)
  let value ← members.required "value" Scalar.ofJson?
  return ⟨field, operator, value⟩

end Having

namespace Query

def toJson (query : Query) : Value :=
  .object [("measurement", .string query.measurement), ("fields", .ofTexts query.fields),
    ("conditions", .ofList Condition.toJson query.conditions), ("time", query.time.toJson),
    ("group_by", .ofTexts query.groupBy), ("interval", .ofOption .string query.interval?),
    ("aggregations", .ofList Aggregation.toJson query.aggregations),
    ("fill", .ofOption FillPolicy.toJson query.fill?),
    ("math", .ofList MathExpression.toJson query.math),
    ("order_by", .ofList (fun (field, direction) => .ofTexts [field, direction.token])
      query.orderBy),
    ("limit", .ofOption (fun count => .integer count.toNat) query.limit?),
    ("offset", .ofOption (fun count => .integer count.toNat) query.offset?),
    ("distinct", .bool query.distinct), ("timezone", .ofOption .string query.timezone?),
    ("having", .ofList Having.toJson query.having)]

def jsonNames : List String :=
  ["measurement", "fields", "conditions", "time", "group_by", "interval", "aggregations", "fill",
    "math", "order_by", "limit", "offset", "distinct", "timezone", "having"]

/-- Operators that were not understood are not part of the form. -/
def ofJson? (tree : Tree) : Option Query := do
  let members ← tree.members? jsonNames
  let measurement ← members.required "measurement" Tree.string?
  let fields ← members.required "fields" (Tree.list? Tree.string?)
  let conditions ← members.required "conditions" (Tree.list? Condition.ofJson?)
  let time ← members.required "time" (TimeWindow.ofJson? (Tree.deepest - 1))
  let groupBy ← members.required "group_by" (Tree.list? Tree.string?)
  let interval? ← members.optional "interval" Tree.string?
  let aggregations ← members.required "aggregations" (Tree.list? Aggregation.ofJson?)
  let fill? ← members.optional "fill" FillPolicy.ofJson?
  let math ← members.required "math" (Tree.list? MathExpression.ofJson?)
  let orderBy ← members.required "order_by"
    (Tree.list? (Tree.pair? Tree.string? (Tree.choice? SortDirection.choices)))
  let limit? ← members.optional "limit" Tree.uint64?
  let offset? ← members.optional "offset" Tree.uint64?
  let distinct ← members.required "distinct" Tree.bool?
  let timezone? ← members.optional "timezone" Tree.string?
  let having ← members.required "having" (Tree.list? Having.ofJson?)
  return { measurement, fields, conditions, time, groupBy, interval?, aggregations, fill?, math,
           orderBy, limit?, offset?, distinct, timezone?, having, unknownOperators := [] }

end Query

namespace MetadataRequest

def toJson : MetadataRequest → Value
  | .measurements => .object [("kind", .string "measurements")]
  | .tagKeys measurement =>
    .object [("kind", .string "tag_keys"), ("measurement", .string measurement)]
  | .tagValues measurement tag =>
    .object [("kind", .string "tag_values"), ("measurement", .string measurement),
      ("tag", .string tag)]
  | .fieldKeys measurement =>
    .object [("kind", .string "field_keys"), ("measurement", .string measurement)]

def measurementOf? (rest : Tree) : Option String := do
  (← rest.members? ["measurement"]).required "measurement" Tree.string?

def ofJson? (tree : Tree) : Option MetadataRequest := do
  let (kind, rest) ← tree.tagged? Tree.deepest "kind"
  match kind with
  | "measurements" => rest.nothingElse?.map fun _ => .measurements
  | "tag_keys" => (measurementOf? rest).map .tagKeys
  | "tag_values" => do
    let members ← rest.members? ["measurement", "tag"]
    let measurement ← members.required "measurement" Tree.string?
    let tag ← members.required "tag" Tree.string?
    return .tagValues measurement tag
  | "field_keys" => (measurementOf? rest).map .fieldKeys
  | _ => none

end MetadataRequest

end SeriesQuery
