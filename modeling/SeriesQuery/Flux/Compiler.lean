import SeriesQuery.Text.Split
import SeriesQuery.Flux.Script

/-!
Flux for queries. Every group of conditions becomes one filter; several aggregations work on copies
of the value column, one for each.
-/

set_option autoImplicit false

namespace SeriesQuery.Flux

/-- A column to read values from, and the name of the series if it is not the measurement's. -/
structure ValueColumn where
  column : String
  name? : Option String
  deriving Repr, DecidableEq

def valueColumn : String := "_value"

def ValueColumn.plain : ValueColumn := ⟨valueColumn, none⟩

structure Plan where
  script : Script
  columns : List ValueColumn
  deriving DecidableEq

/-! ## Literals and conditions -/

def refuse {α : Type} (subject : String) (refusal : Refusal) : Except QueryError α :=
  .error (.refused .influxdb subject refusal)

def floatLiteral (field : String) (value : Float) : Except QueryError Literal :=
  if Decimal.isFinite value then .ok (.float value) else refuse field (.noLiteral value)

def timeLiteral (field : String) : Scalar → Except QueryError Literal
  | .timestamp value => .ok (.instant value)
  | .string value => .ok (.timeText value)
  | .integer seconds =>
    match Time.Instant.ofSeconds? seconds.toInt with
    | some instant => .ok (.instant instant)
    | none => refuse field (.notAnEpoch seconds)
  | other => refuse field (.notATime other)

def plainLiteral (field : String) : Scalar → Except QueryError Literal
  | .null => refuse field .nullOrder
  | .bool value => .ok (.bool value)
  | .integer value => .ok (.integer value)
  | .float value => floatLiteral field value
  | .timestamp value => .ok (.instant value)
  | .string value => .ok (.string value)

def conditionLiteral (condition : Condition) (value : Scalar) : Except QueryError Literal :=
  if condition.isTime then timeLiteral condition.field value else plainLiteral condition.field value

def conditionColumn (condition : Condition) : String :=
  if condition.isTime then "_time" else condition.field

def predicate (condition : Condition) : Except QueryError Predicate :=
  let column := conditionColumn condition
  match condition.operator, condition.value with
  | .equal, .scalar .null => .ok (.missing column)
  | .notEqual, .scalar .null => .ok (.present column)
  | .regex, .scalar value => .ok (.pattern column .regex value.plain)
  | .notRegex, .scalar value => .ok (.pattern column .notRegex value.plain)
  | operator, .scalar value => do
    return .compare column operator (← conditionLiteral condition value)
  | .isIn, .list values => do
    return .member column (← values.mapM (conditionLiteral condition))
  | .notIn, .list values => do
    let literals ← values.mapM (conditionLiteral condition)
    return .all column (literals.map fun literal => (.notEqual, literal))
  | .between, .list [low, high] => do
    let low ← conditionLiteral condition low
    let high ← conditionLiteral condition high
    return .all column [(.greaterOrEqual, low), (.lessOrEqual, high)]
  | .between, .list values =>
    .error (.unsupportedValue condition.field (.boundCount values.length))
  | operator, .list _ => .error (.unsupportedValue condition.field (.needsScalar operator))

/-! ## Stages -/

def rangeStage : TimeWindow → Stage
  | .unset => .rangeBack "1h"
  | .relative duration => .rangeBack duration.text
  | .absolute start finish => .range start finish

/-- Reads a fixed offset: an optional `UTC`, a sign, hours, and optionally a colon and minutes. -/
def Offset.read? (text : String) : Option Offset := do
  let trimmed := Text.trimChars text.toList
  let rest := (Text.dropStart? "UTC".toList trimmed).getD trimmed
  let (negative, rest) ← match rest with
    | '+' :: rest => some (false, rest)
    | '-' :: rest => some (true, rest)
    | _ => none
  let (hours, minutes) := (Text.splitFirst? ':' rest).getD (rest, ['0'])
  let hours ← Decimal.readNat? UInt32.size (String.ofList hours)
  let minutes ← Decimal.readNat? UInt32.size (String.ofList minutes)
  return ⟨negative, hours, minutes⟩

def filteredFields (query : Query) : List String :=
  ((query.explicitFields ++ query.aggregations.map (·.field)).filter (· != wildcard)).eraseDups

/-- The first of `base_2`, `base_3`, … that is not taken. One of as many candidates as there are
taken names and one more is free. -/
def numberedColumn (base : String) (taken : List String) : String :=
  ((List.range (taken.length + 1)).map fun n => base ++ "_" ++ toString (n + 2)).find?
    (fun candidate => !taken.contains candidate) |>.getD base

def freeColumn (base : String) (taken : List String) : String :=
  if taken.contains base then numberedColumn base taken else base

/-- The column of each aggregation: the first reads the value column itself, the others a copy named
after their output. -/
def aggregationColumns (aggregations : List Aggregation) : List String :=
  aggregations.foldl (fun taken aggregation => taken ++
    [if taken.isEmpty then valueColumn
     else freeColumn (valueColumn ++ "_" ++ aggregation.outputName) taken]) []

/-- The stages of the aggregations, and the columns that hold their results. -/
def aggregationStages (aggregations : List Aggregation) : List Stage × List ValueColumn :=
  match aggregations with
  | [] => ([], [.plain])
  | [single] => ([.reduce single.function none], [⟨valueColumn, single.alias?⟩])
  | several =>
    let columns := aggregationColumns several
    ((columns.drop 1).map Stage.duplicate ++
      (several.zip columns).map fun (aggregation, column) =>
        .reduce aggregation.function (some column),
     (several.zip columns).map fun (aggregation, column) =>
        ⟨column, some aggregation.outputName⟩)

/-- The column that a filter on aggregated values reads: that of the first aggregation with this
output name, else of the first on this field, else the value column. -/
def havingColumn (aggregations : List Aggregation) (columns : List ValueColumn) (field : String) :
    String :=
  let pairs := aggregations.zip columns
  let found := (pairs.find? fun (aggregation, _) => aggregation.outputName == field).or
    (pairs.find? fun (aggregation, _) => aggregation.field == field)
  (found.map fun (_, column) => column.column).getD valueColumn

def havingStage (query : Query) (columns : List ValueColumn) (having : Having) :
    Except QueryError Stage := do
  if !having.operator.isComparison then
    refuse query.measurement (.havingOperator having.operator)
  else
    let literal ← plainLiteral having.field having.value
    return .having (havingColumn query.aggregations columns having.field) having.operator literal

def fillStages (interval? : Option Duration) : Option FillPolicy → Except QueryError (List Stage)
  | some .null => .ok [.fillNull]
  | some .previous => .ok [.fillPrevious]
  | some .linear => .ok [.interpolate interval?]
  | some (.value value) =>
    if Decimal.isFinite value then .ok [.fillValue value] else refuse "fill" (.noLiteral value)
  | some .none => .ok []
  | none => .ok []

def sortColumn (field : String) : String :=
  if field = "time" then "_time" else if field = "value" then valueColumn else field

/-- One stage when all directions agree, else one stage for each field. -/
def sortStages (ordering : List (String × SortDirection)) : List Stage :=
  match ordering with
  | [] => []
  | (_, first) :: _ =>
    if ordering.all fun (_, direction) => direction == first then
      [.sort (ordering.map fun (field, _) => sortColumn field) (first == .descending)]
    else ordering.map fun (field, direction) => .sort [sortColumn field] (direction == .descending)

def plan (query : Query) : Except QueryError Plan := do
  query.checkCompilable
  let offset? := query.timezone?.bind Offset.read?
  let groups ← (conditionGroups query.conditions).mapM (·.mapM predicate)
  let fields := filteredFields query
  let interval? ← query.bucket
  let (reducers, columns) := aggregationStages query.aggregations
  let having ← query.having.mapM (havingStage query columns)
  let fill ← fillStages interval? query.fill?
  return {
    script := {
      location? := if offset?.isSome then none else query.timezone?
      stages :=
        [rangeStage query.time] ++ (offset?.map Stage.timeShift).toList ++
        [.measurement query.measurement] ++ groups.map Stage.filter ++
        (if fields.isEmpty then [] else [.fields fields]) ++
        (if query.distinct then [.distinct] else []) ++
        (if query.groupBy.isEmpty then [] else [.group query.groupBy]) ++
        (interval?.map Stage.window).toList ++ reducers ++ having ++ fill ++
        (query.math.map fun math => .map math.name math.expression) ++
        sortStages query.orderBy ++ (query.offset?.map Stage.tail).toList ++
        (query.limit?.map Stage.limit).toList }
    columns }

inductive Kind where
  | data
  | labels
  deriving Repr, DecidableEq

structure Compiled where
  text : String
  kind : Kind
  columns : List ValueColumn
  deriving DecidableEq

def compile (bucket : String) (query : Query) : Except QueryError Compiled :=
  (plan query).map fun plan => ⟨plan.script.text bucket, .data, plan.columns⟩

def schemaCall (function : String) (arguments : List (String × String)) : String :=
  "schema." ++ function ++ "(" ++
    ", ".intercalate (arguments.map fun (name, value) => name ++ ": " ++ Text.quoted value) ++ ")"

def compileMetadata (bucket : String) (request : MetadataRequest) : Compiled :=
  let call := match request with
    | .measurements => schemaCall "measurements" [("bucket", bucket)]
    | .tagKeys measurement =>
      schemaCall "measurementTagKeys" [("bucket", bucket), ("measurement", measurement)]
    | .tagValues measurement tag => schemaCall "measurementTagValues"
      [("bucket", bucket), ("measurement", measurement), ("tag", tag)]
    | .fieldKeys measurement =>
      schemaCall "measurementFieldKeys" [("bucket", bucket), ("measurement", measurement)]
  ⟨"import \"influxdata/influxdb/schema\"\n\n" ++ call, .labels, [.plain]⟩

end SeriesQuery.Flux
