import SeriesQuery.Text.Pattern
import SeriesQuery.Prometheus.Expression

/-!
PromQL for queries. A field of a measurement is a metric of its own, so each aggregation, or each
selected field when there is none, becomes one expression.
-/

set_option autoImplicit false

namespace SeriesQuery.Prometheus

def valueField : String := "value"

def metricName (measurement field : String) : String :=
  if field.isEmpty || field == valueField || field == wildcard then measurement
  else measurement ++ "_" ++ field

/-! ## Labels -/

def alternation (values : List Scalar) : String :=
  "^(?:" ++ "|".intercalate (values.map fun value => Text.literalPattern value.plain) ++ ")$"

/-- The matcher of a condition; a condition on the time, or with an operator that labels do not
have, has none. -/
def matcher? (condition : Condition) : Option Matcher :=
  if condition.isTime then none
  else match condition.operator, condition.value with
    | .equal, .scalar value => some ⟨condition.field, "=", value.plain⟩
    | .notEqual, .scalar value => some ⟨condition.field, "!=", value.plain⟩
    | .regex, .scalar value => some ⟨condition.field, "=~", value.plain⟩
    | .notRegex, .scalar value => some ⟨condition.field, "!~", value.plain⟩
    | .isIn, .list values => some ⟨condition.field, "=~", alternation values⟩
    | .notIn, .list values => some ⟨condition.field, "!~", alternation values⟩
    | _, _ => none

def selectorOf (query : Query) (field : String) : Selector :=
  ⟨metricName query.measurement field, query.conditions.filterMap matcher?⟩

/-! ## Aggregations -/

def refuse {α : Type} (query : Query) (refusal : Refusal) : Except QueryError α :=
  .error (.refused .prometheus query.measurement refusal)

def quantileText (percent : UInt8) : String :=
  Decimal.plain (Decimal.nearest false percent.toNat (-2))

def overTime (query : Query) (selector : Selector) (interval : Duration) :
    AggregateFunction → Except QueryError Expression
  | .mean => .ok (.overTime "avg_over_time" none selector interval)
  | .sum => .ok (.overTime "sum_over_time" none selector interval)
  | .min => .ok (.overTime "min_over_time" none selector interval)
  | .max => .ok (.overTime "max_over_time" none selector interval)
  | .count => .ok (.overTime "count_over_time" none selector interval)
  | .last => .ok (.overTime "last_over_time" none selector interval)
  | .stddev => .ok (.overTime "stddev_over_time" none selector interval)
  | .median => .ok (.overTime "quantile_over_time" (some "0.5") selector interval)
  | .percentile percent =>
    .ok (.overTime "quantile_over_time" (some (quantileText percent)) selector interval)
  | .spread => .ok (.spreadOverTime selector interval)
  | .first => refuse query .noFirstOverTime

/-- An aggregation across series. Counts of intervals are summed, not counted again. -/
def across (query : Query) (inner : Expression) (bucketed : Bool) :
    AggregateFunction → Except QueryError Expression
  | .mean => .ok (.across "avg" query.groupBy none inner)
  | .sum => .ok (.across "sum" query.groupBy none inner)
  | .min => .ok (.across "min" query.groupBy none inner)
  | .max => .ok (.across "max" query.groupBy none inner)
  | .stddev => .ok (.across "stddev" query.groupBy none inner)
  | .count => .ok (.across (if bucketed then "sum" else "count") query.groupBy none inner)
  | .median => .ok (.across "quantile" query.groupBy (some "0.5") inner)
  | .percentile percent =>
    .ok (.across "quantile" query.groupBy (some (quantileText percent)) inner)
  | function => refuse query (.noOperatorAcross function)

def comparison? : Operator → Option String
  | .equal => some "=="
  | .notEqual => some "!="
  | .greater => some ">"
  | .greaterOrEqual => some ">="
  | .less => some "<"
  | .lessOrEqual => some "<="
  | _ => none

def threshold (having : Having) : Except QueryError String :=
  let problem := QueryError.unsupportedValue having.field (.notNumeric having.value)
  match having.value with
  | .integer value => .ok (toString value.toInt)
  | .float value => if Decimal.isFinite value then .ok (Decimal.plain value) else .error problem
  | _ => .error problem

def concerns (having : Having) (aggregation : Aggregation) : Bool :=
  having.field == aggregation.outputName || having.field == aggregation.field

/-- Filters an aggregation by a comparison; other operators are passed over. -/
def withHaving (aggregation : Aggregation) (expression : Expression) (having : Having) :
    Except QueryError Expression :=
  if concerns having aggregation then
    match comparison? having.operator with
    | some operator => (threshold having).map (.compare expression operator)
    | none => .ok expression
  else .ok expression

def aggregationExpression (query : Query) (interval? : Option Duration)
    (aggregation : Aggregation) : Except QueryError Expression := do
  let selector := selectorOf query aggregation.field
  let expression ← match interval? with
    | some interval => do
      let bucketed ← overTime query selector interval aggregation.function
      if query.groupBy.isEmpty then .ok bucketed
      else across query bucketed true aggregation.function
    | none => across query (.selector selector) false aggregation.function
  query.having.foldlM (withHaving aggregation) expression

/-- The largest values, or the smallest when the query orders by ascending values first. -/
def limited (query : Query) (expression : Expression) : Expression :=
  match query.limit? with
  | none => expression
  | some count =>
    let function := match query.orderBy with
      | (_, .ascending) :: _ => "bottomk"
      | _ => "topk"
    .limit function count expression

def fieldExpressions (query : Query) : List NamedExpression :=
  let fields := if query.explicitFields.isEmpty then [valueField] else query.explicitFields
  fields.map fun field =>
    ⟨metricName query.measurement field, limited query (.selector (selectorOf query field))⟩

def compile (defaultStep : String) (query : Query) : Except QueryError Compiled := do
  query.checkCompilable
  let interval? ← query.bucket
  let expressions ←
    if query.aggregations.isEmpty then .ok (fieldExpressions query)
    else query.aggregations.mapM fun aggregation => do
      let expression ← aggregationExpression query interval? aggregation
      return ⟨aggregation.outputName, limited query expression⟩
  return {
    expressions :=
      expressions ++ query.math.map fun math => ⟨math.name, .verbatim math.expression⟩
    time := query.time
    step := (interval?.map Duration.text).getD defaultStep }

end SeriesQuery.Prometheus
