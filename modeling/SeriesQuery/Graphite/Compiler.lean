import SeriesQuery.Text.Pattern
import SeriesQuery.Graphite.Target

/-!
Graphite targets for queries. Graphite filters by path: an equality replaces a wildcard of the path,
an inequality or a pattern wraps the series, and every other condition is passed over.
-/

set_option autoImplicit false

namespace SeriesQuery.Graphite

/-- The path of a measurement below an optional root; an empty root is none. -/
def basePath (root? : Option String) (measurement : String) : String :=
  match root? with
  | some root => if root.isEmpty then measurement else root ++ "." ++ measurement
  | none => measurement

/-! ## Paths -/

def narrow (path value : List Char) : List Char :=
  match Text.splitFirst? '*' path with
  | some (before, after) => before ++ value ++ after
  | none => path

/-- The path of a field, with one wildcard replaced for each value. -/
def fieldPath (root? : Option String) (query : Query) (narrowing : List String) (field : String) :
    Target :=
  let path := basePath root? query.measurement ++ "." ++ field
  .path (String.ofList (narrowing.foldl (fun path value => narrow path value.toList) path.toList))

/-- The scalar of a condition that Graphite can look at: one on another field than the time. -/
def conditionScalar? (condition : Condition) : Option Scalar :=
  if condition.isTime then none else condition.value.scalar?

def narrowing? (condition : Condition) : Option String :=
  match condition.operator with
  | .equal => (conditionScalar? condition).map Scalar.plain
  | _ => none

def wrapping? (condition : Condition) : Option (String × String) :=
  match condition.operator with
  | .notEqual => (conditionScalar? condition).map fun value => ("exclude", value.plain)
  | .regex => (conditionScalar? condition).map fun value => ("grep", value.plain)
  | _ => none

/-- The last filter stands outermost. -/
def filtered (conditions : List Condition) (target : Target) : Target :=
  (conditions.filterMap wrapping?).foldl
    (fun inner (function, value) => .call function inner [.quoted value]) target

def groupOf : List Target → Target
  | [single] => single
  | several => .group several

/-- The selected series: those of the named fields, or of all fields. -/
def selection (root? : Option String) (query : Query) : Target :=
  let fields := if query.explicitFields.isEmpty then [wildcard] else query.explicitFields
  filtered query.conditions
    (groupOf (fields.map (fieldPath root? query (query.conditions.filterMap narrowing?))))

def aggregationSource (root? : Option String) (query : Query) (aggregation : Aggregation) :
    Target :=
  if aggregation.field.isEmpty || aggregation.field == wildcard then selection root? query
  else filtered query.conditions
    (fieldPath root? query (query.conditions.filterMap narrowing?) aggregation.field)

/-! ## Functions -/

/-- The name that `summarize` knows a function by; it has no percentiles. -/
def summaryName? : AggregateFunction → Except UInt8 String
  | .mean => .ok "avg"
  | .sum => .ok "sum"
  | .min => .ok "min"
  | .max => .ok "max"
  | .count => .ok "count"
  | .first => .ok "first"
  | .last => .ok "last"
  | .median => .ok "median"
  | .stddev => .ok "stddev"
  | .spread => .ok "range"
  | .percentile percent => .error percent

def combined (target : Target) : AggregateFunction → Target
  | .mean => .call "averageSeries" target []
  | .sum => .call "sumSeries" target []
  | .min => .call "minSeries" target []
  | .max => .call "maxSeries" target []
  | .count => .call "countSeries" target []
  | .stddev => .call "stddevSeries" target []
  | .spread => .call "rangeOfSeries" target []
  | .percentile percent => .call "percentileOfSeries" target [.plain (toString percent.toNat)]
  | .median => .call "aggregate" target [.quoted "median"]
  | .first => .call "aggregate" target [.quoted "first"]
  | .last => .call "aggregate" target [.quoted "last"]

/-- With an interval the series are summarized in buckets, else combined into one. -/
def aggregated (target : Target) (function : AggregateFunction) (interval? : Option Duration) :
    Except QueryError Target :=
  match interval? with
  | none => .ok (combined target function)
  | some interval =>
    match summaryName? function with
    | .ok name =>
      .ok (.call "summarize" target [.quoted interval.graphiteText, .quoted name])
    | .error percent => .error (.refused .graphite target.text (.noBucketPercentile percent))

def aggregationTarget (root? : Option String) (query : Query) (interval? : Option Duration)
    (aggregation : Aggregation) : Except QueryError Target :=
  aggregated (aggregationSource root? query aggregation) aggregation.function interval?

def named (target : Target) (name : String) : Target := .call "alias" target [.quoted name]

/-- The series of the query before fill, filters on aggregated values and limit. A single
aggregation is named by its alias only, several by their output names. -/
def source (root? : Option String) (query : Query) (interval? : Option Duration) :
    Except QueryError Target :=
  match query.aggregations with
  | [] =>
    let selected := selection root? query
    .ok (match interval? with
      | some interval =>
        .call "summarize" selected [.quoted interval.graphiteText, .quoted "avg"]
      | none => selected)
  | [single] => do
    let target ← aggregationTarget root? query interval? single
    return (single.alias?.map (named target)).getD target
  | several => do
    let targets ← several.mapM fun aggregation => do
      return named (← aggregationTarget root? query interval? aggregation) aggregation.outputName
    return .group targets

def filled (target : Target) : Option FillPolicy → Target
  | some (.value value) => .call "transformNull" target [.plain (Decimal.plain value)]
  | some .previous => .call "keepLastValue" target []
  | some .linear => .call "interpolate" target []
  | _ => target

/-- Removes values beyond a threshold; a strict bound counts as the other kind, and any other
operator removes nothing. -/
def withHaving (query : Query) (target : Target) (having : Having) : Except QueryError Target := do
  let threshold ← match having.value with
    | .integer value => .ok (Decimal.ofInt value.toInt)
    | .float value => .ok value
    | other => .error (.refused .graphite query.measurement (.havingThreshold other))
  let limit := [Extra.plain (Decimal.plain threshold)]
  match having.operator with
  | .greater | .greaterOrEqual => return .call "removeBelowValue" target limit
  | .less | .lessOrEqual => return .call "removeAboveValue" target limit
  | _ => return target

/-- The bounds of the window; without one, the last hour. -/
def bounds : TimeWindow → String × String
  | .unset => ("-1h", "now")
  | .relative duration => ("-" ++ duration.graphiteText, "now")
  | .absolute start finish => (toString start.seconds, toString finish.seconds)

def target (root? : Option String) (query : Query) : Except QueryError Target := do
  query.checkCompilable
  let interval? ← query.bucket
  let series ← source root? query interval?
  let series ← query.having.foldlM (withHaving query) (filled series query.fill?)
  return match query.limit? with
    | some count => .call "limit" series [.plain (toString count.toNat)]
    | none => series

def compile (root? : Option String) (query : Query) : Except QueryError Compiled := do
  let target ← target root? query
  let (start, finish) := bounds query.time
  return { target := target.text, start, finish, timezone? := query.timezone? }

/-! ## Lookups -/

def nameExpression (root? : Option String) (measurement : String) : String :=
  "name=~^" ++ Text.literalPattern (basePath root? measurement) ++ "\\."

def compileMetadata (root? : Option String) : MetadataRequest → Lookup
  | .measurements => .find (basePath root? wildcard)
  | .fieldKeys measurement => .find (basePath root? measurement ++ ".*")
  | .tagKeys measurement => .tagKeys (nameExpression root? measurement)
  | .tagValues measurement tag => .tagValues tag (nameExpression root? measurement)

end SeriesQuery.Graphite
