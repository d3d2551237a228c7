import SeriesQuery.Query.Duration
import SeriesQuery.Query.Condition
import SeriesQuery.Query.Aggregate
import SeriesQuery.Query.Error

/-!
Queries over time series, independent of any backend. A query starts as a selection of all fields of
a measurement and is refined step by step.
-/

set_option autoImplicit false

namespace SeriesQuery

def wildcard : String := "*"

/-- The time window of a query. Without one, backends read the last hour. -/
inductive TimeWindow where
  | unset
  | absolute (start finish : Time.Instant)
  | relative (duration : Duration)
  deriving DecidableEq

/-- An expression in a backend's own language. -/
structure MathExpression where
  expression : String
  /-- The name of its column or series. -/
  name : String
  deriving Repr, DecidableEq

inductive SortDirection where
  | ascending
  | descending
  deriving Repr, DecidableEq

def SortDirection.token : SortDirection → String
  | .ascending => "ASC"
  | .descending => "DESC"

structure Having where
  field : String
  operator : Operator
  value : Scalar
  deriving DecidableEq

inductive MetadataRequest where
  | measurements
  | tagKeys (measurement : String)
  | tagValues (measurement : String) (tag : String)
  | fieldKeys (measurement : String)
  deriving Repr, DecidableEq

structure Query where
  measurement : String
  fields : List String
  conditions : List Condition
  time : TimeWindow
  groupBy : List String
  interval? : Option String
  aggregations : List Aggregation
  fill? : Option FillPolicy
  math : List MathExpression
  orderBy : List (String × SortDirection)
  limit? : Option UInt64
  offset? : Option UInt64
  distinct : Bool
  timezone? : Option String
  having : List Having
  /-- Operator tokens that were not understood, in the order of their steps. -/
  unknownOperators : List String
  deriving DecidableEq

def setEntry {Value : Type} (key : String) (value : Value) :
    List (String × Value) → List (String × Value)
  | [] => [(key, value)]
  | entry :: rest =>
    if entry.1 = key then (key, value) :: rest else entry :: setEntry key value rest

namespace Query

def ofMeasurement (measurement : String) : Query where
  measurement
  fields := [wildcard]
  conditions := []
  time := .unset
  groupBy := []
  interval? := none
  aggregations := []
  fill? := none
  math := []
  orderBy := []
  limit? := none
  offset? := none
  distinct := false
  timezone? := none
  having := []
  unknownOperators := []

/-! ## Steps -/

/-- Replaces the selection; an empty one selects all fields. -/
def select (query : Query) (fields : List String) : Query :=
  { query with fields := if fields.isEmpty then [wildcard] else fields }

def condition (query : Query) (condition : Condition) : Query :=
  { query with conditions := query.conditions ++ [condition] }

/-- Adds a condition whose operator is given by its token; a token that is not understood is kept
for validation and the condition is dropped. -/
def filter (query : Query) (field token : String) (value : ConditionValue)
    (connective : Connective) : Query :=
  match Operator.read? token with
  | some operator => query.condition ⟨field, operator, value, connective⟩
  | none => { query with unknownOperators := query.unknownOperators ++ [token] }

def whereIn (query : Query) (field : String) (values : List Scalar) : Query :=
  query.condition ⟨field, .isIn, .list values, .and⟩

def whereNotIn (query : Query) (field : String) (values : List Scalar) : Query :=
  query.condition ⟨field, .notIn, .list values, .and⟩

def whereBetween (query : Query) (field : String) (low high : Scalar) : Query :=
  query.condition ⟨field, .between, .list [low, high], .and⟩

def whereRegex (query : Query) (field pattern : String) : Query :=
  query.condition ⟨field, .regex, .scalar (.string pattern), .and⟩

def whereNotRegex (query : Query) (field pattern : String) : Query :=
  query.condition ⟨field, .notRegex, .scalar (.string pattern), .and⟩

def timeRange (query : Query) (start finish : Time.Instant) : Query :=
  { query with time := .absolute start finish }

def latestDuration (query : Query) (duration : Duration) : Query :=
  { query with time := .relative duration }

def latest (query : Query) (text : String) : Except QueryError Query :=
  match Duration.read? text with
  | some duration => .ok (query.latestDuration duration)
  | none => .error (.invalidDuration text)

/-- Groups by a tag; a repeated tag is ignored. -/
def groupByTag (query : Query) (tag : String) : Query :=
  { query with groupBy := if tag ∈ query.groupBy then query.groupBy else query.groupBy ++ [tag] }

def interval (query : Query) (text : String) : Query := { query with interval? := some text }

def aggregate (query : Query) (function : AggregateFunction) (field : String)
    (alias? : Option String) : Query :=
  { query with aggregations := query.aggregations ++ [⟨function, field, alias?⟩] }

def fill (query : Query) (policy : FillPolicy) : Query := { query with fill? := some policy }

def mathExpression (query : Query) (expression name : String) : Query :=
  { query with math := query.math ++ [⟨expression, name⟩] }

/-- Orders by a field; a repeated field keeps its place and takes the new direction. -/
def order (query : Query) (field : String) (direction : SortDirection) : Query :=
  { query with orderBy := setEntry field direction query.orderBy }

def limit (query : Query) (count : UInt64) : Query := { query with limit? := some count }

def offset (query : Query) (count : UInt64) : Query := { query with offset? := some count }

def distinctRows (query : Query) : Query := { query with distinct := true }

def timezone (query : Query) (name : String) : Query := { query with timezone? := some name }

def havingOperator (query : Query) (field : String) (operator : Operator) (value : Scalar) :
    Query :=
  { query with having := query.having ++ [⟨field, operator, value⟩] }

def havingToken (query : Query) (field token : String) (value : Scalar) : Query :=
  match Operator.read? token with
  | some operator => query.havingOperator field operator value
  | none => { query with unknownOperators := query.unknownOperators ++ [token] }

/-! ## Views -/

def selectsAllFields (query : Query) : Bool := query.fields.any (· == wildcard)

def explicitFields (query : Query) : List String := query.fields.filter (· != wildcard)

def start? (query : Query) : Option Time.Instant :=
  match query.time with
  | .absolute start _ => some start
  | _ => none

def finish? (query : Query) : Option Time.Instant :=
  match query.time with
  | .absolute _ finish => some finish
  | _ => none

def relative? (query : Query) : Option Duration :=
  match query.time with
  | .relative duration => some duration
  | _ => none

def bucket (query : Query) : Except QueryError (Option Duration) :=
  match query.interval? with
  | none => .ok none
  | some text =>
    match Duration.read? text with
    | some duration => .ok (some duration)
    | none => .error (.invalidDuration text)

/-! ## Validity -/

def hasMeasurement (query : Query) : Bool := !Text.isBlankText query.measurement

def hardProblems (query : Query) : List Problem :=
  query.unknownOperators.map .unknownOperator ++
    (if query.hasMeasurement then [] else [.missingMeasurement])

def validate (query : Query) : List Problem :=
  query.hardProblems ++
    (if !query.aggregations.isEmpty && query.groupBy.isEmpty && query.interval?.isNone then
      [.ungroupedAggregation] else []) ++
    (if !query.having.isEmpty && query.aggregations.isEmpty then
      [.havingWithoutAggregation] else [])

/-- The first condition whose value has the wrong shape. -/
def shapeError? : List Condition → Option QueryError
  | [] => none
  | condition :: rest =>
    match condition.shapeProblem? with
    | some problem => some (.unsupportedValue condition.field problem)
    | none => shapeError? rest

/-- What every compiler refuses: hard faults, then a value of the wrong shape, then an unreadable
interval. -/
def checkCompilable (query : Query) : Except QueryError Unit :=
  if query.hardProblems ≠ [] then .error (.invalid query.hardProblems)
  else match shapeError? query.conditions with
    | some error => .error error
    | none => query.bucket.map fun _ => ()

end Query

end SeriesQuery
