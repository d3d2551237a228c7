import SeriesQuery.Query.Condition
import SeriesQuery.Query.Aggregate

/-!
Why a query is not understood, not valid, or not expressible in a backend's language.
-/

set_option autoImplicit false

namespace SeriesQuery

inductive Backend where
  | influxdb
  | graphite
  | rrdtool
  | prometheus
  deriving Repr, DecidableEq

def Backend.name : Backend → String
  | .influxdb => "influxdb"
  | .graphite => "graphite"
  | .rrdtool => "rrdtool"
  | .prometheus => "prometheus"

inductive Problem where
  | unknownOperator (token : String)
  | missingMeasurement
  | ungroupedAggregation
  | havingWithoutAggregation
  deriving Repr, DecidableEq

inductive Refusal where
  | havingOperator (operator : Operator)
  | notAnEpoch (seconds : Int64)
  | notATime (value : Scalar)
  | nullOrder
  | noLiteral (value : Float)
  | havingThreshold (value : Scalar)
  | noBucketPercentile (percent : UInt8)
  | noFirstOverTime
  | noOperatorAcross (function : AggregateFunction)
  deriving DecidableEq

def Refusal.message : Refusal → String
  | .havingOperator operator => "having supports comparisons only, got " ++ operator.token
  | .notAnEpoch seconds => toString seconds.toInt ++ " is not a valid epoch"
  | .notATime value => value.tagged ++ " is not a time"
  | .nullOrder => "null only compares with = or !="
  | .noLiteral value => Decimal.plain value ++ " has no Flux literal"
  | .havingThreshold value => "having threshold " ++ value.tagged ++ " is not numeric"
  | .noBucketPercentile percent => "summarize has no p" ++ toString percent.toNat ++ " function"
  | .noFirstOverTime => "first has no range-vector function"
  | .noOperatorAcross function =>
    function.name ++ " has no cross-series aggregation operator"

inductive QueryError where
  /-- The text does not follow the grammar. -/
  | grammar
  /-- The text goes on after a complete query or condition. -/
  | unexpectedInput (place : String) (rest : String)
  | unknownAggregate (text : String)
  | unknownFill (text : String)
  | invalidDuration (text : String)
  | invalidOperator (text : String)
  | unsupportedValue (field : String) (problem : ValueProblem)
  | invalid (problems : List Problem)
  | refused (backend : Backend) (subject : String) (refusal : Refusal)
  deriving DecidableEq

def operatorMessage (token : String) : String := "Invalid operator: '" ++ token ++ "'"

def Problem.message : Problem → String
  | .unknownOperator token => operatorMessage token
  | .missingMeasurement => "measurement is required"
  | .ungroupedAggregation => "aggregations require group_by or interval"
  | .havingWithoutAggregation => "having requires at least one aggregation"

def QueryError.message : QueryError → String
  | .grammar => "Parse error"
  | .unexpectedInput place rest =>
    "Parse error: Unexpected input after " ++ place ++ ": '" ++ rest ++ "'"
  | .unknownAggregate text => "Parse error: unknown aggregate function '" ++ text ++ "'"
  | .unknownFill text => "Parse error: unknown fill policy '" ++ text ++ "'"
  | .invalidDuration text =>
    "Invalid duration: '" ++ text ++ "' (expected <number><s|m|h|d|w|y>)"
  | .invalidOperator text => operatorMessage text
  | .unsupportedValue field problem =>
    "Unsupported value for '" ++ field ++ "': " ++ problem.message
  | .invalid problems => "Invalid query: " ++ "; ".intercalate (problems.map Problem.message)
  | .refused backend subject refusal =>
    backend.name ++ " query error: " ++ refusal.message ++ " (query: " ++ subject ++ ")"

end SeriesQuery
