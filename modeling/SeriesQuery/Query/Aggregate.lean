import SeriesQuery.Text.Blank
import SeriesQuery.Text.Case
import SeriesQuery.Text.Split
import SeriesQuery.Decimal.Text

/-!
Aggregations, and how empty buckets are filled.
-/

set_option autoImplicit false

namespace SeriesQuery

inductive AggregateFunction where
  | mean
  | sum
  | min
  | max
  | count
  | first
  | last
  | median
  | stddev
  | spread
  | percentile (percent : UInt8)
  deriving Repr, DecidableEq

namespace AggregateFunction

def name : AggregateFunction → String
  | .mean => "mean"
  | .sum => "sum"
  | .min => "min"
  | .max => "max"
  | .count => "count"
  | .first => "first"
  | .last => "last"
  | .median => "median"
  | .stddev => "stddev"
  | .spread => "spread"
  | .percentile percent => "p" ++ toString percent.toNat

/-- A percentile: `percentile_95` or `p95`, up to a hundred. -/
def percentileOfName? (name : List Char) : Option AggregateFunction :=
  let digits := match Text.dropStart? "percentile_".toList name with
    | some digits => some digits
    | none => Text.dropStart? ['p'] name
  digits.bind fun digits =>
    (Decimal.readNat? 101 (String.ofList digits)).map fun percent =>
      .percentile (UInt8.ofNat percent)

def ofName? (name : String) : Option AggregateFunction :=
  match name with
  | "avg" | "mean" | "average" => some .mean
  | "sum" => some .sum
  | "min" => some .min
  | "max" => some .max
  | "count" => some .count
  | "first" => some .first
  | "last" => some .last
  | "median" => some .median
  | "stddev" | "stdev" => some .stddev
  | "spread" => some .spread
  | other => percentileOfName? other.toList

def read? (text : String) : Option AggregateFunction := ofName? (Text.toSmall (Text.trim text))

end AggregateFunction

structure Aggregation where
  function : AggregateFunction
  field : String
  alias? : Option String
  deriving Repr, DecidableEq

/-- The alias, or the names of function and field. -/
def Aggregation.outputName (aggregation : Aggregation) : String :=
  aggregation.alias?.getD (aggregation.function.name ++ "_" ++ aggregation.field)

inductive FillPolicy where
  | null
  | none
  | previous
  | linear
  | value (number : Float)
  deriving DecidableEq

def FillPolicy.read? (text : String) : Option FillPolicy :=
  match Text.toSmall (Text.trim text) with
  | "null" => some .null
  | "none" => some .none
  | "previous" => some .previous
  | "linear" => some .linear
  | other => (Decimal.readFloat? other).map .value

end SeriesQuery
