import SeriesQuery.Query.Basic
import SeriesQuery.Rrd.Command
import SeriesQuery.Rrd.Layout

/-!
Reads of round robin files for queries. Equalities select the file; which data sources it has is
known only once the file is looked at, so a query that names no field stands on a placeholder until
then.
-/

set_option autoImplicit false

namespace SeriesQuery.Rrd

inductive Mode where
  | xport
  | fetch
  deriving Repr, DecidableEq

structure Window where
  start : String
  finish : String
  step? : Option UInt64
  maxRows? : Option UInt64
  deriving Repr, DecidableEq

structure Compiled where
  measurement : String
  path : String
  /-- The tags in the path, which are the labels of the series. -/
  labels : Tags
  /-- Data source names. -/
  fields : List String
  /-- Whether the query named the fields. -/
  explicitFields : Bool
  function : Consolidation
  window : Window
  math : List MathExpression
  mode : Mode
  deriving DecidableEq

def placeholderField : String := "value"

def computedVariable (index : Nat) : String := "cdef" ++ toString index

namespace Compiled

def statements (compiled : Compiled) : List String :=
  let computed := compiled.math.zipIdx
  compiled.fields.map (fun field => definition field compiled.path field compiled.function) ++
    computed.map (fun (math, index) =>
      "CDEF:" ++ computedVariable index ++ "=" ++ math.expression) ++
    compiled.fields.map (fun field => "XPORT:" ++ field ++ ":" ++ field) ++
    computed.map fun (math, index) => "XPORT:" ++ computedVariable index ++ ":" ++ math.name

def command (compiled : Compiled) : Command :=
  let window := compiled.window
  match compiled.mode with
  | .fetch => .fetch compiled.path compiled.function window.start window.finish window.step?
  | .xport => .xport window.start window.finish window.step? window.maxRows? compiled.statements

def outputNames (compiled : Compiled) : List String :=
  compiled.fields ++ compiled.math.map (·.name)

/-- The same read of the data sources that a file has: the named ones that exist, or all when none
was named or none exists. -/
def resolve (compiled : Compiled) (sources : List String) : Compiled :=
  if sources.isEmpty then compiled
  else
    let existing := compiled.fields.filter sources.contains
    { compiled with fields :=
        if compiled.explicitFields && !existing.isEmpty then existing else sources }

end Compiled

def tag? (condition : Condition) : Option (String × String) :=
  match condition.operator, condition.value with
  | .equal, .scalar value => if condition.isTime then none else some (condition.field, value.plain)
  | _, _ => none

def labelsOf (query : Query) : Tags := .ofList (query.conditions.filterMap tag?)

/-- The data sources of the named fields, or else of the aggregated ones. -/
def fieldsOf (query : Query) : List String :=
  let named := query.explicitFields.map sourceName
  dropRepeats <| if named.isEmpty then
      (query.aggregations.filter fun aggregation =>
        !aggregation.field.isEmpty && aggregation.field != wildcard).map fun aggregation =>
          sourceName aggregation.field
    else named

/-- The archive of the first aggregation, or averages. -/
def functionOf (query : Query) : Consolidation :=
  (query.aggregations.head?.bind fun aggregation =>
    Consolidation.ofAggregate? aggregation.function).getD .average

def boundsOf : TimeWindow → String × String
  | .unset => ("end-1h", "now")
  | .relative duration => ("end-" ++ duration.rrdText, "now")
  | .absolute start finish => (toString start.seconds, toString finish.seconds)

def compile (layout : Layout) (base : String) (mode : Mode) (query : Query) :
    Except QueryError Compiled := do
  query.checkCompilable
  let interval? ← query.bucket
  let labels := labelsOf query
  let fields := fieldsOf query
  let (start, finish) := boundsOf query.time
  return {
    measurement := query.measurement
    path := layout.path base query.measurement labels
    labels
    fields := if fields.isEmpty then [placeholderField] else fields
    explicitFields := !fields.isEmpty
    function := functionOf query
    window := {
      start, finish
      step? := interval?.map fun interval => UInt64.ofNat (max interval.seconds 1)
      maxRows? := query.limit? }
    math := query.math
    mode }

end SeriesQuery.Rrd
