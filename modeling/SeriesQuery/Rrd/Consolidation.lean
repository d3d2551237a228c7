import SeriesQuery.Query.Aggregate

/-!
Consolidation functions: how an archive of a round robin file condenses its data.
-/

set_option autoImplicit false

namespace SeriesQuery.Rrd

inductive Consolidation where
  | average
  | min
  | max
  | last
  deriving Repr, DecidableEq

namespace Consolidation

def name : Consolidation → String
  | .average => "AVERAGE"
  | .min => "MIN"
  | .max => "MAX"
  | .last => "LAST"

def ofName? : String → Option Consolidation
  | "AVERAGE" => some .average
  | "MIN" => some .min
  | "MAX" => some .max
  | "LAST" => some .last
  | _ => none

@[simp] theorem ofName?_name (function : Consolidation) :
    ofName? function.name = some function := by
  cases function <;> rfl

def read (text : String) : Except String Consolidation :=
  match ofName? (Text.toCapitals text) with
  | some function => .ok function
  | none => .error (Text.toCapitals text)

def unknownMessage (name : String) : String := "unknown consolidation function '" ++ name ++ "'"

/-- The archive that holds an aggregation, if there is one. -/
def ofAggregate? : AggregateFunction → Option Consolidation
  | .mean => some .average
  | .min => some .min
  | .max => some .max
  | .last => some .last
  | _ => none

end Consolidation

end SeriesQuery.Rrd
