/-!
Why an answer of a backend cannot be read.
-/

set_option autoImplicit false

namespace SeriesQuery

inductive Payload where
  | findNodes
  | tagList
  | envelope
  | xport
  deriving Repr, DecidableEq

def Payload.title : Payload → String
  | .findNodes => "metrics/find"
  | .tagList => "tags"
  | .envelope => "invalid JSON"
  | .xport => "xport"

inductive ResponseProblem where
  /-- A record of data comes before any header; records count from one. -/
  | noHeader (record : Nat)
  /-- The backend reports a failure inside its answer. -/
  | reported (message : String)
  /-- The answer is not the JSON document that it should be. -/
  | notJson (payload : Payload)
  | noData
  | notSeries
  /-- The time of an exported row overflows; rows count from nought. This ends the whole program. -/
  | rowTime (row : Nat)
  | fetchRow (line : String)
  | lastUpdate (text : String)
  deriving Repr, DecidableEq

/-- Nothing of the program goes on after it. -/
def ResponseProblem.isFatal : ResponseProblem → Bool
  | .rowTime _ => true
  | _ => false

def ResponseProblem.message : ResponseProblem → String
  | .noHeader record => "data row " ++ toString record ++ " before any header"
  | .reported message => message
  | .notJson payload => payload.title ++ ": "
  | .noData => "response has no data"
  | .notSeries => "string results are not time series"
  | .rowTime row => "time of row " ++ toString row ++ " overflows"
  | .fetchRow line => "unreadable fetch row '" ++ line ++ "'"
  | .lastUpdate text => "unreadable last '" ++ text ++ "'"

abbrev Response (α : Type) := Except ResponseProblem α

def Payload.expect {α : Type} (payload : Payload) (found? : Option α) : Response α :=
  match found? with
  | some found => .ok found
  | none => .error (.notJson payload)

end SeriesQuery
