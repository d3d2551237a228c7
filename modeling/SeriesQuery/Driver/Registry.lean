import SeriesQuery.Driver.Basic

/-!
The drivers that can be asked for by name.
-/

set_option autoImplicit false

namespace SeriesQuery

def Backend.ofName? (name : String) : Option Backend :=
  [Backend.influxdb, .graphite, .rrdtool, .prometheus].find? fun backend => backend.name == name

structure Registry where
  backends : Dictionary Backend

namespace Registry

def empty : Registry := ⟨.empty⟩

def full : Registry :=
  ⟨.ofList ([Backend.influxdb, .graphite, .rrdtool, .prometheus].map fun backend =>
    (backend.name, backend))⟩

def names (registry : Registry) : List String := registry.backends.keys

def contains (registry : Registry) (name : String) : Bool := registry.backends.contains name

def register (registry : Registry) (backend : Backend) : Except DriverProblem Registry :=
  if registry.contains backend.name then .error (.alreadyRegistered backend.name)
  else .ok ⟨registry.backends.insert backend.name backend⟩

def create (registry : Registry) (name : String) (settings : Settings) : Except Failure Driver :=
  match registry.backends.get? name with
  | some backend =>
    match Driver.ofSettings settings backend with
    | .ok driver => .ok driver
    | .error problem => .error (.settings problem)
  | none => .error (.driver (.unknown name registry.names))

end Registry

end SeriesQuery
