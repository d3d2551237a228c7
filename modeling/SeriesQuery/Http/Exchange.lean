import SeriesQuery.Failure

/-!
One request to a backend. An address that cannot be asked is found out before anything is sent.
-/

set_option autoImplicit false

namespace SeriesQuery.Http

variable {m : Type → Type} [Monad m]

/-- A connection that fails is told apart from an exchange that does. -/
def Fault.failure (backend : Backend) (query : String) : Fault → Failure
  | .timeout text => .connection backend (.timeout text)
  | .connect text => .connection backend (.request text)
  | .other text causes => .execution backend query (.transport text causes)

def ask (transport : Transport m) (backend : Backend) (query : String) (request : Request) :
    ExceptT Failure m Reply := do
  match addressProblem? request.address with
  | some problem => throw (.execution backend query (.address problem))
  | none =>
    match ← transport request with
    | .ok reply => return reply
    | .error fault => throw (fault.failure backend query)

def understood {α : Type} (backend : Backend) : Response α → ExceptT Failure m α
  | .ok value => return value
  | .error problem => throw (.response backend problem)

end SeriesQuery.Http
