/-!
What became of a batch of points.
-/

set_option autoImplicit false

namespace SeriesQuery

structure BatchFailure where
  index : Nat
  message : String
  deriving Repr, DecidableEq

structure BatchReport where
  written : Nat
  failures : List BatchFailure
  deriving Repr, DecidableEq

namespace BatchReport

def isComplete (report : BatchReport) : Bool := report.failures.isEmpty

/-- The report of a batch; one error when every point failed with the same message. -/
def ofFailures (total : Nat) (failures : List BatchFailure) : Except String BatchReport :=
  match failures with
  | first :: _ =>
    if failures.length = total ∧ failures.all (·.message == first.message) then
      .error first.message
    else .ok ⟨total - failures.length, failures⟩
  | [] => .ok ⟨total, []⟩

end BatchReport

end SeriesQuery
