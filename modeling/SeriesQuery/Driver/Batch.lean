import SeriesQuery.Failure
import SeriesQuery.Write.Batch

/-!
Writing several points: each by itself, or all that can be written down in one go. Either way the
report says of every point whether it was written.
-/

set_option autoImplicit false

namespace SeriesQuery.Batch

variable {m : Type → Type} [Monad m]

def failureAt (index : Nat) (failure : Failure) : BatchFailure := ⟨index, failure.itemMessage⟩

def report (total : Nat) (failures : List BatchFailure) : Except Failure BatchReport :=
  match BatchReport.ofFailures total failures with
  | .ok report => .ok report
  | .error message => .error (.write (.batch message))

def failuresOfEach (write : Point → ExceptT Failure m Unit) :
    List (Point × Nat) → m (List BatchFailure)
  | [] => return []
  | (point, index) :: rest => do
    let outcome ← (write point).run
    let failures ← failuresOfEach write rest
    match outcome with
    | .ok () => return failures
    | .error failure => return failureAt index failure :: failures

def writeEach (write : Point → ExceptT Failure m Unit) (points : List Point) :
    ExceptT Failure m BatchReport :=
  ExceptT.mk do return report points.length (← failuresOfEach write points.zipIdx)

def unwritable {α : Type} (written : List (Except WriteProblem α × Nat)) : List BatchFailure :=
  written.filterMap fun (outcome, index) =>
    match outcome with
    | .ok _ => none
    | .error problem => some (failureAt index (.write (.content problem)))

def sendable {α : Type} (written : List (Except WriteProblem α × Nat)) : List (α × Nat) :=
  written.filterMap fun (outcome, index) =>
    match outcome with
    | .ok content => some (content, index)
    | .error _ => none

/-- Sends all that can be written down together; nothing is sent when there is nothing. If that
fails, it does so for each of these points. -/
def writeTogether {α : Type} (writeDown : Point → Except WriteProblem α)
    (send : List α → ExceptT Failure m Unit) (points : List Point) :
    ExceptT Failure m BatchReport :=
  ExceptT.mk do
    let written := points.zipIdx.map fun (point, index) => (writeDown point, index)
    let unwritten := unwritable written
    let contents := sendable written
    if contents.isEmpty then return report points.length unwritten
    match ← (send (contents.map (·.1))).run with
    | .ok () => return report points.length unwritten
    | .error failure =>
      let unsent := contents.map fun (_, index) => failureAt index failure
      return report points.length
        ((unwritten ++ unsent).mergeSort fun first second => decide (first.index ≤ second.index))

end SeriesQuery.Batch
