import SeriesQuery.Http.Request
import SeriesQuery.Query.Error
import SeriesQuery.Result.Problem
import SeriesQuery.Rrd.Failure
import SeriesQuery.Write.Schema

/-!
Everything that an operation on a backend can fail with. Each failure keeps its cause; `message`
says it in one text, and `causes` lists the texts of what lies behind it.
-/

set_option autoImplicit false

namespace SeriesQuery

inductive SettingsProblem where
  | missing (backend : Backend) (names : List String)
  | carbonAddress
  | archives
  | defaultStep (error : QueryError)
  deriving DecidableEq

def SettingsProblem.message : SettingsProblem → String
  | .missing backend names => backend.name ++ ": missing " ++ ", ".intercalate names
  | .carbonAddress => "graphite: carbon host and port are required"
  | .archives => "rrdtool: step, rows and consolidation must be set"
  | .defaultStep error => "prometheus: default_step: " ++ error.message

inductive ConnectionProblem where
  | timeout (text : String)
  | request (text : String)
  | carbon (reason : String)
  | health (status : Http.Status)
  deriving Repr, DecidableEq

def ConnectionProblem.message : ConnectionProblem → String
  | .timeout text => "request timed out: " ++ text
  | .request text => text
  | .carbon reason => reason
  | .health status => "health check returned HTTP " ++ status.text

inductive ExecutionCause where
  | status (status : Http.Status)
  | statusWithBody (status : Http.Status) (body : String)
  | reported (message : String)
  | address (problem : Http.AddressProblem)
  | transport (text : String) (causes : List String)
  | rrd (failure : Rrd.Failure)
  deriving Repr, DecidableEq

namespace ExecutionCause

def message : ExecutionCause → String
  | .status code => "HTTP " ++ code.text
  | .statusWithBody code body => "HTTP " ++ code.text ++ ": " ++ body
  | .reported message => message
  | .address problem => problem.message
  | .transport text _ => text
  | .rrd failure => failure.message

end ExecutionCause

inductive WriteFailure where
  | content (problem : WriteProblem)
  | status (status : Http.Status) (body : String)
  | unsent (backend : Backend) (cause : ExecutionCause)
  | carbon (reason : String)
  | readOnly (measurement : String)
  | rrd (failure : Rrd.Failure)
  /-- Every point of a batch failed with this message. -/
  | batch (message : String)
  deriving DecidableEq

def executionMessage (backend : Backend) (cause : ExecutionCause) (query : String) : String :=
  backend.name ++ " execution failed: " ++ cause.message ++ " (query: " ++ query ++ ")"

def WriteFailure.message : WriteFailure → String
  | .content problem => problem.message
  | .status code body => "HTTP " ++ code.text ++ ": " ++ body
  | .unsent backend cause => executionMessage backend cause "write"
  | .carbon reason => "carbon: " ++ reason
  | .readOnly measurement => "prometheus is read-only, cannot write '" ++ measurement ++ "'"
  | .rrd failure => failure.message
  | .batch message => message

inductive DriverProblem where
  | unknown (name : String) (available : List String)
  | alreadyRegistered (name : String)
  deriving Repr, DecidableEq

def DriverProblem.message : DriverProblem → String
  | .unknown name available =>
    "unknown driver '" ++ name ++ "' (available: " ++ ", ".intercalate available ++ ")"
  | .alreadyRegistered name => "driver '" ++ name ++ "' is already registered"

inductive Failure where
  | settings (problem : SettingsProblem)
  | connection (backend : Backend) (problem : ConnectionProblem)
  | write (failure : WriteFailure)
  | query (error : QueryError)
  | execution (backend : Backend) (query : String) (cause : ExecutionCause)
  | response (backend : Backend) (problem : ResponseProblem)
  | driver (problem : DriverProblem)
  | schema (problem : SchemaProblem)
  | rrd (failure : Rrd.Failure)
  /-- The operating system refuses; the reason is its own. -/
  | system (reason : String)
  deriving DecidableEq

namespace Failure

def message : Failure → String
  | .settings problem => "Configuration error: " ++ problem.message
  | .connection backend problem =>
    "Connection to " ++ backend.name ++ " failed: " ++ problem.message
  | .write failure => "Write failed: " ++ failure.message
  | .query error => error.message
  | .execution backend sent cause => executionMessage backend cause sent
  | .response backend problem =>
    backend.name ++ " returned an unreadable response: " ++ problem.message
  | .driver problem => "Driver error: " ++ problem.message
  | .schema problem => "Schema error: " ++ problem.message
  | .rrd failure => failure.message
  | .system reason => "IO error: " ++ reason

/-- The failure of one point in a batch; that of a write does not say that it is one. -/
def itemMessage : Failure → String
  | .write failure => failure.message
  | other => other.message

def isNotFound : Failure → Bool
  | .rrd failure => failure.isNotFound
  | .execution _ _ (.rrd failure) => failure.isNotFound
  | _ => false

def isFatal : Failure → Bool
  | .response _ problem => problem.isFatal
  | _ => false

def systemCause : Rrd.Failure → List String
  | .system reason => [reason]
  | _ => []

def causes : Failure → List String
  | .execution _ _ (.rrd failure) => failure.message :: systemCause failure
  | .execution _ _ (.address problem) => [problem.message, problem.reason]
  | .execution _ _ (.transport text causes) => text :: causes
  | .execution _ _ cause => [cause.message]
  | .rrd failure => systemCause failure
  | .system reason => [reason]
  | _ => []

end Failure

end SeriesQuery
