import SeriesQuery.Text.Blank
import SeriesQuery.Text.Split

/-!
How running rrdtool fails.
-/

set_option autoImplicit false

namespace SeriesQuery.Rrd

inductive PipeProblem where
  | stopped
  | notRunning
  | exited
  deriving Repr, DecidableEq

def PipeProblem.message : PipeProblem → String
  | .stopped => "process has been stopped"
  | .notRunning => "process is not running"
  | .exited => "rrdtool exited unexpectedly"

inductive Failure where
  | notFound (path : String)
  /-- An update at or before the time of the last one. -/
  | premature (path message : String)
  | command (message : String)
  | pipe (problem : PipeProblem)
  /-- The operating system refuses; the reason is its own. -/
  | system (reason : String)
  deriving Repr, DecidableEq

namespace Failure

def message : Failure → String
  | .notFound path => "RRD file not found: " ++ path
  | .premature path message => "Premature update of " ++ path ++ ": " ++ message
  | .command message => "rrdtool error: " ++ message
  | .pipe problem => "rrdtool process error: " ++ problem.message
  | .system reason => "IO error: " ++ reason

def isNotFound : Failure → Bool
  | .notFound _ => true
  | _ => false

def quotedPath? (text : List Char) : Option (List Char) := do
  let (_, rest) ← Text.splitFirst? '\'' text
  let (path, _) ← Text.splitFirst? '\'' rest
  return path

/-- Tells the failures apart by what rrdtool prints about them. -/
def ofMessage (printed : String) : Failure :=
  let text := Text.trimChars printed.toList
  let text := ((Text.dropStart? "ERROR:".toList text).map Text.trimChars).getD text
  let tells := fun (words : String) => Text.occursIn words.toList text
  if tells "No such file" then .notFound (String.ofList ((quotedPath? text).getD text))
  else if tells "illegal attempt to update" || tells "minimum one second step" then
    .premature (String.ofList ((quotedPath? text).getD [])) (String.ofList text)
  else .command (String.ofList text)

end Failure

end SeriesQuery.Rrd
