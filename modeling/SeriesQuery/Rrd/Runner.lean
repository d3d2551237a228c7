import SeriesQuery.Rrd.Command
import SeriesQuery.Rrd.Session

/-!
Running commands of the round robin database tool: a run of its own for each of them, or one process
for all.
-/

set_option autoImplicit false

namespace SeriesQuery.Rrd

structure Output where
  exit : Nat
  text : String
  errors : String
  deriving Repr, DecidableEq

structure Shell (m : Type → Type) where
  run : String → List String → m (Except String Output)
  child : String → Child m

structure Runner where
  binary : String
  daemon? : Option String
  persistent : Bool

/-- The failure that an unsuccessful run tells: the first line that speaks of an error, or else all
that it prints. -/
def Output.failure (output : Output) (name : String) : Failure :=
  let errorLine? := (Text.lines output.errors).find? fun line => "ERROR".toList.isPrefixOf line
  let message := match errorLine? with
    | some line => String.ofList line
    | none => Text.trim output.errors
  if message.isEmpty then .command (name ++ " exited with exit status: " ++ toString output.exit)
  else .ofMessage message

def Output.result (output : Output) (name : String) : Except Failure String :=
  if output.exit = 0 then .ok output.text else .error (output.failure name)

namespace Runner

open Session

variable {m : Type → Type} [Monad m]

def run (runner : Runner) (shell : Shell m) (command : Command) : Step m String := do
  if runner.persistent then
    Session.run (shell.child runner.binary) (command.line runner.daemon?)
  else
    match ← shell.run runner.binary (command.arguments runner.daemon?) with
    | .error reason => throw (.system reason)
    | .ok output => MonadExcept.ofExcept (output.result command.name)

def check (runner : Runner) (shell : Shell m) : Step m Unit := do
  if runner.persistent then ensureStarted (shell.child runner.binary)
  else
    match ← shell.run runner.binary [] with
    | .error reason => throw (.system reason)
    | .ok _ => return ()

def close (runner : Runner) (shell : Shell m) : Step m Unit := do
  if runner.persistent then Session.stop (shell.child runner.binary)

end Runner

end SeriesQuery.Rrd
