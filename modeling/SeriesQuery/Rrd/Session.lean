import SeriesQuery.Rrd.Failure

/-!
A session with a running tool that takes one command a line. What it prints about a command ends
with a line that tells success or an error; while a command is under way the session holds no pipes,
so that a command which breaks off leaves nothing behind for the next one to read.
-/

set_option autoImplicit false

namespace SeriesQuery.Rrd

inductive SessionState where
  | notStarted
  | running
  | stopped
  deriving Repr, DecidableEq

structure Pipes where
  /-- Printed by the child and read by nobody yet. -/
  unread : List Char
  deriving Repr, DecidableEq

structure Session where
  state : SessionState
  pipes? : Option Pipes
  deriving Repr, DecidableEq

/-- What a child does about a line: the text that it prints, after which reading fails for a reason
of the system, or finds the end. -/
structure Answer where
  text : List Char
  fault? : Option String
  deriving Repr, DecidableEq

/-- A child as its session sees it. Every step may fail for a reason of the system. -/
structure Child (m : Type → Type) where
  start : m (Except String Unit)
  send : String → m (Except String Answer)
  /-- Asks the child to end, and waits for that. -/
  quit : m (Except String Unit)

/-! ## One exchange -/

def successMark : List Char := "OK u:".toList

def errorMark : List Char := "ERROR: ".toList

/-- Lines with the newline that ends each. Where the text ends the last one may lack it; where reading
fails, what was read of a line is lost. -/
def keptLines (fails : Bool) : List Char → List (List Char)
  | [] => []
  | '\n' :: rest => ['\n'] :: keptLines fails rest
  | c :: rest =>
    match keptLines fails rest with
    | [] => if fails then [] else [[c]]
    | line :: lines => (c :: line) :: lines

inductive Outcome where
  | output (text : List Char)
  | refusal (line : List Char)
  | exited
  | fault (reason : String)
  deriving Repr, DecidableEq

/-- Reads lines up to the one that ends the command, and gives the lines after it. -/
def exchange (fault? : Option String) : List (List Char) → Outcome × List (List Char)
  | [] =>
    match fault? with
    | some reason => (.fault reason, [])
    | none => (.exited, [])
  | line :: rest =>
    if successMark.isPrefixOf line then (.output [], rest)
    else if errorMark.isPrefixOf line then (.refusal line, rest)
    else
      match exchange fault? rest with
      | (.output text, rest) => (.output (line ++ text), rest)
      | other => other

namespace Session

def new : Session := ⟨.notStarted, none⟩

def holding (unread : List Char) : Session := ⟨.running, some ⟨unread⟩⟩

abbrev Step (m : Type → Type) (α : Type) := ExceptT Failure (StateT Session m) α

variable {m : Type → Type} [Monad m]

def start (child : Child m) : Step m Unit := do
  match ← child.start with
  | .error reason => throw (.system reason)
  | .ok () => set (holding [])

def ensureStarted (child : Child m) : Step m Unit := do
  match (← get).state with
  | .stopped => throw (.pipe .stopped)
  | .notStarted => start child
  | .running => return ()

/-- Runs one command line and gives what is printed before the line that ends it. Starts the child
when it is needed first. -/
def run (child : Child m) (line : String) : Step m String := do
  ensureStarted child
  let some pipes := (← get).pipes? | throw (.pipe .notRunning)
  set (⟨.notStarted, none⟩ : Session)
  match ← child.send line with
  | .error reason => throw (.system reason)
  | .ok answer =>
    match exchange answer.fault?
        (keptLines answer.fault?.isSome (pipes.unread ++ answer.text)) with
    | (.output text, rest) =>
      set (holding rest.flatten)
      return String.ofList text
    | (.refusal message, rest) =>
      set (holding rest.flatten)
      throw (Failure.ofMessage (String.ofList message))
    | (.exited, _) =>
      set (⟨.stopped, none⟩ : Session)
      throw (.pipe .exited)
    | (.fault reason, _) => throw (.system reason)

/-- Lets the child end. A session without a child is stopped too. -/
def stop (child : Child m) : Step m Unit := do
  let session ← get
  if session.pipes?.isSome then
    set { session with pipes? := none }
    match ← child.quit with
    | .error reason => throw (.system reason)
    | .ok () => pure ()
  modify fun session => { session with state := .stopped }

end Session

end SeriesQuery.Rrd
