import SeriesQuery.Driver.Basic

/-!
A world that follows a script: files in memory, and a tool that gives the replies of a list one by
one. It keeps what the tool was asked.
-/

set_option autoImplicit false

namespace SeriesQuery

/-- What the scripted tool does when it is asked. Without an exit a run succeeds and a child lives
on. -/
structure ToolReply where
  text? : Option String := none
  errors : String := ""
  exit? : Option Nat := none
  /-- A file that it makes. -/
  touched? : Option String := none

inductive ToolCall where
  | run (arguments : List String)
  | line (text : String)

structure Scripted where
  tree : Files.Tree
  /-- Texts of files that are not empty. -/
  contents : List (Files.Location × String)
  replies : List ToolReply
  calls : List ToolCall
  childEnded : Bool

namespace Scripted

def ofTree (tree : Files.Tree) : Scripted := ⟨tree, [], [], [], false⟩

/-! ## The tool -/

/-- Makes the file of a reply, below the working directory. -/
def touch (script : Scripted) (reply : ToolReply) : Scripted :=
  match reply.touched? with
  | some path =>
    let location := script.tree.workingDirectory ++ (Files.parts path).filter (!·.isEmpty)
    { script with tree := script.tree.addFile location }
  | none => script

/-- Takes the next reply; there is an empty one when all are used. -/
def take (call : ToolCall) : StateM Scripted ToolReply := do
  let script ← get
  let (reply, rest) := match script.replies with
    | reply :: rest => (reply, rest)
    | [] => ({}, [])
  set (touch { script with replies := rest, calls := script.calls ++ [call] } reply)
  return reply

def missing : String := Files.Problem.reason .missing

def hasBinary (binary : String) : StateM Scripted Bool := do
  return (← get).tree.isFile binary

def runOnce (binary : String) (arguments : List String) :
    StateM Scripted (Except String Rrd.Output) := do
  if ← hasBinary binary then
    let reply ← take (.run arguments)
    return .ok ⟨reply.exit?.getD 0, reply.text?.getD "", reply.errors⟩
  else return .error missing

def plainSuccess : String := "OK u:0.00 s:0.00 r:0.00\n"

def endChild : StateM Scripted Unit := modify fun script => { script with childEnded := true }

/-- What a child prints about lines, until it ends. It ends by a reply with an exit, or by the line
`quit`, to which there is no reply. -/
def printedFor : List String → StateM Scripted String
  | [] => return ""
  | line :: rest => do
    if line = "quit" then
      endChild
      return ""
    let reply ← take (.line line)
    let text := reply.text?.getD plainSuccess
    if reply.exit?.isSome then
      endChild
      return text
    else return text ++ (← printedFor rest)

def brokenPipe : String := "Broken pipe (os error 32)"

def child (binary : String) : Rrd.Child (StateM Scripted) where
  start := do
    if ← hasBinary binary then
      modify fun script => { script with childEnded := false }
      return .ok ()
    else return .error missing
  send line := do
    if (← get).childEnded then return .error brokenPipe
    else return .ok ⟨(← printedFor (Text.splitAt '\n' line)).toList, none⟩
  quit := do
    if (← get).childEnded then return .error brokenPipe else return .ok ()

/-! ## Files -/

def read (path : String) : StateM Scripted (Except String String) := do
  let script ← get
  match script.tree.locate path with
  | .error problem => return .error problem.reason
  | .ok location =>
    if script.tree.isFileAt location then return .ok ((script.contents.lookup location).getD "")
    else if script.tree.isDirectoryAt location then return .error "Is a directory (os error 21)"
    else return .error missing

def write (path text : String) : StateM Scripted (Except String Unit) := do
  let script ← get
  match script.tree.locate path with
  | .error problem => return .error problem.reason
  | .ok location =>
    if script.tree.isDirectoryAt location then return .error "Is a directory (os error 21)"
    else
      set { script with
        tree := script.tree.addFile location
        contents := (location, text) :: script.contents.filter fun file => file.1 != location }
      return .ok ()

def makeDirectories (path : String) : StateM Scripted (Except String Unit) := do
  let script ← get
  match script.tree.makeDirectories path with
  | .error problem => return .error problem.reason
  | .ok tree =>
    set { script with tree }
    return .ok ()

def world (now : Time.Instant) (http : Http.Request → Except Http.Fault Http.Reply)
    (carbon : Graphite.Delivery → Except Graphite.DeliveryFault Unit) :
    World (StateM Scripted) where
  now := return now
  http request := return http request
  carbon delivery := return carbon delivery
  shell := ⟨runOnce, child⟩
  disk := ⟨fun _ => return (← get).tree, read, write, makeDirectories⟩

end Scripted

end SeriesQuery
