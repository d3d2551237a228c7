import SeriesQuery.CommandLine.Program
import Std.Time.DateTime.Timestamp

/-!
The program on the machine it runs on. It reaches the clock, the environment and the files of this
machine; it has no network, and it starts no other programs.
-/

set_option autoImplicit false

namespace SeriesQuery.Machine

def reason : IO.Error → String
  | .noFileOrDirectory _ _ _ => Files.Problem.reason .missing
  | other => toString other

def tried {α : Type} (action : IO α) : IO (Except String α) := do
  try return .ok (← action) catch refused => return .error (reason refused)

/-! ## Files -/

partial def explore (below : Bool) (tree : Files.Tree) (location : Files.Location) :
    IO Files.Tree := do
  match ← (IO.FS.realPath ("/" ++ "/".intercalate location)).toBaseIO with
  | .error _ => return tree
  | .ok place =>
    if ← place.isDir then
      let entries ← if below then (Except.toOption <$> place.readDir.toBaseIO) else pure none
      (entries.getD #[]).foldlM
        (fun tree entry => explore below tree (location ++ [entry.fileName]))
        (tree.addDirectory location)
    else return tree.addFile location

def treeAt (path : String) : IO Files.Tree := do
  let named := fun (path : String) =>
    (Files.parts path).filter fun part => part != "" && part != "."
  let home := named (← IO.currentDir).toString
  let location := (if path.startsWith "/" then [] else home) ++ named path
  let start := { Files.Tree.empty.addDirectory home with workingDirectory := home }
  let above ← (List.range location.length).foldlM
    (fun tree length => explore false tree (location.take length)) start
  explore true above location

def disk : Files.Disk IO where
  tree := treeAt
  read path := tried (IO.FS.readFile path)
  write path text := tried (IO.FS.writeFile path text)
  makeDirectories path := if path.isEmpty then return .ok () else tried (IO.FS.createDirAll path)

/-! ## The world of the program -/

def now : IO Time.Instant := do
  let nanos := (← Std.Time.Timestamp.now).toNanosecondsSinceUnixEpoch.val
  return (Time.Instant.ofParts? (nanos / 1000000000) (nanos % 1000000000).toNat).getD .earliest

def unreachable : String := "Network is unreachable (os error 101)"

def notStarted : String := "Operation not permitted (os error 1)"

def world : World IO where
  now := now
  http request := return .error (.unreachable request.address unreachable)
  carbon delivery := return .error (match delivery.protocol with
    | .tcp => .connecting unreachable
    | .udp => .sending unreachable)
  shell :=
    { run := fun _ _ => return .error notStarted
      child := fun _ =>
        { start := return .error notStarted
          send := fun _ => return .error notStarted
          quit := return .ok () } }
  disk := disk

def environment : IO Environment := do
  let known ← Environment.names.mapM fun name => do return (name, ← IO.getEnv name)
  return fun name => (known.lookup name).join

end SeriesQuery.Machine

def main (arguments : List String) : IO UInt32 := do
  let ending ← SeriesQuery.CommandLine.run SeriesQuery.Machine.world
    (← SeriesQuery.Machine.environment) arguments
  (← IO.getStdout).putStr ending.output
  (← IO.getStderr).putStr ending.errors
  return UInt32.ofNat ending.exit
