import SeriesQuery.Failure
import SeriesQuery.Files.Disk
import SeriesQuery.Result.Basic
import SeriesQuery.Rrd.Compiler
import SeriesQuery.Rrd.Response
import SeriesQuery.Rrd.Runner
import SeriesQuery.Settings.Basic

/-!
Series in round robin files of this machine. A file is created by the first write to it. Reading one
that nobody has written yet gives an empty result, while any other failure of the tool is one of the
read.
-/

set_option autoImplicit false

namespace SeriesQuery.Rrd

structure Store where
  settings : Settings
  /-- Declares the data sources of new files. -/
  schemas : SchemaRegistry

abbrev Run (m : Type → Type) := Command → ExceptT Failure m String

def backendNote (result : SeriesResult) : SeriesResult :=
  result.note "backend" (.string Backend.rrdtool.name)

section Reading

variable {m : Type → Type} [Monad m]

def fileInfo (run : Run m) (path : String) : ExceptT SeriesQuery.Failure m FileInfo := do
  return FileInfo.read (← (run (.info path)).adapt .rrd)

def Compiled.result (compiled : Compiled) (output : String) : Response SeriesResult :=
  match compiled.mode with
  | .xport => readExported output compiled.measurement compiled.outputNames compiled.labels
  | .fetch => (readFetched output).map fun fetched =>
      fetched.result compiled.measurement compiled.outputNames compiled.labels

/-- Looks at the file first, then reads the data sources that it has. -/
def answer (run : Run m) (compiled : Compiled) : ExceptT SeriesQuery.Failure m SeriesResult := do
  let info ← fileInfo run compiled.path
  let resolved := compiled.resolve info.dataSources
  let line := resolved.command.line none
  let output ← (run resolved.command).adapt fun failure => .execution .rrdtool line (.rrd failure)
  match resolved.result output with
  | .ok result => return result.note "query" (.string line)
  | .error problem => throw (.response .rrdtool problem)

def execute (run : Run m) (compiled : Compiled) : ExceptT SeriesQuery.Failure m QueryResult :=
  tryCatch (do return .series (backendNote (← answer run compiled))) fun failure =>
    if failure.isNotFound then return .series (backendNote .empty) else throw failure

end Reading

namespace Store

/-- Nothing is started and no file is touched. -/
def ofSettings (settings : Settings) : Except SettingsProblem Store :=
  if settings.dataDirectory.isEmpty then .error (.missing .rrdtool ["data_dir"])
  else if settings.binary.isEmpty then .error (.missing .rrdtool ["binary"])
  else if settings.step = 0 ∨ settings.rows = 0 ∨ settings.consolidation.isEmpty then
    .error .archives
  else .ok ⟨settings, .empty⟩

def runner (store : Store) : Runner where
  binary := store.settings.binary
  daemon? := store.settings.daemon?.filter fun address => !address.isEmpty
  persistent := store.settings.persistent

def compile (store : Store) (mode : Mode) (query : Query) : Except QueryError Compiled :=
  Rrd.compile store.settings.layout store.settings.dataDirectory mode query

def path (store : Store) (point : Point) : String :=
  store.settings.layout.path store.settings.dataDirectory point.measurement point.tags

def sourceNames (store : Store) (point : Point) : List String :=
  match store.schemas.get? point.measurement with
  | some schema => schema.fields.keys.map sourceName
  | none => point.fields.keys.map sourceName

/-- The command for a file that can take the point as its first one. -/
def createCommand (store : Store) (point : Point) : Command :=
  let settings := store.settings
  .create (store.path point) settings.step (Int64.ofInt (point.timestamp.seconds - 1))
    ((store.sourceNames point).map (⟨·, settings.heartbeat⟩))
    (settings.consolidation.map (⟨·, 1, settings.rows⟩))

def updateRow (point : Point) : String :=
  ":".intercalate (toString point.timestamp.seconds ::
    point.fields.entries.map fun (_, value) => Decimal.plain value.toFloat)

def updateCommand (store : Store) (point : Point) : Command :=
  .update (store.path point) (point.fields.keys.map sourceName) [updateRow point]

/-- Premature updates keep their kind, since they are nobody's fault. -/
def writeFailure : Failure → SeriesQuery.Failure
  | .premature path message => .rrd (.premature path message)
  | failure => .write (.rrd failure)

section Work

variable {m : Type → Type} [Monad m]

def refuseProblem {α : Type} : Except Files.Problem α → ExceptT SeriesQuery.Failure m α
  | .ok value => return value
  | .error problem => throw (.system problem.reason)

def system {α : Type} (action : m (Except String α)) : ExceptT SeriesQuery.Failure m α :=
  ExceptT.adapt .system (ExceptT.mk action)

def write (store : Store) (disk : Files.Disk m) (run : Run m) (point : Point) :
    ExceptT SeriesQuery.Failure m Unit := do
  if point.fields.isEmpty then throw (.write (.content (.noFields point.measurement)))
  if let some problem := store.schemas.problem? point then throw (.schema problem)
  let path := store.path point
  if !(← refuseProblem ((← disk.tree path).occupied path)) then
    if let some parent := Files.parent? path then system (disk.makeDirectories parent)
    let _ ← (run (store.createCommand point)).adapt writeFailure
  let _ ← (run (store.updateCommand point)).adapt writeFailure

def inOrder (names : List String) : List String :=
  (Dictionary.ofList (names.map fun name => (name, ()))).keys

def sourcesOf (run : Run m) : List SeriesFile → List String →
    ExceptT SeriesQuery.Failure m (List String)
  | [], names => return names
  | file :: rest, names => do
    let info ← fileInfo run file.path
    sourcesOf run rest (info.dataSources.foldl
      (fun names name => if names.contains name then names else names ++ [name]) names)

def metadata (store : Store) (disk : Files.Disk m) (run : Run m) (request : MetadataRequest) :
    ExceptT SeriesQuery.Failure m LabelResult := do
  let layout := store.settings.layout
  let base := store.settings.dataDirectory
  let tree ← disk.tree base
  let files := fun (measurement : String) => refuseProblem (layout.files tree base measurement)
  match request with
  | .measurements => return .ofValues (← refuseProblem (layout.measurements tree base))
  | .tagKeys measurement =>
    return .ofValues (inOrder ((← files measurement).flatMap fun file => file.tags.keys))
  | .tagValues measurement tag =>
    return .ofValues (inOrder ((← files measurement).filterMap fun file => file.tags.get? tag))
  | .fieldKeys measurement => return .ofValues (← sourcesOf run (← files measurement) [])

end Work

end Store

end SeriesQuery.Rrd
