import SeriesQuery.Text.Blank
import SeriesQuery.Text.Split
import SeriesQuery.Rrd.Consolidation

/-!
Commands of the round robin database tool, as argument lists for one run and as lines for a running
process.
-/

set_option autoImplicit false

namespace SeriesQuery.Rrd

structure DataSource where
  name : String
  heartbeat : UInt64
  deriving Repr, DecidableEq

def DataSource.statement (source : DataSource) : String :=
  "DS:" ++ source.name ++ ":GAUGE:" ++ toString source.heartbeat.toNat ++ ":U:U"

structure Archive where
  function : Consolidation
  steps : UInt64
  rows : UInt64
  deriving Repr, DecidableEq

def Archive.statement (archive : Archive) : String :=
  "RRA:" ++ archive.function.name ++ ":0.5:" ++ toString archive.steps.toNat ++ ":" ++
    toString archive.rows.toNat

inductive Command where
  | create (path : String) (step : UInt64) (start : Int64) (sources : List DataSource)
      (archives : List Archive)
  | update (path : String) (template : List String) (rows : List String)
  | fetch (path : String) (function : Consolidation) (start finish : String)
      (resolution? : Option UInt64)
  | xport (start finish : String) (step? : Option UInt64) (maxRows? : Option UInt64)
      (statements : List String)
  | info (path : String)
  | last (path : String)
  deriving Repr, DecidableEq

namespace Command

def name : Command → String
  | .create .. => "create"
  | .update .. => "update"
  | .fetch .. => "fetch"
  | .xport .. => "xport"
  | .info .. => "info"
  | .last .. => "last"

/-- Whether the command goes through the caching daemon when there is one. -/
def supportsDaemon : Command → Bool
  | .update .. | .fetch .. | .info .. | .last .. => true
  | _ => false

def countOption (option : String) (count? : Option UInt64) : List String :=
  match count? with
  | some count => [option, toString count.toNat]
  | none => []

def ownArguments : Command → List String
  | .create path step start sources archives =>
    [path, "--step", toString step.toNat, "--start", toString start.toInt] ++
      sources.map DataSource.statement ++ archives.map Archive.statement
  | .update path template rows =>
    [path] ++ (if template.isEmpty then [] else ["-t", ":".intercalate template]) ++ rows
  | .fetch path function start finish resolution? =>
    [path, function.name, "--start", start, "--end", finish] ++
      countOption "--resolution" resolution?
  | .xport start finish step? maxRows? statements =>
    ["--json", "--start", start, "--end", finish] ++ countOption "--step" step? ++
      countOption "--maxrows" maxRows? ++ statements
  | .info path => [path]
  | .last path => [path]

def arguments (command : Command) (daemon? : Option String) : List String :=
  [command.name] ++
    (match daemon? with
      | some address => if command.supportsDaemon then ["--daemon", address] else []
      | none => []) ++
    command.ownArguments

end Command

/-- An argument on a command line: empty ones and ones with white space are quoted, with a backslash
before each quote. -/
def lineArgument (argument : String) : String :=
  if argument.isEmpty || argument.toList.any Text.isBlank then
    "\"" ++ Text.replaceEach (fun c => if c = '"' then ['\\', '"'] else [c]) argument ++ "\""
  else argument

def Command.line (command : Command) (daemon? : Option String) : String :=
  " ".intercalate ((command.arguments daemon?).map lineArgument)

/-! ## Statements -/

/-- Colons with a backslash before them, for statements that colons divide. -/
def escapeColons (text : String) : String :=
  Text.replaceEach (fun c => if c = ':' then ['\\', ':'] else [c]) text

def isNameChar (c : Char) : Bool := c.isAlphanum || c == '_'

/-- The data source of a field: at most nineteen letters, digits and underscores. -/
def sourceName (field : String) : String :=
  let name := (field.toList.map fun c => if isNameChar c then c else '_').take 19
  if name.isEmpty then "value" else String.ofList name

def definition (name path source : String) (function : Consolidation) : String :=
  "DEF:" ++ name ++ "=" ++ escapeColons path ++ ":" ++ source ++ ":" ++ function.name

end SeriesQuery.Rrd
