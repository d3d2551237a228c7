import SeriesQuery.CommandLine.Report
import SeriesQuery.Driver.Registry
import SeriesQuery.Query.Reader
import SeriesQuery.Settings.Load

/-!
The program: reads its arguments and settings, lets one driver work, and says what it prints and how
it ends.
-/

set_option autoImplicit false

namespace SeriesQuery.CommandLine

structure Ending where
  exit : Nat
  output : String
  errors : String
  deriving Repr, DecidableEq

def Ending.success (output : String) : Ending := ⟨0, output, ""⟩

def Ending.failed (trouble : Trouble) (output : String) : Ending := ⟨1, output, trouble.text⟩

def Ending.aborted (trouble : Trouble) : Ending := ⟨101, "", trouble.text⟩

def usageText : String := linesText [
  "One query language for InfluxDB, Graphite, RRDtool and Prometheus",
  "",
  "Usage: tsbridge [OPTIONS] <COMMAND>"]

def Stop.ending : Stop → Ending
  | .usage => ⟨2, "", usageText⟩
  | .help => .success usageText
  | .version => .success (ended "tsbridge 0.1.0")

/-! ## Points from arguments -/

def pair (text : String) : Except Trouble (String × String) :=
  match Text.splitFirst? '=' text.toList with
  | some (c :: key, value) => .ok (String.ofList (c :: key), String.ofList value)
  | _ => .error (.plain ("expected key=value, got '" ++ text ++ "'"))

/-- An instant in the internet date format or in seconds since the epoch; the present one by
default. -/
def instant (now : Time.Instant) : Option String → Except Trouble Time.Instant
  | none | some "now" => .ok now
  | some text =>
    match Time.readStrict? text, Decimal.readInt64? text with
    | some instant, _ => .ok instant
    | none, some seconds =>
      match Time.Instant.ofSeconds? seconds.toInt with
      | some instant => .ok instant
      | none => .error (.plain ("timestamp out of range: " ++ text))
    | none, none => .error (.plain ("Invalid timestamp format: " ++ text))

def addField (point : Point) (text : String) : Except Trouble Point := do
  let (key, value) ← pair text
  match FieldValue.read value with
  | .ok value => return point.addField key value
  | .error refused =>
    throw (.plain ("field '" ++ key ++ "': " ++ FieldValue.notNumberMessage refused))

def addTag (point : Point) (text : String) : Except Trouble Point := do
  let (key, value) ← pair text
  return point.addTag key value

def pointOf (now : Time.Instant) (measurement : String) (fields tags : List String)
    (time? : Option String) : Except Trouble Point := do
  let start := Point.ofMeasurement measurement (← instant now time?)
  tags.foldlM addTag (← fields.foldlM addField start)

def writtenText (point : Point) : String :=
  ended ("Wrote " ++ point.measurement ++ " (" ++ toString point.fields.entries.length ++
    " fields) at " ++ point.timestamp.withOffset)

/-! ## Commands -/

variable {m : Type → Type} [Monad m]

abbrev Work (m : Type → Type) := ExceptT Trouble (StateT Rrd.Session m)

def ofQuery {α : Type} : Except QueryError α → Work m α
  | .ok value => return value
  | .error error => throw (.ofFailure (.query error))

def ofAction {α : Type} (action : Action m α) : Work m α := action.adapt .ofFailure

def workOf (world : World m) (driver : Driver) : Command → Work m String
  | .compile query => do
    let query ← ofQuery (Language.readQuery (← world.now) query)
    return ended (← ofQuery (driver.compile query))
  | .query query format => do
    let query ← ofQuery (Language.readQuery (← world.now) query)
    return rendered format (← ofAction (driver.query world query))
  | .write measurement fields tags time? => do
    match pointOf (← world.now) measurement fields tags time? with
    | .error trouble => throw trouble
    | .ok point =>
      (ofAction (driver.write world point)).adapt fun trouble =>
        trouble.within ("writing to " ++ driver.backend.name)
      return writtenText point
  | .measurements => do
    return labelsText (← ofAction (driver.metadata world .measurements)).values
  | .tagValues measurement tag => do
    return labelsText (← ofAction (driver.metadata world (.tagValues measurement tag))).values
  | .drivers | .config _ => return ""

/-- Works and closes the driver. What closing fails with comes first. -/
def workAndClose (world : World m) (driver : Driver) (command : Command) : m Ending := do
  let (outcome, session) ← (workOf world driver command).run.run .new
  if let .error trouble := outcome then
    if trouble.isFatal then return .aborted trouble
  let (closed, _) ← (ofAction (driver.close world)).run.run session
  let output := match outcome with
    | .ok printed => printed
    | .error _ => ""
  match closed, outcome with
  | .error trouble, _ => return .failed trouble output
  | .ok (), .error trouble => return .failed trouble output
  | .ok (), .ok printed => return .success printed

def writeSettings (world : World m) : Option String → m Ending
  | none => return .success Settings.defaultDocument
  | some path => do
    let made ← match Files.parent? path with
      | some parent => world.disk.makeDirectories parent
      | none => pure (.ok ())
    match made with
    | .error reason => return .failed (.plain reason) ""
    | .ok () =>
      match ← world.disk.write path Settings.defaultDocument with
      | .error reason => return .failed (.plain reason) ""
      | .ok () => return .success (ended ("Config written to " ++ Text.shown path))

def runCommand (world : World m) (settings : Settings) (driver? : Option String) :
    Command → m Ending
  | .drivers => return .success (linesText Registry.full.names)
  | .config output? => writeSettings world output?
  | command => do
    match Registry.full.create (driver?.getD settings.driver) settings with
    | .ok driver => workAndClose world driver command
    | .error failure => return .failed (.ofFailure failure) ""

def run (world : World m) (environment : Environment) (arguments : List String) : m Ending := do
  match readArguments arguments with
  | .error stop => return stop.ending
  | .ok invocation =>
    match invocation.config? with
    | none =>
      runCommand world (← Settings.loadUsual world.disk environment) invocation.driver?
        invocation.command
    | some path =>
      match ← (Settings.loadAndOverride world.disk environment path).run with
      | .ok settings => runCommand world settings invocation.driver? invocation.command
      | .error failure => return .failed (.plain failure.message) ""

end SeriesQuery.CommandLine
