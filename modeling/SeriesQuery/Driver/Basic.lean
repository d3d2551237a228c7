import SeriesQuery.Graphite.Service
import SeriesQuery.Influx.Service
import SeriesQuery.Prometheus.Service
import SeriesQuery.Rrd.Store

/-!
Drivers: one way to compile, ask, list and write for every backend. What a driver does outside the
program goes through a world, so that the same driver works on a real one and on a scripted one.
-/

set_option autoImplicit false

namespace SeriesQuery

/-- All that lies outside the program. -/
structure World (m : Type → Type) where
  now : m Time.Instant
  http : Http.Transport m
  carbon : Graphite.Carbon m
  shell : Rrd.Shell m
  disk : Files.Disk m

/-- An action that may use the session with the tool. A failure keeps the session as it is by then.
-/
abbrev Action (m : Type → Type) (α : Type) := ExceptT Failure (StateT Rrd.Session m) α

inductive Driver where
  | influx (service : Influx.Service)
  | graphite (service : Graphite.Service)
  | rrd (store : Rrd.Store)
  | prometheus (service : Prometheus.Service)

namespace Driver

def backend : Driver → Backend
  | .influx _ => .influxdb
  | .graphite _ => .graphite
  | .rrd _ => .rrdtool
  | .prometheus _ => .prometheus

def ofSettings (settings : Settings) : Backend → Except SettingsProblem Driver
  | .influxdb => (Influx.Service.ofSettings settings.influx).map .influx
  | .graphite => (Graphite.Service.ofSettings settings.graphite).map .graphite
  | .rrdtool => (Rrd.Store.ofSettings settings.rrd).map .rrd
  | .prometheus => (Prometheus.Service.ofSettings settings.prometheus).map .prometheus

def compile (driver : Driver) (query : Query) : Except QueryError String :=
  match driver with
  | .influx service => (service.compile query).map (·.text)
  | .graphite service => (service.compile query).map Graphite.Compiled.text
  | .rrd store => (store.compile .xport query).map fun compiled => compiled.command.line none
  | .prometheus service => (service.compile query).map Prometheus.Compiled.text

variable {m : Type → Type} [Monad m]

def once {α : Type} (action : ExceptT Failure m α) : Action m α :=
  ExceptT.mk (StateT.lift action.run)

def diskOf (world : World m) : Files.Disk (StateT Rrd.Session m) where
  tree path := StateT.lift (world.disk.tree path)
  read path := StateT.lift (world.disk.read path)
  write path text := StateT.lift (world.disk.write path text)
  makeDirectories path := StateT.lift (world.disk.makeDirectories path)

def compiled {α : Type} : Except QueryError α → Action m α
  | .ok value => return value
  | .error error => throw (.query error)

def health (driver : Driver) (world : World m) : Action m Unit :=
  match driver with
  | .influx service => once (service.health world.http)
  | .graphite service => once (service.health world.http)
  | .rrd store => do
    Rrd.Store.system ((diskOf world).makeDirectories store.settings.dataDirectory)
    (store.runner.check world.shell).adapt .rrd
  | .prometheus service => once (service.health world.http)

def read (store : Rrd.Store) (world : World m) (mode : Rrd.Mode) (query : Query) :
    Action m QueryResult := do
  Rrd.execute (store.runner.run world.shell) (← compiled (store.compile mode query))

def query (driver : Driver) (world : World m) (query : Query) : Action m QueryResult :=
  match driver with
  | .influx service => do
    let script ← compiled (service.compile query)
    return .series (← once (service.query world.http script))
  | .graphite service => do
    let request ← compiled (service.compile query)
    return .series (← once (service.query world.http request))
  | .rrd store => read store world .xport query
  | .prometheus service => do
    let requests ← compiled (service.compile query)
    let now ← world.now
    return .series (← once (service.query world.http now requests))

def metadata (driver : Driver) (world : World m) (request : MetadataRequest) :
    Action m LabelResult :=
  match driver with
  | .influx service => once (service.metadata world.http request)
  | .graphite service => once (service.metadata world.http request)
  | .rrd store => store.metadata (diskOf world) (store.runner.run world.shell) request
  | .prometheus service => once (service.metadata world.http request)

def write (driver : Driver) (world : World m) (point : Point) : Action m Unit :=
  match driver with
  | .influx service => once (service.write world.http point)
  | .graphite service => once (service.write world.carbon point)
  | .rrd store => store.write (diskOf world) (store.runner.run world.shell) point
  | .prometheus _ => Prometheus.Service.write point

/-- Where one request can carry all points it does; elsewhere they are written one by one. -/
def writeBatch (driver : Driver) (world : World m) (points : List Point) : Action m BatchReport :=
  match driver with
  | .influx service => once (service.writeBatch world.http points)
  | .graphite service => once (service.writeBatch world.carbon points)
  | other => Batch.writeEach (other.write world) points

def close (driver : Driver) (world : World m) : Action m Unit :=
  match driver with
  | .rrd store => (store.runner.close world.shell).adapt .rrd
  | _ => return ()

end Driver

end SeriesQuery
