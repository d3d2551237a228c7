import SeriesQuery.Influx.LineProtocol
import SeriesQuery.Rrd.Consolidation
import SeriesQuery.Rrd.Layout

/-!
Settings of the program and of its backends, with their defaults, and the variables of the
environment that override them.
-/

set_option autoImplicit false

namespace SeriesQuery

structure Influx.Settings where
  url : String := "http://localhost:8086"
  token : String := ""
  organization : String := ""
  bucket : String := ""
  timeoutSeconds : UInt64 := 30
  precision : Influx.Precision := .seconds

inductive Graphite.Protocol where
  | tcp
  | udp
  deriving Repr, DecidableEq

def Graphite.Protocol.name : Graphite.Protocol → String
  | .tcp => "tcp"
  | .udp => "udp"

structure Graphite.Settings where
  url : String := "http://localhost:8080"
  host : String := "localhost"
  port : UInt16 := 2003
  protocol : Graphite.Protocol := .tcp
  /-- Put before every written path. -/
  root : String := ""
  timeoutSeconds : UInt64 := 30

structure Rrd.Settings where
  dataDirectory : String
  binary : String := "rrdtool"
  /-- Address of the caching daemon. -/
  daemon? : Option String := none
  /-- Keep one process for all commands. -/
  persistent : Bool := false
  layout : Rrd.Layout := .flat
  step : UInt64 := 60
  heartbeat : UInt64 := 120
  rows : UInt64 := 1440
  consolidation : List Rrd.Consolidation := [.average, .min, .max, .last]

structure Prometheus.Settings where
  url : String := "http://localhost:9090"
  timeoutSeconds : UInt64 := 30
  defaultStep : String := "1m"

structure LoggingSettings where
  level : String := "info"
  format : String := "pretty"

structure Settings where
  driver : String := "influxdb"
  influx : Influx.Settings := {}
  graphite : Graphite.Settings := {}
  rrd : Rrd.Settings
  prometheus : Prometheus.Settings := {}
  logging : LoggingSettings := {}

abbrev Environment := String → Option String

namespace Environment

def home? (environment : Environment) : Option String :=
  (environment "HOME").filter fun path => !path.isEmpty

/-- A directory that a variable names by an absolute path, or else one below the home directory. -/
def directory? (environment : Environment) (name : String) (below : List String) : Option String :=
  match (environment name).filter fun path => path.startsWith "/" with
  | some path => some path
  | none => environment.home?.map fun home => Files.joinAll home below

def dataDirectory? (environment : Environment) : Option String :=
  environment.directory? "XDG_DATA_HOME" [".local", "share"]

def configDirectory? (environment : Environment) : Option String :=
  environment.directory? "XDG_CONFIG_HOME" [".config"]

def names : List String :=
  ["HOME", "XDG_DATA_HOME", "XDG_CONFIG_HOME"] ++
    ["DRIVER", "INFLUXDB_URL", "INFLUXDB_TOKEN", "INFLUXDB_ORG", "INFLUXDB_BUCKET",
      "GRAPHITE_URL", "GRAPHITE_HOST", "GRAPHITE_PORT", "RRD_DIR", "RRDCACHED_ADDRESS",
      "PROMETHEUS_URL", "LOG_LEVEL", "LOG_FORMAT"].map ("TSBRIDGE_" ++ ·)

end Environment

namespace Settings

def programName : String := "tsbridge"

def defaultDataDirectory (environment : Environment) : String :=
  match environment.dataDirectory? with
  | some base => Files.joinAll base [programName, "rrd"]
  | none => "./rrd_data"

def standard (environment : Environment) : Settings :=
  { rrd := { dataDirectory := defaultDataDirectory environment } }

/-- Variables come before what a file says. A port that is no port is ignored. -/
def override (settings : Settings) (environment : Environment) : Settings :=
  let text := fun (name present : String) => (environment ("TSBRIDGE_" ++ name)).getD present
  { settings with
    driver := text "DRIVER" settings.driver
    influx := { settings.influx with
      url := text "INFLUXDB_URL" settings.influx.url
      token := text "INFLUXDB_TOKEN" settings.influx.token
      organization := text "INFLUXDB_ORG" settings.influx.organization
      bucket := text "INFLUXDB_BUCKET" settings.influx.bucket }
    graphite := { settings.graphite with
      url := text "GRAPHITE_URL" settings.graphite.url
      host := text "GRAPHITE_HOST" settings.graphite.host
      port :=
        match (environment "TSBRIDGE_GRAPHITE_PORT").bind (Decimal.readNat? UInt16.size) with
        | some port => UInt16.ofNat port
        | none => settings.graphite.port }
    rrd := { settings.rrd with
      dataDirectory := text "RRD_DIR" settings.rrd.dataDirectory
      daemon? := (environment "TSBRIDGE_RRDCACHED_ADDRESS") <|> settings.rrd.daemon? }
    prometheus := { settings.prometheus with
      url := text "PROMETHEUS_URL" settings.prometheus.url }
    logging :=
      ⟨text "LOG_LEVEL" settings.logging.level, text "LOG_FORMAT" settings.logging.format⟩ }

def ofEnvironment (environment : Environment) : Settings :=
  (standard environment).override environment

end Settings

end SeriesQuery
