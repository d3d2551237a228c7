import SeriesQuery.Settings.Basic
import SeriesQuery.Toml.Reader
import SeriesQuery.Write.Json

/-!
Settings in a document, and the document that shows all of them. A setting that is not given keeps
its default, and one that nobody knows is ignored.
-/

set_option autoImplicit false

namespace SeriesQuery

open Toml

def Graphite.Protocol.choices : List (String × Graphite.Protocol) :=
  choicesOf Graphite.Protocol.name [.tcp, .udp]

def seconds? (value : Value) : Option UInt64 := (value.nat? UInt64.size).map UInt64.ofNat

namespace Settings

def influx? (value : Value) : Option Influx.Settings := do
  let entries ← value.section? ["url", "token", "org", "bucket", "timeout_secs", "precision"]
  let standard : Influx.Settings := {}
  return {
    url := ← entries.setting "url" standard.url Value.string?
    token := ← entries.setting "token" standard.token Value.string?
    organization := ← entries.setting "org" standard.organization Value.string?
    bucket := ← entries.setting "bucket" standard.bucket Value.string?
    timeoutSeconds := ← entries.setting "timeout_secs" standard.timeoutSeconds seconds?
    precision := ← entries.setting "precision" standard.precision
      (Value.choice? Influx.Precision.choices) }

def graphite? (value : Value) : Option Graphite.Settings := do
  let entries ← value.section? ["url", "host", "port", "protocol", "prefix", "timeout_secs"]
  let standard : Graphite.Settings := {}
  return {
    url := ← entries.setting "url" standard.url Value.string?
    host := ← entries.setting "host" standard.host Value.string?
    port := ← entries.setting "port" standard.port fun value =>
      (value.nat? UInt16.size).map UInt16.ofNat
    protocol := ← entries.setting "protocol" standard.protocol
      (Value.choice? Graphite.Protocol.choices)
    root := ← entries.setting "prefix" standard.root Value.string?
    timeoutSeconds := ← entries.setting "timeout_secs" standard.timeoutSeconds seconds? }

def rrd? (standard : Rrd.Settings) (value : Value) : Option Rrd.Settings := do
  let entries ← value.section? ["data_dir", "binary", "rrdcached_address", "persistent",
    "tag_strategy", "step", "heartbeat", "rows", "consolidation"]
  return {
    dataDirectory := ← entries.setting "data_dir" standard.dataDirectory Value.string?
    binary := ← entries.setting "binary" standard.binary Value.string?
    daemon? := ← entries.setting "rrdcached_address" standard.daemon? fun value =>
      value.string?.map some
    persistent := ← entries.setting "persistent" standard.persistent Value.bool?
    layout := ← entries.setting "tag_strategy" standard.layout (Value.choice? Rrd.Layout.choices)
    step := ← entries.setting "step" standard.step seconds?
    heartbeat := ← entries.setting "heartbeat" standard.heartbeat seconds?
    rows := ← entries.setting "rows" standard.rows seconds?
    consolidation := ← entries.setting "consolidation" standard.consolidation
      (Value.list? (Value.choice? Rrd.Consolidation.choices)) }

def prometheus? (value : Value) : Option Prometheus.Settings := do
  let entries ← value.section? ["url", "timeout_secs", "default_step"]
  let standard : Prometheus.Settings := {}
  return {
    url := ← entries.setting "url" standard.url Value.string?
    timeoutSeconds := ← entries.setting "timeout_secs" standard.timeoutSeconds seconds?
    defaultStep := ← entries.setting "default_step" standard.defaultStep Value.string? }

def logging? (value : Value) : Option LoggingSettings := do
  let entries ← value.section? ["level", "format"]
  let standard : LoggingSettings := {}
  return {
    level := ← entries.setting "level" standard.level Value.string?
    format := ← entries.setting "format" standard.format Value.string? }

def ofDocument? (standard : Settings) (document : String) : Option Settings := do
  let entries ← Toml.read? document
  return {
    driver := ← entries.setting "driver" standard.driver Value.string?
    influx := ← entries.setting "influxdb" standard.influx influx?
    graphite := ← entries.setting "graphite" standard.graphite graphite?
    rrd := ← entries.setting "rrdtool" standard.rrd (rrd? standard.rrd)
    prometheus := ← entries.setting "prometheus" standard.prometheus prometheus?
    logging := ← entries.setting "logging" standard.logging logging? }

def documentLines : List String := [
  "# tsbridge Configuration",
  "#",
  "# Environment variables override these settings:",
  "# - TSBRIDGE_DRIVER",
  "# - TSBRIDGE_INFLUXDB_URL, TSBRIDGE_INFLUXDB_TOKEN, TSBRIDGE_INFLUXDB_ORG, TSBRIDGE_INFLUXDB_BUCKET",
  "# - TSBRIDGE_GRAPHITE_URL, TSBRIDGE_GRAPHITE_HOST, TSBRIDGE_GRAPHITE_PORT",
  "# - TSBRIDGE_RRD_DIR, TSBRIDGE_RRDCACHED_ADDRESS",
  "# - TSBRIDGE_PROMETHEUS_URL",
  "# - TSBRIDGE_LOG_LEVEL, TSBRIDGE_LOG_FORMAT",
  "",
  "# Default driver: influxdb, graphite, rrdtool or prometheus",
  "driver = \"influxdb\"",
  "",
  "[influxdb]",
  "url = \"http://localhost:8086\"",
  "token = \"\"",
  "org = \"\"",
  "bucket = \"\"",
  "timeout_secs = 30",
  "",
  "# Write timestamp precision: s, ms, us or ns",
  "precision = \"s\"",
  "",
  "[graphite]",
  "# Render API",
  "url = \"http://localhost:8080\"",
  "",
  "# Carbon plaintext endpoint for writes",
  "host = \"localhost\"",
  "port = 2003",
  "protocol = \"tcp\"",
  "",
  "# Prepended to every written path",
  "prefix = \"\"",
  "timeout_secs = 30",
  "",
  "[rrdtool]",
  "data_dir = \"~/.local/share/tsbridge/rrd\"",
  "binary = \"rrdtool\"",
  "",
  "# rrdcached address, e.g. \"unix:/var/run/rrdcached.sock\"",
  "# rrdcached_address = \"\"",
  "",
  "# Keep a single `rrdtool -` process running",
  "persistent = false",
  "",
  "# File layout: flat, folder or none",
  "tag_strategy = \"flat\"",
  "",
  "# Settings for files created on first write",
  "step = 60",
  "heartbeat = 120",
  "rows = 1440",
  "consolidation = [\"AVERAGE\", \"MIN\", \"MAX\", \"LAST\"]",
  "",
  "[prometheus]",
  "url = \"http://localhost:9090\"",
  "timeout_secs = 30",
  "default_step = \"1m\"",
  "",
  "[logging]",
  "# Log level: trace, debug, info, warn, error",
  "level = \"info\"",
  "",
  "# Log format: pretty (for development) or json (for production)",
  "format = \"pretty\""]

def defaultDocument : String := String.join (documentLines.map (· ++ "\n"))

end Settings

end SeriesQuery
