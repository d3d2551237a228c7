import SeriesQuery.Json.Value
import SeriesQuery.Settings.Basic

/-!
Settings as JSON, with the names that they have in a document.
-/

set_option autoImplicit false

namespace SeriesQuery

open Json

def wordValue (word : UInt64) : Value := .integer word.toNat

def Influx.Settings.toJson (settings : Influx.Settings) : Value :=
  .object [("url", .string settings.url), ("token", .string settings.token),
    ("org", .string settings.organization), ("bucket", .string settings.bucket),
    ("timeout_secs", wordValue settings.timeoutSeconds),
    ("precision", .string settings.precision.name)]

def Graphite.Settings.toJson (settings : Graphite.Settings) : Value :=
  .object [("url", .string settings.url), ("host", .string settings.host),
    ("port", .integer settings.port.toNat), ("protocol", .string settings.protocol.name),
    ("prefix", .string settings.root), ("timeout_secs", wordValue settings.timeoutSeconds)]

def Rrd.Settings.toJson (settings : Rrd.Settings) : Value :=
  .object [("data_dir", .string settings.dataDirectory), ("binary", .string settings.binary),
    ("rrdcached_address", .ofOption .string settings.daemon?),
    ("persistent", .bool settings.persistent), ("tag_strategy", .string settings.layout.name),
    ("step", wordValue settings.step), ("heartbeat", wordValue settings.heartbeat),
    ("rows", wordValue settings.rows),
    ("consolidation", .ofTexts (settings.consolidation.map Rrd.Consolidation.name))]

def Prometheus.Settings.toJson (settings : Prometheus.Settings) : Value :=
  .object [("url", .string settings.url), ("timeout_secs", wordValue settings.timeoutSeconds),
    ("default_step", .string settings.defaultStep)]

def Settings.toJson (settings : Settings) : Value :=
  .object [("driver", .string settings.driver), ("influxdb", settings.influx.toJson),
    ("graphite", settings.graphite.toJson), ("rrdtool", settings.rrd.toJson),
    ("prometheus", settings.prometheus.toJson),
    ("logging", .object [("level", .string settings.logging.level),
      ("format", .string settings.logging.format)])]

end SeriesQuery
