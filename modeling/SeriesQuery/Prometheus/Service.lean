import SeriesQuery.Driver.Batch
import SeriesQuery.Http.Exchange
import SeriesQuery.Prometheus.Compiler
import SeriesQuery.Prometheus.Response
import SeriesQuery.Settings.Basic
import SeriesQuery.Text.Pattern

/-!
A server of range queries, which takes no points.
-/

set_option autoImplicit false

namespace SeriesQuery.Prometheus

structure Service where
  settings : Settings

namespace Service

def ofSettings (settings : Settings) : Except SettingsProblem Service :=
  match Duration.read? settings.defaultStep with
  | none => .error (.defaultStep (.invalidDuration settings.defaultStep))
  | some _ =>
    if settings.url.isEmpty then .error (.missing .prometheus ["url"]) else .ok ⟨settings⟩

def compile (service : Service) (query : Query) : Except QueryError Compiled :=
  Prometheus.compile service.settings.defaultStep query

def fieldSelector (measurement : String) : String :=
  Json.braced (nameLabel ++ "=~" ++ Text.quotedLine (Text.literalPattern measurement ++ "(_.+)?"))

/-- The field that a metric of a measurement holds. -/
def fieldOf? (measurement metric : String) : Option String :=
  if metric = measurement then some valueField
  else (Text.dropStart? (measurement.toList ++ ['_']) metric.toList).map String.ofList

variable {m : Type → Type} [Monad m]

def fetch (service : Service) (transport : Http.Transport m) (path : String)
    (parameters : List (String × String)) (query : String) : ExceptT Failure m String := do
  let address := Http.withParameters (Http.below service.settings.url path) parameters
  let reply ← Http.ask transport .prometheus query (.fetch address)
  if reply.status.isSuccess then return reply.body
  else
    match reportedError? reply.body with
    | some message => throw (.execution .prometheus query (.reported message))
    | none => throw (.execution .prometheus query (.status reply.status))

def health (service : Service) (transport : Http.Transport m) : ExceptT Failure m Unit := do
  let _ ← service.fetch transport "/-/healthy" [] "-/healthy"

def range (service : Service) (transport : Http.Transport m) (compiled : Compiled)
    (now : Time.Instant) (named : NamedExpression) : ExceptT Failure m SeriesResult := do
  let body ← service.fetch transport "/api/v1/query_range" (compiled.parameters named now)
    named.expression.text
  Http.understood .prometheus (readSeries named.name body)

def query (service : Service) (transport : Http.Transport m) (now : Time.Instant)
    (compiled : Compiled) : ExceptT Failure m SeriesResult := do
  let results ← compiled.expressions.mapM (service.range transport compiled now)
  let (start, finish) := compiled.bounds now
  let result := SeriesResult.ofSeries (results.flatMap (·.series))
  let result := (result.note "backend" (.string Backend.prometheus.name)).note "query"
    (.string compiled.text)
  let result := result.note "start" (.string start.withOffset)
  let result := result.note "end" (.string finish.withOffset)
  return result.note "step" (.string compiled.step)

def labelValues (service : Service) (transport : Http.Transport m) (label : String)
    (selector? : Option String) : ExceptT Failure m LabelResult := do
  let path := "/api/v1/label/" ++ Text.percentEncoded label ++ "/values"
  let parameters := (selector?.map fun selector => ("match[]", selector)).toList
  Http.understood .prometheus (readLabels (← service.fetch transport path parameters path))

def labelNames (service : Service) (transport : Http.Transport m) (selector : String) :
    ExceptT Failure m LabelResult := do
  Http.understood .prometheus
    (readLabels (← service.fetch transport "/api/v1/labels" [("match[]", selector)] selector))

def metadata (service : Service) (transport : Http.Transport m) :
    MetadataRequest → ExceptT Failure m LabelResult
  | .measurements => service.labelValues transport nameLabel none
  | .tagKeys measurement => do
    let result ← service.labelNames transport measurement
    return { result with values := result.values.filter fun label => label != nameLabel }
  | .tagValues measurement tag => service.labelValues transport tag (some measurement)
  | .fieldKeys measurement => do
    let metrics ← service.labelValues transport nameLabel (some (fieldSelector measurement))
    return .ofValues (metrics.values.filterMap (fieldOf? measurement))

def write (point : Point) : ExceptT Failure m Unit := throw (.write (.readOnly point.measurement))

end Service

end SeriesQuery.Prometheus
