import SeriesQuery.Driver.Batch
import SeriesQuery.Flux.Compiler
import SeriesQuery.Http.Exchange
import SeriesQuery.Influx.Response
import SeriesQuery.Settings.Basic

/-!
One bucket of a database server: scripts are posted and answered by annotated tables, points are
posted as lines.
-/

set_option autoImplicit false

namespace SeriesQuery.Influx

structure Service where
  settings : Settings

namespace Service

def ofSettings (settings : Settings) : Except SettingsProblem Service :=
  let needed := [("url", settings.url), ("org", settings.organization), ("bucket", settings.bucket)]
  match needed.filter fun setting => setting.2.isEmpty with
  | [] => .ok ⟨settings⟩
  | missing => .error (.missing .influxdb (missing.map (·.1)))

/-! ## Requests -/

def healthRequest (service : Service) : Http.Request :=
  .fetch (Http.below service.settings.url "/health")

def authorization (service : Service) : String := "Token " ++ service.settings.token

def queryRequest (service : Service) (script : String) : Http.Request where
  method := .post
  address := Http.below service.settings.url
    ("/api/v2/query?org=" ++ Text.percentEncoded service.settings.organization)
  authorization? := service.authorization
  contentType? := "application/vnd.flux"
  accept? := "application/csv"
  body := script

def writeRequest (service : Service) (lines : List String) : Http.Request where
  method := .post
  address := Http.below service.settings.url
    ("/api/v2/write?org=" ++ Text.percentEncoded service.settings.organization ++
      "&bucket=" ++ Text.percentEncoded service.settings.bucket ++
      "&precision=" ++ service.settings.precision.name)
  authorization? := service.authorization
  contentType? := "text/plain; charset=utf-8"
  accept? := none
  body := "\n".intercalate lines

def compile (service : Service) (query : Query) : Except QueryError Flux.Compiled :=
  Flux.compile service.settings.bucket query

/-! ## Work -/

variable {m : Type → Type} [Monad m]

def health (service : Service) (transport : Http.Transport m) : ExceptT Failure m Unit := do
  let request := service.healthRequest
  let reply ← Http.ask transport .influxdb request.address request
  if !reply.status.isSuccess then throw (.connection .influxdb (.health reply.status))

def post (service : Service) (transport : Http.Transport m) (script : String) :
    ExceptT Failure m String := do
  let reply ← Http.ask transport .influxdb script (service.queryRequest script)
  if reply.status.isSuccess then return reply.body
  else throw (.execution .influxdb script (.statusWithBody reply.status (Text.trim reply.body)))

def query (service : Service) (transport : Http.Transport m) (compiled : Flux.Compiled) :
    ExceptT Failure m SeriesResult := do
  let body ← service.post transport compiled.text
  let result ← Http.understood .influxdb (readSeries compiled.columns body)
  let result := result.note "backend" (.string Backend.influxdb.name)
  return result.note "query" (.string compiled.text)

def metadata (service : Service) (transport : Http.Transport m) (request : MetadataRequest) :
    ExceptT Failure m LabelResult := do
  let compiled := Flux.compileMetadata service.settings.bucket request
  return readLabels (← service.post transport compiled.text)

/-- A write that is not answered is no failure of execution. -/
def writeFailure : Failure → Failure
  | .execution backend _ cause => .write (.unsent backend cause)
  | failure => failure

def send (service : Service) (transport : Http.Transport m) (lines : List String) :
    ExceptT Failure m Unit := do
  let reply ← (Http.ask transport .influxdb "write" (service.writeRequest lines)).adapt writeFailure
  if !reply.status.isSuccess then
    throw (.write (.status reply.status (Text.trim reply.body)))

def write (service : Service) (transport : Http.Transport m) (point : Point) :
    ExceptT Failure m Unit := do
  match line service.settings.precision point with
  | .ok written => service.send transport [written]
  | .error problem => throw (.write (.content problem))

def writeBatch (service : Service) (transport : Http.Transport m) (points : List Point) :
    ExceptT Failure m BatchReport :=
  Batch.writeTogether (line service.settings.precision) (service.send transport) points

end Service

end SeriesQuery.Influx
