import SeriesQuery.Driver.Batch
import SeriesQuery.Graphite.Compiler
import SeriesQuery.Graphite.Plaintext
import SeriesQuery.Graphite.Response
import SeriesQuery.Http.Exchange
import SeriesQuery.Settings.Basic

/-!
A server that renders targets and finds metrics, and the carbon daemon that takes points as lines.
-/

set_option autoImplicit false

namespace SeriesQuery.Graphite

structure Delivery where
  protocol : Protocol
  host : String
  port : UInt16
  payload : String
  deriving Repr, DecidableEq

inductive DeliveryFault where
  | connecting (reason : String)
  | sending (reason : String)
  deriving Repr, DecidableEq

abbrev Carbon (m : Type → Type) := Delivery → m (Except DeliveryFault Unit)

def DeliveryFault.failure : DeliveryFault → Failure
  | .connecting reason => .connection .graphite (.carbon reason)
  | .sending reason => .write (.carbon reason)

structure Service where
  settings : Settings

namespace Service

def ofSettings (settings : Settings) : Except SettingsProblem Service :=
  if settings.url.isEmpty then .error (.missing .graphite ["url"])
  else if settings.host.isEmpty ∨ settings.port = 0 then .error .carbonAddress
  else .ok ⟨settings⟩

def root? (service : Service) : Option String := some service.settings.root

def compile (service : Service) (query : Query) : Except QueryError Compiled :=
  Graphite.compile service.root? query

def payload (lines : List (List String)) : String :=
  String.join (lines.flatten.map fun line => line ++ "\n")

variable {m : Type → Type} [Monad m]

def fetch (service : Service) (transport : Http.Transport m) (path : String)
    (parameters : List (String × String)) (query : String) : ExceptT Failure m String := do
  let address := Http.withParameters (Http.below service.settings.url path) parameters
  let reply ← Http.ask transport .graphite query (.fetch address)
  if reply.status.isSuccess then return reply.body
  else throw (.execution .graphite query (.status reply.status))

def health (service : Service) (transport : Http.Transport m) : ExceptT Failure m Unit := do
  let _ ← service.fetch transport "/metrics/find" [("query", "*")] "metrics/find"

def query (service : Service) (transport : Http.Transport m) (compiled : Compiled) :
    ExceptT Failure m SeriesResult := do
  let body ← service.fetch transport "/render" compiled.parameters compiled.target
  let result := (readRendered body).note "backend" (.string Backend.graphite.name)
  return ((result.note "query" (.string compiled.target)).note "from"
    (.string compiled.start)).note "until" (.string compiled.finish)

/-- The tag that holds the name of a series is none of its own. -/
def lookup (service : Service) (transport : Http.Transport m) :
    Lookup → ExceptT Failure m LabelResult
  | .find pattern => do
    let body ← service.fetch transport "/metrics/find" [("query", pattern)] pattern
    Http.understood .graphite (readNodes body)
  | .tagKeys expression => do
    let body ← service.fetch transport "/tags/autoComplete/tags" [("expr", expression)] expression
    let result ← Http.understood .graphite (readTags body)
    return { result with values := result.values.filter fun tag => tag != "name" }
  | .tagValues tag expression => do
    let body ← service.fetch transport "/tags/autoComplete/values"
      [("tag", tag), ("expr", expression)] expression
    Http.understood .graphite (readTags body)

def metadata (service : Service) (transport : Http.Transport m) (request : MetadataRequest) :
    ExceptT Failure m LabelResult :=
  service.lookup transport (compileMetadata service.root? request)

def send (service : Service) (carbon : Carbon m) (lines : List (List String)) :
    ExceptT Failure m Unit :=
  let settings := service.settings
  ExceptT.adapt DeliveryFault.failure
    (ExceptT.mk (carbon ⟨settings.protocol, settings.host, settings.port, payload lines⟩))

def write (service : Service) (carbon : Carbon m) (point : Point) : ExceptT Failure m Unit := do
  match lines service.root? point with
  | .ok written => service.send carbon [written]
  | .error problem => throw (.write (.content problem))

/-- One connection for the whole batch. -/
def writeBatch (service : Service) (carbon : Carbon m) (points : List Point) :
    ExceptT Failure m BatchReport :=
  Batch.writeTogether (lines service.root?) (service.send carbon) points

end Service

end SeriesQuery.Graphite
