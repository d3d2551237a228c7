import SeriesQuery.Json.Reader
import SeriesQuery.Result.Basic
import SeriesQuery.Result.Problem

/-!
Answers of the HTTP API. Every answer is an envelope with a status and data. Values are written as
text; what is not a finite number is a gap.
-/

set_option autoImplicit false

namespace SeriesQuery.Prometheus

open Json

structure Envelope (α : Type) where
  status : String
  data? : Option α
  errorType? : Option String
  error? : Option String

def envelope? {α : Type} (data : Tree → Option α) (tree : Tree) : Option (Envelope α) := do
  let members ← tree.members? ["status", "data", "errorType", "error"]
  let status ← members.required "status" Tree.string?
  let data? ← members.optional "data" data
  let errorType? ← members.optional "errorType" Tree.string?
  let error? ← members.optional "error" Tree.string?
  return ⟨status, data?, errorType?, error?⟩

def readData {α : Type} (data : Tree → Option α) (body : String) : Response α := do
  let envelope ← Payload.envelope.expect ((Json.read? body).bind (envelope? data))
  if envelope.status ≠ "success" then
    throw (.reported (envelope.errorType?.getD "error" ++ ": " ++
      envelope.error?.getD "unknown error"))
  match envelope.data? with
  | some data => return data
  | none => throw .noData

def reportedError? (body : String) : Option String := do
  let envelope ← (Json.read? body).bind (envelope? (Tree.value? (Tree.deepest - 1)))
  let error ← envelope.error?
  return match envelope.errorType? with
    | some kind => kind ++ ": " ++ error
    | none => error

/-! ## Series -/

abbrev RawSample := Float × String

structure RawSeries where
  metric : Dictionary String
  samples : List RawSample

inductive QueryData where
  | series (series : List RawSeries)
  | scalar (sample : RawSample)
  | text

def rawSample? (tree : Tree) : Option RawSample := tree.pair? Tree.float? Tree.string?

def rangeSeries? (tree : Tree) : Option RawSeries := do
  let members ← tree.members? ["metric", "values"]
  let metric ← members.defaulted "metric" .empty (Tree.dictionary? Tree.string?)
  let samples ← members.defaulted "values" [] (Tree.list? rawSample?)
  return ⟨metric, samples⟩

def instantSeries? (tree : Tree) : Option RawSeries := do
  let members ← tree.members? ["metric", "value"]
  let metric ← members.defaulted "metric" .empty (Tree.dictionary? Tree.string?)
  let sample ← members.required "value" rawSample?
  return ⟨metric, [sample]⟩

inductive ResultType where
  | matrix
  | vector
  | scalar
  | string
  deriving Repr, DecidableEq

def resultTypes : List (String × ResultType) :=
  [("matrix", .matrix), ("vector", .vector), ("scalar", .scalar), ("string", .string)]

def queryData? (tree : Tree) : Option QueryData := do
  let (kind, content?) ← tree.chosen? "resultType" "result" resultTypes
  let content ← content?
  match kind with
  | .matrix => (content.list? rangeSeries?).map .series
  | .vector => (content.list? instantSeries?).map .series
  | .scalar => (rawSample? content).map .scalar
  | .string => (rawSample? content).map fun _ => .text

/-- Milliseconds, rounded with a half going away from zero. -/
def timestamp? (seconds : Float) : Option Time.Instant :=
  (Decimal.roundToInt? (seconds * 1000)).bind Time.Instant.ofMillis?

def finite? (text : String) : Option Float := (Decimal.readFloat? text).filter Decimal.isFinite

def reading? (sample : RawSample) : Option Reading :=
  (timestamp? sample.1).map fun timestamp => ⟨timestamp, finite? sample.2⟩

def nameLabel : String := "__name__"

/-- Takes the name out of the labels; a series without one takes the given name. -/
def RawSeries.series (raw : RawSeries) (fallback : String) : Series :=
  ⟨(raw.metric.get? nameLabel).getD fallback, raw.metric.erase nameLabel,
    raw.samples.filterMap reading?⟩

/-- Reads the answer to a query; aggregations make series without a name, which are named
`fallback`. -/
def readSeries (fallback body : String) : Response SeriesResult := do
  match ← readData queryData? body with
  | .series series => return .ofSeries (series.map fun raw => raw.series fallback)
  | .scalar sample => return .ofSeries [(RawSeries.mk .empty [sample]).series fallback]
  | .text => throw .notSeries

def readLabels (body : String) : Response LabelResult :=
  (readData (Tree.list? Tree.string?) body).map .ofValues

end SeriesQuery.Prometheus
