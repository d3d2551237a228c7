import SeriesQuery.Dictionary
import SeriesQuery.Text.Blank
import SeriesQuery.Text.Split
import SeriesQuery.Decimal.Text
import SeriesQuery.Time.Format

/-!
What is written: the fields and tags of one measurement at one instant.
-/

set_option autoImplicit false

namespace SeriesQuery

inductive FieldValue where
  | integer (value : Int64)
  | float (value : Float)
  deriving DecidableEq

namespace FieldValue

def toFloat : FieldValue → Float
  | .integer value => Decimal.ofInt value.toInt
  | .float value => value

def isInteger : FieldValue → Bool
  | .integer _ => true
  | .float _ => false

/-- Reads a whole number, which an `i` may follow, or else a floating point number. The error is the
text without the white space around it. -/
def read (text : String) : Except String FieldValue :=
  let trimmed := Text.trimChars text.toList
  let digits := (Text.dropEnd? ['i'] trimmed).getD trimmed
  match Decimal.readInt64? (String.ofList digits) with
  | some value => .ok (.integer value)
  | none =>
    match Decimal.readFloat? (String.ofList trimmed) with
    | some value => .ok (.float value)
    | none => .error (String.ofList trimmed)

def notNumberMessage (text : String) : String := "'" ++ text ++ "' is not a number"

end FieldValue

structure Point where
  measurement : String
  fields : Dictionary FieldValue
  tags : Dictionary String
  timestamp : Time.Instant
  deriving DecidableEq

namespace Point

def ofMeasurement (measurement : String) (timestamp : Time.Instant) : Point :=
  ⟨measurement, .empty, .empty, timestamp⟩

def addTag (point : Point) (key value : String) : Point :=
  { point with tags := point.tags.insert key value }

def addField (point : Point) (key : String) (value : FieldValue) : Point :=
  { point with fields := point.fields.insert key value }

end Point

structure Sample where
  nameSpace : String
  name : String
  labels : Dictionary String
  value : FieldValue
  timestamp : Time.Instant
  deriving DecidableEq

namespace Sample

def measurement (sample : Sample) : String :=
  if sample.nameSpace.isEmpty then sample.name else sample.nameSpace ++ "_" ++ sample.name

/-- The sample as the field `value` of its measurement. -/
def point (sample : Sample) : Point where
  measurement := sample.measurement
  fields := Dictionary.empty.insert "value" sample.value
  tags := sample.labels
  timestamp := sample.timestamp

end Sample

inductive WriteProblem where
  | missingMeasurement
  | noFields (measurement : String)
  | notFinite (field : String) (value : Float)
  | timestampRange (timestamp : Time.Instant)
  deriving DecidableEq

def WriteProblem.message : WriteProblem → String
  | .missingMeasurement => "measurement is required"
  | .noFields measurement => "point for '" ++ measurement ++ "' has no fields"
  | .notFinite field value =>
    "field '" ++ field ++ "' has non-finite value " ++ Decimal.plain value
  | .timestampRange timestamp => "timestamp " ++ timestamp.spaced ++ " out of range"

/-- What every serialisation asks of a point: a measurement, then a field. -/
def Point.checkContent (point : Point) : Except WriteProblem Unit :=
  if point.measurement.isEmpty then .error .missingMeasurement
  else if point.fields.isEmpty then .error (.noFields point.measurement)
  else .ok ()

end SeriesQuery
