import SeriesQuery.Write.Point

/-!
The line protocol: a measurement with its tags, the fields and a timestamp, parted by spaces. Spaces
and commas in names have a backslash before them, in keys and tag values equals signs too.
-/

set_option autoImplicit false

namespace SeriesQuery.Influx

inductive Precision where
  | seconds
  | milliseconds
  | microseconds
  | nanoseconds
  deriving Repr, DecidableEq

namespace Precision

def name : Precision → String
  | .seconds => "s"
  | .milliseconds => "ms"
  | .microseconds => "us"
  | .nanoseconds => "ns"

def ofName? : String → Option Precision
  | "s" => some .seconds
  | "ms" => some .milliseconds
  | "us" => some .microseconds
  | "ns" => some .nanoseconds
  | _ => none

def unknownMessage (name : String) : String := "unknown precision '" ++ name ++ "'"

def unit : Precision → Nat
  | .seconds => 1000000000
  | .milliseconds => 1000000
  | .microseconds => 1000
  | .nanoseconds => 1

/-- Whole units since the epoch. Nanoseconds may exceed 64 bits. -/
def timestamp? (precision : Precision) (instant : Time.Instant) : Option Int :=
  match precision with
  | .seconds => some instant.seconds
  | .milliseconds => some (instant.seconds * 1000 + instant.nanos / 1000000)
  | .microseconds => some (instant.seconds * 1000000 + instant.nanos / 1000)
  | .nanoseconds =>
    let nanos := instant.totalNanos
    if Int64.minValue.toInt ≤ nanos ∧ nanos ≤ Int64.maxValue.toInt then some nanos else none

end Precision

def escapeNameChar (c : Char) : List Char := if c = ',' ∨ c = ' ' then ['\\', c] else [c]

def escapeKeyChar (c : Char) : List Char :=
  if c = ',' ∨ c = '=' ∨ c = ' ' then ['\\', c] else [c]

def escapeMeasurement (name : String) : String := Text.replaceEach escapeNameChar name

def escapeKey (name : String) : String := Text.replaceEach escapeKeyChar name

/-- Integers have a final `i`, floats six places. -/
def fieldText (field : String) : FieldValue → Except WriteProblem String
  | .integer value => .ok (toString value.toInt ++ "i")
  | .float value =>
    if Decimal.isFinite value then .ok (Decimal.fixed 6 value) else .error (.notFinite field value)

/-- A tag; one without a value cannot be written and is left out. -/
def tagText (key value : String) : String :=
  if value.isEmpty then "" else "," ++ escapeKey key ++ "=" ++ escapeKey value

def line (precision : Precision) (point : Point) : Except WriteProblem String := do
  point.checkContent
  let fields ← point.fields.entries.mapM fun (key, value) => do
    return escapeKey key ++ "=" ++ (← fieldText key value)
  match precision.timestamp? point.timestamp with
  | none => .error (.timestampRange point.timestamp)
  | some timestamp =>
    .ok (escapeMeasurement point.measurement ++
      String.join (point.tags.entries.map fun (key, value) => tagText key value) ++ " " ++
      ",".intercalate fields ++ " " ++ toString timestamp)

end SeriesQuery.Influx
