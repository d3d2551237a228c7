import SeriesQuery.Text.Quoted
import SeriesQuery.Query.Basic

/-!
Flux scripts: a pipeline of stages over one bucket, with the imports and options it needs, and the
text it is written as.
-/

set_option autoImplicit false

namespace SeriesQuery.Flux

inductive Literal where
  | bool (value : Bool)
  | integer (value : Int64)
  | float (value : Float)
  | string (value : String)
  /-- An instant, written by `time(v: …)`. -/
  | instant (value : Time.Instant)
  /-- Text that the server reads as an instant. -/
  | timeText (value : String)
  deriving DecidableEq

/-- Whole numbers below `10^15` keep one digit behind the point, so that they stay floats. -/
def floatText (value : Float) : String :=
  if Decimal.isWholeBelow (Nat.pow 10 15) value then Decimal.fixed 1 value else Decimal.plain value

def Literal.text : Literal → String
  | .bool value => Scalar.boolText value
  | .integer value => toString value.toInt
  | .float value => floatText value
  | .string value => Text.quoted value
  | .instant value => "time(v: \"" ++ value.zulu ++ "\")"
  | .timeText value => "time(v: " ++ Text.quoted value ++ ")"

def isIdentifier (column : String) : Bool :=
  match column.toList with
  | [] => false
  | c :: rest => (c.isAlpha || c == '_') && rest.all fun d => d.isAlphanum || d == '_'

def cell (column : String) : String :=
  if isIdentifier column then "r." ++ column else "r[" ++ Text.quoted column ++ "]"

/-- Comparisons; list operators are written through other comparisons. -/
def operatorText : Operator → String
  | .equal => "=="
  | .notEqual => "!="
  | .greater => ">"
  | .greaterOrEqual => ">="
  | .less => "<"
  | .lessOrEqual => "<="
  | .regex => "=~"
  | .notRegex => "!~"
  | .isIn | .notIn | .between => "=="

def comparisonText (column : String) (operator : Operator) (literal : Literal) : String :=
  cell column ++ " " ++ operatorText operator ++ " " ++ literal.text

inductive Predicate where
  | missing (column : String)
  | present (column : String)
  /-- A pattern, inserted as it stands. -/
  | pattern (column : String) (operator : Operator) (expression : String)
  | compare (column : String) (operator : Operator) (literal : Literal)
  | member (column : String) (literals : List Literal)
  /-- All comparisons hold; none is always true. -/
  | all (column : String) (comparisons : List (Operator × Literal))
  deriving DecidableEq

def Predicate.text : Predicate → String
  | .missing column => "not exists " ++ cell column
  | .present column => "exists " ++ cell column
  | .pattern column operator expression =>
    cell column ++ " " ++ operatorText operator ++ " /" ++ expression ++ "/"
  | .compare column operator literal => comparisonText column operator literal
  | .member column literals =>
    "contains(value: " ++ cell column ++ ", set: [" ++
      ", ".intercalate (literals.map Literal.text) ++ "])"
  | .all _ [] => "true"
  | .all column comparisons =>
    " and ".intercalate (comparisons.map fun (operator, literal) =>
      comparisonText column operator literal)

def alternativesText : List Predicate → String
  | [single] => single.text
  | alternatives => " or ".intercalate (alternatives.map fun p => "(" ++ p.text ++ ")")

structure Offset where
  negative : Bool
  hours : Nat
  minutes : Nat
  deriving Repr, DecidableEq

/-- A duration literal. A part that is zero is left out; hours stay when minutes are zero too. -/
def Offset.text (offset : Offset) : String :=
  (if offset.negative then "-" else "") ++
    (if 0 < offset.hours ∨ offset.minutes = 0 then toString offset.hours ++ "h" else "") ++
    (if 0 < offset.minutes then toString offset.minutes ++ "m" else "")

def reducerName : AggregateFunction → String
  | .percentile _ => "quantile"
  | function => function.name

def quantileText (percent : UInt8) : String :=
  Decimal.plain (Decimal.nearest false percent.toNat (-2))

/-- The arguments of a reducer: the quantile of a percentile, and a column other than `_value`. -/
def reducerArguments (function : AggregateFunction) (column? : Option String) : List String :=
  (match function with
    | .percentile percent => ["q: " ++ quantileText percent]
    | _ => []) ++
    (column?.map fun column => "column: " ++ Text.quoted column).toList

inductive Stage where
  | rangeBack (start : String)
  | range (start finish : Time.Instant)
  | timeShift (offset : Offset)
  | measurement (name : String)
  | filter (alternatives : List Predicate)
  | fields (names : List String)
  | distinct
  | group (columns : List String)
  | window (every : Duration)
  | duplicate (column : String)
  | reduce (function : AggregateFunction) (column? : Option String)
  | having (column : String) (operator : Operator) (literal : Literal)
  | fillNull
  | fillPrevious
  | fillValue (value : Float)
  | interpolate (every? : Option Duration)
  /-- An expression, inserted as it stands. -/
  | map (column expression : String)
  | sort (columns : List String) (descending : Bool)
  | tail (offset : UInt64)
  | limit (count : UInt64)
  deriving DecidableEq

def Stage.text : Stage → String
  | .rangeBack start => "range(start: -" ++ start ++ ")"
  | .range start finish => "range(start: " ++ start.zulu ++ ", stop: " ++ finish.zulu ++ ")"
  | .timeShift offset => "timeShift(duration: " ++ offset.text ++ ")"
  | .measurement name => "filter(fn: (r) => r._measurement == " ++ Text.quoted name ++ ")"
  | .filter alternatives => "filter(fn: (r) => " ++ alternativesText alternatives ++ ")"
  | .fields names => "filter(fn: (r) => " ++
    " or ".intercalate (names.map fun name => "r._field == " ++ Text.quoted name) ++ ")"
  | .distinct => "distinct()"
  | .group columns => "group(columns: [" ++ ", ".intercalate (columns.map Text.quoted) ++ "])"
  | .window every => "window(every: " ++ every.text ++ ")"
  | .duplicate column => "duplicate(column: \"_value\", as: " ++ Text.quoted column ++ ")"
  | .reduce function column? =>
    reducerName function ++ "(" ++ ", ".intercalate (reducerArguments function column?) ++ ")"
  | .having column operator literal =>
    "filter(fn: (r) => " ++ comparisonText column operator literal ++ ")"
  | .fillNull => "fill(value: null)"
  | .fillPrevious => "fill(usePrevious: true)"
  | .fillValue value => "fill(value: " ++ floatText value ++ ")"
  | .interpolate none => "interpolate.linear()"
  | .interpolate (some every) => "interpolate.linear(every: " ++ every.text ++ ")"
  | .map column expression =>
    "map(fn: (r) => (\x7b r with " ++ column ++ ": " ++ expression ++ " \x7d))"
  | .sort columns descending =>
    "sort(columns: [" ++ ", ".intercalate (columns.map Text.quoted) ++ "], desc: " ++
      Scalar.boolText descending ++ ")"
  | .tail offset => "tail(offset: " ++ toString offset.toNat ++ ")"
  | .limit count => "limit(n: " ++ toString count.toNat ++ ")"

/-- A pipeline. The name of a time zone, if there is one, is set as an option before it. -/
structure Script where
  location? : Option String
  stages : List Stage
  deriving DecidableEq

def Stage.interpolates : Stage → Bool
  | .interpolate _ => true
  | _ => false

def Script.imports (script : Script) : List String :=
  (if script.stages.any Stage.interpolates then ["interpolate"] else []) ++
    (if script.location?.isSome then ["timezone"] else [])

def Script.header (script : Script) : String :=
  String.join (script.imports.map fun package => "import \"" ++ package ++ "\"\n") ++
    match script.location? with
    | some name => "option location = timezone.location(name: " ++ Text.quoted name ++ ")\n"
    | none => ""

def Script.text (script : Script) (bucket : String) : String :=
  script.header ++ (if script.imports.isEmpty then "" else "\n") ++
    "from(bucket: " ++ Text.quoted bucket ++ ")" ++
    String.join (script.stages.map fun stage => "\n  |> " ++ stage.text)

end SeriesQuery.Flux
