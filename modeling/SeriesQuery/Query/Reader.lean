import SeriesQuery.Text.Letters
import SeriesQuery.Time.Reader
import SeriesQuery.Query.Basic
import SeriesQuery.Query.Grammar

/-!
The query language.

    SELECT [DISTINCT] field | function(field) [AS alias] [, ...] FROM measurement
    [WHERE condition [AND|OR condition]...] [GROUP BY tag [, ...] [, time(5m)]]
    [HAVING field operator number] [FILL(null|none|previous|linear|number)]
    [ORDER BY field [ASC|DESC] [, ...]] [LIMIT n] [OFFSET n]

Clauses stand in this order. One that cannot be read is passed over, so that its text is left and
the query is refused for what follows it.
-/

set_option autoImplicit false

namespace SeriesQuery.Language

open Grammar

/-! ## Words -/

def startsName (c : Char) : Bool := Text.isAlphabetic c || c == '_'

def continuesName (c : Char) : Bool := Text.isAlphanumeric c || c == '_' || c == '.' || c == '-'

/-- A name: letters, digits, underscores, points and dashes after a first letter or underscore, or
any text without a double quote between double quotes. -/
def name : Reader String
  | '"' :: rest => do
    let (content, rest) ← stretch (· != '"') rest
    return (String.ofList content, ← char '"' rest)
  | c :: rest =>
    if startsName c then
      let (others, rest) := rest.span continuesName
      some (String.ofList (c :: others), rest)
    else none
  | [] => none

def quoted : Reader String := fun text => do
  let (content, rest) ← enclosed '\'' '\'' text
  return (String.ofList content, rest)

/-- A whole number, or a number with a fraction. A whole number must fit 64 bits. -/
def number : Reader Scalar := fun text => do
  let (negative, rest) := match text with
    | '-' :: rest => (true, rest)
    | other => (false, other)
  let (whole, rest) ← stretch Char.isDigit rest
  let sign := if negative then ['-'] else []
  let fraction : Option (List Char × List Char) := match rest with
    | '.' :: rest => stretch Char.isDigit rest
    | _ => none
  match fraction with
  | some (fraction, rest) =>
    let value ← Decimal.readFloat? (String.ofList (sign ++ whole ++ ['.'] ++ fraction))
    return (.float value, rest)
  | none =>
    let value ← Decimal.readInt64? (String.ofList (sign ++ whole))
    return (.integer value, rest)

def literal : Reader Scalar := fun text =>
  match quoted text with
  | some (value, rest) => some (.string value, rest)
  | none =>
    match keyword "true".toList text with
    | some rest => some (.bool true, rest)
    | none =>
      match keyword "false".toList text with
      | some rest => some (.bool false, rest)
      | none =>
        match keyword "null".toList text with
        | some rest => some (.null, rest)
        | none => number text

/-- A comparison operator; of two that start alike, the longer. -/
def comparison : Reader Operator
  | '>' :: '=' :: rest => some (.greaterOrEqual, rest)
  | '<' :: '=' :: rest => some (.lessOrEqual, rest)
  | '!' :: '=' :: rest => some (.notEqual, rest)
  | '<' :: '>' :: rest => some (.notEqual, rest)
  | '>' :: rest => some (.greater, rest)
  | '<' :: rest => some (.less, rest)
  | '=' :: '=' :: rest => some (.equal, rest)
  | '=' :: rest => some (.equal, rest)
  | _ => none

def durationText : Reader (List Char) := fun text => do
  let (digits, rest) ← stretch Char.isDigit text
  match rest with
  | symbol :: rest =>
    if (DurationUnit.ofSymbol? symbol).isSome then return (digits ++ [symbol], rest) else none
  | [] => none

def duration : Reader Duration := fun text => do
  let (found, rest) ← durationText text
  return (← Duration.ofChars? found, rest)

/-! ## Conditions -/

def listTail : Reader (Operator × ConditionValue) := fun text => do
  let negated := do
    let rest ← keyword "NOT".toList text
    keyword "IN".toList (← gap rest)
  let (operator, rest) ← match negated with
    | some rest => some (Operator.notIn, rest)
    | none => (keyword "IN".toList text).map fun rest => (Operator.isIn, rest)
  let rest ← char '(' (skipGap rest)
  let (items, rest) ← commaList literal (skipGap rest)
  return ((operator, .list items), ← char ')' (skipGap rest))

def betweenTail : Reader (Operator × ConditionValue) := fun text => do
  let rest ← keyword "BETWEEN".toList text
  let (low, rest) ← literal (← gap rest)
  let rest ← keyword "AND".toList (← gap rest)
  let (high, rest) ← literal (← gap rest)
  return ((.between, .list [low, high]), rest)

/-- `=~ /pattern/` or `!~ /pattern/`; the pattern may stand between single quotes instead. -/
def regexTail : Reader (Operator × ConditionValue) := fun text => do
  let (operator, rest) ← match text with
    | '=' :: '~' :: rest => some (Operator.regex, rest)
    | '!' :: '~' :: rest => some (Operator.notRegex, rest)
    | _ => none
  let rest := skipGap rest
  let (pattern, rest) ← (enclosed '/' '/' rest).or (enclosed '\'' '\'' rest)
  return ((operator, .scalar (.string (String.ofList pattern))), rest)

def comparisonTail : Reader (Operator × ConditionValue) := fun text => do
  let (operator, rest) ← comparison text
  let (value, rest) ← literal (skipGap rest)
  return ((operator, .scalar value), rest)

def fieldCondition : Reader (String × Operator × ConditionValue) := fun text => do
  let (field, rest) ← name text
  let rest := skipGap rest
  let ((operator, value), rest) ←
    (((listTail rest).or (betweenTail rest)).or (regexTail rest)).or (comparisonTail rest)
  return ((field, operator, value), rest)

inductive WhereItem where
  /-- `time >= now() - 1h`. -/
  | latest (duration : Duration)
  /-- `time` compared with a date. -/
  | timeBound (operator : Operator) (instant : Time.Instant)
  | condition (field : String) (operator : Operator) (value : ConditionValue)

def latestItem : Reader Duration := fun text => do
  let rest := skipGap (← keyword "time".toList text)
  let rest ← char '>' rest
  let rest := skipGap ((char '=' rest).getD rest)
  let rest := skipGap (← keyword "now()".toList rest)
  duration (skipGap (← char '-' rest))

def boundItem : Reader (Operator × Time.Instant) := fun text => do
  let rest ← keyword "time".toList text
  let (operator, rest) ← comparison (skipGap rest)
  let (date, rest) ← quoted (skipGap rest)
  return ((operator, ← Time.readStrict? date), rest)

def whereItem : Reader WhereItem := fun text =>
  match latestItem text with
  | some (duration, rest) => some (.latest duration, rest)
  | none =>
    match boundItem text with
    | some ((operator, instant), rest) => some (.timeBound operator instant, rest)
    | none => (fieldCondition text).map fun ((field, operator, value), rest) =>
      (.condition field operator value, rest)

def connective : Reader Connective := fun text => do
  let rest ← gap text
  let (connective, rest) ← match keyword "AND".toList rest with
    | some rest => some (Connective.and, rest)
    | none => (keyword "OR".toList rest).map fun rest => (Connective.or, rest)
  return (connective, ← gap rest)

/-! ## Clauses -/

inductive SelectItem where
  | all
  | field (field : String)
  | aggregate (function : AggregateFunction) (field : String) (alias? : Option String)

def aliasTail : Reader String := fun text => do
  let rest ← keyword "AS".toList (← gap text)
  name (← gap rest)

def aggregateItem : Reader SelectItem := fun text => do
  let (functionName, rest) ← name text
  let function ← AggregateFunction.read? functionName
  let rest := skipGap (← char '(' (skipGap rest))
  let (field, rest) ← match char '*' rest with
    | some rest => some (wildcard, rest)
    | none => name rest
  let rest ← char ')' (skipGap rest)
  let (alias?, rest) := optional aliasTail rest
  return (.aggregate function field alias?, rest)

def selectItem : Reader SelectItem := fun text =>
  match char '*' text with
  | some rest => some (.all, rest)
  | none => (aggregateItem text).or <| (name text).map fun (field, rest) => (.field field, rest)

def selectClause : Reader (Bool × List SelectItem) := fun text => do
  let rest ← gap (← keyword "SELECT".toList text)
  let (distinct, rest) := match (keyword "DISTINCT".toList rest).bind gap with
    | some rest => (true, rest)
    | none => (false, rest)
  let (items, rest) ← commaList selectItem rest
  return ((distinct, items), rest)

def whereClause : Reader (List (Connective × WhereItem)) := fun text => do
  let rest ← gap (← keyword "WHERE".toList text)
  let (first, rest) ← whereItem rest
  let (others, rest) := repeated (fun text => do
    let (connective, rest) ← connective text
    let (item, rest) ← whereItem rest
    return ((connective, item), rest)) rest
  return ((.and, first) :: others, rest)

inductive GroupItem where
  | tag (tag : String)
  | interval (text : String)

def groupItem : Reader GroupItem := fun text =>
  let bucket := do
    let rest ← char '(' (← keyword "time".toList text)
    let (interval, rest) ← durationText rest
    return (GroupItem.interval (String.ofList interval), ← char ')' rest)
  bucket.or <| (name text).map fun (tag, rest) => (.tag tag, rest)

def keywordPair (first second : List Char) (text : List Char) : Option (List Char) := do
  let rest ← gap (← keyword first text)
  gap (← keyword second rest)

def groupClause : Reader (List GroupItem) := fun text => do
  commaList groupItem (← keywordPair "GROUP".toList "BY".toList text)

def havingClause : Reader (String × Operator × Scalar) := fun text => do
  let rest ← gap (← keyword "HAVING".toList text)
  let (field, rest) ← name rest
  let (operator, rest) ← comparison (skipGap rest)
  let (value, rest) ← number (skipGap rest)
  return ((field, operator, value), rest)

def fillClause : Reader FillPolicy := fun text => do
  let rest ← keyword "FILL".toList text
  let rest ← char '(' (skipGap rest)
  let (policy, rest) ← stretch (· != ')') rest
  let rest ← char ')' rest
  return (← FillPolicy.read? (String.ofList policy), rest)

def direction : Reader SortDirection := fun text => do
  let rest ← gap text
  match keyword "ASC".toList rest with
  | some rest => some (.ascending, rest)
  | none => (keyword "DESC".toList rest).map fun rest => (.descending, rest)

def orderItem : Reader (String × SortDirection) := fun text => do
  let (field, rest) ← name text
  let (direction, rest) := optional direction rest
  return ((field, direction.getD .ascending), rest)

def orderClause : Reader (List (String × SortDirection)) := fun text => do
  commaList orderItem (← keywordPair "ORDER".toList "BY".toList text)

/-- A keyword and a count that fits 64 bits. -/
def countClause (word : List Char) : Reader UInt64 := fun text => do
  let rest ← gap (← keyword word text)
  let (digits, rest) ← stretch Char.isDigit rest
  let count := Decimal.digitsValue digits
  if count < UInt64.size then return (UInt64.ofNat count, rest) else none

def clause {α : Type} (reader : Reader α) (text : List Char) : Option α × List Char :=
  optional (fun text => (gap text).bind reader) text

/-! ## Queries -/

structure Clauses where
  distinct : Bool
  selection : List SelectItem
  measurement : String
  conditions : List (Connective × WhereItem)
  grouping : List GroupItem
  having? : Option (String × Operator × Scalar)
  fill? : Option FillPolicy
  ordering : List (String × SortDirection)
  limit? : Option UInt64
  offset? : Option UInt64

def clauses : Reader Clauses := fun text => do
  let ((distinct, selection), rest) ← selectClause (skipGap text)
  let rest ← keyword "FROM".toList (← gap rest)
  let (measurement, rest) ← name (← gap rest)
  let (conditions, rest) := clause whereClause rest
  let (grouping, rest) := clause groupClause rest
  let (having?, rest) := clause havingClause rest
  let (fill?, rest) := clause fillClause rest
  let (ordering, rest) := clause orderClause rest
  let (limit?, rest) := clause (countClause "LIMIT".toList) rest
  let (offset?, rest) := clause (countClause "OFFSET".toList) rest
  return ({ distinct, selection, measurement, conditions := conditions.getD [],
            grouping := grouping.getD [], having?, fill?, ordering := ordering.getD [],
            limit?, offset? }, skipGap rest)

namespace SelectItem

def field? : SelectItem → Option String
  | .all => some wildcard
  | .field chosen => some chosen
  | .aggregate _ _ _ => none

def addAggregate (query : Query) : SelectItem → Query
  | .aggregate function measured alias? => query.aggregate function measured alias?
  | _ => query

end SelectItem

namespace WhereItem

/-- Adds what is a condition of its own, and sets a window that ends now. -/
def addTo (query : Query) (connective : Connective) : WhereItem → Query
  | .latest duration => query.latestDuration duration
  | .timeBound operator instant =>
    match operator with
    | .greater | .greaterOrEqual | .less | .lessOrEqual => query
    | _ => query.condition ⟨"time", operator, .scalar (.timestamp instant), connective⟩
  | .condition field operator value => query.condition ⟨field, operator, value, connective⟩

def lowerBound? : WhereItem → Option Time.Instant
  | .timeBound .greater instant => some instant
  | .timeBound .greaterOrEqual instant => some instant
  | _ => none

def upperBound? : WhereItem → Option (Operator × Time.Instant)
  | .timeBound .less instant => some (.less, instant)
  | .timeBound .lessOrEqual instant => some (.lessOrEqual, instant)
  | _ => none

end WhereItem

/-- The last lower bound starts the window and the last upper bound, or now, ends it. An upper bound
alone is a condition on `time`. -/
def applyBounds (now : Time.Instant) (items : List WhereItem) (query : Query) : Query :=
  match (items.filterMap WhereItem.lowerBound?).getLast?,
      (items.filterMap WhereItem.upperBound?).getLast? with
  | some start, upper => query.timeRange start ((upper.map (·.2)).getD now)
  | none, some (operator, instant) =>
    query.condition ⟨"time", operator, .scalar (.timestamp instant), .and⟩
  | none, none => query

def GroupItem.addTo (query : Query) : GroupItem → Query
  | .tag chosen => query.groupByTag chosen
  | .interval text => query.interval text

def Clauses.query (clauses : Clauses) (now : Time.Instant) : Query :=
  let query := clauses.selection.foldl SelectItem.addAggregate
    (Query.ofMeasurement clauses.measurement)
  let query := query.select (clauses.selection.filterMap SelectItem.field?)
  let query := if clauses.distinct then query.distinctRows else query
  let query := clauses.conditions.foldl
    (fun query (connective, item) => item.addTo query connective) query
  let query := applyBounds now (clauses.conditions.map (·.2)) query
  let query := clauses.grouping.foldl GroupItem.addTo query
  let query := match clauses.having? with
    | some (field, operator, value) => query.havingOperator field operator value
    | none => query
  let query := (clauses.fill?.map query.fill).getD query
  let query := clauses.ordering.foldl (fun query (field, direction) => query.order field direction)
    query
  let query := (clauses.limit?.map query.limit).getD query
  (clauses.offset?.map query.offset).getD query

/-- Reads a query. A window that has only a start ends now. -/
def readQuery (now : Time.Instant) (text : String) : Except QueryError Query :=
  match clauses (Text.trimChars text.toList) with
  | none => .error .grammar
  | some (found, rest) =>
    if rest.all Text.isBlank then .ok (found.query now)
    else .error (.unexpectedInput "query" (String.ofList (Text.trimChars rest)))

def readCondition (text : String) : Except QueryError Condition :=
  match fieldCondition (Text.trimChars text.toList) with
  | none => .error .grammar
  | some ((field, operator, value), rest) =>
    if rest.all Text.isBlank then .ok ⟨field, operator, value, .and⟩
    else .error (.unexpectedInput "condition" (String.ofList (Text.trimChars rest)))

end SeriesQuery.Language
