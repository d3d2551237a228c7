import SeriesQuery.Text.Blank
import SeriesQuery.Text.Case
import SeriesQuery.Text.Shown
import SeriesQuery.Decimal.Text
import SeriesQuery.Time.Format

/-!
Conditions: a field, an operator and a value, joined to the condition before it by AND or OR. A
query holds a flat sequence of them; `conditionGroups` reads that sequence as groups that must all
hold, each of which holds when one of its members does.
-/

set_option autoImplicit false

namespace SeriesQuery

inductive Operator where
  | equal
  | notEqual
  | greater
  | greaterOrEqual
  | less
  | lessOrEqual
  | isIn
  | notIn
  | between
  | regex
  | notRegex
  deriving Repr, DecidableEq

namespace Operator

def token : Operator → String
  | .equal => "="
  | .notEqual => "!="
  | .greater => ">"
  | .greaterOrEqual => ">="
  | .less => "<"
  | .lessOrEqual => "<="
  | .isIn => "IN"
  | .notIn => "NOT IN"
  | .between => "BETWEEN"
  | .regex => "REGEX"
  | .notRegex => "NOT REGEX"

def requiresList : Operator → Bool
  | .isIn | .notIn | .between => true
  | _ => false

def isComparison : Operator → Bool
  | .equal | .notEqual | .greater | .greaterOrEqual | .less | .lessOrEqual => true
  | _ => false

def ofName? : String → Option Operator
  | "=" | "==" => some .equal
  | "!=" | "<>" => some .notEqual
  | ">" => some .greater
  | ">=" => some .greaterOrEqual
  | "<" => some .less
  | "<=" => some .lessOrEqual
  | "IN" => some .isIn
  | "NOT IN" => some .notIn
  | "BETWEEN" => some .between
  | "REGEX" | "=~" => some .regex
  | "NOT REGEX" | "!~" => some .notRegex
  | _ => none

/-- Reads a token in any letter case, its words separated by white space or underscores. -/
def read? (text : String) : Option Operator :=
  let capitals := Text.replaceUnderscores (Text.toCapitals (Text.trim text))
  ofName? (" ".intercalate (Text.words capitals))

@[simp] theorem ofName?_token (operator : Operator) : ofName? operator.token = some operator := by
  cases operator <;> rfl

end Operator

inductive Connective where
  | and
  | or
  deriving Repr, DecidableEq

def Connective.token : Connective → String
  | .and => "AND"
  | .or => "OR"

inductive Scalar where
  | null
  | bool (value : Bool)
  | integer (value : Int64)
  | float (value : Float)
  | timestamp (value : Time.Instant)
  | string (value : String)
  deriving DecidableEq

namespace Scalar

def boolText (value : Bool) : String := if value then "true" else "false"

/-- The value as path and label based backends see it. -/
def plain : Scalar → String
  | .null => ""
  | .bool value => boolText value
  | .integer value => toString value.toInt
  | .float value => Decimal.plain value
  | .timestamp value => value.withOffset
  | .string value => value

def string? : Scalar → Option String
  | .string value => some value
  | _ => none

def tagged : Scalar → String
  | .null => "Null"
  | .bool value => "Bool(" ++ boolText value ++ ")"
  | .integer value => "Integer(" ++ toString value.toInt ++ ")"
  | .float value => "Float(" ++ Decimal.taggedStyle.write value ++ ")"
  | .timestamp value => "Timestamp(" ++ value.zulu ++ ")"
  | .string value => "String(" ++ Text.shown value ++ ")"

end Scalar

inductive ConditionValue where
  | scalar (value : Scalar)
  | list (values : List Scalar)
  deriving DecidableEq

def ConditionValue.scalar? : ConditionValue → Option Scalar
  | .scalar value => some value
  | .list _ => none

def ConditionValue.scalars : ConditionValue → List Scalar
  | .scalar value => [value]
  | .list values => values

structure Condition where
  field : String
  operator : Operator
  value : ConditionValue
  connective : Connective
  deriving DecidableEq

inductive ValueProblem where
  | boundCount (count : Nat)
  | needsList (operator : Operator)
  | needsScalar (operator : Operator)
  | patternNotText
  | notNumeric (value : Scalar)
  deriving DecidableEq

def ValueProblem.message : ValueProblem → String
  | .boundCount count => "BETWEEN needs exactly two bounds, got " ++ toString count
  | .needsList operator => operator.token ++ " needs an array value"
  | .needsScalar operator => operator.token ++ " needs a scalar value"
  | .patternNotText => "regex pattern must be a string"
  | .notNumeric value => "comparison needs a number, got " ++ value.tagged

namespace Condition

def isTime (condition : Condition) : Bool := condition.field == "time"

/-- The first way in which the value does not have the shape that the operator asks for. -/
def shapeProblem? (condition : Condition) : Option ValueProblem :=
  match condition.value with
  | .list values =>
    if condition.operator = .between ∧ values.length ≠ 2 then some (.boundCount values.length)
    else if condition.operator.requiresList then none
    else some (.needsScalar condition.operator)
  | .scalar value =>
    if condition.operator.requiresList then some (.needsList condition.operator)
    else if (condition.operator = .regex ∨ condition.operator = .notRegex) ∧
        value.string? = none then
      some .patternNotText
    else none

end Condition

/-- Each AND starts a group; each OR joins the group of the condition before it. How the first
condition is joined does not matter. -/
def conditionGroups : List Condition → List (List Condition)
  | [] => []
  | condition :: rest =>
    let alternatives := rest.takeWhile (·.connective == .or)
    (condition :: alternatives) :: conditionGroups (rest.drop alternatives.length)
  termination_by conditions => conditions.length
  decreasing_by
    simp only [List.length_drop, List.length_cons]
    omega

end SeriesQuery
