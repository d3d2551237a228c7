import Mathlib.Computability.Language
import SeriesQuery.Query.Reader

/-!
The written forms of a query: for every part of it, the texts that say it. Names stand between
double quotes, keywords in any letter case, and any gap where the syntax has a space.
-/

set_option autoImplicit false

namespace SeriesQuery.Language

/-- The texts that say something. -/
abbrev Form := Language Char

/-! ## Words -/

def exactly (text : String) : Form := {text.toList}

/-- A keyword in any letter case. -/
def spelled (word : String) : Form :=
  {text | text.map Char.toLower = word.toList.map Char.toLower}

def blanks : Form := {text | ∀ c ∈ text, Text.isGap c = true}

def space : Form := {text | text ≠ [] ∧ text ∈ blanks}

def commaForm (form : Form) : Form := blanks * exactly "," * blanks * form

def listed {α : Type} (form : α → Form) : List α → Form
  | [] => 0
  | first :: others => form first * (others.map fun other => commaForm (form other)).prod

def nameForm (name : String) : Form :=
  {text | name ≠ "" ∧ '"' ∉ name.toList ∧ text = '"' :: name.toList ++ ['"']}

def quotedForm (content : String) : Form :=
  {text | '\'' ∉ content.toList ∧ text = '\'' :: content.toList ++ ['\'']}

/-! ## Numbers -/

/-- A non-empty run of digits. -/
structure Digits where
  text : List Char
  nonempty : text ≠ []
  digits : ∀ c ∈ text, c.isDigit = true

def Digits.value (digits : Digits) : Nat := Decimal.digitsValue digits.text

/-- A number as it is written. -/
structure Numeral where
  negative : Bool
  whole : Digits
  fraction? : Option Digits

namespace Numeral

def signText (numeral : Numeral) : List Char := if numeral.negative then ['-'] else []

def fractionDigits (numeral : Numeral) : List Char := (numeral.fraction?.map Digits.text).getD []

def text (numeral : Numeral) : List Char :=
  numeral.signText ++ numeral.whole.text ++
    (numeral.fraction?.map fun fraction => '.' :: fraction.text).getD []

def toInt (numeral : Numeral) : Int :=
  if numeral.negative then -numeral.whole.value else numeral.whole.value

/-- The double nearest to the number. -/
def toFloat (numeral : Numeral) : Float :=
  Decimal.nearest numeral.negative
    (Decimal.digitsValue (numeral.whole.text ++ numeral.fractionDigits))
    (-(numeral.fractionDigits.length : Int))

/-- A number with a fraction is a double; without one it is a whole number of 64 bits. -/
def Denotes (numeral : Numeral) : Scalar → Prop
  | .integer value => numeral.fraction? = none ∧ value.toInt = numeral.toInt
  | .float value => numeral.fraction? ≠ none ∧ value = numeral.toFloat
  | _ => False

end Numeral

def numberForm (value : Scalar) : Form :=
  {text | ∃ numeral : Numeral, numeral.Denotes value ∧ text = numeral.text}

def durationForm (duration : Duration) : Form :=
  {text | ∃ digits : Digits, digits.value = duration.amount.toNat ∧
    text = digits.text ++ [duration.unit.symbol]}

def countForm (count : UInt64) : Form :=
  {text | ∃ digits : Digits, digits.value = count.toNat ∧ text = digits.text}

def literalForm : Scalar → Form
  | .string content => quotedForm content
  | .bool value => spelled (Scalar.boolText value)
  | .null => spelled "null"
  | .timestamp _ => 0
  | .integer value => numberForm (.integer value)
  | .float value => numberForm (.float value)

/-! ## Conditions -/

def operatorForm : Operator → Form
  | .equal => exactly "=" + exactly "=="
  | .notEqual => exactly "!=" + exactly "<>"
  | .greater => exactly ">"
  | .greaterOrEqual => exactly ">="
  | .less => exactly "<"
  | .lessOrEqual => exactly "<="
  | _ => 0

def valuesForm (values : List Scalar) : Form :=
  exactly "(" * blanks * listed literalForm values * blanks * exactly ")"

def patternForm (pattern : String) : Form :=
  {text | '/' ∉ pattern.toList ∧ text = '/' :: pattern.toList ++ ['/']}

/-- A comparison of a field with a literal. -/
def comparedForm (operator : Operator) (value : Scalar) : Form :=
  operatorForm operator * blanks * literalForm value

def tailForm : Operator → ConditionValue → Form
  | .isIn, .list values => spelled "IN" * blanks * valuesForm values
  | .notIn, .list values => spelled "NOT" * space * spelled "IN" * blanks * valuesForm values
  | .between, .list [low, high] =>
    spelled "BETWEEN" * space * literalForm low * space * spelled "AND" * space * literalForm high
  | .regex, .scalar (.string pattern) => exactly "=~" * blanks * patternForm pattern
  | .notRegex, .scalar (.string pattern) => exactly "!~" * blanks * patternForm pattern
  | operator, .scalar value => comparedForm operator value
  | _, .list _ => 0

def dateForm (instant : Time.Instant) : Form :=
  {text | ∃ date : String, Time.readStrict? date = some instant ∧ text ∈ quotedForm date}

def itemForm : WhereItem → Form
  | .latest duration =>
    spelled "time" * blanks * (exactly ">" + exactly ">=") * blanks * spelled "now()" * blanks *
      exactly "-" * blanks * durationForm duration
  | .timeBound operator instant =>
    spelled "time" * blanks * operatorForm operator * blanks * dateForm instant
  | .condition field operator value => nameForm field * blanks * tailForm operator value

def connectiveForm : Connective → Form
  | .and => spelled "AND"
  | .or => spelled "OR"

/-! ## Clauses -/

def functionForm : AggregateFunction → Form
  | .mean => spelled "mean" + spelled "avg" + spelled "average"
  | .stddev => spelled "stddev" + spelled "stdev"
  | .percentile percent =>
    {text | ∃ digits : Digits, digits.value = percent.toNat ∧ digits.value ≤ 100 ∧
      text ∈ (spelled "p" + spelled "percentile_") * {digits.text}}
  | function => spelled function.name

/-- A function's name may stand between quotes as any other name. -/
def calledForm (function : AggregateFunction) : Form :=
  functionForm function + exactly "\"" * functionForm function * exactly "\""

def measuredForm (field : String) : Form :=
  nameForm field + if field = wildcard then exactly wildcard else 0

def aliasForm : Option String → Form
  | none => 1
  | some name => space * spelled "AS" * space * nameForm name

def selectForm : SelectItem → Form
  | .all => exactly wildcard
  | .field field => nameForm field
  | .aggregate function field alias? =>
    calledForm function * blanks * exactly "(" * blanks * measuredForm field * blanks *
      exactly ")" * aliasForm alias?

def distinctForm (distinct : Bool) : Form := if distinct then spelled "DISTINCT" * space else 1

def intervalForm (interval : String) : Form :=
  {text | text = interval.toList ∧
    ∃ (digits : Digits) (unit : DurationUnit), text = digits.text ++ [unit.symbol]}

def groupForm : GroupItem → Form
  | .tag tag => nameForm tag
  | .interval interval => spelled "time" * exactly "(" * intervalForm interval * exactly ")"

def groupingForm (items : List GroupItem) : Form :=
  space * spelled "BY" * space * listed groupForm items

def fillForm : FillPolicy → Form
  | .null => spelled "null"
  | .none => spelled "none"
  | .previous => spelled "previous"
  | .linear => spelled "linear"
  | .value number => {text | ∃ numeral : Numeral, numeral.toFloat = number ∧ text = numeral.text}

def fillingForm (policy : FillPolicy) : Form :=
  blanks * exactly "(" * fillForm policy * exactly ")"

def directionForm : SortDirection → Form
  | .ascending => 1 + space * spelled "ASC"
  | .descending => space * spelled "DESC"

def orderForm (order : String × SortDirection) : Form := nameForm order.1 * directionForm order.2

def orderingForm (items : List (String × SortDirection)) : Form :=
  space * spelled "BY" * space * listed orderForm items

/-- What follows the words LIMIT and OFFSET. -/
def countingForm (count : UInt64) : Form := space * countForm count

def joinedForm (item : Connective × WhereItem) : Form :=
  space * connectiveForm item.1 * space * itemForm item.2

/-- What follows the word WHERE. How the first item is joined is not written. -/
def whereForm : List (Connective × WhereItem) → Form
  | (.and, first) :: others => space * itemForm first * (others.map joinedForm).prod
  | _ => 0

def havingForm (having : String × Operator × Scalar) : Form :=
  space * nameForm having.1 * blanks * operatorForm having.2.1 * blanks * numberForm having.2.2

def clauseForm {α : Type} (word : String) (form : α → Form) : Option α → Form
  | none => 1
  | some content => space * spelled word * form content

/-- An empty list stands for an absent clause. -/
def present? {α : Type} : List α → Option (List α)
  | [] => none
  | items => some items

namespace Clauses

def restForm (clauses : Clauses) : Form :=
  clauseForm "WHERE" whereForm (present? clauses.conditions) *
    (clauseForm "GROUP" groupingForm (present? clauses.grouping) *
      (clauseForm "HAVING" havingForm clauses.having? *
        (clauseForm "FILL" fillingForm clauses.fill? *
          (clauseForm "ORDER" orderingForm (present? clauses.ordering) *
            (clauseForm "LIMIT" countingForm clauses.limit? *
              clauseForm "OFFSET" countingForm clauses.offset?)))))

def form (clauses : Clauses) : Form :=
  spelled "SELECT" * (space * (distinctForm clauses.distinct *
    listed selectForm clauses.selection)) *
      (space * (spelled "FROM" * (space * (nameForm clauses.measurement * clauses.restForm))))

end Clauses

end SeriesQuery.Language
