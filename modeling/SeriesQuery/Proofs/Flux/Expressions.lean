import SeriesQuery.Proofs.Flux.Tokens

/-!
Boolean expressions of scripts. Comparisons, `exists` and `contains` bind tightest, then `not`, then
`and`, then `or`.
-/

set_option autoImplicit false

namespace SeriesQuery.Flux

/-- What a cell is compared with. -/
inductive Term where
  /-- A number or a truth value, as it is written. -/
  | word (text : String)
  | string (content : String)
  /-- The instant that the server reads from the text. -/
  | time (content : String)
  deriving Repr, DecidableEq

inductive Expression where
  | always
  | present (column : String)
  | compare (column : String) (operator : Operator) (term : Term)
  | member (column : String) (terms : List Term)
  | not (negated : Expression)
  | and (first second : Expression)
  | or (first second : Expression)
  deriving Repr, DecidableEq

/-! ## Meaning -/

/-- A row, with any reading of the comparisons of its columns. -/
structure Row where
  has : String → Prop
  compares : String → Operator → Term → Prop

namespace Expression

def holds (row : Row) : Expression → Prop
  | .always => True
  | .present column => row.has column
  | .compare column operator term => row.compares column operator term
  | .member column terms => ∃ term ∈ terms, row.compares column .equal term
  | .not negated => ¬negated.holds row
  | .and first second => first.holds row ∧ second.holds row
  | .or first second => first.holds row ∨ second.holds row

def all : List Expression → Expression
  | [] => .always
  | [single] => single
  | first :: others => .and first (all others)

def any (first : Expression) : List Expression → Expression
  | [] => first
  | second :: others => .or first (any second others)

theorem holds_all (row : Row) (expressions : List Expression) :
    (all expressions).holds row ↔ ∀ expression ∈ expressions, expression.holds row := by
  induction expressions with
  | nil => simp [all, holds]
  | cons first others ih =>
    cases others with
    | nil => simp [all]
    | cons second rest => simp only [all, holds, ih, List.forall_mem_cons]

theorem holds_any (row : Row) (first : Expression) (others : List Expression) :
    (any first others).holds row ↔ ∃ expression ∈ first :: others, expression.holds row := by
  induction others generalizing first with
  | nil => simp [any]
  | cons second rest ih =>
    rw [any, holds, ih]
    simp

end Expression

/-! ## Reading -/

abbrev Reading (α : Type) := List Token → Option (α × List Token)

def expect (expected tokens : List Token) : Option (List Token) :=
  if expected.isPrefixOf tokens then some (tokens.drop expected.length) else none

def wordOf (text : String) : Token := .word text.toList

def readCell : Reading String
  | .word ('r' :: '.' :: column) :: rest => some (String.ofList column, rest)
  | .word ['r'] :: .symbol '[' :: .text column :: .symbol ']' :: rest =>
    some (String.ofList column, rest)
  | _ => none

def readOperator : Reading Operator
  | .operator ['=', '='] :: rest => some (.equal, rest)
  | .operator ['!', '='] :: rest => some (.notEqual, rest)
  | .operator ['>'] :: rest => some (.greater, rest)
  | .operator ['>', '='] :: rest => some (.greaterOrEqual, rest)
  | .operator ['<'] :: rest => some (.less, rest)
  | .operator ['<', '='] :: rest => some (.lessOrEqual, rest)
  | _ => none

def isValue (word : List Char) : Bool :=
  word = "true".toList || word = "false".toList || word.all Decimal.isNumeral

def readTerm : Reading Term
  | .text content :: rest => some (.string (String.ofList content), rest)
  | .word ['t', 'i', 'm', 'e'] :: .symbol '(' :: .word ['v'] :: .symbol ':' :: .text content ::
      .symbol ')' :: rest => some (.time (String.ofList content), rest)
  | .word word :: rest => if isValue word then some (.word (String.ofList word), rest) else none
  | _ => none

/-- Terms with commas between them; each takes one of as many tokens as there are. -/
def readTerms : Nat → Reading (List Term)
  | 0, _ => none
  | count + 1, tokens =>
    match readTerm tokens with
    | some (first, .symbol ',' :: rest) =>
      (readTerms count rest).map fun (others, rest) => (first :: others, rest)
    | some (first, rest) => some ([first], rest)
    | none => none

def readSet : Reading (List Term)
  | .symbol ']' :: rest => some ([], rest)
  | tokens => do
    let (terms, rest) ← readTerms tokens.length tokens
    return (terms, ← expect [.symbol ']'] rest)

def readPresence : Reading Expression := fun tokens => do
  let (column, rest) ← readCell (← expect [wordOf "exists"] tokens)
  return (.present column, rest)

/-- `contains(value: cell, set: [term, …])`. -/
def readMembership : Reading Expression := fun tokens => do
  let rest ← expect [wordOf "contains", .symbol '(', wordOf "value", .symbol ':'] tokens
  let (column, rest) ← readCell rest
  let rest ← expect [.symbol ',', wordOf "set", .symbol ':', .symbol '['] rest
  let (terms, rest) ← readSet rest
  return (.member column terms, ← expect [.symbol ')'] rest)

/-- `cell operator term`. -/
def readComparison : Reading Expression := fun tokens => do
  let (column, rest) ← readCell tokens
  let (operator, rest) ← readOperator rest
  let (term, rest) ← readTerm rest
  return (.compare column operator term, rest)

def readAlways : Reading Expression := fun tokens => do
  return (.always, ← expect [wordOf "true"] tokens)

def readSimple : Reading Expression := fun tokens =>
  (((readPresence tokens).or (readMembership tokens)).or (readComparison tokens)).or
    (readAlways tokens)

mutual

def readAny : Nat → Reading Expression
  | 0, _ => none
  | depth + 1, tokens =>
    match readAll depth tokens with
    | some (first, .or :: rest) =>
      (readAny depth rest).map fun (second, rest) => (.or first second, rest)
    | found => found

def readAll : Nat → Reading Expression
  | 0, _ => none
  | depth + 1, tokens =>
    match readNegation depth tokens with
    | some (first, .and :: rest) =>
      (readAll depth rest).map fun (second, rest) => (.and first second, rest)
    | found => found

def readNegation : Nat → Reading Expression
  | 0, _ => none
  | depth + 1, .not :: rest =>
    (readNegation depth rest).map fun (negated, rest) => (.not negated, rest)
  | depth + 1, tokens => readAtom depth tokens

def readAtom : Nat → Reading Expression
  | depth + 1, .symbol '(' :: rest => do
    let (inner, rest) ← readAny depth rest
    return (inner, ← expect [.symbol ')'] rest)
  | _, tokens => readSimple tokens

end

/-- `filter(fn: (r) => expression)`. No expression is deeper than four for each token. -/
def readFilter (text : String) : Option Expression := do
  let tokens ← lex text.toList
  let rest ← expect [wordOf "filter", .symbol '(', wordOf "fn", .symbol ':', .symbol '(',
    wordOf "r", .symbol ')', .operator ['=', '>']] tokens
  let (expression, rest) ← readAny (4 * tokens.length) rest
  if rest = [.symbol ')'] then return expression else none

end SeriesQuery.Flux
