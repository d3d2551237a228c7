import Mathlib.Data.Fintype.Basic
import Mathlib.Tactic.FinCases
import SeriesQuery.Proofs.Flux.Filters

/-!
The calls of a script, read back from its text. What opens a script depends on the zone that is set
and on whether gaps are interpolated; each of its stages is the call of one function.
-/

set_option autoImplicit false

namespace SeriesQuery.Flux

/-! ## Readers -/

/-- The functions that take a column and nothing else. -/
def plainReducers : List (String × AggregateFunction) :=
  [("mean", .mean), ("sum", .sum), ("min", .min), ("max", .max), ("count", .count),
    ("first", .first), ("last", .last), ("median", .median), ("stddev", .stddev),
    ("spread", .spread)]

/-- The functions that copy a column or reduce one. -/
def aggregatingCalls : List String := "duplicate" :: "quantile" :: plainReducers.map Prod.fst

/-- A number with two decimal places at most, in hundredths. -/
def hundredths? (text : List Char) : Option Nat := do
  let (whole, places) := (Text.splitFirst? '.' text).getD (text, [])
  let places ← match places with
    | [] => some ['0', '0']
    | [tenths] => some [tenths, '0']
    | [tenths, hundredths] => some [tenths, hundredths]
    | _ => none
  (Decimal.readDigits? (whole ++ places)).filter (· < UInt8.size)

/-- What stands before the first parenthesis. -/
def callName (text : String) : String := String.ofList (text.toList.takeWhile (· != '('))

def readColumn : List Token → Option String
  | [.text column, .symbol ')'] => some (String.ofList column)
  | _ => none

/-- The column that is made by `duplicate(column: "_value", as: "column")`. -/
def readCopy (text : String) : Option String := do
  let rest ← expect [wordOf "duplicate", .symbol '(', wordOf "column", .symbol ':',
    .text "_value".toList, .symbol ',', wordOf "as", .symbol ':'] (← lex text.toList)
  readColumn rest

/-- A function, up to the column that it takes. -/
def readFunction : Reading AggregateFunction
  | .word ['q', 'u', 'a', 'n', 't', 'i', 'l', 'e'] :: .symbol '(' :: .word ['q'] :: .symbol ':' ::
      .word share :: .symbol ',' :: rest =>
    (hundredths? share).map fun percent => (.percentile (UInt8.ofNat percent), rest)
  | .word name :: .symbol '(' :: rest =>
    (plainReducers.lookup (String.ofList name)).map fun function => (function, rest)
  | _ => none

/-- What `mean(column: "column")` applies to which column; or `quantile(q: 0.95, column: "column")`
for a percentile. -/
def readReducer (text : String) : Option (AggregateFunction × String) := do
  let (function, rest) ← readFunction (← lex text.toList)
  let column ← readColumn (← expect [wordOf "column", .symbol ':'] rest)
  return (function, column)

def columnOf? : Term → Option String
  | .string column => some column
  | _ => none

/-- The columns and the direction of `sort(columns: ["column", …], desc: true)`. -/
def readSort (text : String) : Option (List String × Bool) := do
  let rest ← expect [wordOf "sort", .symbol '(', wordOf "columns", .symbol ':', .symbol '[']
    (← lex text.toList)
  let (terms, rest) ← readSet rest
  let columns ← terms.mapM columnOf?
  match ← expect [.symbol ',', wordOf "desc", .symbol ':'] rest with
  | [direction, .symbol ')'] =>
    if direction = wordOf "true" then return (columns, true)
    else if direction = wordOf "false" then return (columns, false)
    else none
  | _ => none

/-! ## Copies and reducers -/

theorem opening_duplicate : Opening "duplicate(column: "
    [wordOf "duplicate", .symbol '(', wordOf "column", .symbol ':'] :=
  ⟨by decide, by simp +decide [Lexes, lex, wordToken, wordOf]⟩

theorem glue_as : Glue ", as: " [.symbol ',', wordOf "as", .symbol ':'] :=
  ⟨⟨by decide, by simp +decide [Lexes, lex, wordToken, wordOf]⟩, by decide, by decide⟩

theorem readColumn_toList (column : String) :
    readColumn [.text column.toList, .symbol ')'] = some column := by
  rw [readColumn, String.ofList_toList]

theorem readCopy_text (column : String) : readCopy (Stage.duplicate column).text = some column := by
  have original : "duplicate(column: \"_value\", as: " =
      "duplicate(column: " ++ Text.quoted valueColumn ++ ", as: " := by decide
  have lexed := ((opening_duplicate.append (lexes_quoted valueColumn)).glue glue_as
    (lexes_quoted column)).close closing_parenthesis
  rw [← original, Lexes, List.append_assoc] at lexed
  unfold readCopy Stage.text
  simp only [lexed, Option.bind_eq_bind, Option.bind_some]
  exact readColumn_toList column

theorem mapM_readCopy (columns : List String) :
    (columns.map fun column => (Stage.duplicate column).text).mapM readCopy = some columns := by
  have each : ∀ column ∈ columns, readCopy (Stage.duplicate column).text = some (id column) :=
    fun column _ => readCopy_text column
  rw [mapM_map, mapM_of_forall each, List.map_id]

/-- What the shortest text of so many hundredths is read as, without going through its bytes. -/
def percentShown? (percent : Nat) : Option Nat :=
  match Decimal.parts (Decimal.nearest false percent (-2)) with
  | .finite negative mantissa exponent =>
    hundredths? ((if negative then ['-'] else []) ++
      Decimal.plainStyle.magnitude (Decimal.shortest mantissa exponent))
  | _ => none

/-- Eight by eight, so that no more is computed at once. -/
theorem percentShown?_eq (block : Fin 32) (place : Fin 8) :
    percentShown? (8 * block.val + place.val) = some (8 * block.val + place.val) := by
  revert place
  fin_cases block <;> decide +kernel

theorem exists_parts_percent (percent : UInt8) : ∃ negative mantissa exponent,
    Decimal.parts (Decimal.nearest false percent.toNat (-2)) = .finite negative mantissa exponent ∧
      hundredths? ((if negative then ['-'] else []) ++
        Decimal.plainStyle.magnitude (Decimal.shortest mantissa exponent)) = some percent.toNat := by
  have bound := percent.toNat_lt
  have shown := percentShown?_eq ⟨percent.toNat / 8, by omega⟩ ⟨percent.toNat % 8, by omega⟩
  simp only [Nat.div_add_mod] at shown
  unfold percentShown? at shown
  split at shown
  · next negative mantissa exponent same => exact ⟨negative, mantissa, exponent, same, shown⟩
  · cases shown

theorem hundredths?_quantileText (percent : UInt8) :
    hundredths? (quantileText percent).toList = some percent.toNat := by
  obtain ⟨negative, mantissa, exponent, same, shown⟩ := exists_parts_percent percent
  unfold quantileText Decimal.plain Decimal.FloatStyle.write
  rw [same]
  simp only [String.toList_ofList]
  exact shown

theorem numeric_quantileText (percent : UInt8) :
    Decimal.Numeric (quantileText percent).toList := by
  obtain ⟨negative, mantissa, exponent, same, -⟩ := exists_parts_percent percent
  apply Decimal.numeric_plain
  rw [Decimal.isFinite, same]

theorem readReducer_of_lexes {text column : String} {function : AggregateFunction}
    (front : List Token) (read : ∀ rest, readFunction (front ++ rest) = some (function, rest))
    (lexed : Lexes text
      (front ++ [wordOf "column", .symbol ':', .text column.toList, .symbol ')'])) :
    readReducer text = some (function, column) := by
  unfold readReducer
  rw [lexed, Option.bind_eq_bind, Option.bind_some, read]
  show (do return (function, ← readColumn [.text column.toList, .symbol ')'])) = _
  rw [readColumn_toList]
  rfl

theorem opening_quantile : Opening "quantile(q: "
    [wordOf "quantile", .symbol '(', wordOf "q", .symbol ':'] :=
  ⟨by decide, by simp +decide [Lexes, lex, wordToken, wordOf]⟩

theorem glue_column : Glue ", column: " [.symbol ',', wordOf "column", .symbol ':'] :=
  ⟨⟨by decide, by simp +decide [Lexes, lex, wordToken, wordOf]⟩, by decide, by decide⟩

theorem glue_onlyColumn : Glue "(column: " [.symbol '(', wordOf "column", .symbol ':'] :=
  ⟨⟨by decide, by simp +decide [Lexes, lex, wordToken, wordOf]⟩, by decide, by decide⟩

theorem joined_quantile (share column : String) :
    "quantile" ++ "(" ++ ", ".intercalate ["q: " ++ share, "column: " ++ column] ++ ")" =
      "quantile(q: " ++ share ++ ", column: " ++ column ++ ")" := by
  have opening : "quantile(q: " = "quantile" ++ "(" ++ "q: " := rfl
  have between : ", column: " = ", " ++ "column: " := rfl
  simp only [opening, between, String.intercalate_cons_cons, String.intercalate_singleton,
    String.append_assoc]

theorem joined_plain (name column : String) :
    name ++ "(" ++ ", ".intercalate ["column: " ++ column] ++ ")" =
      name ++ "(column: " ++ column ++ ")" := by
  have between : "(column: " = "(" ++ "column: " := rfl
  simp only [between, String.intercalate_singleton, String.append_assoc]

theorem readReducer_percentile (percent : UInt8) (column : String) :
    readReducer (Stage.reduce (.percentile percent) (some column)).text =
      some (.percentile percent, column) := by
  have lexed := ((opening_quantile.append (lexes_numeric (numeric_quantileText percent))).glue
    glue_column (lexes_quoted column)).close closing_parenthesis
  rw [← joined_quantile] at lexed
  refine readReducer_of_lexes [wordOf "quantile", .symbol '(', wordOf "q", .symbol ':',
    .word (quantileText percent).toList, .symbol ','] (fun rest => ?_) lexed
  show (hundredths? (quantileText percent).toList).map _ = _
  rw [hundredths?_quantileText, Option.map_some, UInt8.ofNat_toNat]
  rfl

theorem readReducer_named {name column : String} {function : AggregateFunction}
    (word : wordToken name.toList = wordOf name) (nonempty : name.toList ≠ [])
    (all : ∀ c ∈ name.toList, isWord c = true)
    (read : ∀ rest, readFunction (wordOf name :: .symbol '(' :: rest) = some (function, rest)) :
    readReducer (name ++ "(" ++ ", ".intercalate ["column: " ++ Text.quoted column] ++ ")") =
      some (function, column) := by
  have named := lexes_word nonempty all
  rw [word] at named
  have lexed := (named.glue glue_onlyColumn (lexes_quoted column)).close closing_parenthesis
  rw [← joined_plain] at lexed
  exact readReducer_of_lexes [wordOf name, .symbol '('] read lexed

theorem readReducer_text (function : AggregateFunction) (column : String) :
    readReducer (Stage.reduce function (some column)).text = some (function, column) := by
  cases function with
  | percentile percent => exact readReducer_percentile percent column
  | _ => exact readReducer_named (by decide) (by decide) (by decide) fun rest => rfl

/-! ## Sorting -/

theorem opening_sort : Opening "sort(columns: ["
    [wordOf "sort", .symbol '(', wordOf "columns", .symbol ':', .symbol '['] :=
  ⟨by decide, by simp +decide [Lexes, lex, wordToken, wordOf]⟩

theorem glue_desc : Glue "], desc: " [.symbol ']', .symbol ',', wordOf "desc", .symbol ':'] :=
  ⟨⟨by decide, by simp +decide [Lexes, lex, wordToken, wordOf]⟩, by decide, by decide⟩

theorem lexes_boolText (value : Bool) :
    Lexes (Scalar.boolText value) [wordOf (Scalar.boolText value)] := by
  cases value with
  | true => exact lexes_word (by decide) (by decide)
  | false => exact lexes_word (by decide) (by decide)

theorem mapM_columnOf? (columns : List String) :
    (columns.map Term.string).mapM columnOf? = some columns := by
  have each : ∀ column ∈ columns, columnOf? (.string column) = some (id column) := fun _ _ => rfl
  rw [mapM_map, mapM_of_forall each, List.map_id]

theorem readSort_text (columns : List String) (descending : Bool) :
    readSort (Stage.sort columns descending).text = some (columns, descending) := by
  have names : Lexes (", ".intercalate (columns.map Text.quoted))
      ([.symbol ','].intercalate ((columns.map Term.string).map Term.tokens)) := by
    rw [List.map_map]
    exact lexes_intercalate glue_comma fun column _ => lexes_quoted column
  have lexed := (((opening_sort.append names).glue glue_desc (lexes_boolText descending))).close
    closing_parenthesis
  have clear : ∀ term ∈ columns.map Term.string, term.isClear = true :=
    List.forall_mem_map.2 fun _ _ => rfl
  have read : readSet ([.symbol ','].intercalate ((columns.map Term.string).map Term.tokens) ++
      ([.symbol ']', .symbol ',', wordOf "desc", .symbol ':'] ++
        ([wordOf (Scalar.boolText descending)] ++ [.symbol ')']))) =
      some (columns.map Term.string, [.symbol ',', wordOf "desc", .symbol ':',
        wordOf (Scalar.boolText descending), .symbol ')']) := readSet_append clear _
  rw [Lexes] at lexed
  simp only [List.append_assoc] at lexed
  unfold readSort Stage.text
  simp only [lexed, expect_append, read, mapM_columnOf?, Option.bind_eq_bind, Option.bind_some]
  cases descending <;> rfl

/-! ## Names -/

def Stage.call : Stage → String
  | .rangeBack _ | .range _ _ => "range"
  | .timeShift _ => "timeShift"
  | .measurement _ | .filter _ | .fields _ | .having _ _ _ => "filter"
  | .distinct => "distinct"
  | .group _ => "group"
  | .window _ => "window"
  | .duplicate _ => "duplicate"
  | .reduce function _ => reducerName function
  | .fillNull | .fillPrevious | .fillValue _ => "fill"
  | .interpolate _ => "interpolate.linear"
  | .map _ _ => "map"
  | .sort _ _ => "sort"
  | .tail _ => "tail"
  | .limit _ => "limit"

theorem callName_append {front : String} (called : '(' ∈ front.toList) (rest : String) :
    callName (front ++ rest) = callName front := by
  have stopped : ((front.toList.takeWhile (· != '(')).length ≠ front.toList.length) := by
    intro whole
    have same := (List.takeWhile_prefix _).eq_of_length whole
    exact absurd (List.takeWhile_eq_self_iff.1 same _ called) (by decide)
  rw [callName, String.toList_append, List.takeWhile_append, if_neg stopped, callName]

theorem callName_reduce (function : AggregateFunction) (column? : Option String) :
    callName (Stage.reduce function column?).text = reducerName function := by
  have opened : callName (reducerName function ++ "(") = reducerName function := by
    cases function with
    | percentile percent => exact (by decide : callName ("quantile" ++ "(") = "quantile")
    | _ => decide
  show callName (reducerName function ++ "(" ++
    ", ".intercalate (reducerArguments function column?) ++ ")") = _
  rw [String.append_assoc, callName_append (by simp), opened]

theorem callName_text (stage : Stage) : callName stage.text = stage.call := by
  cases stage with
  | reduce function column? => exact callName_reduce function column?
  | interpolate every? =>
    cases every? with
    | none => rfl
    | some every =>
      unfold Stage.text
      simp (disch := decide) only [String.append_assoc, callName_append]
      rfl
  | distinct => rfl
  | fillNull => rfl
  | fillPrevious => rfl
  | _ =>
    unfold Stage.text
    simp (disch := decide) only [String.append_assoc, callName_append]
    rfl

/-! ## Scripts -/

/-- Packages and options, and an empty line behind them if there are any. -/
def preamble (linear : Bool) : Option String → String
  | none => if linear then "import \"interpolate\"\n\n" else ""
  | some zone => (if linear then "import \"interpolate\"\n" else "") ++
    "import \"timezone\"\noption location = timezone.location(name: " ++ Text.quoted zone ++ ")\n\n"

/-- What the script of a query starts with. -/
def sourceText (bucket : String) (query : Query) : String :=
  preamble (query.fill? == some .linear) (namedZone? query) ++
    "from(bucket: " ++ Text.quoted bucket ++ ")"

/-- Calls, each on a line of its own. -/
def piped (calls : List String) : String := String.join (calls.map ("\n  |> " ++ ·))

theorem openingText_eq (script : Script) (bucket : String) :
    openingText script bucket =
      preamble (script.stages.any Stage.interpolates) script.location? ++
        "from(bucket: " ++ Text.quoted bucket ++ ")" := by
  obtain ⟨location?, stages⟩ := script
  unfold openingText Script.header Script.imports preamble
  cases location? with
  | none => cases stages.any Stage.interpolates <;> rfl
  | some zone =>
    have package : "import \"timezone\"\noption location = timezone.location(name: " =
        "import \"timezone\"\n" ++ "option location = timezone.location(name: " := rfl
    have lineEnds : ")\n\n" = ")\n" ++ "\n" := rfl
    simp only [package, lineEnds, String.append_assoc]
    cases stages.any Stage.interpolates <;> rfl

theorem interpolates_fillStages {interval? : Option Duration} {policy? : Option FillPolicy}
    {stages : List Stage} (made : fillStages interval? policy? = .ok stages) :
    stages.any Stage.interpolates = (policy? == some .linear) := by
  unfold fillStages at made
  split at made
  case h_4 number =>
    split at made
    · cases made
      rfl
    · cases made
  all_goals
    cases made
    rfl

/-- Stages interpolate where the query asks for it, and nowhere else. -/
theorem interpolates_plan {query : Query} {parts : Parts} (made : parts.MadeFor query) :
    (parts.plan query).script.stages.any Stage.interpolates = (query.fill? == some .linear) := by
  have none {stages : List Stage} (each : ∀ stage ∈ stages, stage.interpolates = false) :
      stages.any Stage.interpolates = false :=
    List.any_eq_false.2 fun stage member => by rw [each stage member]; exact Bool.false_ne_true
  have before := none (forall_beforeAggregations (·.interpolates = false) query parts
    (fun _ => rfl) (fun _ _ => rfl) (fun _ => rfl) (fun _ => rfl) (fun _ _ => rfl) (fun _ => rfl) rfl
    (fun _ => rfl) fun _ => rfl)
  have reducers := none (forall_aggregationStages (·.interpolates = false) (fun _ => rfl)
    (fun _ _ => rfl) query.aggregations)
  have having := none (forall_having (·.interpolates = false) made fun _ _ _ => rfl)
  have math := none (List.forall_mem_map.2 fun math (_ : math ∈ query.math) =>
    (rfl : (Stage.map math.name math.expression).interpolates = false))
  have sorts := none (forall_sortStages (·.interpolates = false) (fun _ _ => rfl) query.orderBy)
  have tail := none (forall_toList (·.interpolates = false) Stage.tail (fun _ => rfl) query.offset?)
  have limit := none (forall_toList (·.interpolates = false) Stage.limit (fun _ => rfl) query.limit?)
  rw [stages_plan, Parts.afterAggregations]
  simp only [List.any_append, before, reducers, having, math, sorts, tail, limit, Bool.false_or,
    Bool.or_false, interpolates_fillStages made.fill]

theorem text_plan {query : Query} {parts : Parts} (made : parts.MadeFor query) (bucket : String) :
    (parts.plan query).script.text bucket =
      sourceText bucket query ++ piped ((parts.plan query).script.stages.map Stage.text) := by
  have stages : stagesText (parts.plan query).script.stages =
      piped ((parts.plan query).script.stages.map Stage.text) := by
    rw [stagesText, piped, List.map_map]
    rfl
  rw [text_eq_openingText_append, openingText_eq, interpolates_plan made, stages]
  rfl

end SeriesQuery.Flux
