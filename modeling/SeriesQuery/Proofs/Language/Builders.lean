import SeriesQuery.Proofs.Language.Statement
import SeriesQuery.Proofs.Query.Steps

/-!
A written query is the query that is built by the steps its parts ask for: the selection, each
condition in the order of the text, the window that the bounds of the time make, and what follows the
conditions.
-/

set_option autoImplicit false

namespace SeriesQuery.Language

open Query (Step)

/-! ## The steps that are written -/

inductive Bound where
  | latest (duration : Duration)
  | lower (instant : Time.Instant)
  | upper (operator : Operator) (instant : Time.Instant)

/-- What an item asks for: a condition, joined in its own way, or a bound of the time. A date that
the time is or is not bounds nothing. -/
def WhereItem.asked (connective : Connective) : WhereItem → Condition ⊕ Bound
  | .latest duration => .inr (.latest duration)
  | .timeBound .greater instant => .inr (.lower instant)
  | .timeBound .greaterOrEqual instant => .inr (.lower instant)
  | .timeBound .less instant => .inr (.upper .less instant)
  | .timeBound .lessOrEqual instant => .inr (.upper .lessOrEqual instant)
  | .timeBound operator instant =>
    .inl ⟨"time", operator, .scalar (.timestamp instant), connective⟩
  | .condition field operator value => .inl ⟨field, operator, value, connective⟩

/-- The bounds make one window: none, a distance from now, or the time between a lower and an upper
bound. An upper bound alone is a condition behind all others. -/
inductive Bounded : List Bound → List Step → Prop where
  | unbounded : Bounded [] []
  | latest (duration : Duration) : Bounded [.latest duration] [.latestDuration duration]
  | between {bounds : List Bound} {start finish : Time.Instant} {operator : Operator}
      (both : bounds.Perm [.lower start, .upper operator finish]) :
      Bounded bounds [.timeRange start finish]
  | upper (operator : Operator) (finish : Time.Instant) :
      Bounded [.upper operator finish]
        [.condition ⟨"time", operator, .scalar (.timestamp finish), .and⟩]

def SelectItem.chosen? : SelectItem → Option String
  | .all => some "*"
  | .field name => some name
  | .aggregate .. => none

def SelectItem.step? : SelectItem → Option Step
  | .aggregate function name alias? => some (.aggregate function name alias?)
  | _ => none

def GroupItem.step : GroupItem → Step
  | .tag name => .groupByTag name
  | .interval text => .interval text

namespace Clauses

variable (clauses : Clauses)

def asked : List (Condition ⊕ Bound) :=
  clauses.conditions.map fun (connective, item) => item.asked connective

def bounds : List Bound := clauses.asked.filterMap Sum.getRight?

def choices : List Step :=
  .select (clauses.selection.filterMap SelectItem.chosen?) ::
    (clauses.selection.filterMap SelectItem.step? ++
      if clauses.distinct then [.distinctRows] else [])

def refinements : List Step :=
  clauses.grouping.map GroupItem.step ++
    (clauses.having?.toList.map (fun (field, operator, value) =>
        .havingOperator field operator value) ++
      (clauses.fill?.toList.map .fill ++
        (clauses.ordering.map (fun (field, direction) => .order field direction) ++
          (clauses.limit?.toList.map .limit ++ clauses.offset?.toList.map .offset))))

/-- The steps of a query with this window. -/
def steps (window : List Step) : List Step :=
  clauses.choices ++
    ((clauses.asked.filterMap Sum.getLeft?).map .condition ++ (window ++ clauses.refinements))

end Clauses

/-! ## What the steps build -/

section
variable {clauses : Clauses}

theorem foldl_addAggregate (items : List SelectItem) (query : Query) :
    items.foldl SelectItem.addAggregate query =
      (items.filterMap SelectItem.step?).foldl Step.apply query := by
  induction items generalizing query with
  | nil => rfl
  | cons item others ih =>
    rw [List.foldl_cons, ih]
    cases item <;> rfl

theorem foldl_step_select (items : List SelectItem) (query : Query) (fields : List String) :
    ((items.filterMap SelectItem.step?).foldl Step.apply query).select fields =
      (items.filterMap SelectItem.step?).foldl Step.apply (query.select fields) := by
  induction items generalizing query with
  | nil => rfl
  | cons item others ih => cases item <;> exact ih _

theorem foldl_choices (query : Query) :
    clauses.choices.foldl Step.apply query =
      (let chosen := (clauses.selection.foldl SelectItem.addAggregate query).select
        (clauses.selection.filterMap SelectItem.field?)
      if clauses.distinct then chosen.distinctRows else chosen) := by
  have same : SelectItem.field? = SelectItem.chosen? := by
    funext item
    cases item <;> rfl
  rw [foldl_addAggregate, foldl_step_select, same, Clauses.choices, List.foldl_cons,
    List.foldl_append]
  cases clauses.distinct <;> rfl

theorem foldl_conditions (items : List (Connective × WhereItem)) (query : Query) :
    (items.filterMap WhereItem.condition?).foldl Query.condition query =
      (((items.map fun (connective, item) => item.asked connective).filterMap Sum.getLeft?).map
        Step.condition).foldl Step.apply query := by
  have same : WhereItem.condition? =
      Sum.getLeft? ∘ fun (connective, item) => item.asked connective := by
    funext ⟨connective, item⟩
    cases item with
    | timeBound operator instant => cases operator <;> rfl
    | _ => rfl
  rw [same, ← List.filterMap_map, List.foldl_map]
  rfl

theorem foldl_refinements (query : Query) :
    clauses.refinements.foldl Step.apply query = clauses.refine query := by
  have groups (query : Query) : (clauses.grouping.map GroupItem.step).foldl Step.apply query =
      clauses.grouping.foldl GroupItem.addTo query := by
    rw [List.foldl_map]
    congr 1
    funext query item
    cases item <;> rfl
  rw [Clauses.refinements, List.foldl_append, groups, Clauses.refine]
  simp only [List.foldl_append, List.foldl_map]
  cases clauses.having? <;> cases clauses.fill? <;> cases clauses.limit? <;>
    cases clauses.offset? <;> rfl

end

/-! ## Bounds -/

namespace Bound

def latest? : Bound → Option Duration
  | .latest duration => some duration
  | _ => none

def lower? : Bound → Option Time.Instant
  | .lower instant => some instant
  | _ => none

def upper? : Bound → Option (Operator × Time.Instant)
  | .upper operator instant => some (operator, instant)
  | _ => none

end Bound

section
variable {clauses : Clauses} {window : List Step}

theorem filterMap_items {β : Type} {read : WhereItem → Option β} {ofBound : Bound → Option β}
    (same : ∀ connective item, read item = (item.asked connective).getRight?.bind ofBound) :
    clauses.items.filterMap read = clauses.bounds.filterMap ofBound := by
  rw [Clauses.items, Clauses.bounds, Clauses.asked, List.filterMap_map, List.filterMap_map,
    List.filterMap_filterMap]
  exact List.filterMap_congr fun item _ => same item.1 item.2

theorem bound_eq (connective : Connective) (item : WhereItem) :
    item.latest? = (item.asked connective).getRight?.bind Bound.latest? ∧
      item.lowerBound? = (item.asked connective).getRight?.bind Bound.lower? ∧
      item.upperBound? = (item.asked connective).getRight?.bind Bound.upper? := by
  cases item with
  | timeBound operator instant => cases operator <;> exact ⟨rfl, rfl, rfl⟩
  | _ => exact ⟨rfl, rfl, rfl⟩

theorem latests_eq : clauses.latests = clauses.bounds.filterMap Bound.latest? :=
  filterMap_items fun connective item => (bound_eq connective item).1

theorem lowerBounds_eq : clauses.lowerBounds = clauses.bounds.filterMap Bound.lower? :=
  filterMap_items fun connective item => (bound_eq connective item).2.1

theorem upperBounds_eq : clauses.upperBounds = clauses.bounds.filterMap Bound.upper? :=
  filterMap_items fun connective item => (bound_eq connective item).2.2

/-- No date is taken from the clock where the bounds make a window. -/
theorem applyBounds_eq (bounded : Bounded clauses.bounds window) (now : Time.Instant)
    (query : Query) :
    applyBounds now clauses.items (clauses.latests.foldl Query.latestDuration query) =
      window.foldl Step.apply query := by
  have lowerBounds : clauses.items.filterMap WhereItem.lowerBound? = _ := lowerBounds_eq
  have upperBounds : clauses.items.filterMap WhereItem.upperBound? = _ := upperBounds_eq
  unfold applyBounds
  rw [lowerBounds, upperBounds, latests_eq]
  generalize clauses.bounds = bounds at bounded
  cases bounded with
  | unbounded => rfl
  | latest duration => rfl
  | upper operator finish => rfl
  | between both =>
    have latest := List.perm_nil.1 (both.filterMap Bound.latest?)
    have lower := List.perm_singleton.1 (both.filterMap Bound.lower?)
    have upper := List.perm_singleton.1 (both.filterMap Bound.upper?)
    rw [latest, lower, upper]
    rfl

theorem query_eq_built (bounded : Bounded clauses.bounds window) (now : Time.Instant) :
    clauses.query now = Query.built clauses.measurement (clauses.steps window) := by
  rw [Query.built, Clauses.steps, List.foldl_append, List.foldl_append, List.foldl_append,
    foldl_refinements, ← applyBounds_eq bounded now, Clauses.asked, ← foldl_conditions,
    foldl_choices]
  exact congrArg (fun query => clauses.refine (applyBounds now clauses.items query))
    (foldl_addTo clauses.conditions _)

end

/-- A query is read from any of its written forms as the one that its parts build, step by step. -/
theorem readQuery_of_written (now : Time.Instant) {clauses : Clauses} {text : String}
    {window : List Step} (written : text.toList ∈ clauses.form)
    (bounded : Bounded clauses.bounds window) :
    readQuery now text = .ok (Query.built clauses.measurement (clauses.steps window)) := by
  rw [readQuery_eq written, query_eq_built bounded]

/-! ## A query with every clause -/

def summary : Clauses where
  distinct := true
  selection := [.field "host", .aggregate .mean "usage" (some "average")]
  measurement := "cpu"
  conditions := [(.and, .timeBound .greaterOrEqual ⟨1698364800, 0, by decide⟩),
    (.and, .condition "host" .equal (.scalar (.string "a"))),
    (.or, .condition "load" .notIn (.list [.integer 1, .float 2.5])),
    (.and, .timeBound .less ⟨1698451200, 0, by decide⟩)]
  grouping := [.tag "host", .interval "5m"]
  having? := some ("average", .greater, .integer 90)
  fill? := some .previous
  ordering := [("host", .descending), ("time", .ascending)]
  limit? := some 10
  offset? := some 5

/-! Pieces of its text. -/

theorem mem_of_pieces {form : Form} {text : String} {pieces : List Char} (written : pieces ∈ form)
    (same : pieces = text.toList) : text.toList ∈ form := same ▸ written

theorem mem_exactly (piece : String) : piece.toList ∈ exactly piece := rfl

theorem mem_spelled {word : String} (piece : String)
    (same : piece.toList.map Char.toLower = word.toList.map Char.toLower) :
    piece.toList ∈ spelled word := same

theorem mem_nameForm (name : String) (quotable : name ≠ "" ∧ '"' ∉ name.toList) :
    '"' :: name.toList ++ ['"'] ∈ nameForm name := ⟨quotable.1, quotable.2, rfl⟩

theorem nil_mem_blanks : [] ∈ blanks := List.forall_mem_nil _

theorem blank_mem_blanks : " ".toList ∈ blanks := blank_mem_space.2

theorem selection_written :
    "SELECT distinct \"host\", Mean(\"usage\") AS \"average\"".toList ∈
      spelled "SELECT" * (space * (distinctForm true * listed selectForm summary.selection)) := by
  have mean : "Mean".toList ∈ calledForm .mean := .inl (.inl (.inl (mem_spelled "Mean" (by decide))))
  have usage : '"' :: "usage".toList ++ ['"'] ∈ measuredForm "usage" :=
    .inl (mem_nameForm "usage" (by decide))
  simp only [summary, distinctForm, listed, commaForm, selectForm, aliasForm, if_true, List.map_cons,
    List.map_nil, List.prod_cons, List.prod_nil, mul_one, mul_assoc]
  refine mem_of_pieces (Language.append_mem_mul (mem_spelled "SELECT" rfl) <|
    Language.append_mem_mul blank_mem_space <|
    Language.append_mem_mul (mem_spelled "distinct" (by decide)) <|
    Language.append_mem_mul blank_mem_space <|
    Language.append_mem_mul (mem_nameForm "host" (by decide)) <|
    Language.append_mem_mul nil_mem_blanks <| Language.append_mem_mul (mem_exactly ",") <|
    Language.append_mem_mul blank_mem_blanks <| Language.append_mem_mul mean <|
    Language.append_mem_mul nil_mem_blanks <| Language.append_mem_mul (mem_exactly "(") <|
    Language.append_mem_mul nil_mem_blanks <| Language.append_mem_mul usage <|
    Language.append_mem_mul nil_mem_blanks <| Language.append_mem_mul (mem_exactly ")") <|
    Language.append_mem_mul blank_mem_space <|
    Language.append_mem_mul (mem_spelled "AS" rfl) <|
    Language.append_mem_mul blank_mem_space (mem_nameForm "average" (by decide))) ?_
  decide +kernel

theorem conditions_written :
    (" WHERE time >= '2023-10-27T00:00:00Z' AND \"host\" = 'a'\tor \"load\" NOT IN (1, 2.5) AND " ++
        "Time < '2023-10-28T00:00:00Z'").toList ∈
      clauseForm "WHERE" whereForm (present? summary.conditions) := by
  have start : "'2023-10-27T00:00:00Z'".toList ∈ dateForm ⟨1698364800, 0, by decide⟩ :=
    ⟨"2023-10-27T00:00:00Z", by decide +kernel, by decide, by decide +kernel⟩
  have finish : "'2023-10-28T00:00:00Z'".toList ∈ dateForm ⟨1698451200, 0, by decide⟩ :=
    ⟨"2023-10-28T00:00:00Z", by decide +kernel, by decide, by decide +kernel⟩
  have letter : "'a'".toList ∈ quotedForm "a" := ⟨by decide, rfl⟩
  have tab : "\t".toList ∈ space :=
    ⟨by decide, show ∀ c ∈ "\t".toList, Text.isGap c = true by decide⟩
  have one : "1".toList ∈ numberForm (.integer 1) :=
    ⟨⟨false, ⟨['1'], by decide, by decide⟩, none⟩, ⟨rfl, by decide⟩, rfl⟩
  have half : "2.5".toList ∈ numberForm (.float 2.5) :=
    ⟨⟨false, ⟨['2'], by decide, by decide⟩, some ⟨['5'], by decide, by decide⟩⟩,
      ⟨by decide, by decide +kernel⟩, rfl⟩
  simp only [summary, present?, clauseForm, whereForm, joinedForm, itemForm, tailForm, comparedForm,
    operatorForm, literalForm, connectiveForm, valuesForm, listed, commaForm, List.map_cons,
    List.map_nil, List.prod_cons, List.prod_nil, mul_one, mul_assoc]
  refine mem_of_pieces (Language.append_mem_mul blank_mem_space <|
    Language.append_mem_mul (mem_spelled "WHERE" rfl) <|
    Language.append_mem_mul blank_mem_space <|
    Language.append_mem_mul (mem_spelled "time" rfl) <|
    Language.append_mem_mul blank_mem_blanks <| Language.append_mem_mul (mem_exactly ">=") <|
    Language.append_mem_mul blank_mem_blanks <| Language.append_mem_mul start <|
    Language.append_mem_mul blank_mem_space <|
    Language.append_mem_mul (mem_spelled "AND" rfl) <|
    Language.append_mem_mul blank_mem_space <|
    Language.append_mem_mul (mem_nameForm "host" (by decide)) <|
    Language.append_mem_mul blank_mem_blanks <|
    Language.append_mem_mul (.inl (mem_exactly "=")) <|
    Language.append_mem_mul blank_mem_blanks <| Language.append_mem_mul letter <|
    Language.append_mem_mul tab <| Language.append_mem_mul (mem_spelled "or" (by decide)) <|
    Language.append_mem_mul blank_mem_space <|
    Language.append_mem_mul (mem_nameForm "load" (by decide)) <|
    Language.append_mem_mul blank_mem_blanks <|
    Language.append_mem_mul (mem_spelled "NOT" rfl) <|
    Language.append_mem_mul blank_mem_space <| Language.append_mem_mul (mem_spelled "IN" rfl) <|
    Language.append_mem_mul blank_mem_blanks <| Language.append_mem_mul (mem_exactly "(") <|
    Language.append_mem_mul nil_mem_blanks <| Language.append_mem_mul one <|
    Language.append_mem_mul nil_mem_blanks <| Language.append_mem_mul (mem_exactly ",") <|
    Language.append_mem_mul blank_mem_blanks <| Language.append_mem_mul half <|
    Language.append_mem_mul nil_mem_blanks <| Language.append_mem_mul (mem_exactly ")") <|
    Language.append_mem_mul blank_mem_space <|
    Language.append_mem_mul (mem_spelled "AND" rfl) <|
    Language.append_mem_mul blank_mem_space <|
    Language.append_mem_mul (mem_spelled "Time" (by decide)) <|
    Language.append_mem_mul blank_mem_blanks <| Language.append_mem_mul (mem_exactly "<") <|
    Language.append_mem_mul blank_mem_blanks finish) ?_
  decide +kernel

theorem grouping_written :
    " GROUP BY \"host\", time(5m)".toList ∈
      clauseForm "GROUP" groupingForm (present? summary.grouping) := by
  have interval : "5m".toList ∈ intervalForm "5m" :=
    ⟨rfl, ⟨['5'], by decide, by decide⟩, .minutes, rfl⟩
  simp only [summary, present?, clauseForm, groupingForm, listed, commaForm, groupForm,
    List.map_cons, List.map_nil, List.prod_cons, List.prod_nil, mul_one, mul_assoc]
  refine mem_of_pieces (Language.append_mem_mul blank_mem_space <|
    Language.append_mem_mul (mem_spelled "GROUP" rfl) <|
    Language.append_mem_mul blank_mem_space <| Language.append_mem_mul (mem_spelled "BY" rfl) <|
    Language.append_mem_mul blank_mem_space <|
    Language.append_mem_mul (mem_nameForm "host" (by decide)) <|
    Language.append_mem_mul nil_mem_blanks <| Language.append_mem_mul (mem_exactly ",") <|
    Language.append_mem_mul blank_mem_blanks <|
    Language.append_mem_mul (mem_spelled "time" rfl) <|
    Language.append_mem_mul (mem_exactly "(") <|
    Language.append_mem_mul interval (mem_exactly ")")) ?_
  decide +kernel

theorem having_written :
    " HAVING \"average\" > 90".toList ∈ clauseForm "HAVING" havingForm summary.having? := by
  have ninety : "90".toList ∈ numberForm (.integer 90) :=
    ⟨⟨false, ⟨['9', '0'], by decide, by decide⟩, none⟩, ⟨rfl, by decide⟩, rfl⟩
  simp only [summary, clauseForm, havingForm, operatorForm, mul_assoc]
  refine mem_of_pieces (Language.append_mem_mul blank_mem_space <|
    Language.append_mem_mul (mem_spelled "HAVING" rfl) <|
    Language.append_mem_mul blank_mem_space <|
    Language.append_mem_mul (mem_nameForm "average" (by decide)) <|
    Language.append_mem_mul blank_mem_blanks <| Language.append_mem_mul (mem_exactly ">") <|
    Language.append_mem_mul blank_mem_blanks ninety) ?_
  decide +kernel

theorem fill_written : " FILL(previous)".toList ∈ clauseForm "FILL" fillingForm summary.fill? := by
  simp only [summary, clauseForm, fillingForm, fillForm, mul_assoc]
  refine mem_of_pieces (Language.append_mem_mul blank_mem_space <|
    Language.append_mem_mul (mem_spelled "FILL" rfl) <|
    Language.append_mem_mul nil_mem_blanks <| Language.append_mem_mul (mem_exactly "(") <|
    Language.append_mem_mul (mem_spelled "previous" rfl) (mem_exactly ")")) ?_
  decide +kernel

theorem ordering_written :
    " ORDER BY \"host\" desc, \"time\"".toList ∈
      clauseForm "ORDER" orderingForm (present? summary.ordering) := by
  have ascending : [] ∈ directionForm .ascending := .inl rfl
  simp only [summary, present?, clauseForm, orderingForm, listed, commaForm, orderForm,
    List.map_cons, List.map_nil, List.prod_cons, List.prod_nil, mul_one, mul_assoc]
  refine mem_of_pieces (Language.append_mem_mul blank_mem_space <|
    Language.append_mem_mul (mem_spelled "ORDER" rfl) <|
    Language.append_mem_mul blank_mem_space <| Language.append_mem_mul (mem_spelled "BY" rfl) <|
    Language.append_mem_mul blank_mem_space <|
    Language.append_mem_mul (mem_nameForm "host" (by decide)) <|
    Language.append_mem_mul (Language.append_mem_mul blank_mem_space (mem_spelled "desc" (by decide))) <|
    Language.append_mem_mul nil_mem_blanks <| Language.append_mem_mul (mem_exactly ",") <|
    Language.append_mem_mul blank_mem_blanks <|
    Language.append_mem_mul (mem_nameForm "time" (by decide)) ascending) ?_
  decide +kernel

theorem count_written {word clause : String} (digits : String) {count : UInt64}
    (number : digits.toList ≠ [] ∧ (∀ c ∈ digits.toList, c.isDigit = true) ∧
      Decimal.digitsValue digits.toList = count.toNat)
    (same : clause = " " ++ word ++ " " ++ digits) :
    clause.toList ∈ clauseForm word countingForm (some count) := by
  have counted : digits.toList ∈ countForm count :=
    ⟨⟨digits.toList, number.1, number.2.1⟩, number.2.2, rfl⟩
  rw [same]
  simp only [clauseForm, countingForm, mul_assoc, String.toList_append, List.append_assoc]
  exact Language.append_mem_mul blank_mem_space <|
    Language.append_mem_mul (mem_spelled word rfl) <|
    Language.append_mem_mul blank_mem_space counted

def summaryText : String :=
  "SELECT distinct \"host\", Mean(\"usage\") AS \"average\"" ++ " FROM \"cpu\"" ++
    (" WHERE time >= '2023-10-27T00:00:00Z' AND \"host\" = 'a'\tor \"load\" NOT IN (1, 2.5) AND " ++
      "Time < '2023-10-28T00:00:00Z'") ++ " GROUP BY \"host\", time(5m)" ++
    " HAVING \"average\" > 90" ++ " FILL(previous)" ++ " ORDER BY \"host\" desc, \"time\"" ++
    " LIMIT 10" ++ " OFFSET 5"

theorem toList_clauses (selection source conditions grouping having fill ordering limit offset : String) :
    (selection ++ source ++ conditions ++ grouping ++ having ++ fill ++ ordering ++ limit ++
        offset).toList =
      selection.toList ++ (source.toList ++ (conditions.toList ++ (grouping.toList ++
        (having.toList ++ (fill.toList ++ (ordering.toList ++ (limit.toList ++ offset.toList)))))))
    := by
  simp only [String.toList_append, List.append_assoc]

theorem source_append (rest : List Char) :
    " ".toList ++ ("FROM".toList ++ (" ".toList ++ ('"' :: "cpu".toList ++ ['"'] ++ rest))) =
      " FROM \"cpu\"".toList ++ rest := by
  rfl

theorem summaryText_written : summaryText.toList ∈ summary.form := by
  have limit : " LIMIT 10".toList ∈ clauseForm "LIMIT" countingForm (some 10) :=
    count_written "10" (by decide) (by decide)
  have offset : " OFFSET 5".toList ∈ clauseForm "OFFSET" countingForm (some 5) :=
    count_written "5" (by decide) (by decide)
  have rest := Language.append_mem_mul conditions_written <|
    Language.append_mem_mul grouping_written <| Language.append_mem_mul having_written <|
    Language.append_mem_mul fill_written <| Language.append_mem_mul ordering_written <|
    Language.append_mem_mul limit offset
  have pieces := Language.append_mem_mul selection_written <|
    Language.append_mem_mul blank_mem_space <| Language.append_mem_mul (mem_spelled "FROM" rfl) <|
    Language.append_mem_mul blank_mem_space <|
    Language.append_mem_mul (mem_nameForm "cpu" (by decide)) rest
  rw [source_append, ← toList_clauses] at pieces
  exact pieces

/-- Every clause, and a window from two bounds. -/
theorem readQuery_of_written_summary :
    ∃ window, summaryText.toList ∈ summary.form ∧ Bounded summary.bounds window ∧
      readQuery .earliest summaryText = .ok
        { measurement := "cpu"
          fields := ["host"]
          conditions := [⟨"host", .equal, .scalar (.string "a"), .and⟩,
            ⟨"load", .notIn, .list [.integer 1, .float 2.5], .or⟩]
          time := .absolute ⟨1698364800, 0, by decide⟩ ⟨1698451200, 0, by decide⟩
          groupBy := ["host"]
          interval? := some "5m"
          aggregations := [⟨.mean, "usage", some "average"⟩]
          fill? := some .previous
          math := []
          orderBy := [("host", .descending), ("time", .ascending)]
          limit? := some 10
          offset? := some 5
          distinct := true
          timezone? := none
          having := [⟨"average", .greater, .integer 90⟩]
          unknownOperators := [] } := by
  have bounded : Bounded summary.bounds _ := .between (List.Perm.refl _)
  refine ⟨_, summaryText_written, bounded, ?_⟩
  rw [readQuery_of_written .earliest summaryText_written bounded]
  decide +kernel

end SeriesQuery.Language
