import SeriesQuery.Proofs.Language.Refinements
import SeriesQuery.Proofs.Language.Selection

/-!
A written query is read clause by clause, and its items are taken in the order of the text.
-/

set_option autoImplicit false

namespace SeriesQuery.Language

open Grammar

/-! ## The clauses after the measurement -/

theorem present?_getD {α : Type} (items : List α) : (present? items).getD [] = items := by
  cases items with
  | nil => rfl
  | cons first others => rfl

theorem whereClause_eq_none {text : List Char} (absent : keyword "WHERE".toList text = none) :
    whereClause text = none := by
  simp only [whereClause, absent]
  rfl

def restClauses (distinct : Bool) (selection : List SelectItem) (measurement : String) :
    Reader Clauses := fun text =>
  let (conditions, rest) := clause whereClause text
  let (grouping, rest) := clause groupClause rest
  let (having?, rest) := clause havingClause rest
  let (fill?, rest) := clause fillClause rest
  let (ordering, rest) := clause orderClause rest
  let (limit?, rest) := clause (countClause "LIMIT".toList) rest
  let (offset?, rest) := clause (countClause "OFFSET".toList) rest
  some ({ distinct, selection, measurement, conditions := conditions.getD [],
          grouping := grouping.getD [], having?, fill?, ordering := ordering.getD [],
          limit?, offset? }, skipGap rest)

theorem restClauses_eq {found : Clauses} {text : List Char} (written : text ∈ found.restForm) :
    restClauses found.distinct found.selection found.measurement text = some (found, []) := by
  -- What a clause may be followed by, from the last clause back to the first: the text ends, or a
  -- later clause begins.
  have endOffset : ∀ rest ∈ clauseForm "OFFSET" countingForm found.offset? * 1,
      Ended ["OFFSET"] rest := fun _ => ended_clauseForm fun _ nothing => .inl nothing
  rw [mul_one] at endOffset
  have endLimit : ∀ rest ∈ clauseForm "LIMIT" countingForm found.limit? * _,
      Ended ["LIMIT", "OFFSET"] rest := fun _ => ended_clauseForm endOffset
  have endOrder : ∀ rest ∈ clauseForm "ORDER" orderingForm (present? found.ordering) * _,
      Ended ["ORDER", "LIMIT", "OFFSET"] rest := fun _ => ended_clauseForm endLimit
  have endFill : ∀ rest ∈ clauseForm "FILL" fillingForm found.fill? * _,
      Ended ["FILL", "ORDER", "LIMIT", "OFFSET"] rest := fun _ => ended_clauseForm endOrder
  have endHaving : ∀ rest ∈ clauseForm "HAVING" havingForm found.having? * _,
      Ended ["HAVING", "FILL", "ORDER", "LIMIT", "OFFSET"] rest := fun _ => ended_clauseForm endFill
  have endGroup : ∀ rest ∈ clauseForm "GROUP" groupingForm (present? found.grouping) * _,
      Ended wordsAfterWhere rest := fun _ => ended_clauseForm endHaving
  -- So each reader stops where its clause does.
  unfold Clauses.restForm at written
  obtain ⟨_, written, whereRead⟩ :=
    clause_mem reads_whereClause (fun _ => whereClause_eq_none) (by decide) (by decide) endGroup
      written
  obtain ⟨_, written, groupRead⟩ :=
    clause_mem (reads_groupClause (by decide)) (fun _ => groupClause_eq_none) (by decide)
      (by decide) endHaving written
  obtain ⟨_, written, havingRead⟩ :=
    clause_mem (reads_havingClause _) (fun _ => havingClause_eq_none) (by decide) (by decide)
      endFill written
  obtain ⟨_, written, fillRead⟩ :=
    clause_mem (reads_fillClause _) (fun _ => fillClause_eq_none) (by decide) (by decide) endOrder
      written
  obtain ⟨_, written, orderRead⟩ :=
    clause_mem (reads_orderClause (by decide)) (fun _ => orderClause_eq_none) (by decide)
      (by decide) endLimit written
  obtain ⟨_, written, limitRead⟩ :=
    clause_mem (reads_countClause _ "LIMIT") (fun _ => countClause_eq_none) (by decide) (by decide)
      endOffset written
  rw [← mul_one (clauseForm "OFFSET" countingForm found.offset?)] at written
  have endNothing : ∀ rest ∈ (1 : Form), Ended [] rest := fun _ nothing => .inl nothing
  obtain ⟨_, nothing, offsetRead⟩ :=
    clause_mem (reads_countClause _ "OFFSET") (fun _ => countClause_eq_none) (by decide) (by decide)
      endNothing written
  cases nothing
  simp only [restClauses, whereRead, groupRead, havingRead, fillRead, orderRead, limitRead,
    offsetRead, present?_getD]
  rfl

/-! ## The whole query -/

def selectionForm (distinct : Bool) (selection : List SelectItem) : Form :=
  spelled "SELECT" * (space * (distinctForm distinct * listed selectForm selection)) *
    (space * (spelled "FROM" * space))

/-- Behind the measurement, all readers of a query are at the same place. -/
theorem clauses_append {distinct : Bool} {selection : List SelectItem} {measurement : String}
    {front measured rest : List Char} (written : front ∈ selectionForm distinct selection)
    (noGap : Stops Text.isGap (measured ++ rest))
    (named : name (measured ++ rest) = some (measurement, rest)) :
    clauses (front ++ (measured ++ rest)) =
      restClauses distinct selection measurement rest := by
  unfold selectionForm at written
  have opensFrom : Opens (spelled "FROM") ['f'] := opens_spelled rfl
  have starts : Starts ['s'] (front ++ (measured ++ rest)) :=
    (((opens_spelled rfl).mul _).mul _ front written).append _
  have skipped : skipGap (front ++ (measured ++ rest)) = front ++ (measured ++ rest) :=
    skipGap_of_stops (starts.stops caseFree_isGap (by decide))
  have follows : ∀ found ∈ space * (spelled "FROM" * space),
      Follows listEnds (found ++ (measured ++ rest)) := fun _ written =>
    follows_mem (opensFrom.mul _) (by decide) (by decide) (mem_blanks_mul written) _
  obtain ⟨_, written, selectRead⟩ :=
    (reads_selectClause distinct selection).mem written (measured ++ rest) follows
  obtain ⟨_, written, firstRead⟩ := gap_mem (opensFrom.mul _) (by decide) written (measured ++ rest)
  obtain ⟨_, written, wordRead⟩ := keyword_mem written (measured ++ rest)
  have secondRead := gap_append written noGap
  unfold clauses
  simp only [skipped, selectRead, firstRead, wordRead, secondRead, named, Option.bind_eq_bind,
    Option.bind_some]
  rfl

theorem clauses_eq {found : Clauses} {text : List Char} (written : text ∈ found.form) :
    clauses text = some (found, []) := by
  have split : found.form = selectionForm found.distinct found.selection *
      (nameForm found.measurement * found.restForm) := by
    simp only [Clauses.form, selectionForm, mul_assoc]
  rw [split] at written
  obtain ⟨front, frontWritten, behind, behindWritten, rfl⟩ := Language.mem_mul.1 written
  obtain ⟨measured, nameWritten, rest, restWritten, rfl⟩ := Language.mem_mul.1 behindWritten
  have starts := (opens_nameForm found.measurement measured nameWritten).append rest
  have named := reads_name found.measurement measured nameWritten rest trivial
  rw [clauses_append frontWritten (starts.stops caseFree_isGap (by decide)) named]
  exact restClauses_eq restWritten

theorem trimChars_form {found : Clauses} {text : List Char} (written : text ∈ found.form) :
    Text.trimChars text = text := by
  have starts : Starts ['s'] text := by
    unfold Clauses.form at written
    exact ((opens_spelled rfl).mul _).mul _ text written
  exact trimChars_eq (starts.stops caseFree_isBlank (by decide)) (closed_form found text written).2

theorem readQuery_eq {found : Clauses} {text : String} (written : text.toList ∈ found.form)
    (now : Time.Instant) : readQuery now text = .ok (found.query now) := by
  simp only [readQuery, trimChars_form written, clauses_eq written, List.all_nil, if_true]

theorem blank_mem_space : " ".toList ∈ space :=
  ⟨by decide, show ∀ c ∈ " ".toList, Text.isGap c = true by decide⟩

/-! ## What the clauses describe -/

namespace WhereItem

def condition? : Connective × WhereItem → Option Condition
  | (connective, .condition field operator value) => some ⟨field, operator, value, connective⟩
  | (connective, .timeBound operator instant) =>
    match operator with
    | .greater | .greaterOrEqual | .less | .lessOrEqual => none
    | _ => some ⟨"time", operator, .scalar (.timestamp instant), connective⟩
  | (_, .latest _) => none

def latest? : WhereItem → Option Duration
  | .latest duration => some duration
  | _ => none

end WhereItem

namespace Clauses

def items (clauses : Clauses) : List WhereItem := clauses.conditions.map (·.2)

def latests (clauses : Clauses) : List Duration := clauses.items.filterMap WhereItem.latest?

def lowerBounds (clauses : Clauses) : List Time.Instant :=
  clauses.items.filterMap WhereItem.lowerBound?

def upperBounds (clauses : Clauses) : List (Operator × Time.Instant) :=
  clauses.items.filterMap WhereItem.upperBound?

def refine (clauses : Clauses) (query : Query) : Query :=
  let query := clauses.grouping.foldl GroupItem.addTo query
  let query := match clauses.having? with
    | some (field, operator, value) => query.havingOperator field operator value
    | none => query
  let query := (clauses.fill?.map query.fill).getD query
  let query := clauses.ordering.foldl (fun query (field, direction) => query.order field direction)
    query
  let query := (clauses.limit?.map query.limit).getD query
  (clauses.offset?.map query.offset).getD query

end Clauses

theorem foldl_condition_latestDuration (conditions : List Condition) (query : Query)
    (duration : Duration) :
    conditions.foldl Query.condition (query.latestDuration duration) =
      (conditions.foldl Query.condition query).latestDuration duration := by
  induction conditions generalizing query with
  | nil => rfl
  | cons condition others ih => exact ih (query.condition condition)

/-- Conditions are added in the order of the text, and windows do not disturb them. -/
theorem foldl_addTo (items : List (Connective × WhereItem)) (query : Query) :
    items.foldl (fun query (connective, item) => item.addTo query connective) query =
      ((items.map (·.2)).filterMap WhereItem.latest?).foldl Query.latestDuration
        ((items.filterMap WhereItem.condition?).foldl Query.condition query) := by
  induction items generalizing query with
  | nil => rfl
  | cons item others ih =>
    obtain ⟨connective, item⟩ := item
    rw [List.foldl_cons, ih]
    cases item with
    | latest duration =>
      change List.foldl _ (List.foldl _ (query.latestDuration duration) _) _ = _
      rw [foldl_condition_latestDuration]
      rfl
    | timeBound operator instant => cases operator <;> rfl
    | condition field operator value => rfl

end SeriesQuery.Language
