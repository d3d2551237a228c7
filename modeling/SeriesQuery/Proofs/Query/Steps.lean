import SeriesQuery.Proofs.Entries
import SeriesQuery.Proofs.Query.Checks

/-!
Queries that are built step by step. Each part of a query is told by the steps that ask for it: the
groups and the ordering by the first requests and the last directions, the window by the last
request that was understood, and the common check by the operators that were not.
-/

set_option autoImplicit false

namespace SeriesQuery.Query

/-! ## Steps -/

/-- A refinement of a query. A condition with an operator that is known is added as it stands; an
operator that is given by its token has to be understood first. -/
inductive Step where
  | select (fields : List String)
  | condition (condition : Condition)
  | filter (field token : String) (value : ConditionValue) (connective : Connective)
  | whereIn (field : String) (values : List Scalar)
  | whereNotIn (field : String) (values : List Scalar)
  | whereBetween (field : String) (low high : Scalar)
  | whereRegex (field pattern : String)
  | whereNotRegex (field pattern : String)
  | timeRange (start finish : Time.Instant)
  | latest (text : String)
  | latestDuration (duration : Duration)
  | groupByTag (tag : String)
  | interval (text : String)
  | aggregate (function : AggregateFunction) (field : String) (alias? : Option String)
  | fill (policy : FillPolicy)
  | mathExpression (expression name : String)
  | order (field : String) (direction : SortDirection)
  | limit (count : UInt64)
  | offset (count : UInt64)
  | distinctRows
  | timezone (name : String)
  | havingOperator (field : String) (operator : Operator) (value : Scalar)
  | havingToken (field token : String) (value : Scalar)

namespace Step

/-- A window that is not understood leaves the query as it was. -/
def apply (query : Query) : Step → Query
  | .select fields => query.select fields
  | .condition added => query.condition added
  | .filter field token value connective => query.filter field token value connective
  | .whereIn field values => query.whereIn field values
  | .whereNotIn field values => query.whereNotIn field values
  | .whereBetween field low high => query.whereBetween field low high
  | .whereRegex field pattern => query.whereRegex field pattern
  | .whereNotRegex field pattern => query.whereNotRegex field pattern
  | .timeRange start finish => query.timeRange start finish
  | .latest text =>
    match query.latest text with
    | .ok later => later
    | .error _ => query
  | .latestDuration duration => query.latestDuration duration
  | .groupByTag tag => query.groupByTag tag
  | .interval text => query.interval text
  | .aggregate function field alias? => query.aggregate function field alias?
  | .fill policy => query.fill policy
  | .mathExpression expression name => query.mathExpression expression name
  | .order field direction => query.order field direction
  | .limit count => query.limit count
  | .offset count => query.offset count
  | .distinctRows => query.distinctRows
  | .timezone name => query.timezone name
  | .havingOperator field operator value => query.havingOperator field operator value
  | .havingToken field token value => query.havingToken field token value

def tag? : Step → Option String
  | .groupByTag tag => some tag
  | _ => none

def ordering? : Step → Option (String × SortDirection)
  | .order field direction => some (field, direction)
  | _ => none

def window? : Step → Option TimeWindow
  | .timeRange start finish => some (.absolute start finish)
  | .latest text => (Duration.read? text).map .relative
  | .latestDuration duration => some (.relative duration)
  | _ => none

def token? : Step → Option String
  | .filter _ token _ _ => some token
  | .havingToken _ token _ => some token
  | _ => none

/-- The step asks for a condition or for a filter on aggregated values. -/
def restricts : Step → Bool
  | .condition _ | .filter .. | .whereIn .. | .whereNotIn .. | .whereBetween .. | .whereRegex ..
  | .whereNotRegex .. | .havingOperator .. | .havingToken .. => true
  | _ => false

end Step

def built (measurement : String) (steps : List Step) : Query :=
  steps.foldl Step.apply (ofMeasurement measurement)

/-! ## What a step does -/

/-- Conditions, filters on aggregated values, and the operators that were not understood. -/
def restrictionCount (query : Query) : Nat :=
  query.conditions.length + query.having.length + query.unknownOperators.length

/-- A step changes the parts of a query that it asks for, and keeps the others. -/
structure Refines (query : Query) (step : Step) (next : Query) : Prop where
  measurement : next.measurement = query.measurement
  fields : query.fields ≠ [] → next.fields ≠ []
  groupBy : next.groupBy = step.tag?.elim query.groupBy fun tag =>
    if tag ∈ query.groupBy then query.groupBy else query.groupBy ++ [tag]
  orderBy : next.orderBy = step.ordering?.elim query.orderBy fun request =>
    setEntry request.1 request.2 query.orderBy
  time : next.time = step.window?.elim query.time id
  unknownOperators : next.unknownOperators = step.token?.elim query.unknownOperators fun token =>
    if Operator.read? token = none then query.unknownOperators ++ [token]
    else query.unknownOperators
  restrictions : next.restrictionCount =
    if step.restricts then query.restrictionCount + 1 else query.restrictionCount

section

variable (query : Query)

theorem restrictionCount_condition (added : Condition) :
    (query.condition added).restrictionCount = query.restrictionCount + 1 := by
  simp only [restrictionCount, condition, List.length_append, List.length_singleton]
  omega

theorem restrictionCount_havingOperator (field : String) (operator : Operator) (value : Scalar) :
    (query.havingOperator field operator value).restrictionCount = query.restrictionCount + 1 := by
  simp only [restrictionCount, havingOperator, List.length_append, List.length_singleton]
  omega

theorem restrictionCount_unknownOperator (token : String) :
    { query with unknownOperators := query.unknownOperators ++ [token] }.restrictionCount =
      query.restrictionCount + 1 := by
  simp only [restrictionCount, List.length_append, List.length_singleton]
  omega

theorem refines_apply (step : Step) : Refines query step (step.apply query) := by
  cases step with
  | select fields =>
    refine ⟨rfl, fun _ => ?_, rfl, rfl, rfl, rfl, rfl⟩
    show (if fields.isEmpty then [wildcard] else fields) ≠ []
    split
    · exact List.cons_ne_nil _ _
    · next nonempty => exact fun empty => nonempty (List.isEmpty_iff.2 empty)
  | condition | whereIn | whereNotIn | whereBetween | whereRegex | whereNotRegex =>
    exact ⟨rfl, id, rfl, rfl, rfl, rfl, restrictionCount_condition query _⟩
  -- an operator that is not understood is counted in place of what it was to restrict
  | filter field token value connective =>
    unfold Step.apply Query.filter
    dsimp only
    split
    · next operator known =>
      refine ⟨rfl, id, rfl, rfl, rfl, ?_, restrictionCount_condition query _⟩
      simp [Step.token?, known, condition]
    · next unknown =>
      refine ⟨rfl, id, rfl, rfl, rfl, ?_, restrictionCount_unknownOperator query token⟩
      simp [Step.token?, unknown]
  | havingOperator field operator value =>
    exact ⟨rfl, id, rfl, rfl, rfl, rfl, restrictionCount_havingOperator query field operator value⟩
  | havingToken field token value =>
    unfold Step.apply Query.havingToken
    dsimp only
    split
    · next operator known =>
      refine ⟨rfl, id, rfl, rfl, rfl, ?_, restrictionCount_havingOperator query field _ value⟩
      simp [Step.token?, known, havingOperator]
    · next unknown =>
      refine ⟨rfl, id, rfl, rfl, rfl, ?_, restrictionCount_unknownOperator query token⟩
      simp [Step.token?, unknown]
  | latest text =>
    unfold Step.apply Query.latest
    dsimp only
    cases understood : Duration.read? text with
    | some duration =>
      refine ⟨rfl, id, rfl, rfl, ?_, rfl, rfl⟩
      simp [Step.window?, understood, latestDuration]
    | none =>
      refine ⟨rfl, id, rfl, rfl, ?_, rfl, rfl⟩
      simp [Step.window?, understood]
  | _ => exact ⟨rfl, id, rfl, rfl, rfl, rfl, rfl⟩

end

/-! ## What all steps do -/

section

variable (measurement : String) (steps : List Step)

theorem measurement_built : (built measurement steps).measurement = measurement :=
  List.foldlRecOn steps Step.apply (motive := fun query => query.measurement = measurement) rfl
    fun query same step _ => (refines_apply query step).measurement.trans same

theorem fields_built : (built measurement steps).fields ≠ [] :=
  List.foldlRecOn steps Step.apply (motive := fun query => query.fields ≠ [])
    (List.cons_ne_nil _ _) fun query some step _ => (refines_apply query step).fields some

theorem restrictionCount_built :
    (built measurement steps).restrictionCount = steps.countP Step.restricts := by
  induction steps using List.reverseRecOn with
  | nil => rfl
  | append_singleton steps step ih =>
    rw [built, List.foldl_append, List.foldl_cons, List.foldl_nil, ← built,
      (refines_apply _ step).restrictions, ih, List.countP_append, List.countP_singleton]
    split
    · rfl
    · rfl

/-- A part that each step either changes as it asks for or leaves is made of the requests alone. -/
theorem part_built {β γ : Type} {part : Query → β} {request? : Step → Option γ} {add : β → γ → β}
    (each : ∀ query step,
      part (step.apply query) = (request? step).elim (part query) (add (part query))) :
    part (built measurement steps) =
      (steps.filterMap request?).foldl add (part (ofMeasurement measurement)) := by
  rw [List.foldl_filterMap, built]
  refine (List.foldl_hom part fun query step => ?_).symm
  rw [each]
  cases request? step with
  | none => rfl
  | some request => rfl

theorem groupBy_built :
    (built measurement steps).groupBy = (steps.filterMap Step.tag?).eraseDups := by
  rw [← foldl_added]
  exact part_built measurement steps fun query step => (refines_apply query step).groupBy

theorem orderBy_built :
    (built measurement steps).orderBy = setEntries (steps.filterMap Step.ordering?) :=
  part_built measurement steps fun query step => (refines_apply query step).orderBy

theorem foldl_last {α : Type} (start : α) (requests : List α) :
    requests.foldl (fun _ request => request) start = requests.getLast?.getD start := by
  induction requests using List.reverseRecOn with
  | nil => rfl
  | append_singleton requests request ih => rw [List.foldl_append, List.getLast?_concat]; rfl

theorem time_built : (built measurement steps).time =
    (steps.filterMap Step.window?).getLast?.getD .unset := by
  rw [← foldl_last]
  exact part_built measurement steps fun query step => (refines_apply query step).time

theorem foldl_unknown (tokens : List String) :
    tokens.foldl (fun found token =>
      if Operator.read? token = none then found ++ [token] else found) [] =
      tokens.filter (Operator.read? · = none) := by
  induction tokens using List.reverseRecOn with
  | nil => rfl
  | append_singleton tokens token ih =>
    rw [List.foldl_append, ih, List.foldl_cons, List.foldl_nil, List.filter_append]
    split
    · next unknown => simp [unknown]
    · next known => simp [known]

theorem unknownOperators_built : (built measurement steps).unknownOperators =
    (steps.filterMap Step.token?).filter (Operator.read? · = none) := by
  rw [← foldl_unknown]
  exact part_built measurement steps fun query step => (refines_apply query step).unknownOperators

theorem unknownOperators_built_ne_nil_iff : (built measurement steps).unknownOperators ≠ [] ↔
    ∃ step ∈ steps, ∃ token, step.token? = some token ∧ Operator.read? token = none := by
  rw [unknownOperators_built, ne_eq, List.filter_eq_nil_iff]
  simp only [List.mem_filterMap, decide_eq_true_eq, not_forall, not_not]
  constructor
  · rintro ⟨token, ⟨step, member, given⟩, unknown⟩
    exact ⟨step, member, token, given, unknown⟩
  · rintro ⟨step, member, token, given, unknown⟩
    exact ⟨token, ⟨step, member, given⟩, unknown⟩

end

/-! ## The check -/

theorem shapeError?_ne_invalid {conditions : List Condition} {problems : List Problem} :
    shapeError? conditions ≠ some (.invalid problems) := by
  intro same
  fun_induction shapeError? conditions with
  | case1 => cases same
  | case2 condition rest problem found => cases same
  | case3 condition rest fits ih => exact ih same

theorem bucket_ne_invalid {query : Query} {problems : List Problem} :
    query.bucket ≠ .error (.invalid problems) := by
  intro same
  unfold bucket at same
  split at same
  · cases same
  · split at same
    · cases same
    · cases same

/-- The check names faults of the query before it looks at values and at the interval. -/
theorem exists_invalid_iff {query : Query} :
    (∃ problems, query.checkCompilable = .error (.invalid problems)) ↔ query.hardProblems ≠ [] := by
  fun_cases checkCompilable query with
  | case1 faulty => exact iff_of_true ⟨_, rfl⟩ faulty
  | case2 sound error found =>
    refine iff_of_false ?_ sound
    rintro ⟨problems, same⟩
    rw [Except.error.inj same] at found
    exact shapeError?_ne_invalid found
  | case3 sound shaped =>
    refine iff_of_false ?_ sound
    rintro ⟨problems, failed⟩
    exact bucket_ne_invalid (map_eq_error_iff.1 failed)

/-- Whatever the steps, some field is selected; the groups are the distinct tags that were asked
for, in the order of their first requests; the ordering has each field once, where it was first
asked for and with the direction that was last asked for; each condition and each filter on
aggregated values is in the query, or the operator it came with is; the window is the last one that
was understood, so that it never has both a length and bounds; and the check finds the query invalid
exactly when its measurement is blank or an operator was not understood. -/
theorem built_as_asked (measurement : String) (steps : List Step) :
    let query := built measurement steps
    query.fields ≠ [] ∧
    query.groupBy = (steps.filterMap Step.tag?).eraseDups ∧
    query.orderBy.map Prod.fst = ((steps.filterMap Step.ordering?).map Prod.fst).eraseDups ∧
    (∀ entry ∈ query.orderBy,
      ((steps.filterMap Step.ordering?).filter (·.1 = entry.1)).getLast? = some entry) ∧
    query.conditions.length + query.having.length + query.unknownOperators.length =
      steps.countP Step.restricts ∧
    query.time = (steps.filterMap Step.window?).getLast?.getD .unset ∧
    (query.relative? = none ∨ query.start? = none ∧ query.finish? = none) ∧
    ((∃ problems, query.checkCompilable = .error (.invalid problems)) ↔
      Text.isBlankText measurement = true ∨
        ∃ step ∈ steps, ∃ token, step.token? = some token ∧ Operator.read? token = none) := by
  intro query
  refine ⟨fields_built measurement steps, groupBy_built measurement steps, ?_, ?_,
    restrictionCount_built measurement steps, time_built measurement steps, ?_, ?_⟩
  · rw [orderBy_built, map_fst_setEntries]
  · intro entry member
    rw [orderBy_built] at member
    exact getLast?_of_mem_setEntries member
  · unfold relative? start? finish?
    cases query.time with
    | relative duration => exact .inr ⟨rfl, rfl⟩
    | unset | absolute => exact .inl rfl
  · rw [exists_invalid_iff, ne_eq, hardProblems_eq_nil_iff, hasMeasurement, measurement_built,
      Bool.not_eq_true', not_and_or, Bool.not_eq_false, ← ne_eq, unknownOperators_built_ne_nil_iff,
      or_comm]

example : (built "cpu" [.order "host" .ascending, .order "usage" .ascending,
    .order "host" .descending]).orderBy = [("host", .descending), ("usage", .ascending)] := by
  decide

end SeriesQuery.Query
