import SeriesQuery.Proofs.Flux.Conditions
import SeriesQuery.Proofs.Flux.Plans
import SeriesQuery.Proofs.Query.Checks
import SeriesQuery.Proofs.Query.Groups

/-!
Which queries have a Flux script: those that pass the common check, whose conditions and filters on
aggregated values compare with scalars that have a literal, and whose fill value is a finite number.
The common check keeps every value away from the operators that it does not fit.
-/

set_option autoImplicit false

namespace SeriesQuery.Flux

/-! ## Scalars -/

def HasLiteral : Scalar → Prop
  | .null => False
  | .float value => Decimal.isFinite value = true
  | _ => True

def HasInstant : Scalar → Prop
  | .timestamp _ => True
  | .string _ => True
  | .integer seconds => Time.earliestSecond ≤ seconds.toInt ∧ seconds.toInt ≤ Time.latestSecond
  | _ => False

theorem exists_floatLiteral_iff {field : String} {value : Float} :
    (∃ literal, floatLiteral field value = .ok literal) ↔ Decimal.isFinite value = true := by
  rw [floatLiteral]
  split
  · next finite => exact iff_of_true ⟨_, rfl⟩ finite
  · next infinite => exact iff_of_false not_exists_ok infinite

theorem exists_plainLiteral_iff (field : String) {value : Scalar} :
    (∃ literal, plainLiteral field value = .ok literal) ↔ HasLiteral value := by
  cases value with
  | null => exact iff_of_false not_exists_ok id
  | float value => exact exists_floatLiteral_iff
  | bool _ | integer _ | timestamp _ | string _ => exact iff_of_true ⟨_, rfl⟩ trivial

theorem ofSeconds?_eq_none_iff {seconds : Int} : Time.Instant.ofSeconds? seconds = none ↔
    ¬ (Time.earliestSecond ≤ seconds ∧ seconds ≤ Time.latestSecond) := by
  have whole : Time.IsInstant seconds 0 ↔
      Time.earliestSecond ≤ seconds ∧ seconds ≤ Time.latestSecond := by
    simp [Time.IsInstant, Time.nanosPerSecond]
  rw [Time.Instant.ofSeconds?, Time.Instant.ofParts?, ← whole]
  split
  · next valid => exact iff_of_false (Option.some_ne_none _) (not_not.2 valid)
  · next invalid => exact iff_of_true rfl invalid

theorem exists_timeLiteral_iff {field : String} {value : Scalar} :
    (∃ literal, timeLiteral field value = .ok literal) ↔ HasInstant value := by
  cases value with
  | timestamp _ | string _ => exact iff_of_true ⟨_, rfl⟩ trivial
  | integer seconds =>
    rw [timeLiteral, HasInstant]
    cases found : Time.Instant.ofSeconds? seconds.toInt with
    | some instant =>
      refine iff_of_true ⟨_, rfl⟩ (not_not.1 (mt ofSeconds?_eq_none_iff.2 ?_))
      simp [found]
    | none => exact iff_of_false not_exists_ok (ofSeconds?_eq_none_iff.1 found)
  | null | bool _ | float _ => exact iff_of_false not_exists_ok id

/-! ## Conditions -/

def Comparable (condition : Condition) (value : Scalar) : Prop :=
  if condition.isTime then HasInstant value else HasLiteral value

/-- The condition asks whether there is a value, is a pattern, or compares with scalars that can be
compared. -/
def Renderable (condition : Condition) : Prop :=
  (condition.operator = .equal ∨ condition.operator = .notEqual) ∧ condition.value = .scalar .null ∨
    condition.operator = .regex ∨ condition.operator = .notRegex ∨
      ∀ value ∈ condition.value.scalars, Comparable condition value

theorem exists_conditionLiteral_iff {condition : Condition} {value : Scalar} :
    (∃ literal, conditionLiteral condition value = .ok literal) ↔ Comparable condition value := by
  rw [conditionLiteral, Comparable]
  split
  · exact exists_timeLiteral_iff
  · exact exists_plainLiteral_iff _

theorem exists_conditionLiterals_iff {condition : Condition} {values : List Scalar} :
    (∃ literals, values.mapM (conditionLiteral condition) = .ok literals) ↔
      ∀ value ∈ values, Comparable condition value := by
  simp only [exists_mapM_iff, exists_conditionLiteral_iff]

section
variable {condition : Condition} {written : Predicate}

theorem renderable_iff
    (present : ¬ ((condition.operator = .equal ∨ condition.operator = .notEqual) ∧
      condition.value = .scalar .null))
    (noRegex : condition.operator ≠ .regex) (noNotRegex : condition.operator ≠ .notRegex) :
    Renderable condition ↔ ∀ value ∈ condition.value.scalars, Comparable condition value := by
  rw [Renderable, or_iff_right present, or_iff_right noRegex, or_iff_right noNotRegex]

theorem renderable_list_iff {values : List Scalar} (isValue : condition.value = .list values)
    (noRegex : condition.operator ≠ .regex) (noNotRegex : condition.operator ≠ .notRegex) :
    Renderable condition ↔ ∀ value ∈ values, Comparable condition value := by
  have present : ¬ ((condition.operator = .equal ∨ condition.operator = .notEqual) ∧
      condition.value = .scalar .null) := by simp [isValue]
  rw [renderable_iff present noRegex noNotRegex, isValue, ConditionValue.scalars]

theorem exists_predicate_iff (shaped : condition.shapeProblem? = none) :
    (∃ written, predicate condition = .ok written) ↔ Renderable condition := by
  fun_cases predicate condition with
  | case1 column isValue isOperator =>
    exact iff_of_true ⟨_, rfl⟩ (.inl ⟨.inl isOperator, isValue⟩)
  | case2 column isValue isOperator =>
    exact iff_of_true ⟨_, rfl⟩ (.inl ⟨.inr isOperator, isValue⟩)
  | case3 column value isValue isOperator => exact iff_of_true ⟨_, rfl⟩ (.inr (.inl isOperator))
  | case4 column value isValue isOperator =>
    exact iff_of_true ⟨_, rfl⟩ (.inr (.inr (.inl isOperator)))
  | case5 column value isValue notMissing notPresent noRegex noNotRegex =>
    have present : ¬ ((condition.operator = .equal ∨ condition.operator = .notEqual) ∧
        condition.value = .scalar .null) := by
      rintro ⟨isEqual | isNotEqual, isNull⟩
      · exact notMissing isEqual (ConditionValue.scalar.inj (isValue.symm.trans isNull))
      · exact notPresent isNotEqual (ConditionValue.scalar.inj (isValue.symm.trans isNull))
    rw [exists_bind_pure_iff, exists_conditionLiteral_iff,
      renderable_iff present noRegex noNotRegex, isValue, ConditionValue.scalars,
      List.forall_mem_singleton]
  | case6 column values isValue isOperator | case7 column values isValue isOperator =>
    rw [exists_bind_pure_iff, exists_conditionLiterals_iff,
      renderable_list_iff isValue (by simp [isOperator]) (by simp [isOperator])]
  | case8 column low high isValue isOperator =>
    rw [exists_bind_iff, renderable_list_iff isValue (by simp [isOperator]) (by simp [isOperator]),
      List.forall_mem_cons, List.forall_mem_singleton, ← exists_conditionLiteral_iff,
      ← exists_conditionLiteral_iff]
    simp only [exists_bind_pure_iff, exists_and_right]
  -- the shape rules out any other number of bounds, and lists behind other operators
  | case9 values wrong isValue isOperator =>
    obtain ⟨low, high, two⟩ := Condition.exists_bounds shaped isOperator
    exact (wrong low high (ConditionValue.list.inj (isValue.symm.trans two))).elim
  | case10 values isValue noMember noNotMember noBounds noBetween =>
    exact (Condition.operator_of_list shaped isValue).elim (False.elim ∘ noMember) fun isOperator =>
      isOperator.elim (False.elim ∘ noNotMember) (False.elim ∘ noBetween)

/-! ## What is never reached -/

/-- The failure is that Flux cannot say what is asked. -/
def IsRefusal (problem : QueryError) : Prop :=
  ∃ subject refusal, problem = .refused .influxdb subject refusal

theorem isRefusal_timeLiteral {field : String} {value : Scalar} {problem : QueryError}
    (failed : timeLiteral field value = .error problem) : IsRefusal problem := by
  unfold timeLiteral at failed
  split at failed
  case h_3 seconds =>
    split at failed
    · cases failed
    · exact ⟨_, _, (Except.error.inj failed).symm⟩
  case h_4 => exact ⟨_, _, (Except.error.inj failed).symm⟩
  all_goals cases failed

theorem isRefusal_plainLiteral {field : String} {value : Scalar} {problem : QueryError}
    (failed : plainLiteral field value = .error problem) : IsRefusal problem := by
  unfold plainLiteral at failed
  split at failed
  case h_1 => exact ⟨_, _, (Except.error.inj failed).symm⟩
  case h_4 value =>
    rw [floatLiteral] at failed
    split at failed
    · cases failed
    · exact ⟨_, _, (Except.error.inj failed).symm⟩
  all_goals cases failed

theorem isRefusal_conditionLiteral {value : Scalar} {problem : QueryError}
    (failed : conditionLiteral condition value = .error problem) : IsRefusal problem := by
  rw [conditionLiteral] at failed
  split at failed
  · exact isRefusal_timeLiteral failed
  · exact isRefusal_plainLiteral failed

theorem isRefusal_predicate (shaped : condition.shapeProblem? = none) {problem : QueryError}
    (failed : predicate condition = .error problem) : IsRefusal problem := by
  revert failed
  fun_cases predicate condition with
  | case1 | case2 | case3 | case4 =>
    intro failed
    cases failed
  | case5 column value =>
    intro failed
    rcases error_of_bind failed with failed | ⟨literal, -, failed⟩
    · exact isRefusal_conditionLiteral failed
    · cases failed
  | case6 column values | case7 column values =>
    intro failed
    rcases error_of_bind failed with failed | ⟨literals, -, failed⟩
    · obtain ⟨value, -, failed⟩ := error_of_mapM failed
      exact isRefusal_conditionLiteral failed
    · cases failed
  | case8 column low high =>
    intro failed
    rcases error_of_bind failed with failed | ⟨lowest, -, failed⟩
    · exact isRefusal_conditionLiteral failed
    · rcases error_of_bind failed with failed | ⟨highest, -, failed⟩
      · exact isRefusal_conditionLiteral failed
      · cases failed
  -- The last two cases are bounds that are not two and a list with an operator that takes none.
  -- Neither has the shape that was checked.
  | case9 values wrong isValue isOperator =>
    obtain ⟨low, high, two⟩ := Condition.exists_bounds shaped isOperator
    exact (wrong low high (ConditionValue.list.inj (isValue.symm.trans two))).elim
  | case10 values isValue noMember noNotMember noBounds noBetween =>
    exact (Condition.operator_of_list shaped isValue).elim (False.elim ∘ noMember) fun isOperator =>
      isOperator.elim (False.elim ∘ noNotMember) (False.elim ∘ noBetween)

def Predicate.operators : Predicate → List Operator
  | .pattern _ operator _ => [operator]
  | .compare _ operator _ => [operator]
  | .all _ comparisons => comparisons.map Prod.fst
  | _ => []

theorem requiresList_operators (shaped : condition.shapeProblem? = none)
    (made : predicate condition = .ok written) :
    ∀ operator ∈ written.operators, operator.requiresList = false := by
  cases makes_of_predicate made with
  | missing | present | member => exact List.forall_mem_nil _
  | pattern isOperator _ =>
    refine List.forall_mem_singleton.2 ?_
    rcases isOperator with isOperator | isOperator <;> rw [isOperator] <;> rfl
  | compare isValue =>
    refine List.forall_mem_singleton.2 (Bool.eq_false_iff.2 fun list => ?_)
    simp [Condition.shapeProblem?, isValue, list] at shaped
  | unequals | bounds => simp [Predicate.operators, Operator.requiresList]

end

/-! ## Filters on aggregated values, and fill values -/

section
variable {query : Query} {columns : List ValueColumn} {having : Having}

theorem exists_havingStage_iff : (∃ stage, havingStage query columns having = .ok stage) ↔
    having.operator.isComparison = true ∧ HasLiteral having.value := by
  rw [havingStage, ← exists_plainLiteral_iff having.field]
  cases comparison : having.operator.isComparison with
  | false => exact iff_of_false not_exists_ok fun found => nomatch found.1
  | true => exact exists_bind_pure_iff.trans (and_iff_right rfl).symm

theorem isRefusal_havingStage {problem : QueryError}
    (failed : havingStage query columns having = .error problem) : IsRefusal problem := by
  rw [havingStage] at failed
  split at failed
  · exact ⟨_, _, (Except.error.inj failed).symm⟩
  · rcases error_of_bind failed with failed | ⟨literal, -, failed⟩
    · exact isRefusal_plainLiteral failed
    · cases failed

/-- A filter on aggregated values is written with its own operator, a comparison. -/
theorem having_of_havingStage {stage : Stage} (made : havingStage query columns having = .ok stage) :
    having.operator.isComparison = true ∧
      ∃ column literal, stage = .having column having.operator literal := by
  refine ⟨(exists_havingStage_iff.1 ⟨stage, made⟩).1, ?_⟩
  rw [havingStage] at made
  split at made
  · cases made
  · obtain ⟨literal, -, same⟩ := exists_of_bind made
    exact ⟨_, literal, (Except.ok.inj same).symm⟩

end

section
variable {interval? : Option Duration} {policy? : Option FillPolicy}

theorem exists_fillStages_iff : (∃ stages, fillStages interval? policy? = .ok stages) ↔
    ∀ number, policy? = some (.value number) → Decimal.isFinite number = true := by
  fun_cases fillStages interval? policy? with
  | case4 number finite =>
    exact iff_of_true ⟨_, rfl⟩ fun other same =>
      FillPolicy.value.inj (Option.some.inj same) ▸ finite
  | case5 number infinite =>
    exact iff_of_false not_exists_ok fun each => infinite (each number rfl)
  | _ => exact iff_of_true ⟨_, rfl⟩ fun _ same => nomatch same

theorem isRefusal_fillStages {problem : QueryError}
    (failed : fillStages interval? policy? = .error problem) : IsRefusal problem := by
  unfold fillStages at failed
  split at failed
  case h_4 =>
    split at failed
    · cases failed
    · exact ⟨_, _, (Except.error.inj failed).symm⟩
  all_goals cases failed

end

/-! ## Queries -/

/-- The query can be written in Flux. -/
structure Acceptable (query : Query) : Prop where
  checked : query.checkCompilable = .ok ()
  conditions : ∀ condition ∈ query.conditions, Renderable condition
  having : ∀ having ∈ query.having,
    having.operator.isComparison = true ∧ HasLiteral having.value
  fill : ∀ number, query.fill? = some (.value number) → Decimal.isFinite number = true

theorem exists_groups_iff {query : Query} (checked : query.checkCompilable = .ok ()) :
    (∃ groups, (conditionGroups query.conditions).mapM (·.mapM predicate) = .ok groups) ↔
      ∀ condition ∈ query.conditions, Renderable condition := by
  have shaped := Query.shaped_of_checked checked
  simp only [exists_mapM_iff]
  constructor
  · intro each condition member
    rw [← flatten_conditionGroups query.conditions] at member
    obtain ⟨group, known, inGroup⟩ := List.mem_flatten.1 member
    exact (exists_predicate_iff (shaped _ (mem_of_mem_conditionGroups known inGroup))).1
      (each group known condition inGroup)
  · intro each group known condition member
    have inQuery := mem_of_mem_conditionGroups known member
    exact (exists_predicate_iff (shaped condition inQuery)).2 (each condition inQuery)

theorem exists_madeFor_iff {query : Query} :
    (∃ parts : Parts, parts.MadeFor query) ↔ Acceptable query := by
  constructor
  · rintro ⟨parts, made⟩
    exact {
      checked := made.checked
      conditions := (exists_groups_iff made.checked).1 ⟨_, made.groups⟩
      having := fun having member =>
        exists_havingStage_iff.1 (exists_mapM_iff.1 ⟨_, made.having⟩ having member)
      fill := exists_fillStages_iff.1 ⟨_, made.fill⟩ }
  · rintro ⟨checked, conditions, having, fill⟩
    obtain ⟨groups, groupsMade⟩ := (exists_groups_iff checked).2 conditions
    obtain ⟨interval?, intervalMade⟩ := Query.exists_bucket checked
    obtain ⟨filters, filtersMade⟩ := exists_mapM_iff.2 fun found member =>
      exists_havingStage_iff.2 (having found member)
    obtain ⟨stages, stagesMade⟩ := exists_fillStages_iff.2 fill
    exact ⟨⟨groups, interval?, filters, stages⟩, checked, groupsMade, intervalMade, filtersMade,
      stagesMade⟩

theorem exists_compile_iff (bucket : String) (query : Query) :
    (∃ compiled, compile bucket query = .ok compiled) ↔ ∃ parts : Parts, parts.MadeFor query := by
  constructor
  · rintro ⟨compiled, compiles⟩
    obtain ⟨parts, made, -⟩ := compile_eq_ok_iff.1 compiles
    exact ⟨parts, made⟩
  · rintro ⟨parts, made⟩
    exact ⟨_, compile_eq_ok_iff.2 ⟨parts, made, rfl⟩⟩

theorem error_of_plan {query : Query} {problem : QueryError} (failed : plan query = .error problem) :
    query.checkCompilable = .error problem ∨ IsRefusal problem := by
  unfold plan at failed
  rcases error_of_bind failed with failed | ⟨_, checked, failed⟩
  · exact .inl failed
  right
  rcases error_of_bind failed with failed | ⟨groups, -, failed⟩
  · obtain ⟨group, known, failed⟩ := error_of_mapM failed
    obtain ⟨condition, member, failed⟩ := error_of_mapM failed
    exact isRefusal_predicate
      (Query.shaped_of_checked checked condition (mem_of_mem_conditionGroups known member)) failed
  rcases error_of_bind failed with failed | ⟨interval?, -, failed⟩
  · obtain ⟨interval?, made⟩ := Query.exists_bucket checked
    rw [made] at failed
    cases failed
  rcases error_of_bind failed with failed | ⟨filters, -, failed⟩
  · obtain ⟨having, -, failed⟩ := error_of_mapM failed
    exact isRefusal_havingStage failed
  rcases error_of_bind failed with failed | ⟨stages, -, failed⟩
  · exact isRefusal_fillStages failed
  · cases failed

def Stage.operators : Stage → List Operator
  | .filter alternatives => alternatives.flatMap Predicate.operators
  | .having _ operator _ => [operator]
  | _ => []

def Stage.ListFree (stage : Stage) : Prop :=
  ∀ operator ∈ stage.operators, operator.requiresList = false

theorem requiresList_of_isComparison {operator : Operator} (comparison : operator.isComparison = true) :
    operator.requiresList = false := by
  cases operator <;> first | rfl | cases comparison

section
variable {query : Query} {parts : Parts}

theorem listFree_filters (made : parts.MadeFor query) :
    ∀ group ∈ parts.groups, (Stage.filter group).ListFree := by
  intro group member
  obtain ⟨conditions, known, groupMade⟩ := exists_of_mem_right (forall₂_of_mapM made.groups) member
  refine List.forall_mem_flatMap.2 fun written found => ?_
  obtain ⟨condition, inGroup, predicateMade⟩ :=
    exists_of_mem_right (forall₂_of_mapM groupMade) found
  have inQuery := mem_of_mem_conditionGroups known inGroup
  exact requiresList_operators (Query.shaped_of_checked made.checked condition inQuery) predicateMade

theorem listFree_having (made : parts.MadeFor query) : ∀ stage ∈ parts.having, stage.ListFree := by
  intro stage member
  obtain ⟨having, -, stageMade⟩ := exists_of_mem_right (forall₂_of_mapM made.having) member
  obtain ⟨comparison, column, literal, rfl⟩ := having_of_havingStage stageMade
  exact List.forall_mem_singleton.2 (requiresList_of_isComparison comparison)

theorem listFree_stages (made : parts.MadeFor query) :
    ∀ stage ∈ (parts.plan query).script.stages, stage.ListFree := by
  -- only filters, of rows and of aggregated values, are written with operators
  have other : ∀ operator ∈ ([] : List Operator), operator.requiresList = false :=
    List.forall_mem_nil _
  rw [stages_plan, List.forall_mem_append, List.forall_mem_append]
  refine ⟨⟨?before, ?reducers⟩, ?after⟩
  case before =>
    exact forall_beforeAggregations Stage.ListFree query parts (fun _ => other) (fun _ _ => other)
      (fun _ => other) (fun _ => other) (listFree_filters made) (fun _ => other) other
      (fun _ => other) fun _ => other
  case reducers =>
    exact forall_aggregationStages Stage.ListFree (fun _ => other) (fun _ _ => other)
      query.aggregations
  case after =>
    exact forall_afterAggregations Stage.ListFree query parts (listFree_having made)
      (forall_fillStages Stage.ListFree made.fill other other (fun _ => other) fun _ _ => other)
      (fun _ _ => other) (fun _ _ => other) (fun _ => other) fun _ => other

end

/-- A query has a script exactly when it can be written in Flux, and else there is a problem: that of
the common check, or something that Flux cannot say. After the check, bounds come in pairs and lists
stand with list operators, so that predicates fail for their scalars only; and no list operator is
written in a script. -/
theorem compile_accepts (bucket : String) (query : Query) :
    ((∃ compiled, compile bucket query = .ok compiled) ↔ Acceptable query) ∧
    ((∃ problem, compile bucket query = .error problem) ↔ ¬ Acceptable query) ∧
    (∀ problem, compile bucket query = .error problem →
      query.checkCompilable = .error problem ∨ IsRefusal problem) ∧
    (query.checkCompilable = .ok () → ∀ condition ∈ query.conditions,
      (condition.operator = .between → ∃ low high, condition.value = .list [low, high]) ∧
      (∀ values, condition.value = .list values →
        condition.operator = .isIn ∨ condition.operator = .notIn ∨ condition.operator = .between) ∧
      ∀ problem, predicate condition = .error problem → IsRefusal problem) ∧
    ∀ planned, plan query = .ok planned → ∀ stage ∈ planned.script.stages, stage.ListFree := by
  have accepts := (exists_compile_iff bucket query).trans exists_madeFor_iff
  refine ⟨accepts, exists_error_iff.trans (not_congr accepts), ?_, ?_, ?_⟩
  · intro problem failed
    exact error_of_plan (map_eq_error_iff.1 failed)
  · intro checked condition member
    have shaped := Query.shaped_of_checked checked condition member
    exact ⟨Condition.exists_bounds shaped, fun values => Condition.operator_of_list shaped,
      fun problem => isRefusal_predicate shaped⟩
  · intro planned made
    obtain ⟨parts, partsMade, rfl⟩ := plan_eq_ok_iff.1 made
    exact listFree_stages partsMade

end SeriesQuery.Flux
