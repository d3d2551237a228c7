import SeriesQuery.Flux.Compiler
import SeriesQuery.Proofs.Outcomes

/-!
The parts of a plan. Everything that can fail is made before the stages are put together.
-/

set_option autoImplicit false

namespace SeriesQuery.Flux

/-- The parts of a plan that can fail. -/
structure Parts where
  groups : List (List Predicate)
  interval? : Option Duration
  having : List Stage
  fill : List Stage

structure Parts.MadeFor (parts : Parts) (query : Query) : Prop where
  checked : query.checkCompilable = .ok ()
  groups : (conditionGroups query.conditions).mapM (·.mapM predicate) = .ok parts.groups
  interval : query.bucket = .ok parts.interval?
  having : query.having.mapM (havingStage query (aggregationStages query.aggregations).2) =
    .ok parts.having
  fill : fillStages parts.interval? query.fill? = .ok parts.fill

def zoneShift? (query : Query) : Option Offset := query.timezone?.bind Offset.read?

def namedZone? (query : Query) : Option String :=
  if (zoneShift? query).isSome then none else query.timezone?

def stagesBefore (query : Query) : List Stage :=
  [rangeStage query.time] ++ ((zoneShift? query).map Stage.timeShift).toList ++
    [.measurement query.measurement]

def stagesAfter (query : Query) (parts : Parts) : List Stage :=
  (if (filteredFields query).isEmpty then [] else [.fields (filteredFields query)]) ++
    (if query.distinct then [.distinct] else []) ++
    (if query.groupBy.isEmpty then [] else [.group query.groupBy]) ++
    (parts.interval?.map Stage.window).toList ++ (aggregationStages query.aggregations).1 ++
    parts.having ++ parts.fill ++ (query.math.map fun math => .map math.name math.expression) ++
    sortStages query.orderBy ++ (query.offset?.map Stage.tail).toList ++
    (query.limit?.map Stage.limit).toList

def Parts.plan (query : Query) (parts : Parts) : Plan where
  script :=
    { location? := namedZone? query
      stages := stagesBefore query ++ parts.groups.map Stage.filter ++ stagesAfter query parts }
  columns := (aggregationStages query.aggregations).2

theorem plan_eq_ok_iff {query : Query} {planned : Plan} :
    plan query = .ok planned ↔ ∃ parts : Parts, parts.MadeFor query ∧ parts.plan query = planned := by
  rcases pair : aggregationStages query.aggregations with ⟨reducers, columns⟩
  constructor
  · intro made
    unfold plan at made
    obtain ⟨_, checked, made⟩ := exists_of_bind made
    obtain ⟨groups, groupsMade, made⟩ := exists_of_bind made
    obtain ⟨interval?, intervalMade, made⟩ := exists_of_bind made
    rw [pair] at made
    obtain ⟨having, havingMade, made⟩ := exists_of_bind made
    obtain ⟨fill, fillMade, made⟩ := exists_of_bind made
    cases made
    refine ⟨⟨groups, interval?, having, fill⟩, ⟨checked, groupsMade, intervalMade, ?_, fillMade⟩, ?_⟩
    · rw [pair]
      exact havingMade
    · simp only [Parts.plan, stagesBefore, stagesAfter, namedZone?, zoneShift?, pair,
        List.append_assoc]
      rfl
  · rintro ⟨parts, made, rfl⟩
    have having := made.having
    rw [pair] at having
    unfold plan
    simp only [made.checked, made.groups, made.interval, pair, having, made.fill, ok_bind]
    simp only [Parts.plan, stagesBefore, stagesAfter, namedZone?, zoneShift?, pair,
        List.append_assoc]
    rfl

theorem compile_eq_ok_iff {bucket : String} {query : Query} {compiled : Compiled} :
    compile bucket query = .ok compiled ↔ ∃ parts : Parts, parts.MadeFor query ∧
      ⟨(parts.plan query).script.text bucket, .data, (parts.plan query).columns⟩ = compiled := by
  constructor
  · intro compiles
    obtain ⟨_, planned, rfl⟩ := exists_of_map compiles
    obtain ⟨parts, made, rfl⟩ := plan_eq_ok_iff.1 planned
    exact ⟨parts, made, rfl⟩
  · rintro ⟨parts, made, rfl⟩
    rw [compile, plan_eq_ok_iff.2 ⟨parts, made, rfl⟩]
    rfl

def Parts.beforeAggregations (query : Query) (parts : Parts) : List Stage :=
  stagesBefore query ++ parts.groups.map Stage.filter ++
    (if (filteredFields query).isEmpty then [] else [.fields (filteredFields query)]) ++
    (if query.distinct then [.distinct] else []) ++
    (if query.groupBy.isEmpty then [] else [.group query.groupBy]) ++
    (parts.interval?.map Stage.window).toList

def Parts.afterAggregations (query : Query) (parts : Parts) : List Stage :=
  parts.having ++ parts.fill ++ (query.math.map fun math => .map math.name math.expression) ++
    sortStages query.orderBy ++ (query.offset?.map Stage.tail).toList ++
    (query.limit?.map Stage.limit).toList

theorem stages_plan (query : Query) (parts : Parts) :
    (parts.plan query).script.stages = parts.beforeAggregations query ++
      (aggregationStages query.aggregations).1 ++ parts.afterAggregations query := by
  simp only [Parts.plan, stagesAfter, Parts.beforeAggregations, Parts.afterAggregations,
    List.append_assoc]

/-! ## Kinds of stages -/

section
variable (P : Stage → Prop)

theorem forall_toList {α : Type} (stageOf : α → Stage) (each : ∀ value, P (stageOf value))
    (value? : Option α) : ∀ stage ∈ (value?.map stageOf).toList, P stage := by
  cases value? with
  | none => exact List.forall_mem_nil _
  | some value => exact List.forall_mem_singleton.2 (each value)

theorem forall_ite (stage : Stage) (present : P stage) (absent : Prop) [Decidable absent] :
    ∀ found ∈ (if absent then [] else [stage]), P found := by
  split
  · exact List.forall_mem_nil _
  · exact List.forall_mem_singleton.2 present

theorem forall_aggregationStages (duplicate : ∀ column, P (.duplicate column))
    (reduce : ∀ function column?, P (.reduce function column?)) (aggregations : List Aggregation) :
    ∀ stage ∈ (aggregationStages aggregations).1, P stage := by
  unfold aggregationStages
  split
  · exact List.forall_mem_nil _
  · exact List.forall_mem_singleton.2 (reduce _ _)
  · refine List.forall_mem_append.2 ⟨?_, ?_⟩
    · exact List.forall_mem_map.2 fun column _ => duplicate column
    · exact List.forall_mem_map.2 fun pair _ => reduce _ _

theorem forall_having {query : Query} {parts : Parts} (made : parts.MadeFor query)
    (having : ∀ column operator literal, P (.having column operator literal)) :
    ∀ stage ∈ parts.having, P stage := by
  intro stage member
  obtain ⟨filter, -, filterMade⟩ := exists_of_mem_right (forall₂_of_mapM made.having) member
  unfold havingStage at filterMade
  split at filterMade
  · cases filterMade
  · obtain ⟨literal, -, same⟩ := exists_of_bind filterMade
    cases same
    exact having _ _ _

theorem forall_fillStages {interval? : Option Duration} {policy? : Option FillPolicy}
    {stages : List Stage} (made : fillStages interval? policy? = .ok stages)
    (null : P .fillNull) (previous : P .fillPrevious)
    (linear : ∀ every?, P (.interpolate every?))
    (value : ∀ number, Decimal.isFinite number = true → P (.fillValue number)) :
    ∀ stage ∈ stages, P stage := by
  unfold fillStages at made
  split at made
  case h_4 number =>
    split at made
    · next finite =>
      cases made
      exact List.forall_mem_singleton.2 (value number finite)
    · cases made
  all_goals cases made
  · exact List.forall_mem_singleton.2 null
  · exact List.forall_mem_singleton.2 previous
  · exact List.forall_mem_singleton.2 (linear interval?)
  · exact List.forall_mem_nil _
  · exact List.forall_mem_nil _

theorem forall_sortStages (sort : ∀ columns descending, P (.sort columns descending))
    (ordering : List (String × SortDirection)) : ∀ stage ∈ sortStages ordering, P stage := by
  unfold sortStages
  split
  · exact List.forall_mem_nil _
  · split
    · exact List.forall_mem_singleton.2 (sort _ _)
    · exact List.forall_mem_map.2 fun entry _ => sort _ _

theorem forall_beforeAggregations (query : Query) (parts : Parts)
    (back : ∀ start, P (.rangeBack start)) (range : ∀ start finish, P (.range start finish))
    (shift : ∀ offset, P (.timeShift offset)) (measurement : ∀ name, P (.measurement name))
    (filter : ∀ group ∈ parts.groups, P (.filter group)) (fields : ∀ names, P (.fields names))
    (distinct : P .distinct) (group : ∀ columns, P (.group columns))
    (window : ∀ every, P (.window every)) : ∀ stage ∈ parts.beforeAggregations query, P stage := by
  have ranged : P (rangeStage query.time) := by
    cases query.time with
    | unset => exact back _
    | relative duration => exact back _
    | absolute start finish => exact range _ _
  have deduplicated : ∀ stage ∈ (if query.distinct then [Stage.distinct] else []), P stage := by
    cases query.distinct with
    | true => exact List.forall_mem_singleton.2 distinct
    | false => exact List.forall_mem_nil _
  simp only [Parts.beforeAggregations, stagesBefore, List.forall_mem_append]
  exact ⟨⟨⟨⟨⟨⟨⟨List.forall_mem_singleton.2 ranged, forall_toList P _ shift _⟩,
    List.forall_mem_singleton.2 (measurement _)⟩, List.forall_mem_map.2 filter⟩,
    forall_ite P _ (fields _) _⟩, deduplicated⟩, forall_ite P _ (group _) _⟩,
    forall_toList P _ window _⟩

theorem forall_afterAggregations (query : Query) (parts : Parts)
    (having : ∀ stage ∈ parts.having, P stage) (fill : ∀ stage ∈ parts.fill, P stage)
    (map : ∀ column expression, P (.map column expression))
    (sort : ∀ columns descending, P (.sort columns descending)) (tail : ∀ offset, P (.tail offset))
    (limit : ∀ count, P (.limit count)) : ∀ stage ∈ parts.afterAggregations query, P stage := by
  simp only [Parts.afterAggregations, List.forall_mem_append]
  exact ⟨⟨⟨⟨⟨having, fill⟩, List.forall_mem_map.2 fun math _ => map _ _⟩,
    forall_sortStages P sort _⟩, forall_toList P _ tail _⟩, forall_toList P _ limit _⟩

end

end SeriesQuery.Flux
