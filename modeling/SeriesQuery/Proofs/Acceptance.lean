import SeriesQuery.Graphite.Compiler
import SeriesQuery.Prometheus.Compiler
import SeriesQuery.Proofs.Query.Checks
import SeriesQuery.Rrd.Compiler

/-!
Which queries the compilers for Graphite, PromQL and round-robin databases take. The last takes what
passes the common check; the others also look at the function of each aggregation, together with the
interval and the grouping, and at the values of filters on aggregated values.
-/

set_option autoImplicit false

namespace SeriesQuery

/-! ## Round-robin databases -/

theorem Rrd.exists_compile_iff (layout : Layout) (base : String) (mode : Mode) (query : Query) :
    (∃ compiled, compile layout base mode query = .ok compiled) ↔ query.checkCompilable = .ok () := by
  refine (Query.exists_checked_iff fun interval? _ => ?_).trans (and_iff_left trivial)
  exact iff_true_intro ⟨_, rfl⟩

/-! ## Graphite -/

namespace Graphite

def IsThreshold : Scalar → Prop
  | .integer _ | .float _ => True
  | _ => False

/-- Summaries by bucket have no percentiles. -/
def Summarizes (interval? : Option Duration) (function : AggregateFunction) : Prop :=
  interval? ≠ none → ∀ percent, function ≠ .percentile percent

theorem exists_aggregated_iff {target : Target} {function : AggregateFunction}
    {interval? : Option Duration} :
    (∃ made, aggregated target function interval? = .ok made) ↔ Summarizes interval? function := by
  cases interval? with
  | none => exact iff_of_true ⟨_, rfl⟩ fun present => absurd rfl present
  | some interval =>
    cases function with
    | percentile percent =>
      refine iff_of_false not_exists_ok fun summarizes => ?_
      exact summarizes (Option.some_ne_none _) percent rfl
    | _ => exact iff_of_true ⟨_, rfl⟩ fun _ _ => nofun

theorem exists_source_iff {root? : Option String} {query : Query} {interval? : Option Duration} :
    (∃ made, source root? query interval? = .ok made) ↔
      ∀ aggregation ∈ query.aggregations, Summarizes interval? aggregation.function := by
  unfold source
  split
  · next none => exact iff_of_true ⟨_, rfl⟩ (by simp [none])
  · next single isSingle =>
    rw [isSingle, List.forall_mem_singleton, exists_bind_pure_iff]
    exact exists_aggregated_iff
  · rw [exists_bind_pure_iff, exists_mapM_iff]
    refine forall₂_congr fun aggregation _ => ?_
    rw [exists_bind_pure_iff]
    exact exists_aggregated_iff

theorem exists_withHaving_iff {query : Query} (target : Target) (having : Having) :
    (∃ made, withHaving query target having = .ok made) ↔ IsThreshold having.value := by
  unfold withHaving
  cases having.value with
  | integer value | float value =>
    refine iff_of_true ?_ trivial
    cases having.operator <;> exact ⟨_, rfl⟩
  | _ => exact iff_of_false not_exists_ok id

theorem exists_compile_iff (root? : Option String) (query : Query) :
    (∃ compiled, compile root? query = .ok compiled) ↔ query.checkCompilable = .ok () ∧
      (∀ aggregation ∈ query.aggregations, query.interval? ≠ none →
        ∀ percent, aggregation.function ≠ .percentile percent) ∧
      ∀ having ∈ query.having, IsThreshold having.value := by
  refine exists_bind_pure_iff.trans (Query.exists_checked_iff fun interval? read => ?_)
  rw [exists_bind_iff]
  simp only [exists_bind_pure_iff, exists_foldlM_iff exists_withHaving_iff, exists_and_right]
  rw [exists_source_iff]
  simp only [Summarizes, ne_eq, Query.bucket_eq_none_iff read]

end Graphite

/-! ## PromQL -/

namespace Prometheus

def IsThreshold : Scalar → Prop
  | .integer _ => True
  | .float value => Decimal.isFinite value = true
  | _ => False

/-- Functions of the samples of an interval are all but the first; functions of several series, which
stand alone without an interval and around the others with groups, have no last and no spread either. -/
structure Supports (query : Query) (function : AggregateFunction) : Prop where
  bucketed : query.interval? ≠ none → function ≠ .first ∧
    (query.groupBy ≠ [] → function ≠ .last ∧ function ≠ .spread)
  whole : query.interval? = none → function ≠ .first ∧ function ≠ .last ∧ function ≠ .spread

section
variable {query : Query} {aggregation : Aggregation}

theorem exists_overTime_iff {selector : Selector} {interval : Duration}
    {function : AggregateFunction} :
    (∃ made, overTime query selector interval function = .ok made) ↔ function ≠ .first := by
  cases function with
  | first => exact iff_of_false not_exists_ok (not_not.2 rfl)
  | _ => exact iff_of_true ⟨_, rfl⟩ nofun

theorem exists_across_iff {inner : Expression} {bucketed : Bool} {function : AggregateFunction} :
    (∃ made, across query inner bucketed function = .ok made) ↔
      function ≠ .first ∧ function ≠ .last ∧ function ≠ .spread := by
  cases function with
  | first => exact iff_of_false not_exists_ok fun others => others.1 rfl
  | last => exact iff_of_false not_exists_ok fun others => others.2.1 rfl
  | spread => exact iff_of_false not_exists_ok fun others => others.2.2 rfl
  | _ => exact iff_of_true ⟨_, rfl⟩ ⟨nofun, nofun, nofun⟩

theorem exists_threshold_iff {having : Having} :
    (∃ made, threshold having = .ok made) ↔ IsThreshold having.value := by
  unfold threshold
  cases having.value with
  | integer value => exact iff_of_true ⟨_, rfl⟩ trivial
  | float value =>
    dsimp only
    split
    · next finite => exact iff_of_true ⟨_, rfl⟩ finite
    · next infinite => exact iff_of_false not_exists_ok infinite
  | _ => exact iff_of_false not_exists_ok id

theorem isSome_comparison? (operator : Operator) :
    (comparison? operator).isSome = operator.isComparison := by
  cases operator <;> rfl

/-- A filter that is a comparison and concerns the aggregation has a threshold. -/
def Thresholded (aggregation : Aggregation) (having : Having) : Prop :=
  having.operator.isComparison = true →
    having.field = aggregation.outputName ∨ having.field = aggregation.field →
      IsThreshold having.value

theorem exists_withHaving_iff (expression : Expression) (having : Having) :
    (∃ made, withHaving aggregation expression having = .ok made) ↔
      Thresholded aggregation having := by
  have concerned : concerns having aggregation = true ↔
      having.field = aggregation.outputName ∨ having.field = aggregation.field := by
    simp [concerns]
  rw [withHaving, Thresholded, ← isSome_comparison?, ← concerned]
  split
  · next about =>
    cases comparison? having.operator with
    | none => exact iff_of_true ⟨_, rfl⟩ nofun
    | some operator =>
      rw [exists_map_iff, exists_threshold_iff]
      exact ⟨fun number _ _ => number, fun number => number rfl about⟩
  · next apart => exact iff_of_true ⟨_, rfl⟩ fun _ about => absurd about apart

theorem exists_filtered_iff {first : Except QueryError Expression} {filters : List Having} :
    (∃ made, (first >>= fun expression => filters.foldlM (withHaving aggregation) expression) =
      .ok made) ↔
      (∃ expression, first = .ok expression) ∧ ∀ having ∈ filters, Thresholded aggregation having := by
  rw [exists_bind_iff]
  simp only [exists_foldlM_iff exists_withHaving_iff, exists_and_right]

theorem exists_aggregationExpression_iff {interval? : Option Duration}
    (read : query.bucket = .ok interval?) :
    (∃ made, aggregationExpression query interval? aggregation = .ok made) ↔
      Supports query aggregation.function ∧
        ∀ having ∈ query.having, Thresholded aggregation having := by
  cases interval? with
  | none =>
    -- one function of several series, and nothing around it
    have absent := (Query.bucket_eq_none_iff read).1 rfl
    refine exists_filtered_iff.trans (and_congr_left fun _ => exists_across_iff.trans ?_)
    exact ⟨fun others => ⟨fun present => absurd absent present, fun _ => others⟩,
      fun supports => supports.whole absent⟩
  | some interval =>
    have present := (Query.bucket_eq_none_iff read).not.1 (Option.some_ne_none _)
    have bucketed (others : aggregation.function ≠ .first ∧
        (query.groupBy ≠ [] → aggregation.function ≠ .last ∧ aggregation.function ≠ .spread)) :
        Supports query aggregation.function :=
      ⟨fun _ => others, fun absent => absurd absent present⟩
    refine exists_bind_iff.trans ?_
    cases groups : query.groupBy with
    | nil =>
      -- the function of the samples stands alone
      simp only [List.isEmpty_nil, if_true, exists_filtered_iff, Except.ok.injEq, exists_eq', true_and,
        exists_and_right, exists_overTime_iff]
      refine and_congr_left fun _ => ⟨fun other => bucketed ⟨other, ?_⟩, ?_⟩
      · exact fun grouped => absurd groups grouped
      · exact fun supports => (supports.bucketed present).1
    | cons tag others =>
      -- the same function is applied once more, across the series of each group
      simp only [List.isEmpty_cons, Bool.false_eq_true, if_false, exists_filtered_iff,
        exists_across_iff, exists_and_right, exists_overTime_iff]
      rw [← and_assoc]
      refine and_congr_left fun _ => ⟨fun ⟨_, other⟩ => bucketed ⟨other.1, fun _ => other.2⟩, ?_⟩
      intro supports
      have other := supports.bucketed present
      exact ⟨other.1, other.1, other.2 (groups ▸ List.cons_ne_nil _ _)⟩

end

theorem exists_compile_iff (defaultStep : String) (query : Query) :
    (∃ compiled, compile defaultStep query = .ok compiled) ↔ query.checkCompilable = .ok () ∧
      ∀ aggregation ∈ query.aggregations, Supports query aggregation.function ∧
        ∀ having ∈ query.having, Thresholded aggregation having := by
  refine Query.exists_checked_iff fun interval? read => ?_
  cases aggregations : query.aggregations with
  | nil => exact iff_of_true ⟨_, rfl⟩ (List.forall_mem_nil _)
  | cons first others =>
    simp only [List.isEmpty_cons, Bool.false_eq_true, if_false, exists_bind_pure_iff, exists_mapM_iff,
      exists_aggregationExpression_iff read]

end Prometheus

/-! ## All of them -/

/-- For round-robin databases, a query compiles exactly when it passes the common check. For Graphite,
no percentile may stand with an interval, and filters on aggregated values compare with numbers. For
PromQL, each aggregation has a function that the interval and the grouping allow, and the comparisons
that concern it compare with finite numbers. -/
theorem compile_succeeds_iff (query : Query) :
    (∀ layout base mode, (∃ compiled, Rrd.compile layout base mode query = .ok compiled) ↔
      query.checkCompilable = .ok ()) ∧
    (∀ root?, (∃ compiled, Graphite.compile root? query = .ok compiled) ↔
      query.checkCompilable = .ok () ∧
      (∀ aggregation ∈ query.aggregations, query.interval? ≠ none →
        ∀ percent, aggregation.function ≠ .percentile percent) ∧
      ∀ having ∈ query.having, Graphite.IsThreshold having.value) ∧
    ∀ defaultStep, (∃ compiled, Prometheus.compile defaultStep query = .ok compiled) ↔
      query.checkCompilable = .ok () ∧
      ∀ aggregation ∈ query.aggregations, Prometheus.Supports query aggregation.function ∧
        ∀ having ∈ query.having, Prometheus.Thresholded aggregation having :=
  ⟨fun layout base mode => Rrd.exists_compile_iff layout base mode query,
    fun root? => Graphite.exists_compile_iff root? query,
    fun defaultStep => Prometheus.exists_compile_iff defaultStep query⟩

end SeriesQuery
