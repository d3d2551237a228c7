import SeriesQuery.Proofs.Flux.Conditions
import SeriesQuery.Proofs.Flux.Likeness
import SeriesQuery.Proofs.Flux.Plans
import SeriesQuery.Proofs.Query.Groups

/-!
Texts that a query carries as values stay within the quotes they are written in: queries that differ
in nothing else are compiled to scripts that are alike.
-/

set_option autoImplicit false

namespace SeriesQuery

/-! ## Queries that differ in texts -/

inductive Scalar.Like : Scalar → Scalar → Prop
  | same (value : Scalar) : Like value value
  | string (first second : String) : Like (.string first) (.string second)

inductive ConditionValue.Like : ConditionValue → ConditionValue → Prop
  | scalar {first second : Scalar} (values : first.Like second) :
    Like (.scalar first) (.scalar second)
  | list {values others : List Scalar} (each : List.Forall₂ Scalar.Like values others) :
    Like (.list values) (.list others)

theorem ConditionValue.Like.of_scalar {value : Scalar} {other : ConditionValue}
    (like : (ConditionValue.scalar value).Like other) :
    ∃ otherValue, other = .scalar otherValue ∧ value.Like otherValue := by
  cases like with
  | scalar values => exact ⟨_, rfl, values⟩

theorem ConditionValue.Like.of_list {values : List Scalar} {other : ConditionValue}
    (like : (ConditionValue.list values).Like other) :
    ∃ others, other = .list others ∧ List.Forall₂ Scalar.Like values others := by
  cases like with
  | list each => exact ⟨_, rfl, each⟩

theorem ConditionValue.Like.eq_null {other : ConditionValue}
    (like : (ConditionValue.scalar .null).Like other) : other = .scalar .null := by
  obtain ⟨_, rfl, values⟩ := like.of_scalar
  cases values
  rfl

theorem ConditionValue.Like.of_pair {low high : Scalar} {other : ConditionValue}
    (like : (ConditionValue.list [low, high]).Like other) :
    ∃ otherLow otherHigh, other = .list [otherLow, otherHigh] ∧
      low.Like otherLow ∧ high.Like otherHigh := by
  obtain ⟨_, rfl, each⟩ := like.of_list
  obtain ⟨otherLow, _, lows, others, rfl⟩ := List.forall₂_cons_left_iff.1 each
  obtain ⟨otherHigh, _, highs, ends, rfl⟩ := List.forall₂_cons_left_iff.1 others
  obtain rfl := List.forall₂_nil_left_iff.1 ends
  exact ⟨otherLow, otherHigh, rfl, lows, highs⟩

structure Condition.Like (first second : Condition) : Prop where
  field : first.field = second.field
  operator : first.operator = second.operator
  value : first.value.Like second.value
  connective : first.connective = second.connective

structure Having.Like (first second : Having) : Prop where
  field : first.field = second.field
  operator : first.operator = second.operator
  value : first.value.Like second.value

/-- Queries that differ in nothing but the measurement and the texts that fields are compared
with. -/
structure Query.Like (first second : Query) : Prop where
  conditions : List.Forall₂ Condition.Like first.conditions second.conditions
  having : List.Forall₂ Having.Like first.having second.having
  others : second = { first with
    measurement := second.measurement, conditions := second.conditions, having := second.having }

namespace Flux

/-! ## Literals and predicates -/

theorem like_of_plainLiteral {field : String} {value other : Scalar} {first second : Literal}
    (like : value.Like other) (made : plainLiteral field value = .ok first)
    (otherMade : plainLiteral field other = .ok second) : first.Like second := by
  cases like with
  | same =>
    rw [made] at otherMade
    cases otherMade
    exact .same (term_of_plainLiteral made).1
  | string a b =>
    cases made
    cases otherMade
    exact .string a b

theorem like_of_timeLiteral {field : String} {value other : Scalar} {first second : Literal}
    (like : value.Like other) (made : timeLiteral field value = .ok first)
    (otherMade : timeLiteral field other = .ok second) : first.Like second := by
  cases like with
  | same =>
    rw [made] at otherMade
    cases otherMade
    exact .same (term_of_timeLiteral made).1
  | string a b =>
    cases made
    cases otherMade
    exact .timeText a b

section Conditions

variable {condition other : Condition}

theorem isTime_like (like : condition.Like other) : condition.isTime = other.isTime := by
  rw [Condition.isTime, Condition.isTime, like.field]

theorem conditionColumn_like (like : condition.Like other) :
    conditionColumn condition = conditionColumn other := by
  rw [conditionColumn, conditionColumn, isTime_like like, like.field]

theorem like_of_conditionLiteral (like : condition.Like other) {value otherValue : Scalar}
    {first second : Literal} (values : value.Like otherValue)
    (made : conditionLiteral condition value = .ok first)
    (otherMade : conditionLiteral other otherValue = .ok second) : first.Like second := by
  rw [conditionLiteral, ← like.field, ← isTime_like like] at otherMade
  rw [conditionLiteral] at made
  split at made
  · next time =>
    rw [if_pos time] at otherMade
    exact like_of_timeLiteral values made otherMade
  · next noTime =>
    rw [if_neg noTime] at otherMade
    exact like_of_plainLiteral values made otherMade

theorem like_of_conditionLiterals (like : condition.Like other) {values otherValues : List Scalar}
    {literals otherLiterals : List Literal} (each : List.Forall₂ Scalar.Like values otherValues)
    (made : values.mapM (conditionLiteral condition) = .ok literals)
    (otherMade : otherValues.mapM (conditionLiteral other) = .ok otherLiterals) :
    List.Forall₂ Literal.Like literals otherLiterals :=
  forall₂_made each (fun _ _ _ scalars _ _ => like_of_conditionLiteral like scalars) made otherMade

theorem predicate_compare {value : Scalar} (isScalar : condition.value = .scalar value)
    (notMissing : condition.operator = .equal → value = .null → False)
    (notPresent : condition.operator = .notEqual → value = .null → False)
    (noRegex : condition.operator ≠ .regex) (noNotRegex : condition.operator ≠ .notRegex) :
    predicate condition = do
      return .compare (conditionColumn condition) condition.operator
        (← conditionLiteral condition value) := by
  unfold predicate
  rw [isScalar]
  split
  · next isOperator isNull => exact (notMissing isOperator (ConditionValue.scalar.inj isNull)).elim
  · next isOperator isNull => exact (notPresent isOperator (ConditionValue.scalar.inj isNull)).elim
  · next isOperator _ => exact absurd isOperator noRegex
  · next isOperator _ => exact absurd isOperator noNotRegex
  · next same _ _ _ _ =>
    cases same
    rfl
  all_goals contradiction

theorem like_of_comparison (like : condition.Like other) {value otherValue : Scalar}
    (values : value.Like otherValue) (otherIs : other.value = .scalar otherValue)
    (notMissing : condition.operator = .equal → value = .null → False)
    (notPresent : condition.operator = .notEqual → value = .null → False)
    (noRegex : condition.operator ≠ .regex) (noNotRegex : condition.operator ≠ .notRegex)
    {literal : Literal} {second : Predicate}
    (made : conditionLiteral condition value = .ok literal) (otherMade : predicate other = .ok second) :
    (Predicate.compare (conditionColumn condition) condition.operator literal).Like second := by
  have null : otherValue = .null → value = .null := by
    rintro rfl
    cases values
    rfl
  rw [like.operator] at notMissing notPresent noRegex noNotRegex
  rw [predicate_compare otherIs (fun equal isNull => notMissing equal (null isNull))
    (fun notEqual isNull => notPresent notEqual (null isNull)) noRegex noNotRegex] at otherMade
  obtain ⟨otherLiteral, otherLiteralMade, same⟩ := exists_of_bind otherMade
  cases same
  rw [conditionColumn_like like, like.operator]
  exact .compare _ _ (like_of_conditionLiteral like values made otherLiteralMade)

theorem like_of_list (like : condition.Like other) {values others : List Scalar}
    (each : List.Forall₂ Scalar.Like values others) {build : List Literal → Predicate}
    (builds : ∀ literals otherLiterals, List.Forall₂ Literal.Like literals otherLiterals →
      (build literals).Like (build otherLiterals))
    {literals : List Literal} {second : Predicate}
    (made : values.mapM (conditionLiteral condition) = .ok literals)
    (otherMade : (do return build (← others.mapM (conditionLiteral other))) = Except.ok second) :
    (build literals).Like second := by
  obtain ⟨otherLiterals, otherLiteralsMade, same⟩ := exists_of_bind otherMade
  cases same
  exact builds _ _ (like_of_conditionLiterals like each made otherLiteralsMade)

theorem like_of_unequals (column : String) {literals others : List Literal}
    (each : List.Forall₂ Literal.Like literals others) :
    (Predicate.all column (literals.map fun literal => (.notEqual, literal))).Like
      (.all column (others.map fun literal => (.notEqual, literal))) := by
  apply Predicate.Like.all
  rw [List.forall₂_map_left_iff, List.forall₂_map_right_iff]
  exact each.imp fun _ _ like => ⟨rfl, like⟩

theorem like_of_bounds (column : String) {low high otherLow otherHigh : Literal}
    (lows : low.Like otherLow) (highs : high.Like otherHigh) :
    (Predicate.all column [(.greaterOrEqual, low), (.lessOrEqual, high)]).Like
      (.all column [(.greaterOrEqual, otherLow), (.lessOrEqual, otherHigh)]) :=
  .all _ (.cons ⟨rfl, lows⟩ (.cons ⟨rfl, highs⟩ .nil))

theorem like_of_predicate (like : condition.Like other) (noRegex : condition.operator ≠ .regex)
    (noNotRegex : condition.operator ≠ .notRegex) {first second : Predicate}
    (made : predicate condition = .ok first) (otherMade : predicate other = .ok second) :
    first.Like second := by
  have column := conditionColumn_like like
  have value := like.value
  -- The other condition has a value of the same form, so that its predicate is made alike.
  cases makes_of_predicate made with
  | missing isOperator isValue =>
    rw [isValue] at value
    simp only [predicate, value.eq_null, ← like.operator, isOperator, ← column] at otherMade
    cases otherMade
    exact .missing _
  | present isOperator isValue =>
    rw [isValue] at value
    simp only [predicate, value.eq_null, ← like.operator, isOperator, ← column] at otherMade
    cases otherMade
    exact .present _
  | pattern isOperator _ => exact (isOperator.elim noRegex noNotRegex).elim
  | compare isValue notMissing notPresent _ _ literalMade =>
    rw [isValue] at value
    obtain ⟨_, otherIs, values⟩ := value.of_scalar
    exact like_of_comparison like values otherIs notMissing notPresent noRegex noNotRegex
      literalMade otherMade
  | member isOperator isValue literalsMade =>
    rw [isValue] at value
    obtain ⟨others, otherIs, each⟩ := value.of_list
    simp only [predicate, otherIs, ← like.operator, isOperator, ← column] at otherMade
    exact like_of_list like each (fun _ _ => .member _) literalsMade otherMade
  | unequals isOperator isValue literalsMade =>
    rw [isValue] at value
    obtain ⟨others, otherIs, each⟩ := value.of_list
    simp only [predicate, otherIs, ← like.operator, isOperator, ← column] at otherMade
    exact like_of_list like each (fun _ _ => like_of_unequals _) literalsMade otherMade
  | bounds isOperator isValue lowMade highMade =>
    rw [isValue] at value
    obtain ⟨otherLow, otherHigh, otherIs, lows, highs⟩ := value.of_pair
    simp only [predicate, otherIs, ← like.operator, isOperator, ← column] at otherMade
    obtain ⟨otherLowest, otherLowMade, otherMade⟩ := exists_of_bind otherMade
    obtain ⟨otherHighest, otherHighMade, same⟩ := exists_of_bind otherMade
    cases same
    exact like_of_bounds _ (like_of_conditionLiteral like lows lowMade otherLowMade)
      (like_of_conditionLiteral like highs highMade otherHighMade)

end Conditions

/-! ## Plans -/

theorem like_of_having {query other : Query} {columns : List ValueColumn}
    {having otherHaving : Having} (like : having.Like otherHaving)
    (aggregations : query.aggregations = other.aggregations)
    {first second : Stage} (made : havingStage query columns having = .ok first)
    (otherMade : havingStage other columns otherHaving = .ok second) : first.Like second := by
  unfold havingStage at made otherMade
  rw [← like.operator, ← like.field, ← aggregations] at otherMade
  split at made
  · cases made
  · next comparison =>
    rw [if_neg comparison] at otherMade
    obtain ⟨literal, literalMade, same⟩ := exists_of_bind made
    cases same
    obtain ⟨otherLiteral, otherLiteralMade, same⟩ := exists_of_bind otherMade
    cases same
    exact .having _ _ (like_of_plainLiteral like.value literalMade otherLiteralMade)

theorem forall₂_like {stages : List Stage} (fixed : ∀ stage ∈ stages, stage.IsFixed) :
    List.Forall₂ Stage.Like stages stages :=
  List.forall₂_same.2 fun stage member => .same (fixed stage member)

theorem isFixed_rangeStage (window : TimeWindow) : (rangeStage window).IsFixed := by
  have hour : Unquoted "1h" := by decide
  cases window with
  | unset => exact hour
  | relative duration => exact duration.unquoted_text
  | absolute start finish => exact trivial

section Queries

variable {query other : Query} {parts otherParts : Parts}

theorem stagesBefore_like (like : query.Like other) :
    List.Forall₂ Stage.Like (stagesBefore query) (stagesBefore other) := by
  have time : other.time = query.time := by rw [like.others]
  have timezone : other.timezone? = query.timezone? := by rw [like.others]
  rw [stagesBefore, stagesBefore, zoneShift?, zoneShift?, time, timezone]
  have range : List.Forall₂ Stage.Like [rangeStage query.time] [rangeStage query.time] :=
    forall₂_like (List.forall_mem_singleton.2 (isFixed_rangeStage query.time))
  have shift := forall₂_like (forall_toList Stage.IsFixed Stage.timeShift
    (fun _ => trivial) (query.timezone?.bind Offset.read?))
  exact List.rel_append (List.rel_append range shift) (.cons (.measurement _ _) .nil)

/-- The parts that are made of values are alike; the others are the same. -/
structure Parts.Like (first second : Parts) : Prop where
  groups : List.Forall₂ (List.Forall₂ Predicate.Like) first.groups second.groups
  interval : second.interval? = first.interval?
  having : List.Forall₂ Stage.Like first.having second.having
  fill : second.fill = first.fill

theorem interval_like (like : query.Like other) (made : parts.MadeFor query)
    (otherMade : otherParts.MadeFor other) : otherParts.interval? = parts.interval? := by
  have same : other.bucket = query.bucket := by
    rw [like.others]
    rfl
  have interval := otherMade.interval
  rw [same, made.interval] at interval
  exact (Except.ok.inj interval).symm

theorem like_of_madeFor (like : query.Like other)
    (noPattern : ∀ condition ∈ query.conditions,
      condition.operator ≠ .regex ∧ condition.operator ≠ .notRegex)
    (made : parts.MadeFor query) (otherMade : otherParts.MadeFor other) :
    parts.Like otherParts where
  groups := by
    have groups := forall₂_conditionGroups (fun _ _ => Condition.Like.connective) like.conditions
    refine forall₂_made groups ?_ made.groups otherMade.groups
    intro group groupMember otherGroup each predicates otherPredicates
    refine forall₂_made each ?_
    intro condition member otherCondition conditionLike first second
    -- What is known of the conditions of the query holds in each group, as the groups are made of
    -- them.
    have inQuery : condition ∈ query.conditions := by
      rw [← flatten_conditionGroups query.conditions]
      exact List.mem_flatten_of_mem groupMember member
    obtain ⟨noRegex, noNotRegex⟩ := noPattern condition inQuery
    exact like_of_predicate conditionLike noRegex noNotRegex
  interval := interval_like like made otherMade
  having := by
    have aggregations : other.aggregations = query.aggregations := by rw [like.others]
    have otherHaving := otherMade.having
    rw [aggregations] at otherHaving
    refine forall₂_made like.having ?_ made.having otherHaving
    intro having _ otherHaving havingLike first second
    exact like_of_having havingLike aggregations.symm
  fill := by
    have fill : other.fill? = query.fill? := by rw [like.others]
    have otherFill := otherMade.fill
    rw [fill, interval_like like made otherMade] at otherFill
    exact Except.ok.inj (otherFill.symm.trans made.fill)

theorem stagesAfter_like (like : query.Like other) (noMath : query.math = [])
    (made : parts.MadeFor query) (partsLike : parts.Like otherParts) :
    List.Forall₂ Stage.Like (stagesAfter query parts) (stagesAfter other otherParts) := by
  have same : stagesAfter other otherParts =
      stagesAfter query { parts with having := otherParts.having } := by
    rw [stagesAfter, stagesAfter, partsLike.interval, partsLike.fill]
    rw [like.others]
    rfl
  -- Only the filters on aggregated values have texts of their own; each other stage is like itself.
  have distinct : List.Forall₂ Stage.Like (if query.distinct then [Stage.distinct] else [])
      (if query.distinct then [Stage.distinct] else []) := by
    apply forall₂_like
    split
    · exact List.forall_mem_singleton.2 trivial
    · exact List.forall_mem_nil _
  have fields := forall₂_like (forall_ite Stage.IsFixed (.fields (filteredFields query))
    trivial ((filteredFields query).isEmpty = true))
  have group := forall₂_like (forall_ite Stage.IsFixed (.group query.groupBy) trivial
    (query.groupBy.isEmpty = true))
  have window := forall₂_like (forall_toList Stage.IsFixed Stage.window
    (fun _ => trivial) parts.interval?)
  have reducers := forall₂_like (forall_aggregationStages Stage.IsFixed (fun _ => trivial)
    (fun _ _ => trivial) query.aggregations)
  have fill := forall₂_like (forall_fillStages Stage.IsFixed made.fill trivial trivial
    (fun _ => trivial) fun _ finite => finite)
  have sort := forall₂_like (forall_sortStages Stage.IsFixed (fun _ _ => trivial) query.orderBy)
  have tail := forall₂_like (forall_toList Stage.IsFixed Stage.tail
    (fun _ => trivial) query.offset?)
  have limit := forall₂_like (forall_toList Stage.IsFixed Stage.limit
    (fun _ => trivial) query.limit?)
  have before := List.rel_append (List.rel_append (List.rel_append (List.rel_append fields distinct)
    group) window) reducers
  rw [same, stagesAfter, stagesAfter, noMath]
  exact List.rel_append (List.rel_append (List.rel_append (List.rel_append (List.rel_append
    (List.rel_append before partsLike.having) fill) .nil) sort) tail) limit

/-- Two queries that differ in nothing but the measurement and the texts that fields are compared
with are compiled, for any buckets, to scripts that are equal without the contents of their texts. -/
theorem erased_eq_of_like {bucket otherBucket : String} {compiled otherCompiled : Compiled}
    (like : query.Like other)
    (noPattern : ∀ condition ∈ query.conditions,
      condition.operator ≠ .regex ∧ condition.operator ≠ .notRegex)
    (noMath : query.math = []) (compiles : compile bucket query = .ok compiled)
    (otherCompiles : compile otherBucket other = .ok otherCompiled) :
    erased compiled.text = erased otherCompiled.text := by
  obtain ⟨parts, made, rfl⟩ := compile_eq_ok_iff.1 compiles
  obtain ⟨otherParts, otherMade, rfl⟩ := compile_eq_ok_iff.1 otherCompiles
  have partsLike := like_of_madeFor like noPattern made otherMade
  have filters : List.Forall₂ Stage.Like (parts.groups.map Stage.filter)
      (otherParts.groups.map Stage.filter) := by
    rw [List.forall₂_map_left_iff, List.forall₂_map_right_iff]
    exact partsLike.groups.imp fun _ _ each => .filter each
  have stages := List.rel_append (List.rel_append (stagesBefore_like like) filters)
    (stagesAfter_like like noMath made partsLike)
  have timezone : other.timezone? = query.timezone? := by rw [like.others]
  apply Alike.erased
  show Alike ((parts.plan query).script.text bucket)
    ((otherParts.plan other).script.text otherBucket)
  rw [Parts.plan, Parts.plan, namedZone?, namedZone?, zoneShift?, zoneShift?, timezone]
  exact alike_text stages bucket otherBucket

def hostQuery (measurement host : String) : Query :=
  (Query.ofMeasurement measurement).condition ⟨"host", .equal, .scalar (.string host), .and⟩

theorem compile_hostQuery {measurement : String} (host bucket : String)
    (checked : (hostQuery measurement host).checkCompilable = .ok ()) :
    ∃ compiled, compile bucket (hostQuery measurement host) = .ok compiled := by
  have made : (Parts.mk [[.compare "host" .equal (.string host)]] none [] []).MadeFor
      (hostQuery measurement host) := by
    refine ⟨checked, ?_, rfl, rfl, rfl⟩
    rw [conditionGroups_eq_splitBy]
    rfl
  exact ⟨_, compile_eq_ok_iff.2 ⟨_, made, rfl⟩⟩

/-- A text that would end the filter and drop all columns if its quotes were not escaped. -/
theorem erased_eq_crafted :
    ∃ compiled otherCompiled,
      compile "metrics" (hostQuery "cpu" "web") = .ok compiled ∧
      compile "other" (hostQuery "mem" "\") |> drop() // \\\n") = .ok otherCompiled ∧
      erased compiled.text = erased otherCompiled.text := by
  obtain ⟨compiled, compiles⟩ := compile_hostQuery "web" "metrics"
    (show (hostQuery "cpu" "web").checkCompilable = .ok () from rfl)
  obtain ⟨otherCompiled, otherCompiles⟩ := compile_hostQuery "\") |> drop() // \\\n" "other"
    (show (hostQuery "mem" "\") |> drop() // \\\n").checkCompilable = .ok () from rfl)
  have like : (hostQuery "cpu" "web").Like (hostQuery "mem" "\") |> drop() // \\\n") :=
    ⟨.cons ⟨rfl, rfl, .scalar (.string _ _), rfl⟩ .nil, .nil, rfl⟩
  exact ⟨compiled, otherCompiled, compiles, otherCompiles,
    erased_eq_of_like like (by decide) rfl compiles otherCompiles⟩

end Queries

end Flux

end SeriesQuery
