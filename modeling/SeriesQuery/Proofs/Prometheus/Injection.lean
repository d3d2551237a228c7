import SeriesQuery.Proofs.Acceptance
import SeriesQuery.Proofs.Flux.Erasure

/-!
Values of conditions stay within the quotes they are written in: queries that differ in nothing else
are compiled to expressions that are equal without the contents of their texts. Texts are quoted as
in scripts, except that a line feed is written as a letter.
-/

set_option autoImplicit false

namespace SeriesQuery

def Quoteless (name : String) : Prop := '"' ∉ name.toList

instance (name : String) : Decidable (Quoteless name) :=
  inferInstanceAs (Decidable ('"' ∉ name.toList))

theorem Quoteless.append {first last : String} (left : Quoteless first) (right : Quoteless last) :
    Quoteless (first ++ last) := by
  intro quote
  rw [String.toList_append, List.mem_append] at quote
  exact quote.elim left right

/-! ## Queries that differ in values -/

/-- Conditions that differ in their values alone. -/
structure Condition.Revalued (first second : Condition) : Prop where
  field : first.field = second.field
  operator : first.operator = second.operator
  connective : first.connective = second.connective

theorem Condition.Revalued.values {first second : Condition} (revalued : first.Revalued second)
    (shaped : first.shapeProblem? = none) (otherShaped : second.shapeProblem? = none) :
    (∃ value other, first.value = .scalar value ∧ second.value = .scalar other) ∨
      ∃ values others, first.value = .list values ∧ second.value = .list others := by
  cases isValue : first.value with
  | scalar value =>
    cases isOther : second.value with
    | scalar other => exact .inl ⟨value, other, rfl, rfl⟩
    | list others =>
      have list := requiresList_of_list otherShaped isOther
      rw [← revalued.operator, not_requiresList_of_scalar shaped isValue] at list
      cases list
  | list values =>
    cases isOther : second.value with
    | list others => exact .inr ⟨values, others, rfl, rfl⟩
    | scalar other =>
      have list := requiresList_of_list shaped isValue
      rw [revalued.operator, not_requiresList_of_scalar otherShaped isOther] at list
      cases list

/-- Queries that differ in the values of their conditions alone. -/
structure Query.Revalued (first second : Query) : Prop where
  conditions : List.Forall₂ Condition.Revalued first.conditions second.conditions
  others : second = { first with conditions := second.conditions }

/-- No name that stands in an expression has a double quote. -/
structure Query.PlainNames (query : Query) : Prop where
  measurement : Quoteless query.measurement
  fields : ∀ field ∈ query.fields, Quoteless field
  aggregations : ∀ aggregation ∈ query.aggregations, Quoteless aggregation.field
  labels : ∀ condition ∈ query.conditions, Quoteless condition.field
  groupBy : ∀ tag ∈ query.groupBy, Quoteless tag

namespace Prometheus

open Flux (Alike)

/-! ## Selectors -/

/-- Matchers that differ in their values alone. -/
structure Matcher.Like (first second : Matcher) : Prop where
  label : first.label = second.label
  relation : first.relation = second.relation
  quoteless : Quoteless (first.label ++ first.relation)

theorem Matcher.Like.alike {first second : Matcher} (like : first.Like second) :
    Alike first.text second.text := by
  rw [Matcher.text, Matcher.text, ← like.label, ← like.relation]
  exact (Alike.of_noQuote like.quoteless).append (.quotedLine _ _)

theorem matcher?_like {first second : Condition} (revalued : first.Revalued second)
    (quoteless : Quoteless first.field) (shaped : first.shapeProblem? = none)
    (otherShaped : second.shapeProblem? = none) :
    Option.Rel Matcher.Like (matcher? first) (matcher? second) := by
  have made (relation value other : String) (plain : Quoteless relation) :
      Option.Rel Matcher.Like (some ⟨first.field, relation, value⟩)
        (some ⟨second.field, relation, other⟩) :=
    .some ⟨revalued.field, rfl, quoteless.append plain⟩
  have time : second.isTime = first.isTime := by
    rw [Condition.isTime, Condition.isTime, revalued.field]
  unfold matcher?
  rw [time, ← revalued.operator]
  split
  · exact .none
  · rcases revalued.values shaped otherShaped with
      ⟨value, other, isValue, isOther⟩ | ⟨values, others, isValue, isOther⟩
    · rw [isValue, isOther]
      cases first.operator with
      | equal | notEqual | regex | notRegex => exact made _ _ _ (by decide)
      | _ => exact .none
    · rw [isValue, isOther]
      cases first.operator with
      | isIn | notIn => exact made _ _ _ (by decide)
      | _ => exact .none

theorem quoteless_metricName {measurement field : String} (plain : Quoteless measurement)
    (plainField : Quoteless field) : Quoteless (metricName measurement field) := by
  unfold metricName
  split
  · exact plain
  · exact (plain.append (by decide)).append plainField

/-- Selectors of one metric whose matchers differ in their values alone. -/
structure Selector.Like (first second : Selector) : Prop where
  metric : first.metric = second.metric
  quoteless : Quoteless first.metric
  matchers : List.Forall₂ Matcher.Like first.matchers second.matchers

theorem Selector.Like.alike {first second : Selector} (like : first.Like second) :
    Alike first.text second.text := by
  have glue : Alike "," "," := .of_noQuote (by decide)
  have matchers := glue.intercalate (like.matchers.imp fun _ _ pair => pair.alike)
  have none : second.matchers.isEmpty = first.matchers.isEmpty := by
    rw [Bool.eq_iff_iff, List.isEmpty_iff_length_eq_zero, List.isEmpty_iff_length_eq_zero,
      like.matchers.length_eq]
  have metric : Alike first.metric first.metric := .of_noQuote like.quoteless
  rw [Selector.text, Selector.text, none, ← like.metric]
  split
  · exact metric
  · exact ((metric.append (.of_noQuote (by decide))).append matchers).append
      (.of_noQuote (by decide))

section

variable {query other : Query} (revalued : query.Revalued other)
include revalued

theorem selectorOf_like (plain : query.PlainNames) (checked : query.checkCompilable = .ok ())
    (otherChecked : other.checkCompilable = .ok ()) {field : String}
    (plainField : Quoteless field) : (selectorOf query field).Like (selectorOf other field) where
  metric := by
    rw [revalued.others]
    rfl
  quoteless := quoteless_metricName plain.measurement plainField
  matchers := by
    have shaped := (List.forall₂_and_left _ _).2
      ⟨Query.shaped_of_checked checked, revalued.conditions⟩
    have each := (List.forall₂_and_left _ _).2 ⟨plain.labels, shaped⟩
    have pairs := (List.forall₂_and_left _ _).2 ⟨Query.shaped_of_checked otherChecked, each.flip⟩
    refine List.rel_filterMap ?_ pairs.flip
    rintro first second ⟨otherShape, quoteless, shape, pair⟩
    exact matcher?_like pair quoteless shape otherShape

end

/-! ## Expressions -/

section

variable {selector otherSelector : Selector}

theorem alike_rangeText (like : selector.Like otherSelector) (interval : Duration) :
    Alike (rangeText selector interval) (rangeText otherSelector interval) :=
  ((like.alike.append (.of_noQuote (by decide))).append
    (.of_unquoted interval.unquoted_text)).append (.of_noQuote (by decide))

theorem quoteless_of_unquoted {text : String} (unquoted : Unquoted text) : Quoteless text :=
  fun quote => (unquoted _ quote).1 rfl

theorem quoteless_quantile (percent : UInt8) :
    Quoteless (parameterText (some (quantileText percent))) :=
  (quoteless_of_unquoted (unquoted_plain _)).append (by decide)

/-- What stands in front of a part and behind it has no quotes. -/
theorem alike_enclosed {opening closing first second : String} (plain : Quoteless opening)
    (plainEnd : Quoteless closing) (inner : Alike first second) :
    Alike (opening ++ first ++ closing) (opening ++ second ++ closing) :=
  ((Alike.of_noQuote plain).append inner).append (.of_noQuote plainEnd)

theorem alike_overTime (like : selector.Like otherSelector) {query other : Query}
    {interval : Duration} {function : AggregateFunction} {expression otherExpression : Expression}
    (made : overTime query selector interval function = .ok expression)
    (otherMade : overTime other otherSelector interval function = .ok otherExpression) :
    Alike expression.text otherExpression.text := by
  have range := alike_rangeText like interval
  have call (name : String) (parameter? : Option String) (plain : Quoteless name)
      (plainParameter : Quoteless (parameterText parameter?)) :
      Alike (Expression.overTime name parameter? selector interval).text
        (Expression.overTime name parameter? otherSelector interval).text :=
    alike_enclosed ((plain.append (by decide)).append plainParameter) (by decide) range
  cases function with
  | first => cases made
  | spread =>
    cases made
    cases otherMade
    exact (((Alike.of_noQuote (by decide)).append range).append (.of_noQuote (by decide))).append
      range |>.append (.of_noQuote (by decide))
  | percentile percent =>
    cases made
    cases otherMade
    exact call _ _ (by decide) (quoteless_quantile percent)
  | _ =>
    cases made
    cases otherMade
    exact call _ _ (by decide) (by decide)

end

theorem quoteless_groupText {labels : List String} (plain : ∀ label ∈ labels, Quoteless label) :
    Quoteless (groupText labels) := by
  have listed : Quoteless (", ".intercalate labels) := by
    induction labels with
    | nil => decide
    | cons first others ih =>
      obtain ⟨plainFirst, plainOthers⟩ := List.forall_mem_cons.1 plain
      cases others with
      | nil => simpa using plainFirst
      | cons second rest =>
        rw [String.intercalate_cons_cons]
        exact (plainFirst.append (by decide)).append (ih plainOthers)
  unfold groupText
  split
  · decide
  · exact (Quoteless.append (by decide) listed).append (by decide)

theorem alike_across {query other : Query} (same : other.groupBy = query.groupBy)
    (plain : ∀ tag ∈ query.groupBy, Quoteless tag) {inner otherInner : Expression} {bucketed : Bool}
    (alike : Alike inner.text otherInner.text) {function : AggregateFunction}
    {expression otherExpression : Expression}
    (made : across query inner bucketed function = .ok expression)
    (otherMade : across other otherInner bucketed function = .ok otherExpression) :
    Alike expression.text otherExpression.text := by
  have call (name : String) (parameter? : Option String) (plainName : Quoteless name)
      (plainParameter : Quoteless (parameterText parameter?)) :
      Alike (Expression.across name query.groupBy parameter? inner).text
        (Expression.across name other.groupBy parameter? otherInner).text := by
    rw [same]
    exact alike_enclosed (((plainName.append (quoteless_groupText plain)).append
      (by decide)).append plainParameter) (by decide) alike
  cases function with
  | first | last | spread => cases made
  | count =>
    cases made
    cases otherMade
    exact call _ _ (by cases bucketed <;> decide) (by decide)
  | percentile percent =>
    cases made
    cases otherMade
    exact call _ _ (by decide) (quoteless_quantile percent)
  | _ =>
    cases made
    cases otherMade
    exact call _ _ (by decide) (by decide)

theorem quoteless_comparison {operator : Operator} {sign : String}
    (found : comparison? operator = some sign) : Quoteless sign := by
  cases operator <;> cases found <;> decide

theorem quoteless_threshold {having : Having} {number : String}
    (made : threshold having = .ok number) : Quoteless number := by
  unfold threshold at made
  dsimp only at made
  split at made
  · cases made
    exact quoteless_of_unquoted (unquoted_toString_int _)
  · split at made
    · cases made
      exact quoteless_of_unquoted (unquoted_plain _)
    · cases made
  · cases made

theorem alike_withHaving {aggregation : Aggregation} {having : Having}
    {first second expression otherExpression : Expression} (alike : Alike first.text second.text)
    (made : withHaving aggregation first having = .ok expression)
    (otherMade : withHaving aggregation second having = .ok otherExpression) :
    Alike expression.text otherExpression.text := by
  unfold withHaving at made otherMade
  split at made
  · next about =>
    rw [if_pos about] at otherMade
    cases sign : comparison? having.operator with
    | none =>
      simp only [sign] at made otherMade
      cases made
      cases otherMade
      exact alike
    | some operator =>
      simp only [sign] at made otherMade
      obtain ⟨number, isNumber, rfl⟩ := exists_of_map made
      obtain ⟨otherNumber, isOther, rfl⟩ := exists_of_map otherMade
      cases isNumber.symm.trans isOther
      have space : Alike " " " " := .of_noQuote (by decide)
      exact (((alike.append space).append (.of_noQuote (quoteless_comparison sign))).append
        space).append (.of_noQuote (quoteless_threshold isNumber))
  · next apart =>
    rw [if_neg apart] at otherMade
    cases made
    cases otherMade
    exact alike

theorem alike_filtered {aggregation : Aggregation} {filters : List Having}
    {first second expression otherExpression : Expression} (alike : Alike first.text second.text)
    (made : filters.foldlM (withHaving aggregation) first = .ok expression)
    (otherMade : filters.foldlM (withHaving aggregation) second = .ok otherExpression) :
    Alike expression.text otherExpression.text :=
  related_foldlM (R := fun first second => Alike first.text second.text)
    (fun _ _ _ alike _ _ => alike_withHaving alike) alike made otherMade

theorem alike_limited {query other : Query} (limit : other.limit? = query.limit?)
    (order : other.orderBy = query.orderBy) {expression otherExpression : Expression}
    (alike : Alike expression.text otherExpression.text) :
    Alike (limited query expression).text (limited other otherExpression).text := by
  unfold limited
  rw [limit, order]
  split
  · exact alike
  · next count _ =>
    have opening (name : String) (plain : Quoteless name) :
        Quoteless (name ++ "(" ++ toString count.toNat ++ ", ") :=
      ((plain.append (by decide)).append
        (quoteless_of_unquoted (unquoted_toString_nat _))).append (by decide)
    dsimp only
    split
    · exact alike_enclosed (opening "bottomk" (by decide)) (by decide) alike
    · exact alike_enclosed (opening "topk" (by decide)) (by decide) alike

/-! ## Queries -/

/-- The expressions of the fields, or else of the aggregations. -/
def ownExpressions (query : Query) (interval? : Option Duration) :
    Except QueryError (List NamedExpression) :=
  if query.aggregations.isEmpty then .ok (fieldExpressions query)
  else query.aggregations.mapM fun aggregation => do
    let expression ← aggregationExpression query interval? aggregation
    return ⟨aggregation.outputName, limited query expression⟩

theorem compile_eq (defaultStep : String) (query : Query) : compile defaultStep query = do
    query.checkCompilable
    let interval? ← query.bucket
    let expressions ← ownExpressions query interval?
    return {
      expressions :=
        expressions ++ query.math.map fun math => ⟨math.name, .verbatim math.expression⟩
      time := query.time
      step := (interval?.map Duration.text).getD defaultStep } := by
  unfold compile ownExpressions
  split
  · rfl
  · rfl

def mathExpressions (query : Query) : List NamedExpression :=
  query.math.map fun math => ⟨math.name, .verbatim math.expression⟩

def assembled (defaultStep : String) (query : Query) (interval? : Option Duration)
    (own : List NamedExpression) : Compiled where
  expressions := own ++ mathExpressions query
  time := query.time
  step := (interval?.map Duration.text).getD defaultStep

theorem compile_eq_ok_iff {defaultStep : String} {query : Query} {compiled : Compiled} :
    compile defaultStep query = .ok compiled ↔ query.checkCompilable = .ok () ∧
      ∃ interval? own, query.bucket = .ok interval? ∧ ownExpressions query interval? = .ok own ∧
        compiled = assembled defaultStep query interval? own := by
  rw [compile_eq]
  constructor
  · intro compiles
    obtain ⟨_, checked, compiles⟩ := exists_of_bind compiles
    obtain ⟨interval?, read, compiles⟩ := exists_of_bind compiles
    obtain ⟨own, made, compiles⟩ := exists_of_bind compiles
    cases compiles
    exact ⟨checked, interval?, own, read, made, rfl⟩
  · rintro ⟨checked, interval?, own, read, made, rfl⟩
    rw [checked, ok_bind, read, ok_bind, made]
    rfl

/-- Expressions of one name that differ in the values of matchers alone. -/
structure NamedExpression.Like (first second : NamedExpression) : Prop where
  name : first.name = second.name
  alike : Alike first.expression.text second.expression.text

section

variable {query other : Query} (revalued : query.Revalued other) (plain : query.PlainNames)
  (checked : query.checkCompilable = .ok ()) (otherChecked : other.checkCompilable = .ok ())
include revalued plain checked otherChecked

theorem alike_aggregationExpression {interval? : Option Duration} {aggregation : Aggregation}
    (plainField : Quoteless aggregation.field) {expression otherExpression : Expression}
    (made : aggregationExpression query interval? aggregation = .ok expression)
    (otherMade : aggregationExpression other interval? aggregation = .ok otherExpression) :
    Alike expression.text otherExpression.text := by
  have selectors := selectorOf_like revalued plain checked otherChecked plainField
  have groups : other.groupBy = query.groupBy := by rw [revalued.others]
  have filters : other.having = query.having := by rw [revalued.others]
  unfold aggregationExpression at made otherMade
  rw [filters] at otherMade
  cases interval? with
  | none =>
    obtain ⟨first, firstMade, made⟩ := exists_of_bind made
    obtain ⟨second, secondMade, otherMade⟩ := exists_of_bind otherMade
    have whole : Alike (Expression.selector (selectorOf query aggregation.field)).text
        (Expression.selector (selectorOf other aggregation.field)).text := selectors.alike
    exact alike_filtered (alike_across groups plain.groupBy whole firstMade secondMade) made
      otherMade
  | some interval =>
    obtain ⟨first, firstMade, made⟩ := exists_of_bind made
    obtain ⟨second, secondMade, otherMade⟩ := exists_of_bind otherMade
    -- Each bucket is reduced by itself, and then across series only where there are groups.
    have bucketed := alike_overTime selectors firstMade secondMade
    rw [groups] at otherMade
    split at made
    · next single =>
      rw [if_pos single] at otherMade
      exact alike_filtered bucketed made otherMade
    · next several =>
      rw [if_neg several] at otherMade
      obtain ⟨_, firstMade, made⟩ := exists_of_bind made
      obtain ⟨_, secondMade, otherMade⟩ := exists_of_bind otherMade
      exact alike_filtered (alike_across groups plain.groupBy bucketed firstMade secondMade) made
        otherMade

theorem fieldExpressions_like :
    List.Forall₂ NamedExpression.Like (fieldExpressions query) (fieldExpressions other) := by
  have fields : other.explicitFields = query.explicitFields := by
    rw [revalued.others]
    rfl
  have measurement : other.measurement = query.measurement := by rw [revalued.others]
  have limit : other.limit? = query.limit? := by rw [revalued.others]
  have order : other.orderBy = query.orderBy := by rw [revalued.others]
  have plainFields : ∀ field ∈ if query.explicitFields.isEmpty then [valueField]
      else query.explicitFields, Quoteless field := by
    split
    · decide
    · exact fun field member => plain.fields field (List.mem_of_mem_filter member)
  unfold fieldExpressions
  rw [fields, measurement, List.forall₂_map_left_iff, List.forall₂_map_right_iff,
    List.forall₂_same]
  intro field member
  refine ⟨rfl, alike_limited limit order ?_⟩
  exact (selectorOf_like revalued plain checked otherChecked (plainFields field member)).alike

theorem ownExpressions_like {interval? : Option Duration}
    {expressions otherExpressions : List NamedExpression}
    (made : ownExpressions query interval? = .ok expressions)
    (otherMade : ownExpressions other interval? = .ok otherExpressions) :
    List.Forall₂ NamedExpression.Like expressions otherExpressions := by
  have aggregations : other.aggregations = query.aggregations := by rw [revalued.others]
  have limit : other.limit? = query.limit? := by rw [revalued.others]
  have order : other.orderBy = query.orderBy := by rw [revalued.others]
  unfold ownExpressions at made otherMade
  rw [aggregations] at otherMade
  split at made
  · next none =>
    rw [if_pos none] at otherMade
    cases made
    cases otherMade
    exact fieldExpressions_like revalued plain checked otherChecked
  · next some =>
    rw [if_neg some] at otherMade
    refine forall₂_made (List.forall₂_same.2 fun _ _ => rfl) ?_ made otherMade
    rintro aggregation member _ rfl first second firstMade secondMade
    obtain ⟨expression, expressionMade, same⟩ := exists_of_bind firstMade
    cases same
    obtain ⟨otherExpression, otherExpressionMade, same⟩ := exists_of_bind secondMade
    cases same
    exact ⟨rfl, alike_limited limit order (alike_aggregationExpression revalued plain checked
      otherChecked (plain.aggregations aggregation member) expressionMade otherExpressionMade)⟩

end

/-- The name of an expression, and its text without the contents of the texts in it. -/
def NamedExpression.erased (named : NamedExpression) : String × String :=
  (named.name, Flux.erased named.expression.text)

/-- Two queries without expressions of their own, whose names have no double quotes, are compiled to
expressions that are equal without the contents of their texts when the queries differ in the values
of their conditions alone. -/
theorem erased_eq_of_revalued {query other : Query} {defaultStep otherStep : String}
    {compiled otherCompiled : Compiled} (revalued : query.Revalued other) (plain : query.PlainNames)
    (noMath : query.math = []) (compiles : compile defaultStep query = .ok compiled)
    (otherCompiles : compile otherStep other = .ok otherCompiled) :
    compiled.expressions.map NamedExpression.erased =
      otherCompiled.expressions.map NamedExpression.erased := by
  have bucket : other.bucket = query.bucket := by
    rw [revalued.others]
    rfl
  have math : other.math = query.math := by rw [revalued.others]
  obtain ⟨checked, interval?, expressions, read, made, rfl⟩ := compile_eq_ok_iff.1 compiles
  obtain ⟨otherChecked, otherInterval?, otherExpressions, otherRead, otherMade, rfl⟩ :=
    compile_eq_ok_iff.1 otherCompiles
  cases (otherRead.symm.trans bucket).trans read
  have like := ownExpressions_like revalued plain checked otherChecked made otherMade
  rw [assembled, assembled, mathExpressions, mathExpressions, math, noMath, List.map_nil,
    List.append_nil, List.append_nil]
  refine (congrFun (congrFun List.forall₂_eq_eq_eq _) _).mp ?_
  rw [List.forall₂_map_left_iff, List.forall₂_map_right_iff]
  exact like.imp fun _ _ pair => Prod.ext pair.name pair.alike.erased

/-- The mean of the usage of some hosts, for each zone. -/
def hostsQuery (hosts : List Scalar) : Query :=
  (((Query.ofMeasurement "cpu").aggregate .mean "usage" none).groupByTag "zone").condition
    ⟨"host", .isIn, .list hosts, .and⟩

/-- A text that would end the selector if its quotes were not escaped. -/
theorem erased_eq_of_revalued_crafted :
    ∃ compiled otherCompiled,
      compile "1m" (hostsQuery []) = .ok compiled ∧
      compile "1m" (hostsQuery [.string "\"\x7d) or up # \\\n", .null]) = .ok otherCompiled ∧
      compiled.expressions.map NamedExpression.erased =
        otherCompiled.expressions.map NamedExpression.erased := by
  have compiles (hosts : List Scalar) :
      ∃ compiled, compile "1m" (hostsQuery hosts) = .ok compiled := by
    have named : (!Text.isBlankText "cpu") = true := by decide
    have checked : (hostsQuery hosts).checkCompilable = .ok () :=
      Query.checkCompilable_eq_ok_iff.2 ⟨Query.hardProblems_eq_nil_iff.2 ⟨rfl, named⟩,
        List.forall_mem_singleton.2 (Condition.shapeProblem?_eq_none_iff.2 ⟨hosts, rfl⟩), none, rfl⟩
    have supports : Supports (hostsQuery hosts) .mean :=
      ⟨fun present => absurd rfl present, fun _ => ⟨nofun, nofun, nofun⟩⟩
    exact (exists_compile_iff _ _).2
      ⟨checked, List.forall_mem_singleton.2 ⟨supports, List.forall_mem_nil _⟩⟩
  obtain ⟨compiled, made⟩ := compiles []
  obtain ⟨otherCompiled, otherMade⟩ := compiles [.string "\"\x7d) or up # \\\n", .null]
  have revalued : (hostsQuery []).Revalued (hostsQuery [.string "\"\x7d) or up # \\\n", .null]) :=
    ⟨.cons ⟨rfl, rfl, rfl⟩ .nil, rfl⟩
  have plain : (hostsQuery []).PlainNames :=
    ⟨by decide, by decide, by decide, by decide, by decide⟩
  exact ⟨compiled, otherCompiled, made, otherMade,
    erased_eq_of_revalued revalued plain rfl made otherMade⟩

end Prometheus

end SeriesQuery
