import SeriesQuery.Flux.Compiler
import SeriesQuery.Proofs.Flux.Predicates
import SeriesQuery.Proofs.Outcomes

/-!
What a condition asks of a row, and the expression that its predicate is read as.
-/

set_option autoImplicit false

namespace SeriesQuery.Flux

/-- What a scalar is compared as. Where it is compared with the time of a row, a text is an instant
and a number is the seconds of one. -/
def scalarTerm (isTime : Bool) : Scalar → Term
  | .null => .word "null"
  | .bool value => .word (Scalar.boolText value)
  | .integer value =>
    if isTime then .time ((Time.Instant.ofSeconds? value.toInt).elim "" Time.Instant.zulu)
    else .word (toString value.toInt)
  | .float value => .word (floatText value)
  | .timestamp value => .time value.zulu
  | .string value => if isTime then .time value else .string value

namespace Row

/-- The comparison of the condition's column with a scalar. -/
def comparesWith (row : Row) (condition : Condition) (operator : Operator) (value : Scalar) : Prop :=
  row.compares (conditionColumn condition) operator (scalarTerm condition.isTime value)

def meets (row : Row) (condition : Condition) : Prop :=
  match condition.operator, condition.value with
  | .equal, .scalar .null => ¬row.has (conditionColumn condition)
  | .notEqual, .scalar .null => row.has (conditionColumn condition)
  | operator, .scalar value => row.comparesWith condition operator value
  | .isIn, .list values => ∃ value ∈ values, row.comparesWith condition .equal value
  | .notIn, .list values => ∀ value ∈ values, row.comparesWith condition .notEqual value
  | .between, .list [low, high] =>
    row.comparesWith condition .greaterOrEqual low ∧ row.comparesWith condition .lessOrEqual high
  | _, .list _ => False

end Row

theorem term_of_plainLiteral {field : String} {value : Scalar} {literal : Literal}
    (made : plainLiteral field value = .ok literal) :
    literal.isNumber = true ∧ literal.term = scalarTerm false value := by
  cases value with
  | bool value | integer value | timestamp value | string value =>
    cases made
    exact ⟨rfl, rfl⟩
  | float value =>
    rw [plainLiteral, floatLiteral] at made
    split at made
    · next finite =>
      cases made
      exact ⟨finite, rfl⟩
    · cases made
  | null => cases made

theorem term_of_timeLiteral {field : String} {value : Scalar} {literal : Literal}
    (made : timeLiteral field value = .ok literal) :
    literal.isNumber = true ∧ literal.term = scalarTerm true value := by
  cases value with
  | timestamp value | string value =>
    cases made
    exact ⟨rfl, rfl⟩
  | integer seconds =>
    rw [timeLiteral] at made
    split at made
    · next instant found =>
      cases made
      simp [Literal.isNumber, Literal.term, scalarTerm, found]
    · cases made
  | null | bool value | float value => cases made

theorem term_of_conditionLiteral {condition : Condition} {value : Scalar} {literal : Literal}
    (made : conditionLiteral condition value = .ok literal) :
    literal.isNumber = true ∧ literal.term = scalarTerm condition.isTime value := by
  unfold conditionLiteral at made
  cases isTime : condition.isTime with
  | true =>
    rw [if_pos isTime] at made
    exact term_of_timeLiteral made
  | false =>
    rw [isTime, if_neg (by decide)] at made
    exact term_of_plainLiteral made

theorem terms_of_conditionLiterals {condition : Condition} {values : List Scalar}
    {literals : List Literal}
    (made : List.Forall₂ (fun value literal => conditionLiteral condition value = .ok literal)
      values literals) :
    (∀ literal ∈ literals, literal.isNumber = true) ∧
      literals.map Literal.term = values.map (scalarTerm condition.isTime) := by
  induction made with
  | nil => exact ⟨List.forall_mem_nil _, rfl⟩
  | cons first _ ih =>
    obtain ⟨number, term⟩ := term_of_conditionLiteral first
    obtain ⟨numbers, terms⟩ := ih
    refine ⟨List.forall_mem_cons.2 ⟨number, numbers⟩, ?_⟩
    rw [List.map_cons, term, terms, List.map_cons]

theorem isComparison_of_shaped {condition : Condition} {value : Scalar}
    (isScalar : condition.value = .scalar value) (shaped : condition.shapeProblem? = none)
    (noRegex : condition.operator ≠ .regex) (noNotRegex : condition.operator ≠ .notRegex) :
    condition.operator.isComparison = true := by
  simp only [Condition.shapeProblem?, isScalar] at shaped
  cases same : condition.operator with
  | equal | notEqual | greater | greaterOrEqual | less | lessOrEqual => rfl
  | isIn | notIn | between => simp [same, Operator.requiresList] at shaped
  | regex => exact absurd same noRegex
  | notRegex => exact absurd same noNotRegex

theorem Row.meets_compare (row : Row) {condition : Condition} {value : Scalar}
    (isScalar : condition.value = .scalar value)
    (notMissing : condition.operator = .equal → value = .null → False)
    (notPresent : condition.operator = .notEqual → value = .null → False) :
    row.meets condition ↔ row.comparesWith condition condition.operator value := by
  unfold Row.meets
  rw [isScalar]
  split
  · next isOperator isNull => exact (notMissing isOperator (ConditionValue.scalar.inj isNull)).elim
  · next isOperator isNull => exact (notPresent isOperator (ConditionValue.scalar.inj isNull)).elim
  · next same _ _ =>
    cases same
    rfl
  all_goals contradiction

section Lists

variable {condition : Condition}

theorem member_spells {values : List Scalar} {literals : List Literal}
    (made : values.mapM (conditionLiteral condition) = .ok literals) :
    ∃ expression, Spells (Predicate.member (conditionColumn condition) literals).text expression ∧
      ∀ row : Row, expression.holds row ↔
        ∃ value ∈ values, row.comparesWith condition .equal value := by
  obtain ⟨numbers, terms⟩ := terms_of_conditionLiterals (forall₂_of_mapM made)
  refine ⟨_, spells_member _ numbers, fun row => ?_⟩
  rw [Expression.holds, terms]
  simp only [List.mem_map, exists_exists_and_eq_and]
  rfl

theorem unequals_spells {values : List Scalar} {literals : List Literal}
    (made : values.mapM (conditionLiteral condition) = .ok literals) :
    ∃ expression, Spells (Predicate.all (conditionColumn condition)
        (literals.map fun literal => (.notEqual, literal))).text expression ∧
      ∀ row : Row, expression.holds row ↔
        ∀ value ∈ values, row.comparesWith condition .notEqual value := by
  obtain ⟨numbers, terms⟩ := terms_of_conditionLiterals (forall₂_of_mapM made)
  refine ⟨_, spells_all _ ?_, fun row => ?_⟩
  · rw [List.forall_mem_map]
    exact fun literal member => ⟨rfl, numbers literal member⟩
  · have same : (literals.map fun literal => (Operator.notEqual, literal)).map
          (fun comparison => Expression.compare (conditionColumn condition) comparison.1
            comparison.2.term) =
        (values.map (scalarTerm condition.isTime)).map
          (.compare (conditionColumn condition) .notEqual) := by
      rw [← terms, List.map_map, List.map_map]
      rfl
    rw [same, Expression.holds_all]
    simp only [List.forall_mem_map, Expression.holds]
    rfl

theorem bounds_spell {low high : Scalar} {lowest highest : Literal}
    (lowMade : conditionLiteral condition low = .ok lowest)
    (highMade : conditionLiteral condition high = .ok highest) :
    ∃ expression, Spells (Predicate.all (conditionColumn condition)
        [(.greaterOrEqual, lowest), (.lessOrEqual, highest)]).text expression ∧
      ∀ row : Row, expression.holds row ↔
        row.comparesWith condition .greaterOrEqual low ∧
          row.comparesWith condition .lessOrEqual high := by
  obtain ⟨lowNumber, lowTerm⟩ := term_of_conditionLiteral lowMade
  obtain ⟨highNumber, highTerm⟩ := term_of_conditionLiteral highMade
  refine ⟨_, spells_all _ ?_, fun row => ?_⟩
  · simp [Operator.isComparison, lowNumber, highNumber]
  · simp only [List.map_cons, List.map_nil, Expression.all, Expression.holds, lowTerm, highTerm]
    rfl

end Lists

inductive Makes (condition : Condition) : Predicate → Prop
  | missing (isOperator : condition.operator = .equal)
    (isValue : condition.value = .scalar .null) :
    Makes condition (.missing (conditionColumn condition))
  | present (isOperator : condition.operator = .notEqual)
    (isValue : condition.value = .scalar .null) :
    Makes condition (.present (conditionColumn condition))
  | pattern {value : Scalar}
    (isOperator : condition.operator = .regex ∨ condition.operator = .notRegex)
    (isValue : condition.value = .scalar value) :
    Makes condition (.pattern (conditionColumn condition) condition.operator value.plain)
  | compare {value : Scalar} {literal : Literal} (isValue : condition.value = .scalar value)
    (notMissing : condition.operator = .equal → value = .null → False)
    (notPresent : condition.operator = .notEqual → value = .null → False)
    (noRegex : condition.operator ≠ .regex) (noNotRegex : condition.operator ≠ .notRegex)
    (made : conditionLiteral condition value = .ok literal) :
    Makes condition (.compare (conditionColumn condition) condition.operator literal)
  | member {values : List Scalar} {literals : List Literal}
    (isOperator : condition.operator = .isIn) (isValue : condition.value = .list values)
    (made : values.mapM (conditionLiteral condition) = .ok literals) :
    Makes condition (.member (conditionColumn condition) literals)
  | unequals {values : List Scalar} {literals : List Literal}
    (isOperator : condition.operator = .notIn) (isValue : condition.value = .list values)
    (made : values.mapM (conditionLiteral condition) = .ok literals) :
    Makes condition (.all (conditionColumn condition)
      (literals.map fun literal => (.notEqual, literal)))
  | bounds {low high : Scalar} {lowest highest : Literal}
    (isOperator : condition.operator = .between) (isValue : condition.value = .list [low, high])
    (lowMade : conditionLiteral condition low = .ok lowest)
    (highMade : conditionLiteral condition high = .ok highest) :
    Makes condition (.all (conditionColumn condition)
      [(.greaterOrEqual, lowest), (.lessOrEqual, highest)])

theorem makes_of_predicate {condition : Condition} {written : Predicate}
    (made : predicate condition = .ok written) : Makes condition written := by
  revert made
  fun_cases predicate condition with
  | case1 _ isValue isOperator =>
    rintro ⟨⟩
    exact .missing isOperator isValue
  | case2 _ isValue isOperator =>
    rintro ⟨⟩
    exact .present isOperator isValue
  | case3 _ _ isValue isOperator =>
    rintro ⟨⟩
    rw [← isOperator]
    exact .pattern (.inl isOperator) isValue
  | case4 _ _ isValue isOperator =>
    rintro ⟨⟩
    rw [← isOperator]
    exact .pattern (.inr isOperator) isValue
  | case5 _ _ isValue notMissing notPresent noRegex noNotRegex =>
    intro made
    obtain ⟨literal, literalMade, same⟩ := exists_of_bind made
    cases same
    exact .compare isValue notMissing notPresent noRegex noNotRegex literalMade
  | case6 _ _ isValue isOperator =>
    intro made
    obtain ⟨literals, literalsMade, same⟩ := exists_of_bind made
    cases same
    exact .member isOperator isValue literalsMade
  | case7 _ _ isValue isOperator =>
    intro made
    obtain ⟨literals, literalsMade, same⟩ := exists_of_bind made
    cases same
    exact .unequals isOperator isValue literalsMade
  | case8 _ _ _ isValue isOperator =>
    intro made
    obtain ⟨lowest, lowMade, made⟩ := exists_of_bind made
    obtain ⟨highest, highMade, same⟩ := exists_of_bind made
    cases same
    exact .bounds isOperator isValue lowMade highMade
  | case9 | case10 =>
    intro made
    cases made

theorem predicate_spells {condition : Condition} {written : Predicate}
    (made : predicate condition = .ok written) (noRegex : condition.operator ≠ .regex)
    (noNotRegex : condition.operator ≠ .notRegex) (shaped : condition.shapeProblem? = none) :
    ∃ expression, Spells written.text expression ∧
      ∀ row : Row, expression.holds row ↔ row.meets condition := by
  cases makes_of_predicate made with
  | missing isOperator isValue =>
    refine ⟨_, spells_missing _, fun row => ?_⟩
    simp only [Row.meets, isOperator, isValue, Expression.holds]
  | present isOperator isValue =>
    refine ⟨_, spells_present _, fun row => ?_⟩
    simp only [Row.meets, isOperator, isValue, Expression.holds]
  | pattern isOperator _ => exact (isOperator.elim noRegex noNotRegex).elim
  | compare isValue notMissing notPresent _ _ literalMade =>
    obtain ⟨number, term⟩ := term_of_conditionLiteral literalMade
    have comparison := isComparison_of_shaped isValue shaped noRegex noNotRegex
    refine ⟨_, spells_compare _ comparison number, fun row => ?_⟩
    rw [row.meets_compare isValue notMissing notPresent, Expression.holds, term]
    rfl
  | member isOperator isValue literalsMade =>
    simp only [Row.meets, isOperator, isValue]
    exact member_spells literalsMade
  | unequals isOperator isValue literalsMade =>
    simp only [Row.meets, isOperator, isValue]
    exact unequals_spells literalsMade
  | bounds isOperator isValue lowMade highMade =>
    simp only [Row.meets, isOperator, isValue]
    exact bounds_spell lowMade highMade

end SeriesQuery.Flux
