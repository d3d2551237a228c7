import SeriesQuery.Proofs.Outcomes
import SeriesQuery.Query.Basic

/-!
What is checked of a query before anything is written: its faults, the shapes of the values of its
conditions, and its interval.
-/

set_option autoImplicit false

namespace SeriesQuery

/-! ## Shapes -/

namespace Condition

variable {condition : Condition}

/-- The value has the shape that the operator asks for. -/
def Shaped (condition : Condition) : Prop :=
  match condition.operator with
  | .isIn | .notIn => ∃ values, condition.value = .list values
  | .between => ∃ low high, condition.value = .list [low, high]
  | .regex | .notRegex => ∃ pattern, condition.value = .scalar (.string pattern)
  | _ => ∃ value, condition.value = .scalar value

theorem length_eq_two_iff {values : List Scalar} :
    values.length = 2 ↔ ∃ low high, ConditionValue.list values = .list [low, high] := by
  simp only [List.length_eq_two, ConditionValue.list.injEq]

theorem string?_eq_none_iff {value : Scalar} :
    value.string? = none ↔ ¬ ∃ pattern, ConditionValue.scalar value = .scalar (.string pattern) := by
  cases value <;> simp [Scalar.string?]

theorem shapeProblem?_eq_none_iff : condition.shapeProblem? = none ↔ condition.Shaped := by
  obtain ⟨field, operator, value, connective⟩ := condition
  cases value with
  | list values =>
    cases operator with
    | between => simp [shapeProblem?, Shaped, Operator.requiresList, length_eq_two_iff]
    | _ => simp [shapeProblem?, Shaped, Operator.requiresList]
  | scalar value =>
    cases operator with
    | regex | notRegex =>
      simp [shapeProblem?, Shaped, Operator.requiresList, string?_eq_none_iff]
    | _ => simp [shapeProblem?, Shaped, Operator.requiresList]

theorem exists_bounds (shaped : condition.shapeProblem? = none)
    (isBetween : condition.operator = .between) : ∃ low high, condition.value = .list [low, high] := by
  rw [shapeProblem?_eq_none_iff, Shaped, isBetween] at shaped
  exact shaped

theorem operator_of_list (shaped : condition.shapeProblem? = none) {values : List Scalar}
    (isValue : condition.value = .list values) :
    condition.operator = .isIn ∨ condition.operator = .notIn ∨ condition.operator = .between := by
  rw [shapeProblem?_eq_none_iff, Shaped] at shaped
  cases isOperator : condition.operator with
  | isIn => exact .inl rfl
  | notIn => exact .inr (.inl rfl)
  | between => exact .inr (.inr rfl)
  | _ => simp [isOperator, isValue] at shaped

theorem requiresList_of_list (shaped : condition.shapeProblem? = none) {values : List Scalar}
    (isValue : condition.value = .list values) : condition.operator.requiresList = true := by
  rcases operator_of_list shaped isValue with same | same | same
  all_goals rw [same]; rfl

theorem not_requiresList_of_scalar (shaped : condition.shapeProblem? = none) {value : Scalar}
    (isValue : condition.value = .scalar value) : condition.operator.requiresList = false := by
  unfold shapeProblem? at shaped
  rw [isValue] at shaped
  cases requires : condition.operator.requiresList with
  | false => rfl
  | true => simp [requires] at shaped

end Condition

/-! ## Queries -/

namespace Query

variable {query : Query}

theorem shapeError?_eq_none_iff {conditions : List Condition} : shapeError? conditions = none ↔
    ∀ condition ∈ conditions, condition.shapeProblem? = none := by
  fun_induction shapeError? conditions with
  | case1 => exact iff_of_true rfl (List.forall_mem_nil _)
  | case2 condition rest problem found =>
    refine iff_of_false (Option.some_ne_none _) fun each => ?_
    rw [each condition List.mem_cons_self] at found
    cases found
  | case3 condition rest fits ih => rw [ih, List.forall_mem_cons, and_iff_right fits]

theorem hardProblems_eq_nil_iff :
    query.hardProblems = [] ↔ query.unknownOperators = [] ∧ query.hasMeasurement = true := by
  simp [hardProblems]

theorem checkCompilable_eq_ok_iff : query.checkCompilable = .ok () ↔
    query.hardProblems = [] ∧ (∀ condition ∈ query.conditions, condition.shapeProblem? = none) ∧
      ∃ interval?, query.bucket = .ok interval? := by
  have read : query.bucket.map (fun _ => ()) = .ok () ↔ ∃ interval?, query.bucket = .ok interval? :=
    ⟨fun made => exists_map_iff.1 ⟨_, made⟩, fun ⟨interval?, made⟩ => by rw [made]; rfl⟩
  rw [← shapeError?_eq_none_iff, ← read]
  fun_cases checkCompilable query with
  | case1 faulty => exact iff_of_false (by rintro ⟨⟩) fun sound => faulty sound.1
  | case2 sound problem found =>
    refine iff_of_false (by rintro ⟨⟩) fun shaped => ?_
    rw [shaped.2.1] at found
    cases found
  | case3 sound shaped => exact ⟨fun made => ⟨not_not.1 sound, shaped, made⟩, fun made => made.2.2⟩

theorem shaped_of_checked (checked : query.checkCompilable = .ok ()) :
    ∀ condition ∈ query.conditions, condition.shapeProblem? = none :=
  (checkCompilable_eq_ok_iff.1 checked).2.1

theorem exists_bucket (checked : query.checkCompilable = .ok ()) :
    ∃ interval?, query.bucket = .ok interval? :=
  (checkCompilable_eq_ok_iff.1 checked).2.2

theorem bucket_eq_none_iff {interval? : Option Duration} (read : query.bucket = .ok interval?) :
    interval? = none ↔ query.interval? = none := by
  unfold bucket at read
  split at read
  · next absent =>
    cases read
    exact iff_of_true rfl absent
  · next text present =>
    rw [present]
    split at read
    · cases read
      exact iff_of_false (Option.some_ne_none _) (Option.some_ne_none _)
    · cases read

theorem exists_checked_iff {β : Type} {next : Option Duration → Except QueryError β} {P : Prop}
    (each : ∀ interval?, query.bucket = .ok interval? → ((∃ made, next interval? = .ok made) ↔ P)) :
    (∃ made, (query.checkCompilable >>= fun _ => query.bucket >>= next) = .ok made) ↔
      query.checkCompilable = .ok () ∧ P := by
  rw [exists_bind_iff]
  constructor
  · rintro ⟨_, checked, made⟩
    obtain ⟨interval?, read, made⟩ := exists_bind_iff.1 made
    exact ⟨checked, (each interval? read).1 made⟩
  · rintro ⟨checked, holds⟩
    obtain ⟨interval?, read⟩ := exists_bucket checked
    exact ⟨(), checked, exists_bind_iff.2 ⟨interval?, read, (each interval? read).2 holds⟩⟩

end Query

end SeriesQuery
