import SeriesQuery.Graphite.Compiler
import SeriesQuery.Prometheus.Compiler
import SeriesQuery.Proofs.Query.Checks
import SeriesQuery.Rrd.Compiler

/-!
Conditions that a backend has no form for. The compilers for Graphite, PromQL and round-robin
databases look at conditions on other fields than the time with certain operators, one after the
other; the remaining conditions, and how any of them are joined, make no difference.
-/

set_option autoImplicit false

namespace SeriesQuery

/-! ## Queries with fewer conditions -/

def Condition.heeded (operators : List Operator) (condition : Condition) : Bool :=
  !condition.isTime && operators.contains condition.operator

/-- The same condition, joined in any way. -/
def Condition.Rejoined (first second : Condition) : Prop :=
  second = { first with connective := second.connective }

/-- Of the conditions nothing is left but those with certain operators on other fields than the
time, joined in any way. -/
structure Query.Reduced (operators : List Operator) (query other : Query) : Prop where
  conditions : List.Forall₂ Condition.Rejoined (query.conditions.filter (·.heeded operators))
    other.conditions
  others : other = { query with conditions := other.conditions }

section

variable {operators : List Operator} {conditions others : List Condition}

theorem filterMap_rejoined {β : Type} {f : Condition → Option β}
    (blind : ∀ condition, condition.heeded operators = false → f condition = none)
    (same : ∀ condition connective, f { condition with connective } = f condition)
    (each : List.Forall₂ Condition.Rejoined (conditions.filter (·.heeded operators)) others) :
    others.filterMap f = conditions.filterMap f := by
  have heeded : (conditions.filter (·.heeded operators)).filterMap f = conditions.filterMap f := by
    rw [List.filterMap_filter]
    refine List.filterMap_congr fun condition _ => ?_
    split
    · rfl
    · next passedOver => exact (blind condition (Bool.not_eq_true _ ▸ passedOver)).symm
  rw [← heeded]
  generalize conditions.filter (·.heeded operators) = kept at each
  induction each with
  | nil => rfl
  | @cons first second _ _ rejoined _ ih =>
    have made : f second = f first := (congrArg f rejoined).trans (same first second.connective)
    rw [List.filterMap_cons, List.filterMap_cons, made, ih]

end

theorem Condition.heeded_eq_false_iff {condition : Condition} {operators : List Operator} :
    condition.heeded operators = false ↔
      condition.isTime = true ∨ condition.operator ∉ operators := by
  simp [Condition.heeded, ← Bool.not_eq_true, imp_iff_not_or]

theorem Query.Reduced.exists_conditions {operators : List Operator} {query other : Query}
    (reduced : query.Reduced operators other) : ∃ conditions, other = { query with conditions } :=
  ⟨other.conditions, reduced.others⟩

theorem Query.Reduced.checkCompilable {operators : List Operator} {query other : Query}
    (reduced : query.Reduced operators other) (checked : query.checkCompilable = .ok ()) :
    other.checkCompilable = .ok () := by
  obtain ⟨sound, shaped, read⟩ := Query.checkCompilable_eq_ok_iff.1 checked
  obtain ⟨conditions, rfl⟩ := reduced.exists_conditions
  refine Query.checkCompilable_eq_ok_iff.2 ⟨sound, fun condition member => ?_, read⟩
  obtain ⟨first, kept, rejoined⟩ := exists_of_mem_right reduced.conditions member
  rw [rejoined]
  exact shaped first (List.mem_of_mem_filter kept)

/-! ## Graphite -/

namespace Graphite

def expressible : List Operator := [.equal, .notEqual, .regex]

section

variable {condition : Condition} (passedOver : condition.heeded expressible = false)
include passedOver

theorem narrowing?_eq_none : narrowing? condition = none := by
  unfold narrowing? conditionScalar?
  rcases Condition.heeded_eq_false_iff.1 passedOver with time | unknown
  · cases condition.operator <;> simp [time]
  · split
    · next equal => simp [equal, expressible] at unknown
    · rfl

theorem wrapping?_eq_none : wrapping? condition = none := by
  unfold wrapping? conditionScalar?
  rcases Condition.heeded_eq_false_iff.1 passedOver with time | unknown
  · cases condition.operator <;> simp [time]
  · split
    · next notEqual => simp [notEqual, expressible] at unknown
    · next regex => simp [regex, expressible] at unknown
    · rfl

end

theorem compile_reduced {query other : Query} (checked : query.checkCompilable = .ok ())
    (reduced : query.Reduced expressible other) (root? : Option String) :
    compile root? other = compile root? query := by
  have otherChecked := reduced.checkCompilable checked
  have narrowing : other.conditions.filterMap narrowing? = query.conditions.filterMap narrowing? :=
    filterMap_rejoined (fun _ => narrowing?_eq_none) (fun _ _ => rfl) reduced.conditions
  have wrapping : other.conditions.filterMap wrapping? = query.conditions.filterMap wrapping? :=
    filterMap_rejoined (fun _ => wrapping?_eq_none) (fun _ _ => rfl) reduced.conditions
  obtain ⟨conditions, rfl⟩ := reduced.exists_conditions
  have whole : selection root? { query with conditions } = selection root? query := by
    unfold selection filtered
    rw [narrowing, wrapping]
    rfl
  have each :
      aggregationTarget root? { query with conditions } = aggregationTarget root? query := by
    funext interval? aggregation
    unfold aggregationTarget aggregationSource filtered
    rw [whole, narrowing, wrapping]
    rfl
  have series (interval? : Option Duration) :
      source root? { query with conditions } interval? = source root? query interval? := by
    unfold source
    rw [whole, each]
  have read : ({ query with conditions } : Query).bucket = query.bucket := rfl
  have having : withHaving { query with conditions } = withHaving query := rfl
  unfold compile target
  rw [otherChecked, checked, read, having]
  simp only [series]

end Graphite

/-! ## PromQL -/

namespace Prometheus

def expressible : List Operator := [.equal, .notEqual, .regex, .notRegex, .isIn, .notIn]

theorem matcher?_eq_none {condition : Condition}
    (passedOver : condition.heeded expressible = false) : matcher? condition = none := by
  unfold matcher?
  rcases Condition.heeded_eq_false_iff.1 passedOver with time | unknown
  · exact if_pos time
  · split
    · rfl
    · split <;> simp_all [expressible]

theorem compile_reduced {query other : Query} (checked : query.checkCompilable = .ok ())
    (reduced : query.Reduced expressible other) (defaultStep : String) :
    compile defaultStep other = compile defaultStep query := by
  have otherChecked := reduced.checkCompilable checked
  have matchers : other.conditions.filterMap matcher? = query.conditions.filterMap matcher? :=
    filterMap_rejoined (fun _ => matcher?_eq_none) (fun _ _ => rfl) reduced.conditions
  obtain ⟨conditions, rfl⟩ := reduced.exists_conditions
  have selectors : selectorOf { query with conditions } = selectorOf query := by
    funext field
    unfold selectorOf
    rw [matchers]
  have fields : fieldExpressions { query with conditions } = fieldExpressions query := by
    unfold fieldExpressions
    rw [selectors]
    rfl
  have each : aggregationExpression { query with conditions } = aggregationExpression query := by
    funext interval? aggregation
    unfold aggregationExpression
    rw [selectors]
    rfl
  have read : ({ query with conditions } : Query).bucket = query.bucket := rfl
  have limits : limited { query with conditions } = limited query := rfl
  unfold compile
  rw [otherChecked, checked, read, fields, each, limits]

end Prometheus

/-! ## Round-robin databases -/

namespace Rrd

def expressible : List Operator := [.equal]

theorem tag?_eq_none {condition : Condition}
    (passedOver : condition.heeded expressible = false) : tag? condition = none := by
  unfold tag?
  split
  · next equal _ =>
    rcases Condition.heeded_eq_false_iff.1 passedOver with time | unknown
    · exact if_pos time
    · simp [equal, expressible] at unknown
  · rfl

theorem compile_reduced {query other : Query} (checked : query.checkCompilable = .ok ())
    (reduced : query.Reduced expressible other) (layout : Layout) (base : String) (mode : Mode) :
    compile layout base mode other = compile layout base mode query := by
  have otherChecked := reduced.checkCompilable checked
  have tags : other.conditions.filterMap tag? = query.conditions.filterMap tag? :=
    filterMap_rejoined (fun _ => tag?_eq_none) (fun _ _ => rfl) reduced.conditions
  obtain ⟨conditions, rfl⟩ := reduced.exists_conditions
  have labels : labelsOf { query with conditions } = labelsOf query := by
    unfold labelsOf
    rw [tags]
  unfold compile
  rw [otherChecked, checked, labels]
  rfl

end Rrd

/-! ## All of them -/

/-- A query that passes the common check is compiled to the same, or refused for the same reason,
when the conditions that a backend has no form for are left out and the others are joined in any
other way. -/
theorem compile_passes_over {query : Query} (checked : query.checkCompilable = .ok ())
    (other : Query) :
    (query.Reduced Graphite.expressible other →
      ∀ root?, Graphite.compile root? other = Graphite.compile root? query) ∧
    (query.Reduced Prometheus.expressible other →
      ∀ defaultStep,
        Prometheus.compile defaultStep other = Prometheus.compile defaultStep query) ∧
    (query.Reduced Rrd.expressible other → ∀ layout base mode,
      Rrd.compile layout base mode other = Rrd.compile layout base mode query) :=
  ⟨Graphite.compile_reduced checked, Prometheus.compile_reduced checked,
    Rrd.compile_reduced checked⟩

def anyHost (connective : Connective) : Condition :=
  ⟨"host", .equal, .scalar (.string "*"), connective⟩

def noZone (connective : Connective) : Condition := ⟨"zone", .equal, .scalar .null, connective⟩

/-- An equality and an order besides those that all backends have a form for. -/
def crowdedQuery : Query :=
  { Query.ofMeasurement "cpu" with conditions := [⟨"time", .equal, .scalar (.integer 0), .and⟩,
      anyHost .or, ⟨"usage", .greater, .scalar (.integer 5), .or⟩, noZone .and] }

def thinnedQuery : Query :=
  { Query.ofMeasurement "cpu" with conditions := [anyHost .and, noZone .or] }

theorem compile_passes_over_crowded :
    crowdedQuery.checkCompilable = .ok () ∧
      (∀ operators ∈ [Graphite.expressible, Prometheus.expressible, Rrd.expressible],
        crowdedQuery.Reduced operators thinnedQuery) ∧
      Graphite.compile none thinnedQuery = Graphite.compile none crowdedQuery ∧
      Prometheus.compile "1m" thinnedQuery = Prometheus.compile "1m" crowdedQuery ∧
      Rrd.compile .flat "/data" .xport thinnedQuery =
        Rrd.compile .flat "/data" .xport crowdedQuery := by
  have checked : crowdedQuery.checkCompilable = .ok () := rfl
  have joined : List.Forall₂ Condition.Rejoined [anyHost .or, noZone .and]
      thinnedQuery.conditions := .cons rfl (.cons rfl .nil)
  have reduced : ∀ operators ∈ [Graphite.expressible, Prometheus.expressible, Rrd.expressible],
      crowdedQuery.Reduced operators thinnedQuery := by
    intro operators member
    have kept : crowdedQuery.conditions.filter (·.heeded operators) =
        [anyHost .or, noZone .and] := by
      revert operators
      decide
    exact ⟨kept ▸ joined, rfl⟩
  obtain ⟨graphite, prometheus, rrd⟩ := compile_passes_over checked thinnedQuery
  exact ⟨checked, reduced, graphite (reduced _ (by decide)) none,
    prometheus (reduced _ (by decide)) "1m", rrd (reduced _ (by decide)) .flat "/data" .xport⟩

end SeriesQuery
