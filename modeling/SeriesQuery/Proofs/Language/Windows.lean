import SeriesQuery.Proofs.Language.Statement

/-!
Which instants a query admits. Of all bounds on time that were written, the last lower bound and the
last upper bound count, and a distance from now only without any lower bound. The others are lost.
-/

set_option autoImplicit false

namespace SeriesQuery

/-! ## Instants -/

namespace Time.Instant

variable {first second : Instant}

theorem not_before_of_before (before : first.before second = true) :
    ¬ second.before first = true := by
  simp only [Instant.before, decide_eq_true_eq] at before ⊢
  omega

theorem eq_of_not_before (left : ¬ first.before second = true)
    (right : ¬ second.before first = true) : first = second := by
  simp only [Instant.before, decide_eq_true_eq] at left right
  have seconds : first.seconds = second.seconds := by omega
  have nanos : first.nanos = second.nanos := by omega
  cases first
  cases second
  cases seconds
  cases nanos
  rfl

end Time.Instant

open Time

def Operator.Compares (operator : Operator) (instant other : Instant) : Prop :=
  match operator with
  | .equal => instant = other
  | .notEqual => instant ≠ other
  | .greater => other.before instant = true
  | .greaterOrEqual => ¬ instant.before other = true
  | .less => instant.before other = true
  | .lessOrEqual => ¬ other.before instant = true
  | _ => True

instance (operator : Operator) (instant other : Instant) :
    Decidable (operator.Compares instant other) :=
  match operator with
  | .equal => inferInstanceAs (Decidable (instant = other))
  | .notEqual => inferInstanceAs (Decidable (instant ≠ other))
  | .greater => inferInstanceAs (Decidable (other.before instant = true))
  | .greaterOrEqual => inferInstanceAs (Decidable (¬ instant.before other = true))
  | .less => inferInstanceAs (Decidable (instant.before other = true))
  | .lessOrEqual => inferInstanceAs (Decidable (¬ other.before instant = true))
  | .isIn | .notIn | .between | .regex | .notRegex => isTrue trivial

/-- What a condition on `time` asks of an instant. What is not compared with an instant asks
nothing. -/
def Condition.HoldsAt (condition : Condition) (instant : Instant) : Prop :=
  match condition.value with
  | .scalar (.timestamp other) => condition.operator.Compares instant other
  | _ => True

instance (condition : Condition) (instant : Instant) : Decidable (condition.HoldsAt instant) := by
  unfold Condition.HoldsAt
  split <;> infer_instance

/-- Whether an instant is inside a window, end points aside. -/
def TimeWindow.Contains (now instant : Instant) : TimeWindow → Prop
  | .unset => True
  | .absolute start finish => start.before instant = true ∧ instant.before finish = true
  | .relative duration => (duration.before now).before instant = true ∧ instant.before now = true

instance (now instant : Instant) : (window : TimeWindow) → Decidable (window.Contains now instant)
  | .unset => isTrue trivial
  | .absolute start finish =>
    inferInstanceAs (Decidable (start.before instant = true ∧ instant.before finish = true))
  | .relative duration =>
    inferInstanceAs (Decidable ((duration.before now).before instant = true ∧
      instant.before now = true))

/-- Whether a query can find something at an instant, as far as its window and its conditions on
`time` go. -/
def Query.Admits (query : Query) (now instant : Instant) : Prop :=
  query.time.Contains now instant ∧ ∀ group ∈ conditionGroups query.conditions,
    ∃ condition ∈ group, condition.isTime = true → condition.HoldsAt instant

instance (query : Query) (now instant : Instant) : Decidable (query.Admits now instant) :=
  inferInstanceAs (Decidable (query.time.Contains now instant ∧
    ∀ group ∈ conditionGroups query.conditions,
      ∃ condition ∈ group, condition.isTime = true → condition.HoldsAt instant))

theorem conditionGroups_of_and {conditions : List Condition}
    (joined : ∀ condition ∈ conditions, condition.connective = .and) :
    conditionGroups conditions = conditions.map ([·]) := by
  induction conditions with
  | nil => rw [conditionGroups, List.map_nil]
  | cons condition rest ih =>
    have joined := (List.forall_mem_cons.1 joined).2
    have none : rest.takeWhile (·.connective == .or) = [] := by
      cases rest with
      | nil => rfl
      | cons next others => simp [joined next List.mem_cons_self]
    rw [conditionGroups, none, List.length_nil, List.drop_zero, ih joined, List.map_cons]

theorem Query.admits_iff {query : Query}
    (joined : ∀ condition ∈ query.conditions, condition.connective = .and) (now instant : Instant) :
    query.Admits now instant ↔ query.time.Contains now instant ∧
      ∀ condition ∈ query.conditions, condition.isTime = true → condition.HoldsAt instant := by
  simp [Query.Admits, conditionGroups_of_and joined]

namespace Language

/-! ## The window of a query -/

/-- The parts of a query that bounds on time go to. -/
def timing (query : Query) : TimeWindow × List Condition := (query.time, query.conditions)

section
variable {α : Type} (step : Query → α → Query)

theorem timing_foldl (keeps : ∀ query item, timing (step query item) = timing query)
    (items : List α) (query : Query) : timing (items.foldl step query) = timing query := by
  induction items generalizing query with
  | nil => rfl
  | cons item others ih => rw [List.foldl_cons, ih, keeps]

theorem timing_getD (keeps : ∀ query item, timing (step query item) = timing query)
    (item? : Option α) (query : Query) :
    timing ((item?.map (step query)).getD query) = timing query := by
  cases item? with
  | none => rfl
  | some item => exact keeps query item

end

namespace Clauses

theorem timing_refine (clauses : Clauses) (query : Query) :
    timing (clauses.refine query) = timing query := by
  have grouped : timing (clauses.grouping.foldl GroupItem.addTo query) = timing query :=
    timing_foldl _ (fun query item => by cases item <;> rfl) _ _
  unfold refine
  simp only
  rw [timing_getD Query.offset (fun _ _ => rfl), timing_getD Query.limit (fun _ _ => rfl),
    timing_foldl (fun query (order : String × SortDirection) => query.order order.1 order.2)
      (fun _ _ => rfl),
    timing_getD Query.fill (fun _ _ => rfl)]
  split
  · exact grouped
  · exact grouped

def window (clauses : Clauses) (now : Instant) : TimeWindow :=
  match clauses.lowerBounds.getLast? with
  | some start => .absolute start ((clauses.upperBounds.getLast?.map (·.2)).getD now)
  | none => (clauses.latests.getLast?.map .relative).getD .unset

/-- The upper bound that becomes a condition. -/
def loneBound? (clauses : Clauses) : Option (Operator × Instant) :=
  if clauses.lowerBounds = [] then clauses.upperBounds.getLast? else none

def timeCondition (bound : Operator × Instant) : Condition :=
  ⟨"time", bound.1, .scalar (.timestamp bound.2), .and⟩

theorem timing_conditions (conditions : List Condition) (query : Query) :
    timing (conditions.foldl Query.condition query) =
      (query.time, query.conditions ++ conditions) := by
  induction conditions generalizing query with
  | nil => rw [List.foldl_nil, List.append_nil, timing]
  | cons condition others ih =>
    rw [List.foldl_cons, ih, Query.condition, List.append_assoc, List.singleton_append]

theorem timing_latests (latests : List Duration) (query : Query) :
    timing (latests.foldl Query.latestDuration query) =
      ((latests.getLast?.map .relative).getD query.time, query.conditions) := by
  induction latests generalizing query with
  | nil => rfl
  | cons duration others ih =>
    rw [List.foldl_cons, ih, List.getLast?_cons]
    cases others.getLast? <;> rfl

theorem timing_applyBounds (clauses : Clauses) (now : Instant) {query : Query}
    {conditions : List Condition}
    (before : timing query = ((clauses.latests.getLast?.map .relative).getD .unset, conditions)) :
    timing (applyBounds now clauses.items query) = (clauses.window now,
      conditions ++ (clauses.loneBound?.map timeCondition).toList) := by
  have ⟨time, kept⟩ := Prod.mk.inj before
  have lowerBounds : clauses.items.filterMap WhereItem.lowerBound? = clauses.lowerBounds := rfl
  have upperBounds : clauses.items.filterMap WhereItem.upperBound? = clauses.upperBounds := rfl
  unfold applyBounds window loneBound?
  rw [lowerBounds, upperBounds]
  cases lower : clauses.lowerBounds.getLast? with
  | some start =>
    have nonempty : clauses.lowerBounds ≠ [] := fun none => by simp [none] at lower
    rw [if_neg nonempty]
    simp [timing, Query.timeRange, kept]
  | none =>
    rw [if_pos (List.getLast?_eq_none_iff.1 lower)]
    cases clauses.upperBounds.getLast? with
    | none => simp [timing, kept, time]
    | some finish => simp [timing, Query.condition, timeCondition, kept, time]

def selected (clauses : Clauses) : Query :=
  let query := clauses.selection.foldl SelectItem.addAggregate
    (Query.ofMeasurement clauses.measurement)
  let query := query.select (clauses.selection.filterMap SelectItem.field?)
  if clauses.distinct then query.distinctRows else query

theorem timing_selected (clauses : Clauses) : timing clauses.selected = (.unset, []) := by
  have chosen : timing ((clauses.selection.foldl SelectItem.addAggregate
      (Query.ofMeasurement clauses.measurement)).select
        (clauses.selection.filterMap SelectItem.field?)) = (.unset, []) :=
    timing_foldl SelectItem.addAggregate (fun query item => by cases item <;> rfl) _
      (Query.ofMeasurement clauses.measurement)
  unfold selected
  split
  · exact chosen
  · exact chosen

theorem timing_query (clauses : Clauses) (now : Instant) :
    timing (clauses.query now) = (clauses.window now,
      clauses.conditions.filterMap WhereItem.condition? ++
        (clauses.loneBound?.map timeCondition).toList) := by
  have split : clauses.query now = clauses.refine (applyBounds now clauses.items
      (clauses.latests.foldl Query.latestDuration
        ((clauses.conditions.filterMap WhereItem.condition?).foldl Query.condition
          clauses.selected))) :=
    congrArg (fun query => clauses.refine (applyBounds now clauses.items query))
      (foldl_addTo clauses.conditions clauses.selected)
  have ⟨time, nothing⟩ := Prod.mk.inj clauses.timing_selected
  have ⟨sameTime, conditions⟩ := Prod.mk.inj (timing_conditions
    (clauses.conditions.filterMap WhereItem.condition?) clauses.selected)
  rw [split, timing_refine]
  refine clauses.timing_applyBounds now ?_
  rw [timing_latests]
  rw [sameTime, conditions, time, nothing, List.nil_append]

end Clauses

/-! ## Items in force -/

namespace WhereItem

/-- What an item asks of an instant. A distance from now does not say whether its end point belongs
to it; here it does not. -/
def HoldsAt (now instant : Instant) : WhereItem → Prop
  | .latest duration => (duration.before now).before instant = true
  | .timeBound operator other => operator.Compares instant other
  | .condition field operator value =>
    field = "time" → Condition.HoldsAt ⟨field, operator, value, .and⟩ instant

instance (now instant : Instant) : (item : WhereItem) → Decidable (item.HoldsAt now instant)
  | .latest duration => inferInstanceAs (Decidable ((duration.before now).before instant = true))
  | .timeBound operator other => inferInstanceAs (Decidable (operator.Compares instant other))
  | .condition field operator value =>
    inferInstanceAs (Decidable (field = "time" →
      Condition.HoldsAt ⟨field, operator, value, .and⟩ instant))

def edge? (now : Instant) : WhereItem → Option Instant
  | .latest duration => some (duration.before now)
  | .timeBound operator other =>
    match operator with
    | .greater | .greaterOrEqual | .less | .lessOrEqual => some other
    | _ => none
  | .condition _ _ _ => none

end WhereItem

namespace Clauses

/-- An item that no other takes the place of. A bound gives way to a later one from the same side,
and a distance from now to any lower bound as well. -/
def InForce (clauses : Clauses) (item : WhereItem) : Prop :=
  ∃ before after, clauses.items = before ++ item :: after ∧
    (item.latest? ≠ none → clauses.lowerBounds = [] ∧ ∀ later ∈ after, later.latest? = none) ∧
    (item.lowerBound? ≠ none → ∀ later ∈ after, later.lowerBound? = none) ∧
    (item.upperBound? ≠ none → ∀ later ∈ after, later.upperBound? = none)

/-- The window has no upper bound of its own. -/
def EndsNow (clauses : Clauses) : Prop :=
  (clauses.lowerBounds ≠ [] ∧ clauses.upperBounds = []) ∨
    (clauses.lowerBounds = [] ∧ clauses.latests ≠ [])

theorem getLast?_filterMap_eq_some_iff {α β : Type} {f : α → Option β} {items : List α} {b : β} :
    (items.filterMap f).getLast? = some b ↔ ∃ before item after,
      items = before ++ item :: after ∧ f item = some b ∧ ∀ later ∈ after, f later = none := by
  rw [List.getLast?_filterMap, List.findSome?_eq_some_iff]
  constructor
  · rintro ⟨after, item, before, same, found, none⟩
    refine ⟨before.reverse, item, after.reverse, ?_, found, ?_⟩
    · rw [← List.reverse_reverse items, same]
      simp
    · exact fun later member => none later (List.mem_reverse.1 member)
  · rintro ⟨before, item, after, rfl, found, none⟩
    refine ⟨after.reverse, item, before.reverse, by simp, found, ?_⟩
    exact fun later member => none later (List.mem_reverse.1 member)

section
variable {clauses : Clauses}

theorem InForce.latests {duration : Duration} (inForce : clauses.InForce (.latest duration)) :
    clauses.lowerBounds = [] ∧ clauses.latests.getLast? = some duration := by
  obtain ⟨before, after, same, latest, -, -⟩ := inForce
  obtain ⟨noLower, last⟩ := latest (by simp [WhereItem.latest?])
  exact ⟨noLower, getLast?_filterMap_eq_some_iff.2 ⟨before, _, after, same, rfl, last⟩⟩

theorem InForce.lowerBounds {item : WhereItem} {start : Instant} (inForce : clauses.InForce item)
    (lower : item.lowerBound? = some start) : clauses.lowerBounds.getLast? = some start := by
  obtain ⟨before, after, same, -, last, -⟩ := inForce
  have last := last (by simp [lower])
  exact getLast?_filterMap_eq_some_iff.2 ⟨before, item, after, same, lower, last⟩

theorem InForce.upperBounds {item : WhereItem} {finish : Operator × Instant}
    (inForce : clauses.InForce item) (upper : item.upperBound? = some finish) :
    clauses.upperBounds.getLast? = some finish := by
  obtain ⟨before, after, same, -, -, last⟩ := inForce
  have last := last (by simp [upper])
  exact getLast?_filterMap_eq_some_iff.2 ⟨before, item, after, same, upper, last⟩

theorem InForce.mem {item : WhereItem} (inForce : clauses.InForce item) : item ∈ clauses.items := by
  obtain ⟨before, after, same, -⟩ := inForce
  rw [same]
  simp

theorem inForce_of_latests {duration : Duration} (noLower : clauses.lowerBounds = [])
    (last : clauses.latests.getLast? = some duration) : clauses.InForce (.latest duration) := by
  obtain ⟨before, item, after, same, latest, last⟩ := getLast?_filterMap_eq_some_iff.1 last
  cases item with
  | latest other =>
    cases latest
    exact ⟨before, after, same, fun _ => ⟨noLower, last⟩, fun lower => absurd rfl lower,
      fun upper => absurd rfl upper⟩
  | timeBound operator instant => cases latest
  | condition field operator value => cases latest

theorem inForce_of_lowerBounds {start : Instant}
    (last : clauses.lowerBounds.getLast? = some start) :
    ∃ operator, clauses.InForce (.timeBound operator start) ∧
      (operator = .greater ∨ operator = .greaterOrEqual) := by
  obtain ⟨before, item, after, same, lower, last⟩ := getLast?_filterMap_eq_some_iff.1 last
  cases item with
  | latest other => cases lower
  | condition field operator value => cases lower
  | timeBound operator instant =>
    cases operator <;> cases lower
    · exact ⟨.greater, ⟨before, after, same, fun latest => absurd rfl latest, fun _ => last,
        fun upper => absurd rfl upper⟩, .inl rfl⟩
    · exact ⟨.greaterOrEqual, ⟨before, after, same, fun latest => absurd rfl latest, fun _ => last,
        fun upper => absurd rfl upper⟩, .inr rfl⟩

theorem inForce_of_upperBounds {operator : Operator} {finish : Instant}
    (found : clauses.upperBounds.getLast? = some (operator, finish)) :
    clauses.InForce (.timeBound operator finish) ∧
      (operator = .less ∨ operator = .lessOrEqual) := by
  obtain ⟨before, item, after, same, upper, last⟩ := getLast?_filterMap_eq_some_iff.1 found
  cases item with
  | latest other => cases upper
  | condition field operator value => cases upper
  | timeBound other instant =>
    cases other <;> cases upper
    · exact ⟨⟨before, after, same, fun latest => absurd rfl latest, fun lower => absurd rfl lower,
        fun _ => last⟩, .inl rfl⟩
    · exact ⟨⟨before, after, same, fun latest => absurd rfl latest, fun lower => absurd rfl lower,
        fun _ => last⟩, .inr rfl⟩

theorem inForce_of_condition? {item : Connective × WhereItem} {condition : Condition}
    (member : item ∈ clauses.conditions) (own : WhereItem.condition? item = some condition) :
    clauses.InForce item.2 := by
  obtain ⟨connective, item⟩ := item
  obtain ⟨before, after, same⟩ := List.append_of_mem (List.mem_map_of_mem member)
  cases item with
  | latest duration => cases own
  | condition field operator value =>
    exact ⟨before, after, same, fun latest => absurd rfl latest, fun lower => absurd rfl lower,
      fun upper => absurd rfl upper⟩
  | timeBound operator instant =>
    refine ⟨before, after, same, fun latest => absurd rfl latest, fun lower => ?_, fun upper => ?_⟩
    · cases operator <;> first | cases own; done | exact absurd rfl lower
    · cases operator <;> first | cases own; done | exact absurd rfl upper

theorem holdsAt_condition? {item : Connective × WhereItem} {condition : Condition}
    (own : WhereItem.condition? item = some condition) (now instant : Instant) :
    item.2.HoldsAt now instant ↔ (condition.isTime = true → condition.HoldsAt instant) := by
  obtain ⟨connective, item⟩ := item
  cases item with
  | latest duration => cases own
  | condition field operator value =>
    cases own
    simp [WhereItem.HoldsAt, Condition.isTime, Condition.HoldsAt]
  | timeBound operator other =>
    cases operator <;> cases own <;>
      simp [WhereItem.HoldsAt, Condition.isTime, Condition.HoldsAt]

/-! ## What a query admits -/

theorem time_query (now : Instant) : (clauses.query now).time = clauses.window now :=
  congrArg Prod.fst (clauses.timing_query now)

theorem mem_conditions_query {now : Instant} {condition : Condition} :
    condition ∈ (clauses.query now).conditions ↔
      (∃ item ∈ clauses.conditions, WhereItem.condition? item = some condition) ∨
        ∃ operator finish, clauses.loneBound? = some (operator, finish) ∧
          condition = ⟨"time", operator, .scalar (.timestamp finish), .and⟩ := by
  have same : (clauses.query now).conditions = _ := congrArg Prod.snd (clauses.timing_query now)
  rw [same, List.mem_append, List.mem_filterMap]
  refine or_congr Iff.rfl ?_
  cases clauses.loneBound? with
  | none => simp
  | some finish => simp [Prod.ext_iff, timeCondition]

theorem connective_query (joined : ∀ item ∈ clauses.conditions, item.1 = .and) (now : Instant) :
    ∀ condition ∈ (clauses.query now).conditions, condition.connective = .and := by
  intro condition member
  obtain ⟨⟨connective, item⟩, known, own⟩ | ⟨operator, finish, -, rfl⟩ :=
    mem_conditions_query.1 member
  · rw [← joined _ known]
    cases item with
    | latest duration => cases own
    | condition field operator value =>
      cases own
      rfl
    | timeBound operator instant => cases operator <;> cases own <;> rfl
  · rfl

theorem InForce.holdsAt {item : WhereItem} (inForce : clauses.InForce item)
    (joined : ∀ item ∈ clauses.conditions, item.1 = .and) {now instant : Instant}
    (admits : (clauses.query now).Admits now instant) : item.HoldsAt now instant := by
  obtain ⟨inside, holds⟩ := (Query.admits_iff (connective_query joined now) now instant).1 admits
  rw [time_query, window] at inside
  obtain ⟨⟨connective, other⟩, member, same⟩ := List.mem_map.1 inForce.mem
  obtain rfl : other = item := same
  -- An item is kept as a condition of its own, as the start of the window, or as its end; without
  -- a start, an upper bound is a condition as well.
  have own {condition : Condition}
      (own : WhereItem.condition? (connective, other) = some condition) :
      other.HoldsAt now instant :=
    (holdsAt_condition? own now instant).2
      (holds condition (mem_conditions_query.2 (.inl ⟨_, member, own⟩)))
  have lower {start : Instant} (lower : other.lowerBound? = some start) :
      start.before instant = true := by
    rw [inForce.lowerBounds lower] at inside
    exact inside.1
  have upper {operator : Operator} {finish : Instant}
      (upper : other.upperBound? = some (operator, finish)) :
      operator.Compares instant finish ∨ instant.before finish = true := by
    have last := inForce.upperBounds upper
    cases lowerBounds : clauses.lowerBounds.getLast? with
    | some start =>
      rw [lowerBounds, last] at inside
      exact .inr inside.2
    | none =>
      have lone : clauses.loneBound? = some (operator, finish) := by
        rw [loneBound?, if_pos (List.getLast?_eq_none_iff.1 lowerBounds), last]
      exact .inl (holds _ (mem_conditions_query.2 (.inr ⟨operator, finish, lone, rfl⟩)) rfl)
  cases other with
  | latest duration =>
    obtain ⟨noLower, last⟩ := inForce.latests
    rw [noLower, last] at inside
    exact inside.1
  | condition field operator value => exact own rfl
  | timeBound operator bound =>
    cases operator with
    | greater => exact lower rfl
    | greaterOrEqual => exact Instant.not_before_of_before (lower rfl)
    | less => exact (upper rfl).elim id id
    | lessOrEqual => exact (upper rfl).elim id Instant.not_before_of_before
    | _ => exact own rfl

section
variable {now instant : Instant} {operator : Operator}

-- The window leaves out its end points, which the operators of the bounds may include.

theorem before_of_lower {start : Instant} (lower : operator = .greater ∨ operator = .greaterOrEqual)
    (holds : (WhereItem.timeBound operator start).HoldsAt now instant ∧
      (WhereItem.timeBound operator start).edge? now ≠ some instant) :
    start.before instant = true := by
  obtain ⟨compares, apart⟩ := holds
  rcases lower with rfl | rfl
  · exact compares
  · exact Classical.not_not.1 fun other =>
      apart (congrArg some (Instant.eq_of_not_before other compares))

theorem before_of_upper {finish : Instant} (upper : operator = .less ∨ operator = .lessOrEqual)
    (holds : (WhereItem.timeBound operator finish).HoldsAt now instant ∧
      (WhereItem.timeBound operator finish).edge? now ≠ some instant) :
    instant.before finish = true := by
  obtain ⟨compares, apart⟩ := holds
  rcases upper with rfl | rfl
  · exact compares
  · exact Classical.not_not.1 fun other =>
      apart (congrArg some (Instant.eq_of_not_before compares other))

theorem contains_window (holds : ∀ item, clauses.InForce item →
      item.HoldsAt now instant ∧ item.edge? now ≠ some instant)
    (past : clauses.EndsNow → instant.before now = true) :
    (clauses.window now).Contains now instant := by
  unfold window
  cases lower : clauses.lowerBounds.getLast? with
  | some start =>
    obtain ⟨operator, inForce, isLower⟩ := inForce_of_lowerBounds lower
    refine ⟨before_of_lower isLower (holds _ inForce), ?_⟩
    cases upper : clauses.upperBounds.getLast? with
    | some finish =>
      obtain ⟨operator, finish⟩ := finish
      obtain ⟨inForce, isUpper⟩ := inForce_of_upperBounds upper
      exact before_of_upper isUpper (holds _ inForce)
    | none =>
      have nonempty : clauses.lowerBounds ≠ [] := fun none => by simp [none] at lower
      exact past (.inl ⟨nonempty, List.getLast?_eq_none_iff.1 upper⟩)
  | none =>
    have noLower := List.getLast?_eq_none_iff.1 lower
    cases last : clauses.latests.getLast? with
    | some duration =>
      have nonempty : clauses.latests ≠ [] := fun none => by simp [none] at last
      exact ⟨(holds _ (inForce_of_latests noLower last)).1, past (.inr ⟨noLower, nonempty⟩)⟩
    | none => trivial

end

/-- An instant that all items in force are about is admitted, whatever the other bounds say. -/
theorem admits_of_holdsAt (joined : ∀ item ∈ clauses.conditions, item.1 = .and)
    {now instant : Instant}
    (holds : ∀ item, clauses.InForce item →
      item.HoldsAt now instant ∧ item.edge? now ≠ some instant)
    (past : clauses.EndsNow → instant.before now = true) :
    (clauses.query now).Admits now instant := by
  rw [Query.admits_iff (connective_query joined now), time_query]
  refine ⟨contains_window holds past, fun condition member => ?_⟩
  obtain ⟨item, known, own⟩ | ⟨operator, finish, lone, rfl⟩ := mem_conditions_query.1 member
  · exact (holdsAt_condition? own now instant).1 (holds _ (inForce_of_condition? known own)).1
  · unfold loneBound? at lone
    split at lone
    · exact fun _ => (holds _ (inForce_of_upperBounds lone).1).1
    · cases lone

end

end Clauses

/-- The instants that a query admits are those of its items in force, end points aside, up to now
where nothing else ends the window. -/
theorem readQuery_admits {now : Instant} {text : String} {query : Query} {found : Clauses}
    {rest : List Char} (read : readQuery now text = .ok query)
    (parsed : clauses (Text.trimChars text.toList) = some (found, rest))
    (joined : ∀ item ∈ found.conditions, item.1 = .and) (instant : Instant) :
    (query.Admits now instant → ∀ item, found.InForce item → item.HoldsAt now instant) ∧
      ((∀ item, found.InForce item →
          item.HoldsAt now instant ∧ item.edge? now ≠ some instant) →
        (found.EndsNow → instant.before now = true) → query.Admits now instant) := by
  have built : query = found.query now := by
    simp only [readQuery, parsed] at read
    split at read
    · exact (Except.ok.inj read).symm
    · cases read
  rw [built]
  exact ⟨fun admits item inForce => inForce.holdsAt joined admits,
    Clauses.admits_of_holdsAt joined⟩

/-- Two lower bounds, the later instant first, and an upper bound. -/
def twiceBounded : String :=
  "SELECT usage FROM cpu WHERE time >= '2023-10-27T06:00:00Z' AND " ++
    "time >= '2023-10-27T00:00:00Z' AND time <= '2023-10-27T12:00:00Z'"

def betweenBounds : Instant := ⟨1698375600, 0, by decide⟩

theorem clauses_twiceBounded :
    ∃ found, clauses (Text.trimChars twiceBounded.toList) = some (found, []) ∧
      (∀ item ∈ found.conditions, item.1 = .and) ∧
      (found.query .earliest).Admits .earliest betweenBounds ∧
      ∃ item ∈ found.items, ¬ item.HoldsAt .earliest betweenBounds := by
  have checked : ((clauses (Text.trimChars twiceBounded.toList)).any fun (found, rest) =>
      decide (rest = [] ∧ (∀ item ∈ found.conditions, item.1 = .and) ∧
        (found.query .earliest).Admits .earliest betweenBounds ∧
        ∃ item ∈ found.items, ¬ item.HoldsAt .earliest betweenBounds)) = true := by
    decide +kernel
  obtain ⟨⟨found, rest⟩, parsed, accepted⟩ := (Option.any_eq_true _ _).1 checked
  obtain ⟨rfl, holds⟩ := of_decide_eq_true accepted
  exact ⟨found, parsed, holds⟩

/-- The items in force hold where the first lower bound is lost. -/
theorem readQuery_admits_twiceBounded :
    ∃ found, clauses (Text.trimChars twiceBounded.toList) = some (found, []) ∧
      readQuery .earliest twiceBounded = .ok (found.query .earliest) ∧
      (∀ item ∈ found.conditions, item.1 = .and) ∧
      (∃ item ∈ found.items, ¬ item.HoldsAt .earliest betweenBounds) ∧
      ∀ item, found.InForce item → item.HoldsAt .earliest betweenBounds := by
  obtain ⟨found, parsed, joined, admits, lost⟩ := clauses_twiceBounded
  have read : readQuery .earliest twiceBounded = .ok (found.query .earliest) := by
    simp only [readQuery, parsed, List.all_nil, if_true]
  exact ⟨found, parsed, read, joined, lost,
    (readQuery_admits read parsed joined betweenBounds).1 admits⟩

end Language

end SeriesQuery
