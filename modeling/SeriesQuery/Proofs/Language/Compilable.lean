import SeriesQuery.Proofs.Entries
import SeriesQuery.Proofs.Language.Statement
import SeriesQuery.Proofs.Language.Taken
import SeriesQuery.Proofs.Language.Windows
import SeriesQuery.Proofs.Query.Checks

/-!
What is read passes the common check, whatever was written: nothing in it is unknown, doubled or of
the wrong shape. Only a blank measurement and an interval beyond 32 bits are left for the check.
-/

set_option autoImplicit false

namespace SeriesQuery.Language

open Grammar

/-! ## Shapes -/

theorem Fits.shapeProblem?_eq_none {condition : Condition}
    (fits : Fits condition.operator condition.value) : condition.shapeProblem? = none := by
  obtain ⟨field, operator, value, connective⟩ := condition
  cases fits with
  | compared comparison value => cases operator <;> first | rfl | cases comparison
  | isIn | notIn | between | regex | notRegex => rfl

/-! ## Steps -/

/-- The query has nothing unknown, doubled or of the wrong shape. -/
structure Sound (query : Query) : Prop where
  fields : query.fields ≠ []
  operators : query.unknownOperators = []
  tags : query.groupBy.Nodup
  ordering : (query.orderBy.map Prod.fst).Nodup
  having : ∀ having ∈ query.having, having.operator.isComparison = true
  conditions : ∀ condition ∈ query.conditions, Fits condition.operator condition.value
  interval : ∀ text, query.interval? = some text → text.toList ∈ intervalForm text

namespace Sound

variable {query : Query}

theorem ofMeasurement (measurement : String) : Sound (Query.ofMeasurement measurement) where
  fields := List.cons_ne_nil _ _
  operators := rfl
  tags := List.nodup_nil
  ordering := List.nodup_nil
  having := List.forall_mem_nil _
  conditions := List.forall_mem_nil _
  interval := nofun

theorem select (sound : Sound query) (fields : List String) : Sound (query.select fields) where
  fields := by
    unfold Query.select
    dsimp only
    split
    · exact List.cons_ne_nil _ _
    · next nonempty => exact fun empty => nonempty (List.isEmpty_iff.2 empty)
  __ := sound

theorem condition (sound : Sound query) {condition : Condition}
    (fits : Fits condition.operator condition.value) : Sound (query.condition condition) where
  conditions := List.forall_mem_append.2 ⟨sound.conditions, List.forall_mem_singleton.2 fits⟩
  __ := sound

theorem groupByTag (sound : Sound query) (tag : String) : Sound (query.groupByTag tag) where
  tags := nodup_added sound.tags tag
  __ := sound

theorem setInterval (sound : Sound query) {text : String} (written : text.toList ∈ intervalForm text) :
    Sound (query.interval text) where
  interval := by
    rintro _ ⟨⟩
    exact written
  __ := sound

theorem havingOperator (sound : Sound query) {operator : Operator}
    (comparison : operator.isComparison = true) (field : String) (value : Scalar) :
    Sound (query.havingOperator field operator value) where
  having := List.forall_mem_append.2 ⟨sound.having, List.forall_mem_singleton.2 comparison⟩
  __ := sound

theorem order (sound : Sound query) (field : String) (direction : SortDirection) :
    Sound (query.order field direction) where
  ordering := by
    rw [Query.order, map_fst_setEntry]
    exact nodup_added sound.ordering field
  __ := sound

theorem fill (sound : Sound query) (policy : FillPolicy) : Sound (query.fill policy) :=
  { sound with }

theorem limit (sound : Sound query) (count : UInt64) : Sound (query.limit count) := { sound with }

theorem offset (sound : Sound query) (count : UInt64) : Sound (query.offset count) :=
  { sound with }

theorem getD {α : Type} {step : Query → α → Query} {item? : Option α}
    (keeps : ∀ {query}, Sound query → ∀ item, Sound (step query item)) (sound : Sound query) :
    Sound ((item?.map (step query)).getD query) := by
  cases item? with
  | none => exact sound
  | some item => exact keeps sound item

/-! ## Clauses -/

theorem addAggregate (sound : Sound query) (item : SelectItem) :
    Sound (item.addAggregate query) := by
  cases item with
  | aggregate function field alias? => exact { sound with }
  | all | field => exact sound

theorem addItem (sound : Sound query) {item : WhereItem} (fits : item.Fits)
    (connective : Connective) : Sound (item.addTo query connective) := by
  cases item with
  | latest duration => exact { sound with }
  | timeBound operator instant =>
    unfold WhereItem.addTo
    dsimp only
    -- an order is left to the bounds, and any other comparison is a condition of its own
    split
    case h_5 => exact sound.condition (.compared fits _)
    all_goals exact sound
  | condition field operator value => exact sound.condition fits

theorem addGroup (sound : Sound query) {item : GroupItem} (fits : item.Fits) :
    Sound (item.addTo query) := by
  cases item with
  | tag tag => exact sound.groupByTag tag
  | interval text => exact sound.setInterval fits

end Sound

theorem isComparison_of_upperBound? {item : WhereItem} {operator : Operator} {instant : Time.Instant}
    (found : item.upperBound? = some (operator, instant)) : operator.isComparison = true := by
  unfold WhereItem.upperBound? at found
  split at found <;> cases found <;> rfl

theorem Sound.applyBounds {query : Query} (sound : Sound query) (now : Time.Instant)
    (items : List WhereItem) : Sound (applyBounds now items query) := by
  unfold Language.applyBounds
  split
  · exact { sound with }
  · next operator instant _ last =>
    obtain ⟨item, -, found⟩ := List.mem_filterMap.1 (List.mem_of_getLast? last)
    exact sound.condition (.compared (isComparison_of_upperBound? found) _)
  · exact sound

namespace Clauses

variable {clauses : Clauses}

theorem sound_selected (clauses : Clauses) : Sound clauses.selected := by
  have chosen := (List.foldlRecOn clauses.selection SelectItem.addAggregate
    (Sound.ofMeasurement clauses.measurement) fun _ sound item _ => sound.addAggregate item).select
      (clauses.selection.filterMap SelectItem.field?)
  unfold selected
  dsimp only
  split
  · exact { chosen with }
  · exact chosen

theorem Fit.sound_refine (fit : clauses.Fit) {query : Query} (sound : Sound query) :
    Sound (clauses.refine query) := by
  have grouped := List.foldlRecOn clauses.grouping GroupItem.addTo sound
    fun _ sound item member => sound.addGroup (fit.grouping item member)
  unfold refine
  -- from the last step back to the filter on aggregated values
  refine .getD .offset (.getD .limit (List.foldlRecOn clauses.ordering _ (.getD .fill ?_)
    fun _ sound item _ => sound.order item.1 item.2))
  split
  · next found => exact grouped.havingOperator (fit.having _ found) _ _
  · exact grouped

theorem Fit.sound_query (fit : clauses.Fit) (now : Time.Instant) : Sound (clauses.query now) :=
  fit.sound_refine (.applyBounds (List.foldlRecOn clauses.conditions _ (sound_selected clauses)
    fun _ sound item member => sound.addItem (fit.conditions item member) item.1) now clauses.items)

end Clauses

/-! ## The check -/

theorem read?_interval (digits : Digits) (unit : DurationUnit) :
    Duration.read? (String.ofList (digits.text ++ [unit.symbol])) =
      if digits.value < UInt32.size then some ⟨UInt32.ofNat digits.value, unit⟩ else none := by
  have solid : Solid (digits.text ++ [unit.symbol]) := by
    refine List.forall_mem_append.2 ⟨digits.solid, List.forall_mem_singleton.2 ?_⟩
    cases unit <;> rfl
  rw [Duration.read?, String.toList_ofList, solid.trimChars_eq, ofChars?_digits]

namespace Sound

variable {query : Query}

theorem shapeError?_eq_none (sound : Sound query) : Query.shapeError? query.conditions = none :=
  Query.shapeError?_eq_none_iff.2 fun condition member =>
    (sound.conditions condition member).shapeProblem?_eq_none

theorem checkCompilable_of_blank (sound : Sound query)
    (blank : Text.isBlankText query.measurement = true) :
    query.checkCompilable = .error (.invalid [.missingMeasurement]) := by
  have problems : query.hardProblems = [.missingMeasurement] := by
    simp [Query.hardProblems, Query.hasMeasurement, sound.operators, blank]
  rw [Query.checkCompilable, problems, if_pos (List.cons_ne_nil _ _)]

theorem checkCompilable_eq_bucket (sound : Sound query)
    (visible : Text.isBlankText query.measurement = false) :
    query.checkCompilable = query.bucket.map fun _ => () := by
  have measured : query.hasMeasurement = true := by rw [Query.hasMeasurement, visible, Bool.not_false]
  have problems := Query.hardProblems_eq_nil_iff.2 ⟨sound.operators, measured⟩
  rw [Query.checkCompilable, problems, if_neg (not_not.2 rfl), sound.shapeError?_eq_none]

/-- The interval is digits and a unit, and the check asks whether the digits fit 32 bits. -/
theorem exists_digits (sound : Sound query) {text : String} (present : query.interval? = some text) :
    ∃ (digits : Digits) (unit : DurationUnit),
      text = String.ofList (digits.text ++ [unit.symbol]) ∧
      query.bucket.map (fun _ => ()) =
        if digits.value < UInt32.size then .ok () else .error (.invalidDuration text) := by
  obtain ⟨-, digits, unit, same⟩ := sound.interval text present
  have written : text = String.ofList (digits.text ++ [unit.symbol]) := by
    rw [← same, String.ofList_toList]
  refine ⟨digits, unit, written, ?_⟩
  have read := read?_interval digits unit
  rw [← written] at read
  rw [Query.bucket, present]
  dsimp only
  rw [read]
  by_cases small : digits.value < UInt32.size
  · rw [if_pos small, if_pos small]
    rfl
  · rw [if_neg small, if_neg small]
    rfl

end Sound

theorem exists_of_readQuery {now : Time.Instant} {text : String} {query : Query}
    (read : readQuery now text = .ok query) :
    ∃ found rest, clauses (Text.trimChars text.toList) = some (found, rest) ∧
      found.query now = query := by
  unfold readQuery at read
  split at read
  · cases read
  · next found rest parsed =>
    split at read
    · exact ⟨found, rest, parsed, Except.ok.inj read⟩
    · cases read

/-- A query that was read has a selection, no operator that is not understood, no group or order
twice, comparisons only between aggregated values and numbers, and values of the shape that their
operators ask for. So it passes the common check unless its measurement is blank, which is the fault
that is named first, or the amount of its interval does not fit 32 bits. -/
theorem readQuery_compilable {now : Time.Instant} {text : String} {query : Query}
    (read : readQuery now text = .ok query) :
    query.fields ≠ [] ∧ query.unknownOperators = [] ∧ query.groupBy.Nodup ∧
    (query.orderBy.map Prod.fst).Nodup ∧
    (∀ having ∈ query.having, having.operator.isComparison = true) ∧
    (∀ condition ∈ query.conditions,
      condition.shapeProblem? = none ∧ Fits condition.operator condition.value) ∧
    (Text.isBlankText query.measurement = true →
      query.checkCompilable = .error (.invalid [.missingMeasurement])) ∧
    (Text.isBlankText query.measurement = false → query.interval? = none →
      query.checkCompilable = .ok ()) ∧
    ∀ interval, query.interval? = some interval → ∃ (digits : Digits) (unit : DurationUnit),
      interval = String.ofList (digits.text ++ [unit.symbol]) ∧
      (Text.isBlankText query.measurement = false → query.checkCompilable =
        if digits.value < UInt32.size then .ok () else .error (.invalidDuration interval)) := by
  obtain ⟨found, rest, parsed, rfl⟩ := exists_of_readQuery read
  have sound := (takes_clauses _ found rest parsed).sound_query now
  refine ⟨sound.fields, sound.operators, sound.tags, sound.ordering, sound.having, ?_,
    sound.checkCompilable_of_blank, ?_, ?_⟩
  · intro condition member
    have fits := sound.conditions condition member
    exact ⟨fits.shapeProblem?_eq_none, fits⟩
  · intro visible absent
    rw [sound.checkCompilable_eq_bucket visible, Query.bucket, absent]
    rfl
  · intro interval present
    obtain ⟨digits, unit, written, checked⟩ := sound.exists_digits present
    exact ⟨digits, unit, written, fun visible =>
      (sound.checkCompilable_eq_bucket visible).trans checked⟩

/-- A list of hosts, a tag twice, and an interval one beyond 32 bits. -/
def overlong : String :=
  "SELECT mean(usage) FROM cpu WHERE host IN ('a', 'b') GROUP BY host, time(4294967296m), host"

def overlongQuery : Query :=
  ((((Query.ofMeasurement "cpu").aggregate .mean "usage" none).condition
    ⟨"host", .isIn, .list [.string "a", .string "b"], .and⟩).groupByTag "host").interval
      "4294967296m"

theorem readQuery_overlong : readQuery .earliest overlong = .ok overlongQuery := by
  decide +kernel

theorem readQuery_compilable_overlong :
    readQuery .earliest overlong = .ok overlongQuery ∧ overlongQuery.groupBy.Nodup ∧
      (∀ condition ∈ overlongQuery.conditions, condition.shapeProblem? = none) ∧
      overlongQuery.checkCompilable = .error (.invalidDuration "4294967296m") := by
  obtain ⟨-, -, tags, -, -, conditions, -, -, interval⟩ := readQuery_compilable readQuery_overlong
  obtain ⟨digits, unit, written, checked⟩ := interval "4294967296m" rfl
  have chars : "4294967296".toList ++ ['m'] = digits.text ++ [unit.symbol] := by
    simpa using congrArg String.toList written
  have amount : ¬ digits.value < UInt32.size := by
    rw [Digits.value, ← List.append_inj_left' chars rfl]
    decide
  refine ⟨readQuery_overlong, tags, fun condition member => (conditions condition member).1, ?_⟩
  rw [checked (by decide), if_neg amount]

end SeriesQuery.Language
