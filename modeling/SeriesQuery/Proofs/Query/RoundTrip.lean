import SeriesQuery.Query.Json
import SeriesQuery.Proofs.Json.Records
import SeriesQuery.Proofs.Time.Lenient

/-!
A query read of its own JSON form. Literal values carry no mark of their kind, so that text which
reads as an instant becomes one, and a double is what the reader makes of its digits; operators that
were not understood are left out. Everything else is kept.
-/

set_option autoImplicit false

namespace SeriesQuery

open Json

/-! ## Durations and windows -/

theorem Time.Instant.ofJson?_tree (instant : Time.Instant) :
    Time.Instant.ofJson? instant.toJson.tree = some instant := by
  rw [Time.Instant.toJson, Value.tree, Time.Instant.ofJson?, Tree.string?, Option.bind_some,
    Time.readLenient?_zulu]

theorem DurationUnit.choice?_jsonName (unit : DurationUnit) :
    (Value.string unit.jsonName).tree.choice? choices = some unit := by
  cases unit <;> rfl

theorem Duration.ofJson?_tree (duration : Duration) :
    Duration.ofJson? duration.toJson.tree = some duration := by
  have members : duration.toJson.tree.members? ["amount", "unit"] =
      some ⟨true, parts duration.jsonMembers⟩ := members?_object rfl (by decide)
  have amount := nat?_integer duration.amount.toNat_lt_size (by decide)
  unfold Duration.ofJson?
  rw [members]
  refine (bind_required (by rfl) amount _).trans ?_
  refine (bind_required (by rfl) duration.unit.choice?_jsonName _).trans ?_
  rw [UInt32.ofNat_toNat]
  rfl

namespace TimeWindow

theorem tagged?_relative (duration : Duration) :
    (relative duration).toJson.tree.tagged? (Tree.deepest - 1) "kind" =
      some ("relative", duration.toJson.tree) := by
  have small := duration.amount.toNat_lt
  have amount : (integerLiteral duration.amount.toNat).number? =
      some (.integer duration.amount.toNat) := number?_integerLiteral (by omega) (by omega)
  refine tagged?_object (by decide : "kind" ∉ ["amount", "unit"]) ?_
  simp [Value.tree, Value.memberTrees, Duration.jsonMembers, Tree.value?, Tree.memberValues?,
    amount, Tree.deepest]

theorem ofJson?_tree (window : TimeWindow) :
    ofJson? (Tree.deepest - 1) window.toJson.tree = some window := by
  cases window with
  | unset => rfl
  | absolute start finish =>
    have members : (Value.object [("start", start.toJson), ("end", finish.toJson)]).tree.members?
        ["start", "end"] = some ⟨true, parts [("start", start.toJson), ("end", finish.toJson)]⟩ :=
      members?_object rfl (by decide)
    have tagged : (absolute start finish).toJson.tree.tagged? (Tree.deepest - 1) "kind" =
        some ("absolute", (Value.object [("start", start.toJson), ("end", finish.toJson)]).tree) :=
      tagged?_object (by decide : "kind" ∉ ["start", "end"]) rfl
    unfold ofJson?
    rw [tagged, Option.bind_eq_bind, Option.bind_some]
    change (do
      let members ← (Value.object [("start", start.toJson), ("end", finish.toJson)]).tree.members?
        ["start", "end"]
      let start ← members.required "start" Time.Instant.ofJson?
      let finish ← members.required "end" Time.Instant.ofJson?
      return absolute start finish) = _
    rw [members, Option.bind_eq_bind, Option.bind_some]
    refine (bind_required (by rfl) start.ofJson?_tree _).trans ?_
    exact bind_required (by rfl) finish.ofJson?_tree _
  | relative duration =>
    unfold ofJson?
    rw [tagged?_relative]
    exact congrArg (Option.map relative) duration.ofJson?_tree

end TimeWindow

/-! ## Conditions -/

namespace Scalar

def IsFinite : Scalar → Prop
  | .float value => Decimal.isFinite value = true
  | _ => True

def reread : Scalar → Scalar
  | .float value => .float (Json.reread value)
  | .string text =>
    match Time.readLenient? text with
    | some instant => .timestamp instant
    | none => .string text
  | value => value

def Kept : Scalar → Prop
  | .float value => Json.reread value = value
  | .string text => Time.readLenient? text = none
  | _ => True

theorem reread_eq_iff (value : Scalar) : value.reread = value ↔ value.Kept := by
  cases value with
  | float value => rw [reread, Kept, Scalar.float.injEq]
  | string text =>
    rw [reread, Kept]
    cases Time.readLenient? text with
    | some instant => simp
    | none => simp
  | _ => exact ⟨fun _ => trivial, fun _ => rfl⟩

theorem ofJson?_tree {value : Scalar} (finite : value.IsFinite) :
    ofJson? value.toJson.tree = some value.reread := by
  cases value with
  | null => rfl
  | bool value => rfl
  | integer value =>
    have read := int64?_integer value
    rw [Value.tree] at read
    rw [toJson, Value.tree, ofJson?, read]
    rfl
  | float value =>
    obtain ⟨literal, -, formed, text, -⟩ := exists_literal_of_finite finite
    have whole := int64?_floatTree finite
    have read := float?_floatTree finite
    rw [floatTree_of_finite formed text] at whole read
    rw [toJson, Value.tree, floatTree_of_finite formed text, ofJson?, whole]
    dsimp only
    rw [read]
    rfl
  | timestamp value =>
    rw [toJson, Time.Instant.toJson, Value.tree, ofJson?, Option.map_some, Time.readLenient?_zulu]
    rfl
  | string text => rfl

end Scalar

theorem map_eq_self_iff {α : Type} {f : α → α} {values : List α} :
    values.map f = values ↔ ∀ value ∈ values, f value = value := by
  have same := @List.map_inj_left _ _ values f id
  rwa [List.map_id] at same

namespace ConditionValue

def reread : ConditionValue → ConditionValue
  | .scalar value => .scalar value.reread
  | .list values => .list (values.map Scalar.reread)

theorem ofJson?_tree {value : ConditionValue} (finite : ∀ scalar ∈ value.scalars, scalar.IsFinite) :
    ofJson? value.toJson.tree = some value.reread := by
  cases value with
  | scalar value =>
    rw [toJson, ofJson?, Scalar.ofJson?_tree (finite value List.mem_cons_self)]
    rfl
  | list values =>
    have read := list?_ofList fun value member => Scalar.ofJson?_tree (finite value member)
    have array : Scalar.ofJson? (toJson (.list values)).tree = none := rfl
    rw [ofJson?, array]
    exact congrArg (Option.map list) read

theorem reread_eq_iff (value : ConditionValue) :
    value.reread = value ↔ ∀ scalar ∈ value.scalars, scalar.Kept := by
  cases value with
  | scalar value => simp [reread, scalars, Scalar.reread_eq_iff]
  | list values => simp [reread, scalars, map_eq_self_iff, Scalar.reread_eq_iff]

end ConditionValue

theorem Operator.choice?_jsonName (operator : Operator) :
    (Value.string operator.jsonName).tree.choice? choices = some operator := by
  cases operator <;> rfl

theorem Connective.choice?_token (connective : Connective) :
    (Value.string connective.token).tree.choice? choices = some connective := by
  cases connective <;> rfl

namespace Condition

def reread (condition : Condition) : Condition :=
  { condition with value := condition.value.reread }

theorem ofJson?_tree {condition : Condition}
    (finite : ∀ scalar ∈ condition.value.scalars, scalar.IsFinite) :
    ofJson? condition.toJson.tree = some condition.reread := by
  have members : condition.toJson.tree.members? ["field", "operator", "value", "logical"] =
      some ⟨true, parts [("field", .string condition.field),
        ("operator", .string condition.operator.jsonName), ("value", condition.value.toJson),
        ("logical", .string condition.connective.token)]⟩ := members?_object rfl (by decide)
  unfold ofJson?
  rw [members, Option.bind_eq_bind, Option.bind_some]
  refine (bind_required (by rfl) (string?_string condition.field) _).trans ?_
  refine (bind_required (by rfl) condition.operator.choice?_jsonName _).trans ?_
  refine (bind_required (by rfl) (ConditionValue.ofJson?_tree finite) _).trans ?_
  exact bind_required (by rfl) condition.connective.choice?_token _

theorem reread_eq_iff (condition : Condition) :
    condition.reread = condition ↔ ∀ scalar ∈ condition.value.scalars, scalar.Kept := by
  rw [← ConditionValue.reread_eq_iff]
  obtain ⟨field, operator, value, connective⟩ := condition
  simp [reread]

end Condition

/-! ## Aggregations -/

namespace AggregateFunction

theorem ofJson?_tree (function : AggregateFunction) :
    ofJson? function.toJson.tree = some function := by
  cases function with
  | percentile percent =>
    have read := nat?_integer percent.toNat_lt_size (by decide)
    have form : ofJson? (toJson (.percentile percent)).tree =
        ((Value.integer percent.toNat).tree.nat? UInt8.size).map fun percent =>
          .percentile (UInt8.ofNat percent) := rfl
    rw [form, read, Option.map_some, UInt8.ofNat_toNat]
  | _ => rfl

end AggregateFunction

theorem Aggregation.ofJson?_tree (aggregation : Aggregation) :
    ofJson? aggregation.toJson.tree = some aggregation := by
  have members : aggregation.toJson.tree.members? ["function", "field", "alias"] =
      some ⟨true, parts [("function", aggregation.function.toJson),
        ("field", .string aggregation.field),
        ("alias", .ofOption .string aggregation.alias?)]⟩ := members?_object rfl (by decide)
  have name : (Value.ofOption .string aggregation.alias?).tree.nullable? Tree.string? =
      some aggregation.alias? := nullable?_ofOption_self nofun string?_string _
  unfold ofJson?
  rw [members, Option.bind_eq_bind, Option.bind_some]
  refine (bind_required (by rfl) aggregation.function.ofJson?_tree _).trans ?_
  refine (bind_required (by rfl) (string?_string aggregation.field) _).trans ?_
  exact bind_optional (by rfl) name _

namespace FillPolicy

def IsFinite : FillPolicy → Prop
  | .value number => Decimal.isFinite number = true
  | _ => True

def reread : FillPolicy → FillPolicy
  | .value number => .value (Json.reread number)
  | policy => policy

def Kept : FillPolicy → Prop
  | .value number => Json.reread number = number
  | _ => True

theorem reread_eq_iff (policy : FillPolicy) : policy.reread = policy ↔ policy.Kept := by
  cases policy with
  | value number => rw [reread, Kept, FillPolicy.value.injEq]
  | _ => exact ⟨fun _ => trivial, fun _ => rfl⟩

theorem ofJson?_tree {policy : FillPolicy} (finite : policy.IsFinite) :
    ofJson? policy.toJson.tree = some policy.reread := by
  cases policy with
  | value number =>
    have members : (toJson (.value number)).tree.members? ["policy", "value"] =
        some ⟨true, parts [("policy", .string "value"), ("value", .float number)]⟩ :=
      members?_object rfl (by decide)
    have chosen : (toJson (.value number)).tree.chosen? "policy" "value" choices =
        some (.value 0, some (floatTree number)) := by
      unfold Tree.chosen?
      rw [members, Option.bind_eq_bind, Option.bind_some]
      refine (bind_required (by rfl) (by rfl) _).trans ?_
      rfl
    rw [ofJson?, chosen]
    dsimp only
    rw [float?_floatTree finite]
    rfl
  | _ => rfl

theorem toJson_ne_null (policy : FillPolicy) : policy.toJson.tree ≠ .null := by
  cases policy <;> nofun

end FillPolicy

/-! ## Queries -/

theorem MathExpression.ofJson?_tree (math : MathExpression) :
    ofJson? math.toJson.tree = some math := by
  have members : math.toJson.tree.members? ["expression", "alias"] =
      some ⟨true, parts [("expression", .string math.expression), ("alias", .string math.name)]⟩ :=
    members?_object rfl (by decide)
  unfold ofJson?
  rw [members, Option.bind_eq_bind, Option.bind_some]
  refine (bind_required (by rfl) (string?_string math.expression) _).trans ?_
  exact bind_required (by rfl) (string?_string math.name) _

theorem SortDirection.choice?_token (direction : SortDirection) :
    (Value.string direction.token).tree.choice? choices = some direction := by
  cases direction <;> rfl

theorem pair?_ofTexts (order : String × SortDirection) :
    (Value.ofTexts [order.1, order.2.token]).tree.pair? Tree.string?
      (Tree.choice? SortDirection.choices) = some order := by
  obtain ⟨field, direction⟩ := order
  cases direction <;> rfl

namespace Having

def reread (having : Having) : Having := { having with value := having.value.reread }

theorem ofJson?_tree {having : Having} (finite : having.value.IsFinite) :
    ofJson? having.toJson.tree = some having.reread := by
  have members : having.toJson.tree.members? ["field", "operator", "value"] =
      some ⟨true, parts [("field", .string having.field),
        ("operator", .string having.operator.jsonName), ("value", having.value.toJson)]⟩ :=
    members?_object rfl (by decide)
  unfold ofJson?
  rw [members, Option.bind_eq_bind, Option.bind_some]
  refine (bind_required (by rfl) (string?_string having.field) _).trans ?_
  refine (bind_required (by rfl) having.operator.choice?_jsonName _).trans ?_
  exact bind_required (by rfl) (Scalar.ofJson?_tree finite) _

theorem reread_eq_iff (having : Having) : having.reread = having ↔ having.value.Kept := by
  rw [← Scalar.reread_eq_iff]
  obtain ⟨field, operator, value⟩ := having
  simp [reread]

end Having

namespace Query

structure IsFinite (query : Query) : Prop where
  conditions : ∀ condition ∈ query.conditions, ∀ scalar ∈ condition.value.scalars, scalar.IsFinite
  fill : ∀ policy, query.fill? = some policy → policy.IsFinite
  having : ∀ having ∈ query.having, having.value.IsFinite

/-- The query that is read of the JSON form of a query. -/
def reread (query : Query) : Query :=
  { query with
    conditions := query.conditions.map Condition.reread
    fill? := query.fill?.map FillPolicy.reread
    having := query.having.map Having.reread
    unknownOperators := [] }

/-- Every value of a query is read back as it is, and every operator was understood. -/
structure Kept (query : Query) : Prop where
  conditions : ∀ condition ∈ query.conditions, ∀ scalar ∈ condition.value.scalars, scalar.Kept
  fill : ∀ policy, query.fill? = some policy → policy.Kept
  having : ∀ having ∈ query.having, having.value.Kept
  operators : query.unknownOperators = []

theorem reread_eq_iff (query : Query) : query.reread = query ↔ query.Kept := by
  have fill : query.fill?.map FillPolicy.reread = query.fill? ↔
      ∀ policy, query.fill? = some policy → policy.Kept := by
    cases query.fill? with
    | none => simp
    | some policy => simp [FillPolicy.reread_eq_iff]
  constructor
  · intro same
    refine ⟨fun condition member => ?_, fill.1 (congrArg fill? same), fun having member => ?_,
      (congrArg unknownOperators same).symm⟩
    · have kept := map_eq_self_iff.1 (congrArg conditions same) condition member
      exact condition.reread_eq_iff.1 kept
    · have kept := map_eq_self_iff.1 (congrArg Query.having same) having member
      exact having.reread_eq_iff.1 kept
  · intro kept
    have conditions : query.conditions.map Condition.reread = query.conditions :=
      map_eq_self_iff.2 fun condition member =>
        condition.reread_eq_iff.2 (kept.conditions condition member)
    have having : query.having.map Having.reread = query.having :=
      map_eq_self_iff.2 fun having member => having.reread_eq_iff.2 (kept.having having member)
    rw [reread, conditions, fill.2 kept.fill, having, ← kept.operators]

section
variable {query : Query}

theorem ofJson?_tree (finite : query.IsFinite) : ofJson? query.toJson.tree = some query.reread := by
  have members : query.toJson.tree.members? jsonNames = some ⟨true, parts _⟩ :=
    members?_object rfl (by decide)
  have text (text? : Option String) : (Value.ofOption .string text?).tree.nullable? Tree.string? =
      some text? := nullable?_ofOption_self nofun string?_string text?
  have count (count? : Option UInt64) :
      (Value.ofOption (fun count : UInt64 => .integer count.toNat) count?).tree.nullable?
        Tree.uint64? = some count? := nullable?_ofOption_self nofun uint64?_integer count?
  have conditions := list?_ofList fun condition member =>
    Condition.ofJson?_tree (finite.conditions condition member)
  have aggregations := list?_ofList_self Aggregation.ofJson?_tree query.aggregations
  have fill := nullable?_ofOption FillPolicy.toJson_ne_null fun policy present =>
    FillPolicy.ofJson?_tree (finite.fill policy present)
  have math := list?_ofList_self MathExpression.ofJson?_tree query.math
  have order := list?_ofList_self pair?_ofTexts query.orderBy
  have having := list?_ofList fun having member =>
    Having.ofJson?_tree (finite.having having member)
  unfold ofJson?
  rw [members, Option.bind_eq_bind, Option.bind_some]
  refine (bind_required (by rfl) (string?_string query.measurement) _).trans ?_
  refine (bind_required (by rfl) (list?_ofTexts query.fields) _).trans ?_
  refine (bind_required (by rfl) conditions _).trans ?_
  refine (bind_required (by rfl) query.time.ofJson?_tree _).trans ?_
  refine (bind_required (by rfl) (list?_ofTexts query.groupBy) _).trans ?_
  refine (bind_optional (by rfl) (text query.interval?) _).trans ?_
  refine (bind_required (by rfl) aggregations _).trans ?_
  refine (bind_optional (by rfl) fill _).trans ?_
  refine (bind_required (by rfl) math _).trans ?_
  refine (bind_required (by rfl) order _).trans ?_
  refine (bind_optional (by rfl) (count query.limit?) _).trans ?_
  refine (bind_optional (by rfl) (count query.offset?) _).trans ?_
  refine (bind_required (by rfl) (bool?_bool query.distinct) _).trans ?_
  refine (bind_optional (by rfl) (text query.timezone?) _).trans ?_
  exact bind_required (by rfl) having _

theorem bind_ofJson?_compact (finite : query.IsFinite) :
    (Json.read? query.toJson.compact).bind ofJson? = some query.reread := by
  rw [read?_compact, Option.bind_some, ofJson?_tree finite]

theorem changed_of_lost (finite : query.IsFinite) (lost : ¬query.Kept) :
    (Json.read? query.toJson.compact).bind ofJson? ≠ some query := by
  rw [bind_ofJson?_compact finite]
  exact fun same => lost (query.reread_eq_iff.1 (Option.some.inj same))

/-! The steps that bring in doubles. -/

theorem IsFinite.condition (finite : query.IsFinite) {condition : Condition}
    (scalars : ∀ scalar ∈ condition.value.scalars, scalar.IsFinite) :
    (query.condition condition).IsFinite where
  conditions other member := by
    rcases List.mem_append.1 member with earlier | last
    · exact finite.conditions other earlier
    · rw [List.mem_singleton.1 last]
      exact scalars
  fill := finite.fill
  having := finite.having

theorem IsFinite.filter (finite : query.IsFinite) (field token : String) {value : ConditionValue}
    (scalars : ∀ scalar ∈ value.scalars, scalar.IsFinite) (connective : Connective) :
    (query.filter field token value connective).IsFinite := by
  unfold Query.filter
  split
  · exact finite.condition scalars
  · exact ⟨finite.conditions, finite.fill, finite.having⟩

theorem IsFinite.withFill (finite : query.IsFinite) {policy : FillPolicy} (number : policy.IsFinite) :
    (query.fill policy).IsFinite where
  conditions := finite.conditions
  fill found present := by
    cases present
    exact number
  having := finite.having

end

theorem isFinite_ofMeasurement (measurement : String) : (ofMeasurement measurement).IsFinite where
  conditions _ member := absurd member List.not_mem_nil
  fill _ present := by cases present
  having _ member := absurd member List.not_mem_nil

/-- A query with finite doubles is read of its own JSON text, and it is the query itself exactly
when each of its values is read back as it is and every operator was understood. -/
theorem ofJson?_toJson (query : Query) (finite : query.IsFinite) :
    (Json.read? query.toJson.compact).bind ofJson? = some query.reread ∧
      (query.reread = query ↔ query.Kept) :=
  ⟨bind_ofJson?_compact finite, query.reread_eq_iff⟩

theorem ofJson?_toJson_half :
    let query := (ofMeasurement "cpu").fill (.value 0.5)
    query.IsFinite ∧ query.Kept ∧
      (Json.read? query.toJson.compact).bind ofJson? = some query := by
  intro query
  have number : (FillPolicy.value 0.5).IsFinite := (by decide +kernel :
    Decimal.isFinite 0.5 = true)
  have finite : query.IsFinite := (isFinite_ofMeasurement "cpu").withFill number
  have kept : query.Kept := by
    refine ⟨fun _ member => absurd member List.not_mem_nil, fun policy present => ?_,
      fun _ member => absurd member List.not_mem_nil, rfl⟩
    cases present
    exact (by decide +kernel : Json.reread 0.5 = 0.5)
  obtain ⟨read, same⟩ := ofJson?_toJson query finite
  rw [same.2 kept] at read
  exact ⟨finite, kept, read⟩

/-- Text that reads as an instant, a double that is not read back and an operator that was not
understood. -/
theorem ofJson?_toJson_changed :
    let dated := (ofMeasurement "cpu").whereRegex "host" "2023-10-27T10:00:00+00:00"
    let tiny := (ofMeasurement "cpu").fill (.value (Decimal.nearest false 1 (-23)))
    let misspelled := (ofMeasurement "cpu").filter "host" "~" (.scalar (.string "a")) .and
    (∀ query ∈ [dated, tiny, misspelled], query.IsFinite ∧
      (Json.read? query.toJson.compact).bind ofJson? ≠ some query) ∧
    ∃ found, (Json.read? misspelled.toJson.compact).bind ofJson? = some found ∧
      misspelled.checkCompilable ≠ .ok () ∧ found.checkCompilable = .ok () := by
  intro dated tiny misspelled
  have start := isFinite_ofMeasurement "cpu"
  have text (text : String) : ∀ scalar ∈ (ConditionValue.scalar (.string text)).scalars,
      scalar.IsFinite := List.forall_mem_singleton.2 trivial
  have number : (FillPolicy.value (Decimal.nearest false 1 (-23))).IsFinite :=
    (by decide +kernel : Decimal.isFinite (Decimal.nearest false 1 (-23)) = true)
  have datedLost : ¬dated.Kept := fun kept =>
    absurd (kept.conditions _ List.mem_cons_self _ List.mem_cons_self)
      (by decide +kernel : Time.readLenient? "2023-10-27T10:00:00+00:00" ≠ none)
  have tinyLost : ¬tiny.Kept := fun kept => absurd (kept.fill _ rfl)
    (by decide +kernel : Json.reread (Decimal.nearest false 1 (-23)) ≠ Decimal.nearest false 1 (-23))
  have unknown : misspelled = { ofMeasurement "cpu" with unknownOperators := ["~"] } := by
    decide +kernel
  have misspelledLost : ¬misspelled.Kept := fun kept =>
    absurd kept.operators (by rw [unknown]; exact List.cons_ne_nil _ _)
  have misspelledFinite : misspelled.IsFinite := start.filter "host" "~" (text "a") .and
  refine ⟨?_, misspelled.reread, bind_ofJson?_compact misspelledFinite, ?_, ?_⟩
  · refine List.forall_mem_cons.2 ⟨?_, List.forall_mem_cons.2 ⟨?_, List.forall_mem_singleton.2 ?_⟩⟩
    · have finite : dated.IsFinite := start.condition (text _)
      exact ⟨finite, changed_of_lost finite datedLost⟩
    · have finite : tiny.IsFinite := start.withFill number
      exact ⟨finite, changed_of_lost finite tinyLost⟩
    · exact ⟨misspelledFinite, changed_of_lost misspelledFinite misspelledLost⟩
  · rw [unknown]
    decide +kernel
  · rw [unknown]
    decide +kernel

end Query

end SeriesQuery
