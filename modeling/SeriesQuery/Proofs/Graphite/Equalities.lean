import SeriesQuery.Proofs.Acceptance
import SeriesQuery.Proofs.Graphite.Outlines

/-!
What an equality does to the calls in a target. Its value takes the place of a wildcard as it is, so
it is read together with the functions around it. The values that leave the calls of all targets
alone are those without a sign of a call outside of texts of their own.
-/

set_option autoImplicit false

namespace SeriesQuery.Graphite

open Flux (placeAfter eraseFrom)

/-! ## Paths -/

/-- A value whose calls are all within texts of its own. -/
def Inert (value : String) : Prop :=
  placeAfter .outside value.toList = .outside ∧
    ∀ c ∈ eraseFrom .outside value.toList, isSign c = false

instance (value : String) : Decidable (Inert value) :=
  inferInstanceAs (Decidable (placeAfter .outside value.toList = .outside ∧
    ∀ c ∈ eraseFrom .outside value.toList, isSign c = false))

/-- A text that opens neither a call nor a text. -/
def Unopened (text : List Char) : Prop := '(' ∉ text ∧ '"' ∉ text

instance (text : List Char) : Decidable (Unopened text) :=
  inferInstanceAs (Decidable ('(' ∉ text ∧ '"' ∉ text))

theorem Unopened.append {first last : List Char} (left : Unopened first) (right : Unopened last) :
    Unopened (first ++ last) :=
  ⟨by simp [left.1, right.1], by simp [left.2, right.2]⟩

theorem Unopened.spells {text : List Char} (unopened : Unopened text) :
    Spells text (marks text) := by
  obtain ⟨ends, erased⟩ := outside_of_noQuote unopened.2
  exact ⟨ends, by rw [erased, signsFrom_of_uncalled unopened.1]⟩

theorem exists_wildcard {path : List Char} (member : '*' ∈ path) : ∃ before after,
    path = before ++ '*' :: after ∧ ∀ value, narrow path value = before ++ value ++ after := by
  obtain ⟨before, after, same, first⟩ := List.eq_append_cons_of_mem member
  exact ⟨before, after, same, fun value => same ▸ narrow_wildcard first after value⟩

theorem Unopened.narrow {path value : List Char} (unopened : Unopened path)
    (plain : Unopened value) : Unopened (narrow path value) := by
  by_cases member : '*' ∈ path
  · obtain ⟨before, after, rfl, narrowed⟩ := exists_wildcard member
    have parts := unopened
    simp only [Unopened, List.mem_append, List.mem_cons, not_or] at parts
    rw [narrowed]
    exact (Unopened.append ⟨parts.1.1, parts.2.1⟩ plain).append ⟨parts.1.2.2, parts.2.2.2⟩
  · rwa [narrow_of_notMem member]

theorem spells_narrow {path : List Char} {value : String} (unopened : Unopened path)
    (inert : Inert value) : Spells (narrow path value.toList) (marks path) := by
  by_cases member : '*' ∈ path
  · obtain ⟨before, after, rfl, narrowed⟩ := exists_wildcard member
    obtain ⟨ends, noSign⟩ := inert
    have parts := unopened
    simp only [Unopened, List.mem_append, List.mem_cons, not_or] at parts
    obtain ⟨⟨uncalledBefore, -, uncalledAfter⟩, noQuoteBefore, -, noQuoteAfter⟩ := parts
    obtain ⟨endsBefore, erasedBefore⟩ := outside_of_noQuote noQuoteBefore
    obtain ⟨endsAfter, erasedAfter⟩ := outside_of_noQuote noQuoteAfter
    rw [narrowed]
    -- the value starts and ends outside of texts, so the signs are those before and after it
    constructor
    · rw [Flux.placeAfter_append, Flux.placeAfter_append, endsBefore, ends, endsAfter]
    · have uncalled : '(' ∉ eraseFrom .outside value.toList := fun opening =>
        absurd (noSign _ opening) (by decide)
      have unmarked : marks (eraseFrom .outside value.toList) = [] := by
        rw [← signsFrom_of_uncalled uncalled [], signsFrom_eq_nil_iff.2 noSign]
      rw [Flux.eraseFrom_append, Flux.eraseFrom_append, Flux.placeAfter_append, endsBefore, ends,
        erasedBefore, erasedAfter, signsFrom_of_uncalled (by simp [*]), marks_append, marks_append,
        unmarked, List.append_nil, marks_append]
      rfl
  · rw [narrow_of_notMem member]
    exact unopened.spells

/-! ## Queries -/

/-- Neither the names in the paths of a query nor the values that its equalities put there open a
call or a text. -/
structure UnopenedPaths (root? : Option String) (query : Query) : Prop where
  root : ∀ root ∈ root?, Unopened root.toList
  measurement : Unopened query.measurement.toList
  fields : ∀ field ∈ query.fields, Unopened field.toList
  aggregations : ∀ aggregation ∈ query.aggregations, Unopened aggregation.field.toList
  values : ∀ value ∈ equalities query.conditions, Unopened value.toList

def equating (query : Query) (field value : String) (connective : Connective) : Query :=
  query.condition ⟨field, .equal, .scalar (.string value), connective⟩

theorem unopened_basePath {root? : Option String} {measurement : String}
    (root : ∀ root ∈ root?, Unopened root.toList) (name : Unopened measurement.toList) :
    Unopened (basePath root? measurement).toList := by
  unfold basePath
  split
  · next above =>
    split
    · exact name
    · rw [String.toList_append, String.toList_append]
      exact ((root above rfl).append (by decide)).append name
  · exact name

theorem unopened_narrowed {path : List Char} (unopened : Unopened path) {values : List String}
    (each : ∀ value ∈ values, Unopened value.toList) :
    Unopened (values.foldl (fun path value => narrow path value.toList) path) :=
  List.foldlRecOn values _ unopened fun _ kept value member => kept.narrow (each value member)

section

variable {root? : Option String} {query : Query} {field value : String}
  (unopened : UnopenedPaths root? query) (noTime : field ≠ "time") (connective : Connective)
  (inert : Inert value)

include noTime in
theorem narrowing_equating :
    (equating query field value connective).conditions.filterMap narrowing? =
      query.conditions.filterMap narrowing? ++ [value] := by
  have narrows : narrowing? ⟨field, .equal, .scalar (.string value), connective⟩ = some value := by
    simp [narrowing?, conditionScalar?, Condition.isTime, noTime, ConditionValue.scalar?,
      Scalar.plain]
  rw [equating, Query.condition, List.filterMap_append, List.filterMap_cons, narrows]
  rfl

theorem wrapping_equating : (equating query field value connective).conditions.filterMap wrapping? =
    query.conditions.filterMap wrapping? := by
  rw [equating, Query.condition, List.filterMap_append]
  exact List.append_nil _

include unopened noTime inert

variable (shaped : ∀ condition ∈ query.conditions, condition.shapeProblem? = none)
include shaped

theorem sameCalls_fieldPath {name : String} (plain : Unopened name.toList) :
    SameCalls (fieldPath root? query (query.conditions.filterMap narrowing?) name).text
      (fieldPath root? (equating query field value connective)
        ((equating query field value connective).conditions.filterMap narrowing?) name).text := by
  have path : Unopened (basePath root? query.measurement ++ "." ++ name).toList := by
    rw [String.toList_append, String.toList_append]
    exact ((unopened_basePath unopened.root unopened.measurement).append (by decide)).append plain
  -- the new value comes last, when the other ones have taken their places
  have narrowed := unopened_narrowed path (filterMap_narrowing? shaped ▸ unopened.values)
  rw [narrowing_equating noTime, fieldPath, fieldPath, Target.text, Target.text, SameCalls,
    String.toList_ofList, String.toList_ofList, List.foldl_append]
  exact ⟨_, narrowed.spells, spells_narrow narrowed inert⟩

theorem sameCalls_selection : SameCalls (selection root? query).text
    (selection root? (equating query field value connective)).text := by
  have plain : ∀ name ∈ if query.explicitFields.isEmpty then [wildcard] else query.explicitFields,
      Unopened name.toList := by
    split
    · exact List.forall_mem_singleton.2 (by decide)
    · exact fun name member => unopened.fields name (List.mem_of_mem_filter member)
  unfold selection
  refine sameCalls_filtered (wrapping_equating connective) (sameCalls_groupOf ?_)
  rw [List.forall₂_map_left_iff, List.forall₂_map_right_iff]
  exact List.forall₂_same.2 fun name member =>
    sameCalls_fieldPath unopened noTime connective inert shaped (plain name member)

theorem sameCalls_aggregationSource {aggregation : Aggregation}
    (known : aggregation ∈ query.aggregations) :
    SameCalls (aggregationSource root? query aggregation).text
      (aggregationSource root? (equating query field value connective) aggregation).text := by
  unfold aggregationSource
  split
  · exact sameCalls_selection unopened noTime connective inert shaped
  · exact sameCalls_filtered (wrapping_equating connective) (sameCalls_fieldPath unopened noTime
      connective inert shaped (unopened.aggregations aggregation known))

theorem sameCalls_aggregationTarget {interval? : Option Duration} {aggregation : Aggregation}
    (known : aggregation ∈ query.aggregations) {first second : Target}
    (makes : aggregationTarget root? query interval? aggregation = .ok first)
    (otherMakes : aggregationTarget root? (equating query field value connective) interval?
      aggregation = .ok second) : SameCalls first.text second.text :=
  sameCalls_aggregated (sameCalls_aggregationSource unopened noTime connective inert shaped known)
    makes otherMakes

theorem sameCalls_namedTargets {interval? : Option Duration} {targets others : List Target}
    (made : (query.aggregations.mapM fun aggregation => do
      return named (← aggregationTarget root? query interval? aggregation)
        aggregation.outputName) = Except.ok targets)
    (othersMade : (query.aggregations.mapM fun aggregation => do
      return named (← aggregationTarget root? (equating query field value connective) interval?
        aggregation) aggregation.outputName) = Except.ok others) :
    List.Forall₂ (fun first second => SameCalls first.text second.text) targets others := by
  refine forall₂_made (R := Eq) (List.forall₂_same.2 fun _ _ => rfl) ?_ made othersMade
  rintro aggregation known _ rfl first second firstMade secondMade
  obtain ⟨inner, innerMade, firstMade⟩ := exists_of_bind firstMade
  obtain ⟨other, otherMade, secondMade⟩ := exists_of_bind secondMade
  cases firstMade
  cases secondMade
  exact sameCalls_named (sameCalls_aggregationTarget unopened noTime connective inert shaped known
    innerMade otherMade) _

theorem sameCalls_source {interval? : Option Duration} {made otherMade : Target}
    (makes : source root? query interval? = .ok made)
    (otherMakes : source root? (equating query field value connective) interval? = .ok otherMade) :
    SameCalls made.text otherMade.text := by
  have same : (equating query field value connective).aggregations = query.aggregations := rfl
  unfold source at makes otherMakes
  rw [same] at otherMakes
  split at makes
  · next none =>
    rw [none] at otherMakes
    cases makes
    cases otherMakes
    have selections := sameCalls_selection unopened noTime connective inert shaped
    cases interval? with
    | none => exact selections
    | some interval =>
      exact sameCalls_call (by decide) selections
        (List.forall_mem_cons.2 ⟨.quoted _, List.forall_mem_singleton.2 (.quoted _)⟩)
  · next single isSingle =>
    rw [isSingle] at otherMakes
    obtain ⟨first, firstMade, rfl⟩ := exists_of_map makes
    obtain ⟨second, secondMade, rfl⟩ := exists_of_map otherMakes
    have targets := sameCalls_aggregationTarget unopened noTime connective inert shaped
      (isSingle ▸ List.mem_cons_self) firstMade secondMade
    cases single.alias? with
    | none => exact targets
    | some name => exact sameCalls_named targets name
  · next notEmpty notSingle =>
    split at otherMakes
    · next none => exact absurd none notEmpty
    · next single isSingle => exact absurd isSingle (notSingle single)
    · obtain ⟨targets, targetsMade, makes⟩ := exists_of_bind makes
      obtain ⟨others, othersMade, otherMakes⟩ := exists_of_bind otherMakes
      cases makes
      cases otherMakes
      exact sameCalls_group (sameCalls_namedTargets unopened noTime connective inert shaped
        targetsMade othersMade)

end

/-! ## Targets -/

theorem exists_compile_equating {root? : Option String} {query : Query} {compiled : Compiled}
    (compiles : compile root? query = .ok compiled) (field value : String)
    (connective : Connective) :
    ∃ other, compile root? (equating query field value connective) = .ok other := by
  obtain ⟨checked, functions, thresholds⟩ := (exists_compile_iff root? query).1 ⟨compiled, compiles⟩
  obtain ⟨sound, shaped, read⟩ := Query.checkCompilable_eq_ok_iff.1 checked
  refine (exists_compile_iff _ _).2 ⟨Query.checkCompilable_eq_ok_iff.2 ⟨sound, ?_, read⟩,
    functions, thresholds⟩
  exact List.forall_mem_append.2 ⟨shaped, List.forall_mem_singleton.2 rfl⟩

theorem sameCalls_target {root? : Option String} {query : Query} {field value : String}
    {connective : Connective} {compiled other : Compiled} (unopened : UnopenedPaths root? query)
    (noTime : field ≠ "time") (inert : Inert value) (compiles : compile root? query = .ok compiled)
    (otherCompiles : compile root? (equating query field value connective) = .ok other) :
    SameCalls compiled.target other.target := by
  obtain ⟨checked, interval?, series, whole, read, sourced, kept, rfl⟩ :=
    compile_eq_ok_iff.1 compiles
  obtain ⟨-, _, otherSeries, otherWhole, otherRead, otherSourced, otherKept, rfl⟩ :=
    compile_eq_ok_iff.1 otherCompiles
  cases read.symm.trans otherRead
  have shaped := Query.shaped_of_checked checked
  have sources := sameCalls_source unopened noTime connective inert shaped sourced otherSourced
  -- each filter on aggregated values goes around both series in the same way
  have wholes : SameCalls whole.text otherWhole.text :=
    related_foldlM (R := fun first second => SameCalls first.text second.text)
      (fun _ _ _ inner _ _ => sameCalls_withHaving inner) (sameCalls_filled sources query.fill?)
      kept otherKept
  have limit : (equating query field value connective).limit? = query.limit? := rfl
  dsimp only
  rw [limit]
  cases query.limit? with
  | none => exact wholes
  | some count =>
    exact sameCalls_call (by decide) wholes
      (List.forall_mem_singleton.2 (.of_plain (plain_toString_nat _)))

/-! ## Other values -/

/-- All series of a measurement, in the path `cpu.*`. -/
def allSeries : Query := .ofMeasurement "cpu"

def total : Query := allSeries.aggregate .sum wildcard none

theorem unopened_allSeries : UnopenedPaths none allSeries where
  root := nofun
  measurement := by decide
  fields := List.forall_mem_singleton.2 (by decide)
  aggregations := List.forall_mem_nil _
  values := List.forall_mem_nil _

theorem unopened_total : UnopenedPaths none total where
  root := nofun
  measurement := by decide
  fields := List.forall_mem_singleton.2 (by decide)
  aggregations := List.forall_mem_singleton.2 (by decide)
  values := List.forall_mem_nil _

theorem compile_allSeries : compile none allSeries =
    .ok { target := "cpu.*", start := "-1h", finish := "now", timezone? := none } := rfl

theorem compile_total : compile none total =
    .ok { target := "sumSeries(cpu.*)", start := "-1h", finish := "now", timezone? := none } := rfl

section

variable {value : String} {compiled : Compiled}

theorem toList_narrowed {query : Query} (same : query.measurement = "cpu") :
    (fieldPath none query [value] wildcard).text.toList = "cpu.".toList ++ value.toList := by
  have path : ("cpu" ++ "." ++ "*").toList = "cpu.".toList ++ '*' :: [] := rfl
  have plain : '*' ∉ "cpu.".toList := by decide
  rw [fieldPath, basePath, same, Target.text, String.toList_ofList, wildcard, path]
  exact (narrow_wildcard plain [] value.toList).trans (List.append_nil _)

theorem noSign_of_kept
    (compiles : compile none (equating allSeries "host" value .and) = .ok compiled)
    (kept : outline compiled.target = []) :
    ∀ c ∈ eraseFrom .outside value.toList, isSign c = false := by
  obtain ⟨-, interval?, series, whole, read, sourced, folded, made⟩ :=
    compile_eq_ok_iff.1 compiles
  cases read
  cases sourced
  cases folded
  have target : compiled.target =
      (fieldPath none (equating allSeries "host" value .and) [value] wildcard).text :=
    congrArg Compiled.target made
  rw [target, outline, Flux.erased, String.toList_ofList, toList_narrowed rfl,
    Flux.eraseFrom_append, signsFrom_append] at kept
  exact signsFrom_eq_nil_iff.1 kept

theorem outside_of_kept
    (compiles : compile none (equating total "host" value .and) = .ok compiled)
    (noSign : ∀ c ∈ eraseFrom .outside value.toList, isSign c = false)
    (kept : outline compiled.target = [.opening "sumSeries", .closing]) :
    placeAfter .outside value.toList = .outside := by
  obtain ⟨-, interval?, series, whole, read, sourced, folded, made⟩ :=
    compile_eq_ok_iff.1 compiles
  cases read
  cases sourced
  cases folded
  have target : compiled.target = (Target.call "sumSeries"
      (fieldPath none (equating total "host" value .and) [value] wildcard) []).text :=
    congrArg Compiled.target made
  have written : compiled.target.toList = "sumSeries(cpu.".toList ++ (value.toList ++ [')']) := by
    rw [target, Target.text, String.toList_append, String.toList_append, String.toList_append,
      toList_narrowed rfl]
    simp
  have opened : placeAfter .outside "sumSeries(cpu.".toList = .outside := rfl
  -- What is left behind the value is the end of the call, and it is seen outside of texts alone.
  rw [outline, Flux.erased, String.toList_ofList, written, Flux.eraseFrom_append, opened,
    Flux.eraseFrom_append, signsFrom_append, signsFrom_append,
    signsFrom_eq_nil_iff.2 noSign] at kept
  cases place : placeAfter .outside value.toList with
  | outside => rfl
  | inside | escaped =>
    rw [place] at kept
    cases kept

end

/-- An equality keeps the calls of a target, with their nesting and their arguments, when its value
has no sign of a call outside of texts of its own. Any other value changes them in some target. -/
theorem outline_kept_iff (value : String) :
    (∀ root? query compiled field connective, UnopenedPaths root? query → field ≠ "time" →
      compile root? query = .ok compiled →
      ∃ other, compile root? (equating query field value connective) = .ok other ∧
        outline other.target = outline compiled.target) ↔ Inert value := by
  constructor
  · intro kept
    -- a bare path shows the signs of the value, and a call around it whether it ends within a text
    obtain ⟨other, otherCompiles, same⟩ := kept none allSeries _ "host" .and unopened_allSeries
      (by decide) compile_allSeries
    have noSign := noSign_of_kept otherCompiles same
    obtain ⟨other, otherCompiles, same⟩ := kept none total _ "host" .and unopened_total (by decide)
      compile_total
    exact ⟨outside_of_kept otherCompiles noSign same, noSign⟩
  · intro inert root? query compiled field connective unopened noTime compiles
    obtain ⟨other, otherCompiles⟩ := exists_compile_equating compiles field value connective
    have same := sameCalls_target unopened noTime inert compiles otherCompiles
    exact ⟨other, otherCompiles, same.outline.symm⟩

/-- Around a path with this value, a function has two arguments. -/
example : ¬ Inert "web01,db01" := by decide

end SeriesQuery.Graphite
