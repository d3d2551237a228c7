import SeriesQuery.Proofs.Flux.Conditions
import SeriesQuery.Proofs.Flux.Plans
import SeriesQuery.Proofs.Query.Checks
import SeriesQuery.Proofs.Query.Groups

/-!
The filters of a query ask of a row what its conditions ask: of each group of alternatives, that one
of them holds.
-/

set_option autoImplicit false

namespace SeriesQuery.Flux

/-! ## Alternatives -/

def SpellsAny (text : String) (expression : Expression) : Prop :=
  ∃ tokens, Lexes text tokens ∧ ReadsAny tokens expression

theorem Spells.any {text : String} {expression : Expression} (spells : Spells text expression) :
    SpellsAny text expression := by
  obtain ⟨tokens, lexes, reads⟩ := spells
  exact ⟨tokens, lexes, reads.any⟩

theorem Spells.parenthesised {text : String} {expression : Expression}
    (spells : Spells text expression) : Spells ("(" ++ text ++ ")") expression := by
  obtain ⟨tokens, lexes, reads⟩ := spells
  exact ⟨_, (opening_parenthesis.append lexes).close closing_parenthesis,
    reads.any.parenthesised.all⟩

theorem Spells.or {first others : String} {expression second : Expression}
    (spells : Spells first expression) (follows : SpellsAny others second) :
    SpellsAny (first ++ " or " ++ others) (.or expression second) := by
  obtain ⟨tokens, lexes, reads⟩ := spells
  obtain ⟨more, moreLexes, moreReads⟩ := follows
  exact ⟨_, lexes.glue glue_or moreLexes, reads.or moreReads⟩

theorem spells_disjunction {first : Predicate} {others : List Predicate} {expression : Expression}
    {expressions : List Expression} (spells : Spells first.text expression)
    (each : List.Forall₂ (fun other expression => Spells other.text expression) others expressions) :
    SpellsAny (" or ".intercalate ((first :: others).map fun p => "(" ++ p.text ++ ")"))
      (Expression.any expression expressions) := by
  induction each generalizing first expression with
  | nil => simpa [Expression.any] using spells.parenthesised.any
  | cons second _ ih =>
    simp only [List.map_cons, String.intercalate_cons_cons]
    exact spells.parenthesised.or (ih second)

theorem spells_alternatives {first : Predicate} {others : List Predicate} {expression : Expression}
    {expressions : List Expression} (spells : Spells first.text expression)
    (each : List.Forall₂ (fun other expression => Spells other.text expression) others expressions) :
    SpellsAny (alternativesText (first :: others)) (Expression.any expression expressions) := by
  cases each with
  | nil => exact spells.any
  | cons second more => exact spells_disjunction spells (.cons second more)

theorem readFilter_spells {text : String} {expression : Expression}
    (spells : SpellsAny text expression) :
    readFilter ("filter(fn: (r) => " ++ text ++ ")") = some expression := by
  obtain ⟨tokens, lexes, reads⟩ := spells
  have whole := (opening_filter.append lexes).close closing_parenthesis
  rw [Lexes, List.append_assoc] at whole
  unfold readFilter
  simp only [whole, Option.bind_eq_bind, Option.bind_some, expect_append]
  rw [reads _ _ (by simp only [List.length_append]; omega) (by simp) (by simp)]
  rfl

/-! ## Groups -/

/-- A condition that has a predicate, and is not a pattern. -/
structure Plain (condition : Condition) : Prop where
  noRegex : condition.operator ≠ .regex
  noNotRegex : condition.operator ≠ .notRegex
  shaped : condition.shapeProblem? = none

def Predicates (conditions : List Condition) (predicates : List Predicate) : Prop :=
  List.Forall₂ (fun condition written => predicate condition = .ok written) conditions predicates

theorem spells_predicates {conditions : List Condition} {predicates : List Predicate}
    (made : Predicates conditions predicates) (plain : ∀ condition ∈ conditions, Plain condition) :
    ∃ expressions : List Expression,
      List.Forall₂ (fun p expression => Spells p.text expression) predicates expressions ∧
      ∀ row : Row, (∃ expression ∈ expressions, expression.holds row) ↔
        ∃ condition ∈ conditions, row.meets condition := by
  induction made with
  | nil => exact ⟨[], .nil, fun row => by simp⟩
  | cons first _ ih =>
    obtain ⟨firstPlain, othersPlain⟩ := List.forall_mem_cons.1 plain
    obtain ⟨expressions, spells, same⟩ := ih othersPlain
    obtain ⟨expression, firstSpells, firstSame⟩ :=
      predicate_spells first firstPlain.noRegex firstPlain.noNotRegex firstPlain.shaped
    refine ⟨expression :: expressions, .cons firstSpells spells, fun row => ?_⟩
    simp only [List.mem_cons, exists_eq_or_imp, firstSame row, same row]

theorem readFilter_group {group : List Condition} {predicates : List Predicate}
    (made : Predicates group predicates) (nonempty : group ≠ [])
    (plain : ∀ condition ∈ group, Plain condition) :
    ∃ expression, readFilter (Stage.filter predicates).text = some expression ∧
      ∀ row : Row, expression.holds row ↔ ∃ condition ∈ group, row.meets condition := by
  obtain ⟨expressions, spells, same⟩ := spells_predicates made plain
  cases spells with
  | nil =>
    cases made
    exact absurd rfl nonempty
  | @cons first expression others more firstSpells spells =>
    refine ⟨_, readFilter_spells (spells_alternatives firstSpells spells), fun row => ?_⟩
    rw [Expression.holds_any, same row]

theorem readFilter_groups {groups : List (List Condition)} {written : List (List Predicate)}
    (made : List.Forall₂ Predicates groups written) (nonempty : ∀ group ∈ groups, group ≠ [])
    (plain : ∀ group ∈ groups, ∀ condition ∈ group, Plain condition) :
    ∃ expressions : List Expression,
      (written.map fun group => (Stage.filter group).text).mapM readFilter = some expressions ∧
      ∀ row : Row, (∀ expression ∈ expressions, expression.holds row) ↔
        ∀ group ∈ groups, ∃ condition ∈ group, row.meets condition := by
  induction made with
  | nil => exact ⟨[], rfl, fun row => by simp⟩
  | cons first _ ih =>
    obtain ⟨firstNonempty, othersNonempty⟩ := List.forall_mem_cons.1 nonempty
    obtain ⟨firstPlain, othersPlain⟩ := List.forall_mem_cons.1 plain
    obtain ⟨expressions, read, same⟩ := ih othersNonempty othersPlain
    obtain ⟨expression, firstRead, firstSame⟩ := readFilter_group first firstNonempty firstPlain
    refine ⟨expression :: expressions, ?_, fun row => ?_⟩
    · rw [List.map_cons, List.mapM_cons, firstRead, read]
      rfl
    · rw [List.forall_mem_cons, List.forall_mem_cons, firstSame row, same row]

/-! ## Scripts -/

def withoutConditions (query : Query) : Query := { query with conditions := [] }

/-- A plan has the same parts without the conditions, except for their predicates. -/
theorem Parts.MadeFor.withoutConditions {parts : Parts} {query : Query}
    (made : parts.MadeFor query) :
    ({ parts with groups := [] } : Parts).MadeFor (withoutConditions query) where
  checked := by
    obtain ⟨sound, -, readable⟩ := Query.checkCompilable_eq_ok_iff.1 made.checked
    exact Query.checkCompilable_eq_ok_iff.2 ⟨sound, List.forall_mem_nil _, readable⟩
  groups := by
    show (conditionGroups []).mapM (·.mapM predicate) = .ok []
    rw [conditionGroups]
    rfl
  interval := made.interval
  having := made.having
  fill := made.fill

def stagesText (stages : List Stage) : String :=
  String.join (stages.map fun stage => "\n  |> " ++ stage.text)

theorem stagesText_append (first last : List Stage) :
    stagesText (first ++ last) = stagesText first ++ stagesText last := by
  rw [stagesText, List.map_append, String.join_append]
  rfl

theorem imports_filters (location? : Option String) (before after : List Stage)
    (groups : List (List Predicate)) :
    Script.imports ⟨location?, before ++ groups.map Stage.filter ++ after⟩ =
      Script.imports ⟨location?, before ++ after⟩ := by
  have none : (groups.map Stage.filter).any Stage.interpolates = false := by
    rw [List.any_eq_false]
    intro stage member
    obtain ⟨group, -, rfl⟩ := List.mem_map.1 member
    exact Bool.false_ne_true
  simp only [Script.imports, List.any_append, none, Bool.or_false]

def openingText (script : Script) (bucket : String) : String :=
  script.header ++ (if script.imports.isEmpty then "" else "\n") ++
    "from(bucket: " ++ Text.quoted bucket ++ ")"

theorem text_eq_openingText_append (script : Script) (bucket : String) :
    script.text bucket = openingText script bucket ++ stagesText script.stages := rfl

theorem openingText_filters (location? : Option String) (before after : List Stage)
    (groups : List (List Predicate)) (bucket : String) :
    openingText ⟨location?, before ++ groups.map Stage.filter ++ after⟩ bucket =
      openingText ⟨location?, before ++ after⟩ bucket := by
  simp only [openingText, Script.header, imports_filters]

/-- The text of a compiled query is that of the query without conditions, with some filters between
its other stages. All filters are read as expressions, and they all hold on the rows of which each
group of conditions has one that the row meets. -/
theorem compile_filters_hold_iff {bucket : String} {query : Query} {compiled : Compiled}
    (compiles : compile bucket query = .ok compiled)
    (noPattern : ∀ condition ∈ query.conditions,
      condition.operator ≠ .regex ∧ condition.operator ≠ .notRegex) :
    ∃ (before after : String) (filters : List String) (expressions : List Expression),
      compiled.text = before ++ String.join (filters.map fun text => "\n  |> " ++ text) ++ after ∧
      compile bucket (withoutConditions query) = .ok { compiled with text := before ++ after } ∧
      filters.mapM readFilter = some expressions ∧
      ∀ row : Row, (∀ expression ∈ expressions, expression.holds row) ↔
        ∀ group ∈ query.conditions.splitBy fun _ next => next.connective == .or,
          ∃ condition ∈ group, row.meets condition := by
  obtain ⟨parts, partsMade, rfl⟩ := compile_eq_ok_iff.1 compiles
  have shaped := Query.shaped_of_checked partsMade.checked
  have plain : ∀ group ∈ conditionGroups query.conditions, ∀ condition ∈ group, Plain condition := by
    intro group groupMember condition member
    have inQuery := mem_of_mem_conditionGroups groupMember member
    exact ⟨(noPattern condition inQuery).1, (noPattern condition inQuery).2, shaped condition inQuery⟩
  have written : List.Forall₂ Predicates (conditionGroups query.conditions) parts.groups :=
    (forall₂_of_mapM partsMade.groups).imp fun _ _ groupMade => forall₂_of_mapM groupMade
  obtain ⟨expressions, read, same⟩ :=
    readFilter_groups written (fun group => ne_nil_of_mem_conditionGroups) plain
  -- The filters stand side by side, so the other stages are cut in two at one place. What opens the
  -- script does not depend on the filters.
  refine ⟨openingText ⟨namedZone? query, stagesBefore query ++ stagesAfter query parts⟩ bucket ++
      stagesText (stagesBefore query), stagesText (stagesAfter query parts),
    parts.groups.map fun group => (Stage.filter group).text, expressions, ?_, ?_, read, ?_⟩
  · show openingText (parts.plan query).script bucket ++ stagesText (stagesBefore query ++
      parts.groups.map Stage.filter ++ stagesAfter query parts) = _
    rw [Parts.plan, openingText_filters, stagesText_append, stagesText_append]
    simp only [stagesText, List.map_map, String.append_assoc, Function.comp_def]
  · refine compile_eq_ok_iff.2 ⟨_, partsMade.withoutConditions, ?_⟩
    rw [text_eq_openingText_append]
    show Compiled.mk
      (openingText ⟨namedZone? query, stagesBefore query ++ [] ++ stagesAfter query parts⟩ bucket ++
        stagesText (stagesBefore query ++ [] ++ stagesAfter query parts)) _ _ = _
    rw [List.append_nil, stagesText_append, String.append_assoc]
    rfl
  · rw [conditionGroups_eq_splitBy] at same
    exact same

def eitherQuery : Query :=
  ((Query.ofMeasurement "cpu").condition ⟨"host", .equal, .scalar (.string "a"), .and⟩).condition
    ⟨"usage", .notIn, .list [.integer 1, .integer 2], .or⟩

def eitherParts : Parts where
  groups := [[.compare "host" .equal (.string "a"),
    .all "usage" [(.notEqual, .integer 1), (.notEqual, .integer 2)]]]
  interval? := none
  having := []
  fill := []

theorem eitherParts_made : eitherParts.MadeFor eitherQuery where
  checked := by rfl
  groups := by
    rw [conditionGroups_eq_splitBy]
    rfl
  interval := rfl
  having := rfl
  fill := rfl

theorem compile_filters_hold_either :
    ∃ (compiled : Compiled) (filters : List String) (expressions : List Expression),
      compile "metrics" eitherQuery = .ok compiled ∧
      filters.mapM readFilter = some expressions ∧
      ∀ row : Row, (∀ expression ∈ expressions, expression.holds row) ↔
        row.compares "host" .equal (.string "a") ∨
          row.compares "usage" .notEqual (.word "1") ∧
            row.compares "usage" .notEqual (.word "2") := by
  have made : compile "metrics" eitherQuery =
      .ok ⟨(eitherParts.plan eitherQuery).script.text "metrics", .data, [.plain]⟩ :=
    compile_eq_ok_iff.2 ⟨eitherParts, eitherParts_made, rfl⟩
  obtain ⟨_, _, filters, expressions, -, -, read, same⟩ :=
    compile_filters_hold_iff made (by decide)
  refine ⟨_, filters, expressions, made, read, fun row => (same row).trans ?_⟩
  have groups : eitherQuery.conditions.splitBy (fun _ next => next.connective == .or) =
    [eitherQuery.conditions] := rfl
  rw [groups]
  simp [eitherQuery, Query.condition, Query.ofMeasurement, Row.meets, Row.comparesWith,
    conditionColumn, Condition.isTime, scalarTerm]
  rfl

end SeriesQuery.Flux
