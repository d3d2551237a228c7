import SeriesQuery.Proofs.Flux.Erasure
import SeriesQuery.Proofs.Flux.Predicates

/-!
Scripts whose stages differ in nothing but the contents of texts are written alike.
-/

set_option autoImplicit false

namespace SeriesQuery.Flux

/-! ## Literals and predicates -/

/-- Literals that differ in nothing but the contents of texts. -/
inductive Literal.Like : Literal → Literal → Prop
  | same {literal : Literal} (number : literal.isNumber = true) : Like literal literal
  | string (first second : String) : Like (.string first) (.string second)
  | timeText (first second : String) : Like (.timeText first) (.timeText second)

/-- Predicates that differ in nothing but the contents of texts. -/
inductive Predicate.Like : Predicate → Predicate → Prop
  | missing (column : String) : Like (.missing column) (.missing column)
  | present (column : String) : Like (.present column) (.present column)
  | compare (column : String) (operator : Operator) {first second : Literal}
    (literals : first.Like second) :
    Like (.compare column operator first) (.compare column operator second)
  | member (column : String) {literals others : List Literal}
    (each : List.Forall₂ Literal.Like literals others) :
    Like (.member column literals) (.member column others)
  | all (column : String) {comparisons others : List (Operator × Literal)}
    (each : List.Forall₂ (fun first second => first.1 = second.1 ∧ first.2.Like second.2)
      comparisons others) :
    Like (.all column comparisons) (.all column others)

theorem unquoted_operatorText (operator : Operator) : Unquoted (operatorText operator) := by
  cases operator <;> decide

theorem alike_cell (column : String) : Alike (cell column) (cell column) := by
  unfold cell
  split
  · next identifier =>
    apply (Alike.of_unquoted (by decide)).append
    apply Alike.of_unquoted
    intro c member
    have word := isWord_of_isIdentifier identifier c member
    constructor
    · rintro rfl
      cases word
    · rintro rfl
      cases word
  · exact ((Alike.of_unquoted (by decide)).append (.quoted column column)).append
      (.of_unquoted (by decide))

theorem Literal.Like.alike {first second : Literal} (like : first.Like second) :
    Alike first.text second.text := by
  have time (content other : String) : Alike ("time(v: " ++ Text.quoted content ++ ")")
      ("time(v: " ++ Text.quoted other ++ ")") := Alike.call (by decide) (.quoted content other)
  cases like with
  | string first second => exact .quoted first second
  | timeText first second => exact time first second
  | same number =>
    cases first with
    | bool value => cases value <;> exact .of_unquoted (by decide)
    | integer value => exact .of_unquoted (unquoted_toString_int _)
    | float value => exact .of_unquoted (unquoted_of_isNumeral (numeric_floatText number).numerals)
    | string value => exact .quoted value value
    | instant value =>
      have whole := time value.zulu value.zulu
      rwa [time_quoted_zulu] at whole
    | timeText value => exact time value value

theorem alike_space : Alike " " " " := .of_unquoted (by decide)

theorem alike_comma : Alike ", " ", " := .of_unquoted (by decide)

theorem alike_or : Alike " or " " or " := .of_unquoted (by decide)

theorem alike_comparison (column : String) (operator : Operator) {first second : Literal}
    (like : first.Like second) :
    Alike (comparisonText column operator first) (comparisonText column operator second) :=
  ((((alike_cell column).append alike_space).append
    (.of_unquoted (unquoted_operatorText operator))).append alike_space).append like.alike

theorem Predicate.Like.alike {first second : Predicate} (like : first.Like second) :
    Alike first.text second.text := by
  cases like with
  | missing column => exact (Alike.of_unquoted (by decide)).append (alike_cell column)
  | present column => exact (Alike.of_unquoted (by decide)).append (alike_cell column)
  | compare column operator literals => exact alike_comparison column operator literals
  | member column each =>
    have opening : Alike "contains(value: " "contains(value: " := .of_unquoted (by decide)
    have middle : Alike ", set: [" ", set: [" := .of_unquoted (by decide)
    have closing : Alike "])" "])" := .of_unquoted (by decide)
    have set := alike_comma.intercalate (each.imp fun _ _ like => Literal.Like.alike like)
    exact (((opening.append (alike_cell column)).append middle).append set).append closing
  | all column each =>
    have always : Alike "true" "true" := .of_unquoted (by decide)
    have between : Alike " and " " and " := .of_unquoted (by decide)
    have whole := between.intercalate (each.imp fun (a b : Operator × Literal) like =>
      show Alike (comparisonText column a.1 a.2) (comparisonText column b.1 b.2) from by
        rw [like.1]
        exact alike_comparison column b.1 like.2)
    -- Without comparisons another text is written.
    cases each with
    | nil => exact always
    | cons => exact whole

/-! ## Stages and scripts -/

/-- A stage whose text is one of names, numbers and texts. -/
def Stage.IsFixed : Stage → Prop
  | .rangeBack start => Unquoted start
  | .fillValue value => Decimal.isFinite value = true
  | .filter _ | .having _ _ _ | .map _ _ => False
  | _ => True

/-- Stages that differ in nothing but the contents of texts. -/
inductive Stage.Like : Stage → Stage → Prop
  | same {stage : Stage} (fixed : stage.IsFixed) : Like stage stage
  | measurement (first second : String) : Like (.measurement first) (.measurement second)
  | filter {alternatives others : List Predicate}
    (each : List.Forall₂ Predicate.Like alternatives others) :
    Like (.filter alternatives) (.filter others)
  | having (column : String) (operator : Operator) {first second : Literal}
    (literals : first.Like second) :
    Like (.having column operator first) (.having column operator second)

theorem alike_alternatives {alternatives others : List Predicate}
    (each : List.Forall₂ Predicate.Like alternatives others) :
    Alike (alternativesText alternatives) (alternativesText others) := by
  have several := alike_or.intercalate (each.imp fun (a b : Predicate) like =>
    show Alike ("(" ++ a.text ++ ")") ("(" ++ b.text ++ ")") from
      Alike.call (by decide) like.alike)
  -- One alternative alone stands without parentheses.
  cases each with
  | nil => exact several
  | cons first rest =>
    cases rest with
    | nil => exact first.alike
    | cons => exact several

theorem alike_offset (offset : Offset) : Alike offset.text offset.text := by
  have sign : Unquoted (if offset.negative then "-" else "") := by
    split <;> decide
  have hours : Unquoted
      (if 0 < offset.hours ∨ offset.minutes = 0 then toString offset.hours ++ "h" else "") := by
    split
    · exact (unquoted_toString_nat _).append (by decide)
    · decide
  have minutes : Unquoted (if 0 < offset.minutes then toString offset.minutes ++ "m" else "") := by
    split
    · exact (unquoted_toString_nat _).append (by decide)
    · decide
  exact .of_unquoted ((sign.append hours).append minutes)

theorem unquoted_reducerName (function : AggregateFunction) : Unquoted (reducerName function) := by
  have quantile : Unquoted "quantile" := by decide
  cases function with
  | percentile => exact quantile
  | _ => decide

theorem alike_reducerArguments (function : AggregateFunction) (column? : Option String) :
    ∀ argument ∈ reducerArguments function column?, Alike argument argument := by
  have quantile (percent : UInt8) : Alike ("q: " ++ quantileText percent)
      ("q: " ++ quantileText percent) :=
    (Alike.of_unquoted (by decide)).append (.of_unquoted (unquoted_plain _))
  have column (name : String) : Alike ("column: " ++ Text.quoted name)
      ("column: " ++ Text.quoted name) :=
    (Alike.of_unquoted (by decide)).append (.quoted name name)
  intro argument member
  rcases List.mem_append.1 member with inFunction | inColumn
  · split at inFunction
    · rw [List.mem_singleton] at inFunction
      rw [inFunction]
      exact quantile _
    · cases inFunction
  · rw [Option.mem_toList, Option.map_eq_some_iff] at inColumn
    obtain ⟨name, -, rfl⟩ := inColumn
    exact column name

theorem alike_columns (columns : List String) :
    Alike (", ".intercalate (columns.map Text.quoted))
      (", ".intercalate (columns.map Text.quoted)) :=
  alike_comma.intercalate (List.forall₂_same.2 fun column _ => Alike.quoted column column)

theorem alike_fixed {stage : Stage} (fixed : stage.IsFixed) : Alike stage.text stage.text := by
  cases stage with
  | rangeBack start => exact Alike.call (by decide) (.of_unquoted fixed)
  | range start finish =>
    have stop : Alike ", stop: " ", stop: " := .of_unquoted (by decide)
    exact ((((Alike.of_unquoted (by decide)).append (.of_unquoted start.unquoted_zulu)).append
      stop).append (.of_unquoted finish.unquoted_zulu)).append (.of_unquoted (by decide))
  | timeShift offset => exact Alike.call (by decide) (alike_offset offset)
  | measurement name => exact Alike.call (by decide) (.quoted name name)
  | filter | having | map => exact fixed.elim
  | fields names =>
    have field : Unquoted "r._field == " := by decide
    have clauses := alike_or.intercalate (List.forall₂_same.2
      fun (name : String) (_ : name ∈ names) =>
        (Alike.of_unquoted field).append (.quoted name name))
    exact Alike.call (by decide) clauses
  | distinct => exact .of_unquoted (by decide)
  | group columns =>
    exact ((Alike.of_unquoted (by decide)).append (alike_columns columns)).append
      (.of_unquoted (by decide))
  | window every => exact Alike.call (by decide) (.of_unquoted every.unquoted_text)
  | duplicate column =>
    exact ((Alike.of_ends (by decide)).append (.quoted column column)).append
      (.of_unquoted (by decide))
  | reduce function column? =>
    have arguments := alike_comma.intercalate (List.forall₂_same.2
      fun argument member => show Alike (id argument) (id argument) from
        alike_reducerArguments function column? argument member)
    rw [List.map_id] at arguments
    exact Alike.call ((unquoted_reducerName function).append (by decide)) arguments
  | fillNull => exact .of_unquoted (by decide)
  | fillPrevious => exact .of_unquoted (by decide)
  | fillValue value =>
    exact Alike.call (by decide)
      (.of_unquoted (unquoted_of_isNumeral (numeric_floatText fixed).numerals))
  | interpolate every? =>
    cases every? with
    | none => exact .of_unquoted (by decide)
    | some every => exact Alike.call (by decide) (.of_unquoted every.unquoted_text)
  | sort columns descending =>
    have direction : Unquoted (Scalar.boolText descending) := by cases descending <;> decide
    exact ((((Alike.of_unquoted (by decide)).append (alike_columns columns)).append
      (.of_unquoted (by decide))).append (.of_unquoted direction)).append (.of_unquoted (by decide))
  | tail offset => exact Alike.call (by decide) (.of_unquoted (unquoted_toString_nat _))
  | limit count => exact Alike.call (by decide) (.of_unquoted (unquoted_toString_nat _))

theorem Stage.Like.alike {first second : Stage} (like : first.Like second) :
    Alike first.text second.text := by
  cases like with
  | same fixed => exact alike_fixed fixed
  | measurement first second => exact Alike.call (by decide) (.quoted first second)
  | filter each => exact Alike.call (by decide) (alike_alternatives each)
  | having column operator literals =>
    exact Alike.call (by decide) (alike_comparison column operator literals)

theorem Stage.Like.interpolates {first second : Stage} (like : first.Like second) :
    first.interpolates = second.interpolates := by
  cases like <;> rfl

theorem imports_like {location? : Option String} {stages others : List Stage}
    (each : List.Forall₂ Stage.Like stages others) :
    Script.imports ⟨location?, stages⟩ = Script.imports ⟨location?, others⟩ := by
  have same : stages.any Stage.interpolates = others.any Stage.interpolates := by
    induction each with
    | nil => rfl
    | cons first _ ih => rw [List.any_cons, List.any_cons, first.interpolates, ih]
  simp only [Script.imports, same]

theorem alike_header (script : Script) : Alike script.header script.header := by
  have imports : Alike
      (String.join (script.imports.map fun package => "import \"" ++ package ++ "\"\n"))
      (String.join (script.imports.map fun package => "import \"" ++ package ++ "\"\n")) := by
    apply Alike.join
    rw [List.forall₂_same]
    intro package member
    have known : package = "interpolate" ∨ package = "timezone" := by
      simp only [Script.imports, List.mem_append] at member
      rcases member with member | member
      all_goals
        split at member
        · simp_all
        · cases member
    rcases known with rfl | rfl
    · exact .of_ends (by decide)
    · exact .of_ends (by decide)
  apply imports.append
  cases script.location? with
  | none => exact .of_unquoted (by decide)
  | some name =>
    exact ((Alike.of_unquoted (by decide)).append (.quoted name name)).append
      (.of_unquoted (by decide))

theorem alike_text {location? : Option String} {stages others : List Stage}
    (each : List.Forall₂ Stage.Like stages others) (bucket otherBucket : String) :
    Alike (Script.text ⟨location?, stages⟩ bucket) (Script.text ⟨location?, others⟩ otherBucket) := by
  have headers : Script.header ⟨location?, stages⟩ = Script.header ⟨location?, others⟩ := by
    simp only [Script.header, imports_like each]
  have gap : Unquoted (if (Script.imports ⟨location?, others⟩).isEmpty then "" else "\n") := by
    split <;> decide
  have pipeline := Alike.join (each.imp fun (first second : Stage) like =>
    show Alike ("\n  |> " ++ first.text) ("\n  |> " ++ second.text) from
      (Alike.of_unquoted (by decide)).append like.alike)
  unfold Script.text
  rw [headers, imports_like each]
  exact (((((alike_header _).append (.of_unquoted gap)).append (.of_unquoted (by decide))).append
    (.quoted bucket otherBucket)).append (.of_unquoted (by decide))).append pipeline

end SeriesQuery.Flux
