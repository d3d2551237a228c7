import Mathlib.Data.List.Induction
import Mathlib.Data.List.Nodup
import Mathlib.Data.List.Perm.Subperm
import Mathlib.Order.Basic
import SeriesQuery.Proofs.Flux.Calls
import SeriesQuery.Proofs.Query.Groups
import Std.Data.String.ToNat

/-!
Several aggregations in one script. The value column is copied for every aggregation but the first,
each time under a name that is still free, and only then does each function work on a column of its
own.
-/

set_option autoImplicit false

namespace SeriesQuery.Flux

/-! ## Free names -/

def numbered (base : String) (number : Nat) : String := base ++ "_" ++ toString number

theorem numbered_injective (base : String) : Function.Injective (numbered base) := by
  intro first second same
  exact Nat.repr_inj.1 ((String.append_right_inj (base ++ "_")).1 same)

theorem exists_numbered_notMem (base : String) (taken : List String) :
    ∃ place ≤ taken.length, numbered base (place + 2) ∉ taken := by
  by_contra none
  push Not at none
  let candidates := (List.range (taken.length + 1)).map fun place => numbered base (place + 2)
  have distinct : candidates.Nodup :=
    (List.nodup_map_iff fun _ _ same => Nat.add_right_cancel (numbered_injective base same)).2
      List.nodup_range
  have occupied : candidates ⊆ taken := by
    intro candidate member
    obtain ⟨place, inRange, rfl⟩ := List.mem_map.1 member
    exact none place (Nat.le_of_lt_succ (List.mem_range.1 inRange))
  have count := (List.subperm_of_subset distinct occupied).length_le
  rw [List.length_map, List.length_range] at count
  omega

/-- The name is the base or, where that is taken, the first of `base_2`, `base_3`, … that is not. -/
inductive FirstFree (base : String) (taken : List String) : String → Prop where
  | plain (free : base ∉ taken) : FirstFree base taken base
  | numbered (number : Nat) (occupied : base ∈ taken) (start : 2 ≤ number)
      (free : numbered base number ∉ taken)
      (first : ∀ other, 2 ≤ other → other < number → Flux.numbered base other ∈ taken) :
      FirstFree base taken (Flux.numbered base number)

theorem FirstFree.notMem {base name : String} {taken : List String}
    (found : FirstFree base taken name) : name ∉ taken := by
  cases found with
  | plain free => exact free
  | numbered _ _ _ free => exact free

/-- However many names are taken, the search ends at a free one. -/
theorem firstFree_freeColumn (base : String) (taken : List String) :
    FirstFree base taken (freeColumn base taken) := by
  unfold freeColumn
  by_cases occupied : base ∈ taken
  · rw [if_pos (List.contains_iff_mem.2 occupied), numberedColumn, List.find?_map]
    cases found : (List.range (taken.length + 1)).find?
        ((fun candidate => !taken.contains candidate) ∘ fun place =>
          base ++ "_" ++ toString (place + 2)) with
    | none =>
      obtain ⟨place, bound, free⟩ := exists_numbered_notMem base taken
      have passed := List.find?_eq_none.1 found place (List.mem_range.2 (Nat.lt_succ_of_le bound))
      exact absurd (by simpa [numbered] using passed) free
    | some place =>
      obtain ⟨free, -, first⟩ := List.find?_range_eq_some.1 found
      refine .numbered (place + 2) occupied (Nat.le_add_left 2 place) ?_ ?_
      · simpa [numbered] using free
      · intro other start less
        obtain ⟨before, rfl⟩ := Nat.exists_eq_add_of_le' start
        simpa [numbered] using first before (by omega)
  · rw [if_neg (mt List.contains_iff_mem.1 occupied)]
    exact .plain occupied

/-! ## Columns -/

/-- The first aggregation reads the value column itself, and each further one a copy whose name is
free among the columns before it. -/
inductive ColumnsFor : List Aggregation → List String → Prop where
  | first (aggregation : Aggregation) : ColumnsFor [aggregation] [valueColumn]
  | next {aggregations : List Aggregation} {columns : List String} {column : String}
      (before : ColumnsFor aggregations columns) (aggregation : Aggregation)
      (found : FirstFree (valueColumn ++ "_" ++ aggregation.outputName) columns column) :
      ColumnsFor (aggregations ++ [aggregation]) (columns ++ [column])

section
variable {aggregations : List Aggregation} {columns : List String}

theorem ColumnsFor.length_eq (named : ColumnsFor aggregations columns) :
    columns.length = aggregations.length := by
  induction named with
  | first aggregation => rfl
  | next before aggregation found ih => simp [ih]

theorem ColumnsFor.nodup (named : ColumnsFor aggregations columns) : columns.Nodup := by
  induction named with
  | first aggregation => exact List.nodup_singleton valueColumn
  | next before aggregation found ih =>
    exact List.nodup_append.2 ⟨ih, List.nodup_singleton _, fun _ member _ last same =>
      found.notMem (List.mem_singleton.1 last ▸ same ▸ member)⟩

theorem ColumnsFor.exists_copies (named : ColumnsFor aggregations columns) :
    ∃ copies, columns = valueColumn :: copies := by
  induction named with
  | first aggregation => exact ⟨[], rfl⟩
  | next before aggregation found ih =>
    obtain ⟨copies, rfl⟩ := ih
    exact ⟨_, List.cons_append⟩

end

theorem aggregationColumns_concat {aggregations : List Aggregation}
    (some : aggregationColumns aggregations ≠ []) (aggregation : Aggregation) :
    aggregationColumns (aggregations ++ [aggregation]) = aggregationColumns aggregations ++
      [freeColumn (valueColumn ++ "_" ++ aggregation.outputName)
        (aggregationColumns aggregations)] := by
  have taken : (aggregationColumns aggregations).isEmpty = false :=
    Bool.eq_false_iff.2 (mt List.isEmpty_iff.1 some)
  unfold aggregationColumns at taken ⊢
  simp only [List.foldl_append, List.foldl_cons, List.foldl_nil, taken, Bool.false_eq_true,
    if_false]

theorem columnsFor_aggregationColumns {aggregations : List Aggregation}
    (some : aggregations ≠ []) : ColumnsFor aggregations (aggregationColumns aggregations) := by
  induction aggregations using List.reverseRecOn with
  | nil => exact absurd rfl some
  | append_singleton aggregations aggregation ih =>
    by_cases alone : aggregations = []
    · subst alone
      exact .first aggregation
    · have before := ih alone
      obtain ⟨copies, same⟩ := before.exists_copies
      rw [aggregationColumns_concat (by rw [same]; exact List.cons_ne_nil _ _)]
      exact before.next aggregation (firstFree_freeColumn _ _)

/-! ## Stages -/

/-- Whether a stage copies the value column or reduces one. -/
def Stage.aggregates : Stage → Bool
  | .duplicate _ => true
  | .reduce _ _ => true
  | _ => false

def reducers (aggregations : List Aggregation) (columns : List String) : List Stage :=
  List.zipWith (fun aggregation column => .reduce aggregation.function (some column)) aggregations
    columns

theorem mapM_readReducer (aggregations : List Aggregation) (columns : List String) :
    ((reducers aggregations columns).map Stage.text).mapM readReducer =
      some ((aggregations.map (·.function)).zip columns) := by
  have each : ∀ pair ∈ aggregations.zip columns,
      readReducer (Stage.reduce pair.1.function (some pair.2)).text =
        some (Prod.map (·.function) id pair) := fun pair _ => readReducer_text _ _
  rw [reducers, ← List.map_uncurry_zip_eq_zipWith, List.map_map, mapM_map]
  exact (mapM_of_forall each).trans (congrArg some List.zip_map_left.symm)

theorem aggregationStages_several {aggregations : List Aggregation}
    (several : 2 ≤ aggregations.length) :
    aggregationStages aggregations =
      (((aggregationColumns aggregations).drop 1).map Stage.duplicate ++
          reducers aggregations (aggregationColumns aggregations),
        (aggregations.zip (aggregationColumns aggregations)).map fun (aggregation, column) =>
          ⟨column, some aggregation.outputName⟩) := by
  match aggregations, several with
  | first :: second :: others, _ =>
    unfold reducers
    rw [← List.map_uncurry_zip_eq_zipWith]
    rfl

section
variable {query : Query} {parts : Parts}

theorem not_aggregates_before (query : Query) (parts : Parts) :
    ∀ stage ∈ parts.beforeAggregations query, stage.aggregates = false :=
  forall_beforeAggregations (·.aggregates = false) query parts (fun _ => rfl) (fun _ _ => rfl)
    (fun _ => rfl) (fun _ => rfl) (fun _ _ => rfl) (fun _ => rfl) rfl (fun _ => rfl) fun _ => rfl

theorem not_aggregates_after (made : parts.MadeFor query) :
    ∀ stage ∈ parts.afterAggregations query, stage.aggregates = false :=
  forall_afterAggregations (·.aggregates = false) query parts
    (forall_having (·.aggregates = false) made fun _ _ _ => rfl)
    (forall_fillStages (·.aggregates = false) made.fill rfl rfl (fun _ => rfl) fun _ _ => rfl)
    (fun _ _ => rfl) (fun _ _ => rfl) (fun _ => rfl) fun _ => rfl

end

theorem callName_notMem {stage : Stage} (other : stage.aggregates = false) :
    callName stage.text ∉ aggregatingCalls := by
  rw [callName_text]
  cases stage with
  | duplicate column => cases other
  | reduce function column? => cases other
  | _ => simp [Stage.call, aggregatingCalls, plainReducers]

/-- The script of a query with several aggregations copies the value column once for each of them but
the first, under names that a search which always ends finds free, and then applies each function to
the column of its own; no other stage copies or reduces. The series are named after the outputs. -/
theorem compile_several {bucket : String} {query : Query} {compiled : Compiled}
    (compiles : compile bucket query = .ok compiled) (several : 2 ≤ query.aggregations.length) :
    ∃ (before after : List Stage) (copying reducing copies : List String),
      compiled.text = sourceText bucket query ++
        piped (before.map Stage.text ++ copying ++ reducing ++ after.map Stage.text) ∧
      (∀ stage ∈ before ++ after,
        stage.aggregates = false ∧ callName stage.text ∉ aggregatingCalls) ∧
      copying.mapM readCopy = some copies ∧
      reducing.mapM readReducer =
        some ((query.aggregations.map (·.function)).zip ("_value" :: copies)) ∧
      copying.length + 1 = query.aggregations.length ∧
      reducing.length = query.aggregations.length ∧
      compiled.columns.map (·.column) = "_value" :: copies ∧
      ("_value" :: copies).Nodup ∧
      compiled.columns.map (·.name?) = query.aggregations.map (fun a => some a.outputName) ∧
      ColumnsFor query.aggregations ("_value" :: copies) ∧
      ∀ (base : String) (taken : List String), FirstFree base taken (freeColumn base taken) := by
  obtain ⟨parts, made, rfl⟩ := compile_eq_ok_iff.1 compiles
  have named := columnsFor_aggregationColumns
    (List.ne_nil_of_length_pos (Nat.lt_of_lt_of_le Nat.zero_lt_two several))
  obtain ⟨copies, same⟩ := named.exists_copies
  have stages := aggregationStages_several several
  rw [same] at named stages
  have length := named.length_eq
  refine ⟨parts.beforeAggregations query, parts.afterAggregations query,
    copies.map fun column => (Stage.duplicate column).text,
    (reducers query.aggregations (valueColumn :: copies)).map Stage.text, copies,
    ?_, fun stage member => ?_, mapM_readCopy copies, mapM_readReducer _ _, ?_, ?_, ?_, named.nodup,
    ?_, named, firstFree_freeColumn⟩
  · show (parts.plan query).script.text bucket = _
    rw [text_plan made, stages_plan, stages]
    simp only [List.map_append, List.map_map, List.append_assoc, List.drop_one, List.tail_cons]
    rfl
  · have other : stage.aggregates = false := (List.forall_mem_append.2
      ⟨not_aggregates_before query parts, not_aggregates_after made⟩) stage member
    exact ⟨other, callName_notMem other⟩
  · rw [List.length_map]
    exact length
  · rw [List.length_map, reducers, List.length_zipWith, length, Nat.min_self]
  · show (aggregationStages query.aggregations).2.map (·.column) = _
    rw [stages, List.map_map]
    exact List.map_snd_zip length.le
  · show (aggregationStages query.aggregations).2.map (·.name?) = _
    rw [stages, List.map_map]
    show ((query.aggregations.zip (valueColumn :: copies)).map
      ((fun a : Aggregation => some a.outputName) ∘ Prod.fst)) = _
    rw [← List.map_map, List.map_fst_zip length.ge]

/-- Three aggregations with one name, and one whose own name is that of a numbered copy. -/
def collidingQuery : Query :=
  ((((((Query.ofMeasurement "cpu").interval "5m").aggregate .mean "usage" (some "load")).aggregate
    .max "usage" (some "load")).aggregate (.percentile 95) "usage" (some "load")).aggregate
    .min "usage" (some "load_2"))

/-- The whole script, and what its copies and reducers are read back as. -/
theorem compile_several_colliding :
    ∃ (compiled : Compiled) (before copying reducing after : List String),
      compile "metrics" collidingQuery = .ok compiled ∧ 2 ≤ collidingQuery.aggregations.length ∧
      compiled.text = "from(bucket: \"metrics\")\n  |> range(start: -1h)\n  " ++
        "|> filter(fn: (r) => r._measurement == \"cpu\")\n  " ++
        "|> filter(fn: (r) => r._field == \"usage\")\n  |> window(every: 5m)\n  " ++
        "|> duplicate(column: \"_value\", as: \"_value_load\")\n  " ++
        "|> duplicate(column: \"_value\", as: \"_value_load_2\")\n  " ++
        "|> duplicate(column: \"_value\", as: \"_value_load_2_2\")\n  " ++
        "|> mean(column: \"_value\")\n  |> max(column: \"_value_load\")\n  " ++
        "|> quantile(q: 0.95, column: \"_value_load_2\")\n  " ++
        "|> min(column: \"_value_load_2_2\")" ∧
      compiled.text = sourceText "metrics" collidingQuery ++
        piped (before ++ copying ++ reducing ++ after) ∧
      copying.mapM readCopy = some ["_value_load", "_value_load_2", "_value_load_2_2"] ∧
      reducing.mapM readReducer = some [(.mean, "_value"), (.max, "_value_load"),
        (.percentile 95, "_value_load_2"), (.min, "_value_load_2_2")] ∧
      compiled.columns.map (·.name?) =
        [some "load", some "load", some "load", some "load_2"] := by
  let parts : Parts := ⟨[], some ⟨5, .minutes⟩, [], []⟩
  have made : parts.MadeFor collidingQuery := by
    refine ⟨rfl, ?_, rfl, rfl, rfl⟩
    rw [conditionGroups_eq_splitBy]
    rfl
  have compiles : compile "metrics" collidingQuery = .ok
      ⟨(parts.plan collidingQuery).script.text "metrics", .data,
        (aggregationStages collidingQuery.aggregations).2⟩ :=
    compile_eq_ok_iff.2 ⟨_, made, rfl⟩
  obtain ⟨before, after, copying, reducing, copies, written, -, copied, reduced, -, -, columns, -,
    names, -⟩ := compile_several compiles (by decide)
  have same : (aggregationStages collidingQuery.aggregations).2.map (·.column) =
      ["_value", "_value_load", "_value_load_2", "_value_load_2_2"] := by decide +kernel
  obtain rfl : ["_value_load", "_value_load_2", "_value_load_2_2"] = copies :=
    (List.cons.inj (same.symm.trans columns)).2
  exact ⟨_, before.map Stage.text, copying, reducing, after.map Stage.text, compiles, by decide,
    by decide +kernel, written, copied, reduced, names⟩

end SeriesQuery.Flux
