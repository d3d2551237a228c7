import SeriesQuery.Proofs.Flux.Calls
import SeriesQuery.Proofs.Flux.Orders
import SeriesQuery.Proofs.Query.Groups

/-!
What the sort stages of a script make of a table. One stage for all keys puts the first key first.
Of several stages with a key each the last one has the last word, so that they put the last key
first.
-/

set_option autoImplicit false

namespace SeriesQuery.Flux

variable {Value : Type} [LinearOrder Value]

/-! ## Stages -/

/-- A server's sort of a table by some columns, all of them in one direction. -/
abbrev TableSort (Value : Type) := List String → Bool → List (Cells Value) → List (Cells Value)

def keysOf (columns : List String) (descending : Bool) : List SortKey :=
  columns.map fun column => (column, if descending then .descending else .ascending)

/-- The sort is stable, and of its columns the earlier ones count first. -/
def IsStable (sort : TableSort Value) : Prop :=
  ∀ columns descending table,
    StablySorted (keysOf columns descending) table (sort columns descending table)

namespace Stage

def isSort : Stage → Bool
  | .sort _ _ => true
  | _ => false

def keys : Stage → List SortKey
  | .sort columns descending => keysOf columns descending
  | _ => []

/-- The table after the stage, as far as its order goes. -/
def reorder (sort : TableSort Value) (stage : Stage) (table : List (Cells Value)) :
    List (Cells Value) :=
  match stage with
  | .sort columns descending => sort columns descending table
  | _ => table

end Stage

def reordered (sort : TableSort Value) (stages : List Stage) (table : List (Cells Value)) :
    List (Cells Value) :=
  stages.foldl (fun table stage => stage.reorder sort table) table

theorem stablySorted_reorder {sort : TableSort Value} (stable : IsStable sort) (stage : Stage)
    (table : List (Cells Value)) : StablySorted stage.keys table (stage.reorder sort table) := by
  cases stage with
  | sort columns descending => exact stable columns descending table
  | _ => exact stablySorted_nil table

theorem stablySorted_reordered {sort : TableSort Value} (stable : IsStable sort)
    (stages : List Stage) (table : List (Cells Value)) :
    StablySorted (stages.reverse.flatMap Stage.keys) table (reordered sort stages table) := by
  induction stages generalizing table with
  | nil => exact stablySorted_nil table
  | cons stage later ih =>
    rw [List.reverse_cons, List.flatMap_append, List.flatMap_singleton]
    exact (stablySorted_reorder stable stage table).trans (ih (stage.reorder sort table))

/-! ## Orderings -/

def sortKeys (ordering : List (String × SortDirection)) : List SortKey :=
  ordering.map fun (field, direction) => (sortColumn field, direction)

def OneDirection (ordering : List (String × SortDirection)) : Prop :=
  ∀ first ∈ ordering, ∀ second ∈ ordering, first.2 = second.2

instance (ordering : List (String × SortDirection)) : Decidable (OneDirection ordering) :=
  inferInstanceAs (Decidable (∀ first ∈ ordering, ∀ second ∈ ordering, first.2 = second.2))

/-- The keys that the stages of an ordering sort by. -/
def stageKeys (ordering : List (String × SortDirection)) : List SortKey :=
  if OneDirection ordering then sortKeys ordering else (sortKeys ordering).reverse

theorem oneDirection_cons_iff {entry : String × SortDirection}
    {others : List (String × SortDirection)} : OneDirection (entry :: others) ↔
      ((entry :: others).all fun other => other.2 == entry.2) = true := by
  simp only [List.all_eq_true, beq_iff_eq]
  constructor
  · exact fun one other member => one other member entry List.mem_cons_self
  · exact fun each first firstMember second secondMember =>
      (each first firstMember).trans (each second secondMember).symm

theorem keysOf_direction (columns : List String) (direction : SortDirection) :
    keysOf columns (direction == .descending) = columns.map fun column => (column, direction) := by
  cases direction <;> rfl

theorem keys_sortStages (ordering : List (String × SortDirection)) :
    (sortStages ordering).reverse.flatMap Stage.keys = stageKeys ordering := by
  cases ordering with
  | nil => rfl
  | cons entry others =>
    rw [stageKeys, sortStages]
    by_cases one : OneDirection (entry :: others)
    · rw [if_pos one, if_pos (oneDirection_cons_iff.1 one), List.reverse_singleton,
        List.flatMap_singleton, Stage.keys, keysOf_direction, sortKeys, List.map_map]
      exact List.map_congr_left fun other member =>
        Prod.ext rfl (one entry List.mem_cons_self other member)
    · rw [if_neg one, if_neg (mt oneDirection_cons_iff.2 one), ← List.map_reverse,
        List.flatMap_map, sortKeys, ← List.map_reverse]
      simp only [Stage.keys, keysOf_direction, List.map_cons, List.map_nil]
      exact List.map_eq_flatMap.symm

theorem oneDirection_of_reverse {ordering : List (String × SortDirection)}
    (distinct : ((sortKeys ordering).map Prod.fst).Nodup)
    (same : decisive (sortKeys ordering).reverse = decisive (sortKeys ordering)) :
    OneDirection ordering := by
  have turned : (((sortKeys ordering).reverse).map Prod.fst).Nodup := by
    rw [List.map_reverse]
    exact List.nodup_reverse.2 distinct
  rw [decisive_eq_self distinct, decisive_eq_self turned] at same
  -- a list of distinct columns that is its own reverse has one of them at most
  match ordering with
  | [] => exact fun _ member => absurd member List.not_mem_nil
  | [entry] =>
    intro first firstMember second secondMember
    rw [List.mem_singleton.1 firstMember, List.mem_singleton.1 secondMember]
  | entry :: next :: others =>
    have last : (sortKeys (entry :: next :: others)).getLast? =
        some (sortColumn entry.1, entry.2) := by
      rw [← List.head?_reverse, same]
      rfl
    have member : (sortColumn entry.1, entry.2) ∈ sortKeys (next :: others) :=
      List.mem_of_getLast? last
    exact absurd (List.mem_map_of_mem member) (List.nodup_cons.1 distinct).1

theorem isPrefix_stageKeys_iff (ordering : List (String × SortDirection)) :
    decisive (sortKeys ordering) <+: decisive (stageKeys ordering) ↔
      OneDirection ordering ∨ decisive (sortKeys ordering).reverse = decisive (sortKeys ordering) := by
  rw [stageKeys]
  split
  · next one => exact iff_of_true List.prefix_rfl (.inl one)
  · next mixed =>
    rw [or_iff_right mixed]
    constructor
    · exact fun starts => (starts.eq_of_length (length_decisive_reverse _).symm).symm
    · exact fun same => same ▸ List.prefix_rfl

section
variable {sort : TableSort Value} {sorts : List Stage} {keys : List SortKey}

theorem pairwise_reordered_iff [Nontrivial Value]
    (sorted : ∀ table, StablySorted keys table (reordered sort sorts table)) (wanted : List SortKey) :
    (∀ table, (reordered sort sorts table).Pairwise (InOrder wanted)) ↔
      decisive wanted <+: decisive keys := by
  constructor
  · intro ordered
    refine isPrefix_of_inOrder (nodup_columns_decisive _) (nodup_columns_decisive _)
      fun (first second : Cells Value) before => (inOrder_decisive wanted first second).2 ?_
    have pair := ordered [first, second]
    rw [(sorted [first, second]).eq_of_inOrder ((inOrder_decisive keys first second).1 before)] at pair
    exact List.rel_of_pairwise_cons pair List.mem_cons_self
  · rintro ⟨others, same⟩ table
    refine (sorted table).sorted.imp fun {first second} before => ?_
    rw [← inOrder_decisive, ← same, inOrder_append, inOrder_decisive] at before
    exact before.1

end

section
variable {query : Query} {parts : Parts}

def Parts.beforeSorts (query : Query) (parts : Parts) : List Stage :=
  parts.beforeAggregations query ++ (aggregationStages query.aggregations).1 ++ parts.having ++
    parts.fill ++ query.math.map fun math => .map math.name math.expression

def afterSorts (query : Query) : List Stage :=
  (query.offset?.map Stage.tail).toList ++ (query.limit?.map Stage.limit).toList

theorem stages_plan_sorts (query : Query) (parts : Parts) :
    (parts.plan query).script.stages =
      parts.beforeSorts query ++ sortStages query.orderBy ++ afterSorts query := by
  simp only [stages_plan, Parts.afterAggregations, Parts.beforeSorts, afterSorts, List.append_assoc]

theorem not_isSort_before (made : parts.MadeFor query) :
    ∀ stage ∈ parts.beforeSorts query, stage.isSort = false := by
  simp only [Parts.beforeSorts, List.forall_mem_append]
  refine ⟨⟨⟨⟨?_, ?_⟩, ?_⟩, ?_⟩, List.forall_mem_map.2 fun _ _ => rfl⟩
  · exact forall_beforeAggregations (·.isSort = false) query parts (fun _ => rfl) (fun _ _ => rfl)
      (fun _ => rfl) (fun _ => rfl) (fun _ _ => rfl) (fun _ => rfl) rfl (fun _ => rfl) fun _ => rfl
  · exact forall_aggregationStages (·.isSort = false) (fun _ => rfl) (fun _ _ => rfl) _
  · exact forall_having (·.isSort = false) made fun _ _ _ => rfl
  · exact forall_fillStages (·.isSort = false) made.fill rfl rfl (fun _ => rfl) fun _ _ => rfl

theorem not_isSort_after (query : Query) : ∀ stage ∈ afterSorts query, stage.isSort = false :=
  List.forall_mem_append.2 ⟨forall_toList (·.isSort = false) _ (fun _ => rfl) _,
    forall_toList (·.isSort = false) _ (fun _ => rfl) _⟩

end

theorem callName_ne_sort {stage : Stage} (other : stage.isSort = false) :
    callName stage.text ≠ "sort" := by
  rw [callName_text]
  cases stage with
  | sort columns descending => cases other
  | reduce function column? => cases function <;> simp [Stage.call, reducerName, AggregateFunction.name]
  | _ => simp [Stage.call]

theorem exists_mapM_readSort {sorts : List Stage} (each : ∀ stage ∈ sorts, stage.isSort = true) :
    ∃ orders, (sorts.map Stage.text).mapM readSort = some orders ∧
      sorts = orders.map (Function.uncurry Stage.sort) := by
  induction sorts with
  | nil => exact ⟨[], rfl, rfl⟩
  | cons first others ih =>
    have ⟨isSort, each⟩ := List.forall_mem_cons.1 each
    obtain ⟨orders, read, rfl⟩ := ih each
    cases first with
    | sort columns descending =>
      refine ⟨(columns, descending) :: orders, ?_, rfl⟩
      rw [List.map_cons, List.mapM_cons, readSort_text, read]
      rfl
    | _ => cases isSort

/-- The sort stages of a compiled query, one after the other, are one stable sort: by the ordering of
the query if all its directions agree, and else by the reversed ordering. Every table comes out in
the order that was asked for if and only if all directions agree or the ordering reads the same from
its end, keys on a repeated column left aside; with distinct columns, only if all directions agree. -/
theorem compile_sorts {bucket : String} {query : Query} {compiled : Compiled}
    (compiles : compile bucket query = .ok compiled) :
    ∃ (location? : Option String) (before sorts after : List Stage),
      compiled.text = Script.text ⟨location?, before ++ sorts ++ after⟩ bucket ∧
      (∃ (sorting : List String) (orders : List (List String × Bool)),
        compiled.text = sourceText bucket query ++
          piped (before.map Stage.text ++ sorting ++ after.map Stage.text) ∧
        sorting.mapM readSort = some orders ∧ sorts = orders.map (Function.uncurry Stage.sort) ∧
        ∀ stage ∈ before ++ after, callName stage.text ≠ "sort") ∧
      (∀ stage ∈ sorts, stage.isSort = true) ∧ (∀ stage ∈ before ++ after, stage.isSort = false) ∧
      ∀ (Value : Type) [LinearOrder Value] [Nontrivial Value] (sort : TableSort Value),
        IsStable sort →
        (∀ table, StablySorted (stageKeys query.orderBy) table (reordered sort sorts table)) ∧
        ((∀ table, (reordered sort sorts table).Pairwise (InOrder (sortKeys query.orderBy))) ↔
          OneDirection query.orderBy ∨
            decisive (sortKeys query.orderBy).reverse = decisive (sortKeys query.orderBy)) ∧
        (((sortKeys query.orderBy).map Prod.fst).Nodup →
          ((∀ table, (reordered sort sorts table).Pairwise (InOrder (sortKeys query.orderBy))) ↔
            OneDirection query.orderBy)) := by
  obtain ⟨parts, made, rfl⟩ := compile_eq_ok_iff.1 compiles
  have each : ∀ stage ∈ sortStages query.orderBy, stage.isSort = true :=
    forall_sortStages (·.isSort = true) (fun _ _ => rfl) _
  have others : ∀ stage ∈ parts.beforeSorts query ++ afterSorts query, stage.isSort = false :=
    List.forall_mem_append.2 ⟨not_isSort_before made, not_isSort_after query⟩
  refine ⟨namedZone? query, parts.beforeSorts query, sortStages query.orderBy, afterSorts query, ?_,
    ?_, each, others, ?_⟩
  · show Script.text ⟨namedZone? query, (parts.plan query).script.stages⟩ bucket = _
    rw [stages_plan_sorts]
  · obtain ⟨orders, read, same⟩ := exists_mapM_readSort each
    refine ⟨(sortStages query.orderBy).map Stage.text, orders, ?_, read, same,
      fun stage member => callName_ne_sort (others stage member)⟩
    show (parts.plan query).script.text bucket = _
    rw [text_plan made, stages_plan_sorts, List.map_append, List.map_append]
  · intro Value _ _ sort stable
    have sorted (table : List (Cells Value)) :
        StablySorted (stageKeys query.orderBy) table
          (reordered sort (sortStages query.orderBy) table) := by
      rw [← keys_sortStages]
      exact stablySorted_reordered stable _ table
    have ordered := pairwise_reordered_iff sorted (sortKeys query.orderBy)
    rw [isPrefix_stageKeys_iff] at ordered
    refine ⟨sorted, ordered, fun distinct => ordered.trans ?_⟩
    exact ⟨fun found => found.elim id (oneDirection_of_reverse distinct), .inl⟩

/-- By time, and the largest value first where times are equal. -/
def mixedQuery : Query :=
  ((Query.ofMeasurement "mem").order "time" .ascending).order "value" .descending

def stableSort : TableSort Value := fun columns descending => mergeSorted (keysOf columns descending)

theorem isStable_stableSort : IsStable (stableSort : TableSort Value) :=
  fun columns descending => stablySorted_mergeSorted (keysOf columns descending)

/-- Values come first, and some table is not in the order that was asked for. -/
theorem compile_sorts_mixed :
    ∃ (compiled : Compiled) (location? : Option String) (before sorts after : List Stage)
      (sorting : List String) (orders : List (List String × Bool)),
      compile "telemetry" mixedQuery = .ok compiled ∧ IsStable (stableSort : TableSort Nat) ∧
      compiled.text = "from(bucket: \"telemetry\")\n  |> range(start: -1h)\n  " ++
        "|> filter(fn: (r) => r._measurement == \"mem\")\n  " ++
        "|> sort(columns: [\"_time\"], desc: false)\n  " ++
        "|> sort(columns: [\"_value\"], desc: true)" ∧
      compiled.text = Script.text ⟨location?, before ++ sorts ++ after⟩ "telemetry" ∧
      compiled.text = sourceText "telemetry" mixedQuery ++
        piped (before.map Stage.text ++ sorting ++ after.map Stage.text) ∧
      sorting.mapM readSort = some orders ∧ sorts = orders.map (Function.uncurry Stage.sort) ∧
      (∀ table, StablySorted [("_value", .descending), ("_time", .ascending)] table
        (reordered (stableSort : TableSort Nat) sorts table)) ∧
      ∃ table, ¬ (reordered (stableSort : TableSort Nat) sorts table).Pairwise
        (InOrder [("_time", .ascending), ("_value", .descending)]) := by
  have made : (Parts.mk [] none [] []).MadeFor mixedQuery := by
    refine ⟨rfl, ?_, rfl, rfl, rfl⟩
    rw [conditionGroups_eq_splitBy]
    rfl
  have compiles : compile "telemetry" mixedQuery = .ok
      ⟨((Parts.mk [] none [] []).plan mixedQuery).script.text "telemetry", .data, [.plain]⟩ :=
    compile_eq_ok_iff.2 ⟨_, made, rfl⟩
  obtain ⟨location?, before, sorts, after, text, ⟨sorting, orders, written, read, same, -⟩, -, -,
    sorted⟩ := compile_sorts compiles
  obtain ⟨stable, -, ordered⟩ := sorted Nat stableSort isStable_stableSort
  have mixed : ¬ OneDirection mixedQuery.orderBy := by decide
  exact ⟨_, location?, before, sorts, after, sorting, orders, compiles, isStable_stableSort,
    by decide +kernel, text, written, read, same, stable,
    not_forall.1 (mt (ordered (by decide)).1 mixed)⟩

end SeriesQuery.Flux
