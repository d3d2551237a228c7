import SeriesQuery.Proofs.Acceptance
import SeriesQuery.Proofs.Graphite.Selections
import SeriesQuery.Proofs.Prometheus.Injection

/-!
Aggregations by themselves. In PromQL and for Graphite, none of several aggregations has a say in
what becomes of another: a query compiles when it does with each of them alone, to what comes of
these.
-/

set_option autoImplicit false

namespace SeriesQuery

def Query.only (query : Query) (aggregation : Aggregation) : Query :=
  { query with aggregations := [aggregation] }

/-! ## PromQL -/

namespace Prometheus

def ownExpression (query : Query) (interval? : Option Duration) (aggregation : Aggregation) :
    Except QueryError NamedExpression := do
  let expression ← aggregationExpression query interval? aggregation
  return ⟨aggregation.outputName, limited query expression⟩

theorem ownExpressions_of_aggregations {query : Query} (nonempty : query.aggregations ≠ [])
    (interval? : Option Duration) : ownExpressions query interval? =
      query.aggregations.mapM (ownExpression query interval?) :=
  if_neg (by simpa using nonempty)

def Stands (defaultStep : String) (query : Query) (aggregation : Aggregation) (part : Compiled) :
    Prop :=
  compile defaultStep (query.only aggregation) = .ok part

structure Joined (query : Query) (parts : List Compiled) (compiled : Compiled) : Prop where
  window : ∀ part ∈ parts, part.time = compiled.time ∧ part.step = compiled.step
  expressions : ∃ own : List (List NamedExpression),
    List.Forall₂ (fun part expressions => part.expressions = expressions ++ mathExpressions query)
      parts own ∧
    compiled.expressions = own.flatten ++ mathExpressions query

theorem exists_apart_iff {query : Query} (nonempty : query.aggregations ≠ [])
    (defaultStep : String) : (∃ compiled, compile defaultStep query = .ok compiled) ↔
      ∀ aggregation ∈ query.aggregations,
        ∃ part, compile defaultStep (query.only aggregation) = .ok part := by
  obtain ⟨first, member⟩ := List.exists_mem_of_ne_nil _ nonempty
  simp only [exists_compile_iff]
  constructor
  · rintro ⟨checked, functions⟩ aggregation known
    obtain ⟨⟨bucketed, whole⟩, thresholds⟩ := functions aggregation known
    exact ⟨checked, List.forall_mem_singleton.2 ⟨⟨bucketed, whole⟩, thresholds⟩⟩
  · intro each
    refine ⟨(each first member).1, fun aggregation known => ?_⟩
    obtain ⟨⟨bucketed, whole⟩, thresholds⟩ :=
      (each aggregation known).2 aggregation List.mem_cons_self
    exact ⟨⟨bucketed, whole⟩, thresholds⟩

theorem compile_only {query : Query} {interval? : Option Duration} {aggregation : Aggregation}
    {expression : NamedExpression} (checked : query.checkCompilable = .ok ())
    (read : query.bucket = .ok interval?)
    (made : ownExpression query interval? aggregation = .ok expression) (defaultStep : String) :
    compile defaultStep (query.only aggregation) =
      .ok (assembled defaultStep query interval? [expression]) := by
  -- the expression looks at all of the query but its aggregations
  have same : ownExpression (query.only aggregation) interval? aggregation = .ok expression := made
  have own : ownExpressions (query.only aggregation) interval? = .ok [expression] := by
    rw [ownExpressions_of_aggregations (List.cons_ne_nil _ _), Query.only, List.mapM_cons]
    exact same ▸ rfl
  exact compile_eq_ok_iff.2 ⟨checked, interval?, _, read, own, rfl⟩

theorem exists_parts {defaultStep : String} {query : Query} {compiled : Compiled}
    (nonempty : query.aggregations ≠ []) (compiles : compile defaultStep query = .ok compiled) :
    ∃ parts, List.Forall₂ (Stands defaultStep query) query.aggregations parts ∧
      Joined query parts compiled := by
  obtain ⟨checked, interval?, own, read, made, rfl⟩ := compile_eq_ok_iff.1 compiles
  rw [ownExpressions_of_aggregations nonempty] at made
  -- every aggregation makes one expression, which is all that its part has besides math
  refine ⟨own.map fun expression => assembled defaultStep query interval? [expression], ?_, ?_,
    own.map ([·]), ?_, ?_⟩
  · rw [List.forall₂_map_right_iff]
    exact (forall₂_of_mapM made).imp fun _ _ made => compile_only checked read made defaultStep
  · exact List.forall_mem_map.2 fun _ _ => ⟨rfl, rfl⟩
  · rw [List.forall₂_map_left_iff, List.forall₂_map_right_iff]
    exact List.forall₂_same.2 fun _ _ => rfl
  · rw [← List.flatMap_def, List.flatMap_singleton']
    rfl

end Prometheus

/-! ## Graphite -/

namespace Graphite

/-- Series that stand as the aggregations make them. -/
structure Untouched (query : Query) : Prop where
  fill : query.fill? = none
  having : query.having = []
  limit : query.limit? = none

def rendered (query : Query) (target : String) : Compiled where
  target
  start := (bounds query.time).1
  finish := (bounds query.time).2
  timezone? := query.timezone?

def aliased (target name : String) : String :=
  "alias(" ++ target ++ "," ++ Text.quoted name ++ ")"

theorem text_named (target : Target) (name : String) :
    (named target name).text = aliased target.text name := by
  simp [named, aliased, Target.text, Extra.text, String.append_assoc]

theorem compile_untouched_iff {root? : Option String} {query : Query} {compiled : Compiled}
    (untouched : Untouched query) : compile root? query = .ok compiled ↔
      query.checkCompilable = .ok () ∧ ∃ interval? series, query.bucket = .ok interval? ∧
        source root? query interval? = .ok series ∧ compiled = rendered query series.text := by
  rw [compile_eq_ok_iff, untouched.fill, untouched.having, untouched.limit]
  constructor
  · rintro ⟨checked, interval?, series, whole, read, sourced, kept, rfl⟩
    cases kept
    exact ⟨checked, interval?, series, read, sourced, rfl⟩
  · rintro ⟨checked, interval?, series, read, sourced, rfl⟩
    exact ⟨checked, interval?, series, series, read, sourced, rfl, rfl⟩

theorem source_of_several {query : Query} (several : 2 ≤ query.aggregations.length)
    (root? : Option String) (interval? : Option Duration) : source root? query interval? = do
      let targets ← query.aggregations.mapM fun aggregation => do
        return named (← aggregationTarget root? query interval? aggregation) aggregation.outputName
      return .group targets := by
  unfold source
  split
  · next none => rw [none] at several; contradiction
  · next single isSingle => rw [isSingle] at several; contradiction
  · rfl

theorem exists_apart_iff {query : Query} (nonempty : query.aggregations ≠ [])
    (root? : Option String) : (∃ compiled, compile root? query = .ok compiled) ↔
      ∀ aggregation ∈ query.aggregations,
        ∃ part, compile root? (query.only aggregation) = .ok part := by
  obtain ⟨first, member⟩ := List.exists_mem_of_ne_nil _ nonempty
  simp only [exists_compile_iff]
  constructor
  · rintro ⟨checked, functions, thresholds⟩ aggregation known
    exact ⟨checked, List.forall_mem_singleton.2 (functions aggregation known), thresholds⟩
  · intro each
    obtain ⟨checked, -, thresholds⟩ := each first member
    refine ⟨checked, fun aggregation known => ?_, thresholds⟩
    exact (each aggregation known).2.1 aggregation List.mem_cons_self

theorem compile_only {root? : Option String} {query : Query} {interval? : Option Duration}
    {aggregation : Aggregation} {inner : Target} (untouched : Untouched query)
    (checked : query.checkCompilable = .ok ()) (read : query.bucket = .ok interval?)
    (made : aggregationTarget root? query interval? aggregation = .ok inner) :
    compile root? (query.only aggregation) = .ok (rendered query
      ((aggregation.alias?.map (aliased inner.text)).getD inner.text)) := by
  -- the target looks at all of the query but its aggregations
  have same : aggregationTarget root? (query.only aggregation) interval? aggregation = .ok inner :=
    made
  have sourced : source root? (query.only aggregation) interval? =
      .ok ((aggregation.alias?.map (named inner)).getD inner) := by
    change (aggregationTarget root? (query.only aggregation) interval? aggregation >>= _) = _
    rw [same]
    rfl
  have written : ((aggregation.alias?.map (named inner)).getD inner).text =
      (aggregation.alias?.map (aliased inner.text)).getD inner.text := by
    cases aggregation.alias? with
    | none => rfl
    | some name => exact text_named inner name
  have only : Untouched (query.only aggregation) :=
    ⟨untouched.fill, untouched.having, untouched.limit⟩
  exact (compile_untouched_iff only).2 ⟨checked, interval?, _, read, sourced, written ▸ rfl⟩

structure Grouped (query : Query) (parts : List Compiled) (compiled : Compiled) : Prop where
  window : ∀ part ∈ parts, part.start = compiled.start ∧ part.finish = compiled.finish ∧
    part.timezone? = compiled.timezone?
  target : compiled.target = "group(" ++ ",".intercalate
    (List.zipWith (fun aggregation part => aliased part.target aggregation.outputName)
      query.aggregations parts) ++ ")"

/-- What comes of an aggregation alone, without its alias; the alias only goes around it. -/
def Stands (root? : Option String) (query : Query) (aggregation : Aggregation) (part : Compiled) :
    Prop :=
  compile root? (query.only { aggregation with alias? := none }) = .ok part ∧
    compile root? (query.only aggregation) = .ok { part with
      target := (aggregation.alias?.map (aliased part.target)).getD part.target }

theorem exists_parts {root? : Option String} {query : Query} {compiled : Compiled}
    (several : 2 ≤ query.aggregations.length) (untouched : Untouched query)
    (compiles : compile root? query = .ok compiled) :
    ∃ parts, List.Forall₂ (Stands root? query) query.aggregations parts ∧
      Grouped query parts compiled := by
  obtain ⟨checked, interval?, series, read, sourced, rfl⟩ :=
    (compile_untouched_iff untouched).1 compiles
  rw [source_of_several several] at sourced
  obtain ⟨targets, made, sourced⟩ := exists_of_bind sourced
  cases sourced
  -- the parts are what stands inside the names
  obtain ⟨inners, each, rfl⟩ := exists_zipWith_of_mapM made
  refine ⟨inners.map fun inner => rendered query inner.text, ?_, ?_, ?_⟩
  · rw [List.forall₂_map_right_iff]
    refine each.imp fun aggregation inner made => ⟨?_, compile_only untouched checked read made⟩
    have unnamed : aggregationTarget root? query interval? { aggregation with alias? := none } =
        .ok inner := made
    exact compile_only untouched checked read unnamed
  · exact List.forall_mem_map.2 fun _ _ => ⟨rfl, rfl, rfl⟩
  · rw [rendered, Target.text, texts_eq_map, List.map_zipWith, List.zipWith_map_right]
    simp only [text_named, rendered]

end Graphite

/-! ## Both -/

/-- Several aggregations compile when each of them does alone. In PromQL their expressions stand side
by side, before those of math, in the same window and with the same step; for Graphite, if nothing
else goes around the series, their targets stand in a group, each under its name. -/
theorem compile_apart (query : Query) (several : 2 ≤ query.aggregations.length) :
    (∀ defaultStep,
      ((∃ compiled, Prometheus.compile defaultStep query = .ok compiled) ↔
        ∀ aggregation ∈ query.aggregations,
          ∃ part, Prometheus.compile defaultStep (query.only aggregation) = .ok part) ∧
      ∀ compiled, Prometheus.compile defaultStep query = .ok compiled →
        ∃ parts, List.Forall₂ (Prometheus.Stands defaultStep query) query.aggregations parts ∧
          Prometheus.Joined query parts compiled) ∧
    (Graphite.Untouched query → ∀ root?,
      ((∃ compiled, Graphite.compile root? query = .ok compiled) ↔
        ∀ aggregation ∈ query.aggregations,
          ∃ part, Graphite.compile root? (query.only aggregation) = .ok part) ∧
      ∀ compiled, Graphite.compile root? query = .ok compiled →
        ∃ parts, List.Forall₂ (Graphite.Stands root? query) query.aggregations parts ∧
          Graphite.Grouped query parts compiled) := by
  have nonempty : query.aggregations ≠ [] := by
    rintro none
    rw [none] at several
    contradiction
  constructor
  · exact fun defaultStep => ⟨Prometheus.exists_apart_iff nonempty defaultStep,
      fun compiled => Prometheus.exists_parts nonempty⟩
  · exact fun untouched root? => ⟨Graphite.exists_apart_iff nonempty root?,
      fun compiled => Graphite.exists_parts several untouched⟩

/-- One name that is given and one that is not, in a query with an expression of math. -/
def loadQuery : Query :=
  { Query.ofMeasurement "cpu" with
    conditions := [⟨"host", .notEqual, .scalar (.string "web\"01"), .and⟩]
    groupBy := ["host"]
    aggregations := [⟨.mean, "usage", some "load"⟩, ⟨.max, "*", none⟩]
    math := [⟨"load * 2", "double"⟩] }

theorem compile_apart_load :
    2 ≤ loadQuery.aggregations.length ∧ Graphite.Untouched loadQuery ∧
      (∃ compiled parts, Prometheus.compile "1m" loadQuery = .ok compiled ∧
        List.Forall₂ (Prometheus.Stands "1m" loadQuery) loadQuery.aggregations parts ∧
        Prometheus.Joined loadQuery parts compiled) ∧
      ∃ compiled, Graphite.compile none loadQuery = .ok compiled ∧
        compiled.target =
          "group(alias(averageSeries(exclude(cpu.usage,\"web\\\"01\")),\"load\")," ++
            "alias(maxSeries(exclude(cpu.*,\"web\\\"01\")),\"max_*\"))" := by
  have several : 2 ≤ loadQuery.aggregations.length := by decide
  have untouched : Graphite.Untouched loadQuery := ⟨rfl, rfl, rfl⟩
  obtain ⟨joins, groups⟩ := compile_apart loadQuery several
  refine ⟨several, untouched, ?_, ?_⟩
  · obtain ⟨compiled, compiles⟩ := (joins "1m").1.2
      (List.forall_mem_cons.2 ⟨⟨_, rfl⟩, List.forall_mem_singleton.2 ⟨_, rfl⟩⟩)
    obtain ⟨parts, stand, joined⟩ := (joins "1m").2 compiled compiles
    exact ⟨compiled, parts, compiles, stand, joined⟩
  · obtain ⟨compiled, compiles⟩ := (groups untouched none).1.2
      (List.forall_mem_cons.2 ⟨⟨_, rfl⟩, List.forall_mem_singleton.2 ⟨_, rfl⟩⟩)
    obtain ⟨parts, stand, grouped⟩ := (groups untouched none).2 compiled compiles
    refine ⟨compiled, compiles, ?_⟩
    cases stand with
    | cons first rest =>
      cases rest with
      | cons second none =>
        cases none
        cases first.1
        cases second.1
        rw [grouped.target]
        decide +kernel

end SeriesQuery
