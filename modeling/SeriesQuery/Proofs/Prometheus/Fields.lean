import SeriesQuery.Proofs.Driver.Batches
import SeriesQuery.Proofs.Journal
import SeriesQuery.Proofs.Json.Records
import SeriesQuery.Proofs.Query.Checks

/-!
Fields of a measurement, as they are listed from the names of metrics and as they are selected. A
listed field reads the metric that it was listed for. Two metrics are the exception: the fields that
they are listed as stand for the bare measurement when they are selected.
-/

set_option autoImplicit false

namespace SeriesQuery.Prometheus

open Json

/-- The metrics that are asked for when fields are listed: the measurement itself, and all with an
underscore and something more behind it. -/
inductive Holds (measurement : String) : String → Prop where
  | bare : Holds measurement measurement
  | field {name : String} (nonempty : name ≠ "") : Holds measurement (measurement ++ "_" ++ name)

/-- Selecting the field asks for the metric and nothing else. -/
structure Selects (measurement field metric : String) : Prop where
  named : metricName measurement field = metric
  compiled : Text.isBlankText measurement = false → ∀ step,
    compile step ((Query.ofMeasurement measurement).select [field]) =
      .ok ⟨[⟨metric, .selector ⟨metric, []⟩⟩], .unset, step⟩

/-- The metrics whose fields have a name that stands for the bare measurement. -/
def Shadowed (measurement metric : String) : Prop :=
  metric = measurement ++ "_" ++ valueField ∨ metric = measurement ++ "_" ++ wildcard

structure Listed (measurement metric field : String) : Prop where
  reads : ¬ Shadowed measurement metric → Selects measurement field metric
  misses : Shadowed measurement metric →
    Selects measurement field measurement ∧ metricName measurement field ≠ metric

variable {measurement : String}

/-! ## Names -/

theorem append_underscore_ne (measurement name : String) :
    measurement ++ "_" ++ name ≠ measurement := by
  intro same
  have lengths := congrArg (·.toList.length) same
  simp only [String.toList_append, List.length_append] at lengths
  have one : "_".toList.length = 1 := rfl
  omega

theorem fieldOf?_bare (measurement : String) :
    Service.fieldOf? measurement measurement = some valueField := if_pos rfl

theorem fieldOf?_field (measurement name : String) :
    Service.fieldOf? measurement (measurement ++ "_" ++ name) = some name := by
  have written : (measurement ++ "_" ++ name).toList =
      (measurement.toList ++ ['_']) ++ name.toList := by simp
  rw [Service.fieldOf?, if_neg (append_underscore_ne measurement name), written,
    Text.dropStart?_append, Option.map_some, String.ofList_toList]

theorem metricName_field {name : String} (nonempty : name ≠ "") (notValue : name ≠ valueField)
    (notAll : name ≠ wildcard) : metricName measurement name = measurement ++ "_" ++ name := by
  simp [metricName, nonempty, notValue, notAll]

theorem selects_metricName (measurement field : String) :
    Selects measurement field (metricName measurement field) where
  named := rfl
  compiled visible step := by
    have checked : ((Query.ofMeasurement measurement).select [field]).checkCompilable = .ok () := by
      have measured : ((Query.ofMeasurement measurement).select [field]).hasMeasurement = true := by
        simp [Query.hasMeasurement, Query.select, Query.ofMeasurement, visible]
      rw [Query.checkCompilable, Query.hardProblems_eq_nil_iff.2 ⟨rfl, measured⟩]
      rfl
    have expressions : fieldExpressions ((Query.ofMeasurement measurement).select [field]) =
        [⟨metricName measurement field, .selector ⟨metricName measurement field, []⟩⟩] := by
      by_cases all : field = wildcard
      · subst all
        rfl
      · have named :
            ((Query.ofMeasurement measurement).select [field]).explicitFields = [field] := by
          simp [Query.explicitFields, Query.select, all]
        rw [fieldExpressions, named]
        rfl
    have made : compile step ((Query.ofMeasurement measurement).select [field]) =
        .ok ⟨fieldExpressions ((Query.ofMeasurement measurement).select [field]) ++ [], .unset,
          step⟩ := by
      rw [compile, checked]
      rfl
    rw [made, expressions]
    rfl

/-! ## Listed fields -/

theorem shadowed_field_iff {name : String} :
    Shadowed measurement (measurement ++ "_" ++ name) ↔ name = valueField ∨ name = wildcard := by
  rw [Shadowed, String.append_right_inj, String.append_right_inj]

theorem not_shadowed_bare (measurement : String) : ¬ Shadowed measurement measurement := by
  rintro (same | same)
  · exact append_underscore_ne _ _ same.symm
  · exact append_underscore_ne _ _ same.symm

theorem exists_listed {metric : String} (held : Holds measurement metric) :
    ∃ field, Service.fieldOf? measurement metric = some field ∧
      Listed measurement metric field := by
  cases held with
  | bare =>
    exact ⟨valueField, fieldOf?_bare measurement,
      fun _ => selects_metricName measurement valueField,
      fun shadowed => absurd shadowed (not_shadowed_bare measurement)⟩
  | @field name nonempty =>
    refine ⟨name, fieldOf?_field measurement name, fun clear => ?_, fun shadowed => ?_⟩
    · rw [shadowed_field_iff, not_or] at clear
      rw [← metricName_field nonempty clear.1 clear.2]
      exact selects_metricName measurement name
    · -- the name stands for the bare measurement, which is another metric
      have bare : metricName measurement name = measurement := by
        rcases shadowed_field_iff.1 shadowed with rfl | rfl <;> rfl
      have selects := selects_metricName measurement name
      rw [bare] at selects ⊢
      exact ⟨selects, (append_underscore_ne measurement name).symm⟩

theorem forall₂_listed {metrics : List String}
    (held : ∀ metric ∈ metrics, Holds measurement metric) :
    List.Forall₂ (Listed measurement) metrics
      (metrics.filterMap (Service.fieldOf? measurement)) := by
  induction metrics with
  | nil => exact .nil
  | cons metric others ih =>
    have ⟨first, rest⟩ := List.forall_mem_cons.1 held
    obtain ⟨field, found, listed⟩ := exists_listed first
    rw [List.filterMap_cons_some found]
    exact .cons listed (ih rest)

theorem mem_fields {metrics : List String} {field : String} (named : field ≠ "")
    (notAll : field ≠ wildcard) (present : metricName measurement field ∈ metrics) :
    field ∈ metrics.filterMap (Service.fieldOf? measurement) := by
  refine List.mem_filterMap.2 ⟨_, present, ?_⟩
  by_cases isValue : field = valueField
  · subst isValue
    exact fieldOf?_bare measurement
  · rw [metricName_field named isValue notAll, fieldOf?_field]

/-! ## Answers -/

def Service.labelPath (label : String) : String :=
  "/api/v1/label/" ++ Text.percentEncoded label ++ "/values"

def Service.labelAddress (service : Service) (label : String)
    (selector? : Option String) : String :=
  Http.withParameters (Http.below service.settings.url (labelPath label))
    (selector?.map fun selector => ("match[]", selector)).toList

section
variable {State : Type} {service : Service} {world : World (StateM State)} {metrics : LabelResult}
  {start later : State}

theorem run_labelValues {label : String} {selector? : Option String} {reply : Http.Reply}
    (addressed : Http.addressProblem? (service.labelAddress label selector?) = none)
    (replied : (world.http (.fetch (service.labelAddress label selector?))).run start =
      (.ok reply, later))
    (success : reply.status.isSuccess = true) (said : readLabels reply.body = .ok metrics) :
    (service.labelValues world.http label selector?).run.run start = (.ok metrics, later) := by
  have fetched : (service.fetch world.http (Service.labelPath label)
      (selector?.map fun selector => ("match[]", selector)).toList
      (Service.labelPath label)).run.run start = (.ok reply.body, later) := by
    rw [Service.fetch, ← Service.labelAddress, run_bind, Http.run_ask, Http.Request.fetch]
    dsimp only
    rw [addressed]
    dsimp only
    rw [StateT.run_map, ← Http.Request.fetch, replied]
    change StateT.run (if reply.status.isSuccess = true then pure reply.body else _ :
      ExceptT Failure (StateM State) String).run later = _
    rw [if_pos success]
    rfl
  have path : "/api/v1/label/" ++ Text.percentEncoded label ++ "/values" =
      Service.labelPath label := rfl
  rw [Service.labelValues, path, run_bind, fetched]
  dsimp only
  rw [said]
  rfl

theorem result_fieldKeys
    (returned : (service.labelValues world.http nameLabel
      (some (Service.fieldSelector measurement))).run.run start = (.ok metrics, later))
    (session : Rrd.Session) :
    ((Driver.prometheus service).metadata world (.fieldKeys measurement)).result session start =
      .ok (.ofValues (metrics.values.filterMap (Service.fieldOf? measurement))) := by
  rw [Driver.metadata, result_once, Service.metadata, run_bind, returned]
  rfl

/-- Of the metrics that a server names for a measurement, each is listed as one field, in their
order. Selecting a listed field reads its metric, unless the name of the field stands for the bare
measurement: then that is read, and not the metric. Every field whose metric is among them is
listed, but for the names that stand for no field of their own. -/
theorem fieldKeys_selected
    (returned : (service.labelValues world.http nameLabel
      (some (Service.fieldSelector measurement))).run.run start = (.ok metrics, later))
    (held : ∀ metric ∈ metrics.values, Holds measurement metric) (session : Rrd.Session) :
    ∃ fields,
      ((Driver.prometheus service).metadata world (.fieldKeys measurement)).result session start =
        .ok (.ofValues fields) ∧
      List.Forall₂ (Listed measurement) metrics.values fields ∧
      ∀ field, field ≠ "" → field ≠ wildcard → metricName measurement field ∈ metrics.values →
        field ∈ fields :=
  ⟨_, result_fieldKeys returned session, forall₂_listed held, fun _ named notAll present =>
    mem_fields named notAll present⟩

end

def namingAnswer (names : List String) : Value :=
  .object [("status", .string "success"), ("data", .ofTexts names)]

theorem envelope?_namingAnswer (names : List String) :
    envelope? (Tree.list? Tree.string?) (namingAnswer names).tree =
      some ⟨"success", some names, none, none⟩ := by
  have members : (namingAnswer names).tree.members? ["status", "data", "errorType", "error"] =
      some ⟨true, parts [("status", .string "success"), ("data", .ofTexts names)]⟩ := rfl
  have data : (Value.ofTexts names).tree.nullable? (Tree.list? Tree.string?) =
      some (some names) := by
    have present : (Value.ofTexts names).tree ≠ .null := by
      intro same
      cases same
    rw [nullable?_of_ne present, list?_ofTexts]
    rfl
  rw [envelope?, members, Option.bind_eq_bind, Option.bind_some]
  refine (bind_required (by rfl) (string?_string "success") _).trans ?_
  exact (bind_optional (by rfl) data _).trans rfl

theorem readLabels_namingAnswer (names : List String) :
    readLabels (namingAnswer names).compact = .ok (.ofValues names) := by
  rw [readLabels, readData, read?_compact, Option.bind_some, envelope?_namingAnswer]
  rfl

/-- Three metrics, one of which has the name of a field that stands for the bare measurement. -/
def shadowedNames : List String := ["cpu", "cpu_load_avg", "cpu_value"]

def namingWorld : World (StateM Scripted) :=
  Scripted.world .earliest (fun _ => .ok ⟨200, (namingAnswer shadowedNames).compact⟩)
    fun _ => .ok ()

theorem labelValues_namingWorld (start : Scripted) :
    ((Service.mk {}).labelValues namingWorld.http nameLabel
      (some (Service.fieldSelector "cpu"))).run.run start =
        (.ok (.ofValues shadowedNames), start) :=
  run_labelValues (by decide +kernel) rfl rfl (readLabels_namingAnswer shadowedNames)

theorem fieldKeys_selected_shadowed :
    let start := Scripted.ofTree .empty
    let metrics := LabelResult.ofValues shadowedNames
    ((Service.mk {}).labelValues namingWorld.http nameLabel
        (some (Service.fieldSelector "cpu"))).run.run start = (.ok metrics, start) ∧
      (∀ metric ∈ metrics.values, Holds "cpu" metric) ∧
      ∃ fields,
        ((Driver.prometheus ⟨{}⟩).metadata namingWorld (.fieldKeys "cpu")).result
          ⟨.notStarted, none⟩ start = .ok (.ofValues fields) ∧
        List.Forall₂ (Listed "cpu") metrics.values fields ∧ "load_avg" ∈ fields ∧
        ∃ field ∈ fields, Listed "cpu" "cpu_value" field ∧ Selects "cpu" field "cpu" := by
  intro start metrics
  have returned := labelValues_namingWorld start
  have load : Holds "cpu" ("cpu" ++ "_" ++ "load_avg") := .field (by decide)
  have value : Holds "cpu" ("cpu" ++ "_" ++ "value") := .field (by decide)
  have held : ∀ metric ∈ metrics.values, Holds "cpu" metric := by
    simp only [metrics, LabelResult.ofValues, shadowedNames, List.forall_mem_cons, List.not_mem_nil]
    exact ⟨.bare, load, value, nofun⟩
  obtain ⟨fields, listed, each, found⟩ := fieldKeys_selected returned held ⟨.notStarted, none⟩
  have average := found "load_avg" (by decide) (by decide) (by decide)
  refine ⟨returned, held, fields, listed, each, average, ?_⟩
  obtain _ | ⟨-, _ | ⟨-, _ | ⟨last, -⟩⟩⟩ := each
  exact ⟨_, by simp, last, (last.misses (.inl rfl)).1⟩

end SeriesQuery.Prometheus
