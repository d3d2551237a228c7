import Mathlib.Data.List.Destutter
import SeriesQuery.Proofs.Rrd.Resolution

/-!
Where reads look for what writes put down. A query that names fields of a point and gives its tags
finds the file of the point, and in it the data sources of these fields.
-/

set_option autoImplicit false

namespace SeriesQuery.Rrd

/-! ## Queries for a point -/

/-- That a tag has a value, joined to what stands before it. -/
structure TagEquality where
  tag : String
  value : String
  connective : Connective

namespace TagEquality

def pair (equality : TagEquality) : String × String := (equality.tag, equality.value)

def condition (equality : TagEquality) : Condition :=
  ⟨equality.tag, .equal, .scalar (.string equality.value), equality.connective⟩

end TagEquality

def pinned (measurement : String) (chosen : List String) (equalities : List TagEquality) : Query :=
  equalities.foldl
    (fun query equality =>
      query.filter equality.tag "=" (.scalar (.string equality.value)) equality.connective)
    ((Query.ofMeasurement measurement).select chosen)

theorem read?_equal : Operator.read? "=" = some .equal := by decide +kernel

theorem foldl_filter (equalities : List TagEquality) (query : Query) :
    equalities.foldl
      (fun query equality =>
        query.filter equality.tag "=" (.scalar (.string equality.value)) equality.connective)
      query =
    { query with conditions := query.conditions ++ equalities.map TagEquality.condition } := by
  induction equalities generalizing query with
  | nil => simp
  | cons equality rest ih =>
    have step : query.filter equality.tag "=" (.scalar (.string equality.value))
        equality.connective = query.condition equality.condition := by
      simp only [Query.filter, read?_equal]
      rfl
    rw [List.foldl_cons, step, ih]
    simp [Query.condition]

theorem pinned_eq {chosen : List String} (named : chosen ≠ []) (measurement : String)
    (equalities : List TagEquality) :
    pinned measurement chosen equalities = { Query.ofMeasurement measurement with
      fields := chosen, conditions := equalities.map TagEquality.condition } := by
  rw [pinned, foldl_filter]
  simp [Query.select, Query.ofMeasurement, named]

/-! ## The file -/

/-- The tags of the conditions are those of the point, in whatever order they stand. -/
theorem labelsOf_pinned {measurement : String} {chosen : List String} (named : chosen ≠ [])
    {equalities : List TagEquality} {tags : Tags}
    (each : (equalities.map TagEquality.pair).Perm tags.entries) (noTime : "time" ∉ tags.keys) :
    labelsOf (pinned measurement chosen equalities) = tags := by
  -- No condition is about the time, so each one gives its tag.
  have selects : ∀ equality ∈ equalities,
      (tag? ∘ TagEquality.condition) equality = some equality.pair := by
    intro equality member
    have known : equality.tag ∈ tags.keys :=
      (each.map (·.1)).mem_iff.1 (List.mem_map_of_mem (List.mem_map_of_mem member))
    have noTime : equality.condition.isTime = false :=
      beq_eq_false_iff_ne.2 fun same => noTime (same ▸ known)
    have tagged : (tag? ∘ TagEquality.condition) equality =
        if equality.condition.isTime then none else some equality.pair := rfl
    rw [tagged, noTime]
    rfl
  rw [labelsOf, pinned_eq named]
  dsimp only
  rw [List.filterMap_map, List.filterMap_eq_map_iff_forall_eq_some.2 selects]
  exact Dictionary.ofList_eq_of_perm each

/-! ## The data sources -/

theorem dropRepeats_eq_destutter (names : List String) :
    dropRepeats names = names.destutter (· ≠ ·) := by
  induction names with
  | nil => rfl
  | cons first rest ih =>
    cases rest with
    | nil => rfl
    | cons second rest =>
      by_cases same : first = second
      · rw [dropRepeats, if_pos same, ih, List.destutter_cons_cons, if_neg (not_not.2 same), same]
        rfl
      · rw [dropRepeats, if_neg same, ih, List.destutter_cons_cons, if_pos same]
        rfl

theorem sourceName_mem_sourceNames {store : Store} {point : Point}
    (passes : store.schemas.problem? point = none) {field : String}
    (known : field ∈ point.fields.keys) : sourceName field ∈ store.sourceNames point := by
  rw [sourceNames_eq]
  exact List.mem_map_of_mem (mem_declaredFields passes known)

/-! ## Reads of a point -/

theorem shapeError?_equalities (equalities : List TagEquality) :
    Query.shapeError? (equalities.map TagEquality.condition) = none := by
  induction equalities with
  | nil => rfl
  | cons equality rest ih => exact ih

theorem bucket_pinned {measurement : String} {chosen : List String} (named : chosen ≠ [])
    (equalities : List TagEquality) :
    (pinned measurement chosen equalities).bucket = .ok none := by
  rw [pinned_eq named]
  rfl

theorem checkCompilable_pinned {measurement : String} {chosen : List String} (named : chosen ≠ [])
    (equalities : List TagEquality) (visible : Text.isBlankText measurement = false) :
    (pinned measurement chosen equalities).checkCompilable = .ok () := by
  have sound : (pinned measurement chosen equalities).hardProblems = [] := by
    simp [pinned_eq named, Query.hardProblems, Query.hasMeasurement, Query.ofMeasurement, visible]
  have shaped : Query.shapeError? (pinned measurement chosen equalities).conditions = none := by
    rw [pinned_eq named]
    exact shapeError?_equalities equalities
  rw [Query.checkCompilable, if_neg (not_not.2 sound), shaped, bucket_pinned named]
  rfl

theorem fieldsOf_pinned (measurement : String) {chosen : List String} (named : chosen ≠ [])
    (equalities : List TagEquality) (explicit : ∀ field ∈ chosen, field ≠ wildcard) :
    fieldsOf (pinned measurement chosen equalities) =
      (chosen.map sourceName).destutter (· ≠ ·) := by
  have all : (pinned measurement chosen equalities).explicitFields = chosen := by
    rw [pinned_eq named]
    exact List.filter_eq_self.2 fun field member => bne_iff_ne.2 (explicit field member)
  have nonempty : (chosen.map sourceName).isEmpty = false := by simpa using named
  unfold fieldsOf
  rw [all]
  dsimp only
  rw [nonempty, dropRepeats_eq_destutter]
  rfl

theorem compile_named (layout : Layout) (base : String) (mode : Mode) {query : Query}
    (checked : query.checkCompilable = .ok ()) (whole : query.bucket = .ok none)
    (named : fieldsOf query ≠ []) :
    ∃ compiled, compile layout base mode query = .ok compiled ∧
      compiled.path = layout.path base query.measurement (labelsOf query) ∧
      compiled.fields = fieldsOf query ∧ compiled.explicitFields = true := by
  have nonempty : (fieldsOf query).isEmpty = false := by simpa using named
  unfold compile
  rw [checked, whole]
  exact ⟨_, rfl, rfl, by simp [nonempty], by simp [nonempty]⟩

/-- A read finds what a write of the point puts down, whatever the disk holds and the tool answers.
With the data sources that the first write declares, it reads those of the chosen fields and no
others. -/
structure Addresses (store : Store) (point : Point) (chosen : List String) (compiled : Compiled) :
    Prop where
  path : compiled.path = store.path point
  commands : ∀ {World : Type} (disk : Files.Disk (StateM World)) (run : Run (StateM World))
    (world : World), ∀ command ∈ store.issued disk run point world,
      command.path? = some compiled.path ∧ ∀ sources, command.declared? = some sources →
        (compiled.resolve sources).fields = (chosen.map sourceName).destutter (· ≠ ·)
  /-- The first write of a point that passes does declare data sources. -/
  created : store.schemas.problem? point = none →
    ∀ {World : Type} (disk : Files.Disk (StateM World)) (run : Run (StateM World)) (world : World),
      Store.Vacant disk compiled.path world →
        ∃ command ∈ store.issued disk run point world, command.declared?.isSome = true

/-- A query for named fields of a point, with one equality for each of its tags, in any order and
however joined, reads what a write of the point puts down. -/
theorem read_addresses_write (store : Store) (mode : Mode) {point : Point} {chosen : List String}
    {equalities : List TagEquality} (visible : Text.isBlankText point.measurement = false)
    (noTime : "time" ∉ point.tags.keys) (named : chosen ≠ [])
    (fields : ∀ field ∈ chosen, field ∈ point.fields.keys ∧ field ≠ wildcard)
    (each : (equalities.map TagEquality.pair).Perm point.tags.entries) :
    ∃ compiled, store.compile mode (pinned point.measurement chosen equalities) = .ok compiled ∧
      Addresses store point chosen compiled := by
  have fieldsMade := fieldsOf_pinned point.measurement named equalities
    fun field member => (fields field member).2
  have nonempty : fieldsOf (pinned point.measurement chosen equalities) ≠ [] := by
    simpa [fieldsMade, List.destutter_eq_nil] using named
  obtain ⟨compiled, compiles, path, sources, explicit⟩ :=
    compile_named store.settings.layout store.settings.dataDirectory mode
      (checkCompilable_pinned named equalities visible) (bucket_pinned named equalities) nonempty
  have path : compiled.path = store.path point := by
    rw [path, labelsOf_pinned named each noTime, pinned_eq named]
    rfl
  refine ⟨compiled, compiles, path, ?commands, ?created⟩
  case commands =>
    intro World disk run world command member
    -- A command was issued, so the point fits its schema, and the schema has all its fields.
    obtain ⟨passes, which⟩ := Store.mem_issued store disk run point member
    have declared : ∀ field ∈ compiled.fields, field ∈ store.sourceNames point := by
      intro field member
      rw [sources, fieldsMade] at member
      obtain ⟨name, isChosen, rfl⟩ := List.mem_map.1 ((List.destutter_sublist _ _).mem member)
      exact sourceName_mem_sourceNames passes (fields name isChosen).1
    rcases which with rfl | rfl
    · refine ⟨congrArg some path.symm, fun found same => ?_⟩
      rw [declared?_createCommand] at same
      obtain rfl := Option.some.inj same
      rw [fields_resolve explicit (sources ▸ nonempty) declared, sources, fieldsMade]
    · exact ⟨congrArg some path.symm, fun found same => by cases same⟩
  case created =>
    intro passes World disk run world vacant
    rw [path] at vacant
    obtain ⟨field, isChosen⟩ := List.exists_mem_of_ne_nil chosen named
    have content : point.fields.isEmpty = false := by
      refine List.isEmpty_eq_false_iff.2 fun empty => ?_
      have known := (fields field isChosen).1
      rw [Dictionary.keys, empty] at known
      cases known
    exact ⟨_, Store.create_mem_issued store disk run point content passes vacant, rfl⟩

/-- Series of hosts in directories, with a schema for one measurement. -/
def hostStore : Store where
  settings := { dataDirectory := "/data", layout := .folder }
  schemas := .ofList [("cpu", ⟨.ofList [("cores", .integer), ("idle", .float), ("usage %", .float)],
    .ofList [("host", ())]⟩)]

def hostPoint : Point where
  measurement := "cpu"
  fields := .ofList [("usage %", .integer 3), ("cores", .integer 8)]
  tags := .ofList [("host", "a"), ("dc", "eu/1")]
  timestamp := ⟨1698408000, 0, by decide⟩

theorem read_addresses_write_host :
    Text.isBlankText hostPoint.measurement = false ∧ "time" ∉ hostPoint.tags.keys ∧
      (∀ field ∈ ["usage %", "usage %", "cores"],
        field ∈ hostPoint.fields.keys ∧ field ≠ wildcard) ∧
      (([⟨"host", "a", .or⟩, ⟨"dc", "eu/1", .or⟩] : List TagEquality).map TagEquality.pair).Perm
        hostPoint.tags.entries ∧
      hostStore.schemas.problem? hostPoint = none ∧
      ∃ compiled, hostStore.compile .xport (pinned hostPoint.measurement
          ["usage %", "usage %", "cores"] [⟨"host", "a", .or⟩, ⟨"dc", "eu/1", .or⟩]) = .ok compiled ∧
        Addresses hostStore hostPoint ["usage %", "usage %", "cores"] compiled ∧
        Store.Vacant bareDisk compiled.path () := by
  have visible : Text.isBlankText hostPoint.measurement = false := by decide
  have noTime : "time" ∉ hostPoint.tags.keys := by decide
  have fields : ∀ field ∈ ["usage %", "usage %", "cores"],
      field ∈ hostPoint.fields.keys ∧ field ≠ wildcard := by decide
  have each : (([⟨"host", "a", .or⟩, ⟨"dc", "eu/1", .or⟩] : List TagEquality).map
      TagEquality.pair).Perm hostPoint.tags.entries := by decide
  obtain ⟨compiled, compiles, addresses⟩ :=
    read_addresses_write hostStore .xport visible noTime (by decide) fields each
  have missing : Files.Tree.empty.occupied (hostStore.path hostPoint) = .ok false := by
    decide +kernel
  refine ⟨visible, noTime, fields, each, by decide, compiled, compiles, addresses, ?_, ?_⟩
  · rw [addresses.path]
    exact missing
  · exact fun _ _ => rfl

end SeriesQuery.Rrd
