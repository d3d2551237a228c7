import Mathlib.Data.List.Sort
import SeriesQuery.Proofs.Graphite.Reads
import SeriesQuery.Proofs.Influx.Lines
import SeriesQuery.Proofs.Rrd.FirstWrites
import SeriesQuery.Proofs.Text.Bytes

/-!
What is written of a point. It goes by what was last set under each key, whatever the order of the
calls was, and it has the keys in the order of their bytes.
-/

set_option autoImplicit false

namespace SeriesQuery

/-! ## Keys in order -/

/-- Keys in the order of their bytes, as they are before anything in them is replaced. -/
def InByteOrder (keys : List String) : Prop :=
  keys.Pairwise fun first second => Text.bytes first < Text.bytes second

theorem InByteOrder.nodup {keys : List String} (order : InByteOrder keys) : keys.Nodup := by
  refine order.imp fun less same => ?_
  rw [same] at less
  exact List.lt_irrefl _ less

theorem InByteOrder.increase {keys : List String} (order : InByteOrder keys) :
    keys.Pairwise (· < ·) :=
  order.imp Text.bytes_lt_iff.1

theorem InByteOrder.sublist {keys others : List String} (order : InByteOrder keys)
    (otherOrder : InByteOrder others) (subset : keys ⊆ others) : keys.Sublist others := by
  have antisymm : Std.Antisymm ((· < ·) : String → String → Prop) :=
    ⟨fun _ _ less greater => absurd greater (String.lt_asymm less)⟩
  have subperm := List.subperm_of_subset order.nodup subset
  exact List.sublist_of_subperm_of_pairwise subperm order.increase otherOrder.increase

variable {Value : Type}

structure Lists (value? : String → Option Value) (entries : List (String × Value)) : Prop where
  order : InByteOrder (entries.map (·.1))
  distinct : (entries.map (·.1)).Nodup
  values : ∀ key value, (key, value) ∈ entries ↔ value? key = some value

theorem Dictionary.inByteOrder_keys (dictionary : Dictionary Value) :
    InByteOrder dictionary.keys :=
  List.pairwise_map.2 (dictionary.increase.imp Text.bytes_lt_iff.2)

theorem Dictionary.lists (dictionary : Dictionary Value) :
    Lists dictionary.get? dictionary.entries where
  order := dictionary.inByteOrder_keys
  distinct := dictionary.nodup_keys
  values _ _ := mem_entries_iff

/-! ## Outputs -/

theorem Rrd.Store.inByteOrder_declaredFields (store : Rrd.Store) (point : Point) :
    InByteOrder (store.declaredFields point) := by
  unfold declaredFields
  cases store.schemas.get? point.measurement with
  | none => exact point.fields.inByteOrder_keys
  | some schema => exact schema.fields.inByteOrder_keys

structure Serialised (point : Point) (tags : List (String × String))
    (fields : List (String × FieldValue)) : Prop where
  line : ∀ precision text, Influx.line precision point = .ok text →
    ∃ names timestamp, List.Forall₂ Influx.FieldSpelled fields names ∧
      precision.timestamp? point.timestamp = some timestamp ∧
      text.toList =
        Influx.listed (point.measurement.toList ::
          (tags.filter fun tag => !tag.2.isEmpty).map Influx.tagName) ++
        ' ' :: (Influx.listed names ++ ' ' :: (toString timestamp).toList)
  plaintext : ∀ root? written, Graphite.lines root? point = .ok written →
    List.Forall₂ (fun field text => ∃ value, Graphite.valueText field.1 field.2 = .ok value ∧
      text = Graphite.writtenName root? point.measurement field.1 ++
        String.join (tags.map fun tag => Graphite.tagText tag.1 tag.2) ++ " " ++ value ++ " " ++
          toString point.timestamp.seconds) fields written
  flat : ∀ base, Rrd.Layout.flat.path base point.measurement point.tags =
    Files.join base (Rrd.fileName ("__".intercalate (Rrd.component point.measurement ::
      tags.map fun tag => Rrd.pairText tag.1 tag.2)))
  folder : ∀ base, Rrd.Layout.folder.path base point.measurement point.tags =
    Files.joinAll base (Rrd.component point.measurement ::
      (tags.map fun tag => Rrd.pairText tag.1 tag.2) ++
        [Rrd.fileName (Rrd.component point.measurement)])
  untagged : ∀ base, Rrd.Layout.untagged.path base point.measurement point.tags =
    Files.join base (Rrd.fileName (Rrd.component point.measurement))
  create : ∀ store : Rrd.Store, ∃ declared, InByteOrder declared ∧
    (store.createCommand point).declared? = some (declared.map Rrd.sourceName) ∧
    (store.schemas.get? point.measurement = none → declared = fields.map (·.1)) ∧
    (store.schemas.problem? point = none → (fields.map (·.1)).Sublist declared)
  update : ∀ store : Rrd.Store, ∃ row,
    store.updateCommand point =
      .update (store.path point) (fields.map fun field => Rrd.sourceName field.1) [row] ∧
    Text.splitAt ':' row = toString point.timestamp.seconds ::
      fields.map fun field => Decimal.plain field.2.toFloat

theorem serialised (point : Point) :
    Serialised point point.tags.entries point.fields.entries where
  line precision text accepted := by
    obtain ⟨names, timestamp, spelled⟩ := Influx.exists_spelled accepted
    exact ⟨names, timestamp, spelled.fields, spelled.stamped, spelled.text⟩
  plaintext _ _ accepted := (Graphite.lines_eq accepted).2
  flat _ := rfl
  folder _ := rfl
  untagged _ := rfl
  create store := by
    refine ⟨store.declaredFields point, store.inByteOrder_declaredFields point, ?_, ?_, ?_⟩
    · rw [Rrd.declared?_createCommand, Rrd.sourceNames_eq]
    · intro unknown
      rw [Rrd.Store.declaredFields, unknown]
      rfl
    · intro passes
      exact point.fields.inByteOrder_keys.sublist (store.inByteOrder_declaredFields point)
        fun field known => Rrd.mem_declaredFields passes known
  update store := by
    refine ⟨Rrd.Store.updateRow point, ?_, Rrd.splitAt_updateRow point⟩
    rw [Rrd.Store.updateCommand, Dictionary.keys, List.map_map]
    rfl

/-- Everything that can be written of two points is the same. -/
structure WrittenAlike (first second : Point) : Prop where
  line : ∀ precision, Influx.line precision first = Influx.line precision second
  plaintext : ∀ root?, Graphite.lines root? first = Graphite.lines root? second
  path : ∀ (layout : Rrd.Layout) base,
    layout.path base first.measurement first.tags = layout.path base second.measurement second.tags
  create : ∀ store : Rrd.Store, store.createCommand first = store.createCommand second
  update : ∀ store : Rrd.Store, store.updateCommand first = store.updateCommand second

theorem WrittenAlike.refl (point : Point) : WrittenAlike point point :=
  ⟨fun _ => rfl, fun _ => rfl, fun _ _ => rfl, fun _ => rfl, fun _ => rfl⟩

/-- Calls in any order write the same of a point, if the last ones for each key set the same value.
Its keys are written in the order of their bytes. -/
theorem build_serialised {start other : Point} {steps others : List PointStep}
    (measurement : start.measurement = other.measurement)
    (timestamp : start.timestamp = other.timestamp)
    (tags : ∀ key, start.lastTag? steps key = other.lastTag? others key)
    (fields : ∀ key, start.lastField? steps key = other.lastField? others key) :
    WrittenAlike (start.build steps) (other.build others) ∧
      ∃ tags fields, Lists (start.lastTag? steps) tags ∧ Lists (start.lastField? steps) fields ∧
        Serialised (start.build steps) tags fields := by
  have same : start.build steps = other.build others :=
    Point.build_eq measurement timestamp tags fields
  have tagged : (start.build steps).tags.get? = start.lastTag? steps :=
    funext (start.tag_build steps)
  have fielded : (start.build steps).fields.get? = start.lastField? steps :=
    funext (start.field_build steps)
  constructor
  · rw [same]
    exact .refl _
  · refine ⟨(start.build steps).tags.entries, (start.build steps).fields.entries, ?_, ?_,
      serialised _⟩
    · rw [← tagged]
      exact (start.build steps).tags.lists
    · rw [← fielded]
      exact (start.build steps).fields.lists

/-- Load of a machine, with a tag that is set twice. -/
def loadSteps : List PointStep :=
  [.tag "host" "a", .field "usage" (.integer 7), .tag "host" "b", .field "idle" (.integer 3),
    .tag "dc" "eu"]

/-- The same load, with a field that is set twice. -/
def otherLoadSteps : List PointStep :=
  [.field "idle" (.integer 9), .tag "dc" "eu", .tag "host" "b", .field "idle" (.integer 3),
    .field "usage" (.integer 7)]

theorem build_serialised_load :
    let start := Point.ofMeasurement "cpu" ⟨1698408000, 0, by decide⟩
    (∀ key, start.lastTag? loadSteps key = start.lastTag? otherLoadSteps key) ∧
      (∀ key, start.lastField? loadSteps key = start.lastField? otherLoadSteps key) ∧
      WrittenAlike (start.build loadSteps) (start.build otherLoadSteps) ∧
      Influx.line .seconds (start.build otherLoadSteps) =
        .ok "cpu,dc=eu,host=b idle=3i,usage=7i 1698408000" := by
  intro start
  have tags : ∀ key, start.lastTag? loadSteps key = start.lastTag? otherLoadSteps key := by
    intro key
    by_cases host : "host" = key
    · subst host
      rfl
    · by_cases dc : "dc" = key
      · subst dc
        rfl
      · simp [Point.lastTag?, loadSteps, otherLoadSteps, List.findSome?_cons, PointStep.tag?,
          host, dc]
  have fields : ∀ key, start.lastField? loadSteps key = start.lastField? otherLoadSteps key := by
    intro key
    by_cases idle : "idle" = key
    · subst idle
      rfl
    · by_cases usage : "usage" = key
      · subst usage
        rfl
      · simp [Point.lastField?, loadSteps, otherLoadSteps, List.findSome?_cons, PointStep.field?,
          idle, usage]
  obtain ⟨alike, -⟩ := build_serialised rfl rfl tags fields
  refine ⟨tags, fields, alike, ?_⟩
  rw [← alike.line]
  decide +kernel

end SeriesQuery
