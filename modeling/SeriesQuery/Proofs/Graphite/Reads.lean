import SeriesQuery.Graphite.Compiler
import SeriesQuery.Graphite.Plaintext
import SeriesQuery.Proofs.Outcomes
import SeriesQuery.Proofs.Points
import SeriesQuery.Proofs.Text.Escapes

/-!
Reads of what was written. Lines replace the points and the white space of names, and reads take
names as they are: a path of several components is no name of a series that was written, but reads
must reach it too.
-/

set_option autoImplicit false

namespace SeriesQuery.Graphite

/-! ## Components -/

def Single (text : String) : Prop := ∀ c ∈ text.toList, c ≠ '.' ∧ Text.isBlank c = false

instance (text : String) : Decidable (Single text) :=
  inferInstanceAs (Decidable (∀ c ∈ text.toList, c ≠ '.' ∧ Text.isBlank c = false))

theorem toList_component (text : String) :
    (component text).toList =
      text.toList.map fun c => if c = '.' || Text.isBlank c then '_' else c := by
  rw [component, String.toList_map]

theorem single_component (text : String) : Single (component text) := by
  intro c member
  rw [toList_component, List.mem_map] at member
  obtain ⟨d, -, rfl⟩ := member
  split
  · decide
  · next other => simpa using other

theorem component_eq_self_iff {text : String} : component text = text ↔ Single text := by
  constructor
  · intro same
    exact same ▸ single_component text
  · intro single
    apply String.toList_inj.1
    rw [toList_component]
    refine (List.map_congr_left fun c member => ?_).trans (List.map_id _)
    have ⟨noPoint, noBlank⟩ := single c member
    simp [noPoint, noBlank]

theorem length_component (text : String) : (component text).toList.length = text.toList.length := by
  rw [toList_component, List.length_map]

theorem component_ne_wildcard {text : String} (other : text ≠ wildcard) :
    component text ≠ wildcard := by
  intro same
  have star : (component text).toList = ['*'] := by rw [same]; rfl
  rw [toList_component, List.map_eq_singleton_iff] at star
  obtain ⟨c, written, replaced⟩ := star
  split at replaced
  · exact absurd replaced (by decide)
  · exact other (String.toList_inj.1 (written.trans (by rw [replaced]; rfl)))

/-! ## Names -/

def writtenName (root? : Option String) (measurement field : String) : String :=
  writtenBase root? measurement ++ "." ++ component field

def readName (root? : Option String) (measurement field : String) : String :=
  basePath root? measurement ++ "." ++ field

def nameStart (root? : Option String) (measurement : String) : String :=
  basePath root? measurement ++ "."

theorem exists_above (root? : Option String) :
    ∃ above, ∀ measurement, basePath root? measurement = above ++ measurement := by
  unfold basePath
  cases root? with
  | none => exact ⟨"", fun measurement => (String.empty_append).symm⟩
  | some root =>
    dsimp only
    split
    · exact ⟨"", fun measurement => (String.empty_append).symm⟩
    · exact ⟨root ++ ".", fun measurement => rfl⟩

theorem writtenName_eq (root? : Option String) (measurement field : String) :
    writtenName root? measurement field =
      readName root? (component measurement) (component field) := rfl

theorem readName_eq_writtenName_iff {root? : Option String} {measurement field : String} :
    readName root? measurement field = writtenName root? measurement field ↔
      Single measurement ∧ Single field := by
  rw [← component_eq_self_iff, ← component_eq_self_iff, writtenName_eq]
  constructor
  · -- A component is as long as the name that it stands for, so the names end at the same places.
    intro same
    obtain ⟨above, written⟩ := exists_above root?
    rw [readName, readName, written, written, String.append_assoc, String.append_assoc,
      String.append_assoc, String.append_assoc, String.append_right_inj] at same
    have same := congrArg String.toList same
    simp only [String.toList_append] at same
    obtain ⟨measurements, rest⟩ := List.append_inj same (length_component measurement).symm
    exact ⟨(String.toList_inj.1 measurements).symm,
      (String.toList_inj.1 (List.append_cancel_left rest)).symm⟩
  · rintro ⟨measurements, fields⟩
    rw [measurements, fields]

theorem nameStart_prefix_readName (root? : Option String) (measurement field : String) :
    (nameStart root? measurement).toList <+: (readName root? measurement field).toList :=
  ⟨field.toList, String.toList_append.symm⟩

theorem nameStart_prefix_iff {root? : Option String} {measurement field : String} :
    (nameStart root? measurement).toList <+: (writtenName root? measurement field).toList ↔
      Single measurement := by
  rw [← component_eq_self_iff, writtenName_eq]
  constructor
  · intro starts
    obtain ⟨above, written⟩ := exists_above root?
    rw [nameStart, readName, written, written] at starts
    simp only [String.toList_append, List.append_assoc] at starts
    rw [List.prefix_append_right_inj] at starts
    have both := (List.prefix_append measurement.toList _).trans starts
    have same := List.prefix_of_prefix_length_le both (List.prefix_append _ _)
      (length_component measurement).ge
    exact (String.toList_inj.1 (same.eq_of_length (length_component measurement).symm)).symm
  · intro same
    rw [same]
    exact nameStart_prefix_readName _ _ _

/-! ## Lines -/

/-- What stands behind the name of each series of a point. -/
def tagSuffix (point : Point) : String :=
  String.join (point.tags.entries.map fun (key, value) => tagText key value)

/-- A character of a name, for a reader of lines. -/
def isNamed (c : Char) : Bool := c != ';' && c != ' '

theorem tagSuffix_start (point : Point) :
    tagSuffix point = "" ∨ (tagSuffix point).toList.head? = some ';' := by
  unfold tagSuffix
  induction point.tags.entries with
  | nil => exact .inl rfl
  | cons tag tags ih =>
    obtain ⟨key, value⟩ := tag
    rw [List.map_cons, String.join_cons]
    by_cases empty : value = ""
    · subst empty
      simpa [tagText] using ih
    · exact .inr (by simp [tagText, empty])

theorem stops_tagSuffix (point : Point) (rest : List Char) :
    Stops isNamed ((tagSuffix point).toList ++ ' ' :: rest) := by
  rcases tagSuffix_start point with none | starts
  · rw [none]
    exact stops_cons rfl rest
  · obtain ⟨tags, written⟩ := List.head?_eq_some_iff.1 starts
    rw [written]
    exact stops_cons rfl _

theorem lines_eq {root? : Option String} {point : Point} {written : List String}
    (accepted : lines root? point = .ok written) :
    point.measurement ≠ "" ∧ List.Forall₂ (fun field text => ∃ value,
      valueText field.1 field.2 = .ok value ∧
        text = writtenName root? point.measurement field.1 ++ tagSuffix point ++ " " ++ value ++
          " " ++ toString point.timestamp.seconds) point.fields.entries written := by
  unfold lines at accepted
  obtain ⟨_, checked, made⟩ := exists_of_bind accepted
  refine ⟨(Point.checkContent_eq_ok_iff.1 checked).1, ?_⟩
  refine (forall₂_of_mapM made).imp fun field text each => ?_
  obtain ⟨value, printed, same⟩ := exists_of_bind each
  cases same
  exact ⟨value, printed, rfl⟩

/-! ## Reads -/

def Reads (root? : Option String) (measurement field name : String) : Prop :=
  ∃ compiled, compile root? ((Query.ofMeasurement measurement).select [field]) = .ok compiled ∧
    compiled.target = name

/-- The lookups of tags for a measurement search for names that start with a text. -/
def Seeks (root? : Option String) (measurement start : String) : Prop :=
  compileMetadata root? (.tagKeys measurement) =
      .tagKeys ("name=~^" ++ Text.literalPattern start) ∧
    ∀ tag, compileMetadata root? (.tagValues measurement tag) =
      .tagValues tag ("name=~^" ++ Text.literalPattern start)

theorem compile_select {measurement field : String} (named : Text.isBlankText measurement = false)
    (other : field ≠ wildcard) (root? : Option String) :
    compile root? ((Query.ofMeasurement measurement).select [field]) =
      .ok ⟨readName root? measurement field, "-1h", "now", none⟩ := by
  have checked : ((Query.ofMeasurement measurement).select [field]).checkCompilable = .ok () := by
    simp [Query.checkCompilable, Query.hardProblems, Query.hasMeasurement, Query.ofMeasurement,
      Query.select, Query.shapeError?, Query.bucket, Except.map, named]
  have explicit : ((Query.ofMeasurement measurement).select [field]).explicitFields = [field] := by
    simp [Query.explicitFields, Query.ofMeasurement, Query.select, other]
  have selected : selection root? ((Query.ofMeasurement measurement).select [field]) =
      .path (readName root? measurement field) := by
    rw [selection, explicit]
    exact congrArg Target.path String.ofList_toList
  unfold compile target
  rw [checked]
  change Except.ok (Compiled.mk (Target.text (selection root? _)) _ _ _) = _
  rw [selected]
  rfl

theorem named_of_compile {root? : Option String} {query : Query} {compiled : Compiled}
    (made : compile root? query = .ok compiled) : Text.isBlankText query.measurement = false := by
  obtain ⟨_, made, -⟩ := exists_of_bind made
  obtain ⟨_, checked, -⟩ := exists_of_bind made
  cases blank : Text.isBlankText query.measurement with
  | false => rfl
  | true =>
    rw [Query.checkCompilable, if_pos (by simp [Query.hardProblems, Query.hasMeasurement, blank])]
      at checked
    cases checked

theorem reads_iff {root? : Option String} {measurement field name : String}
    (other : field ≠ wildcard) :
    Reads root? measurement field name ↔
      Text.isBlankText measurement = false ∧ readName root? measurement field = name := by
  constructor
  · rintro ⟨compiled, made, rfl⟩
    have named : Text.isBlankText measurement = false := named_of_compile made
    rw [compile_select named other] at made
    cases made
    exact ⟨named, rfl⟩
  · rintro ⟨named, rfl⟩
    exact ⟨_, compile_select named other root?, rfl⟩

theorem literalPattern_append (first last : String) :
    Text.literalPattern (first ++ last) =
      Text.literalPattern first ++ Text.literalPattern last := by
  rw [Text.literalPattern, String.toList_append, List.flatMap_append, String.ofList_append]
  rfl

theorem literalPattern_injective : Function.Injective Text.literalPattern := by
  intro first second same
  have same : escaped Text.isPatternSign first.toList = escaped Text.isPatternSign second.toList :=
    String.ofList_injective same
  exact String.toList_inj.1 (escaped_injective same)

theorem nameExpression_eq (root? : Option String) (measurement : String) :
    nameExpression root? measurement =
      "name=~^" ++ Text.literalPattern (nameStart root? measurement) := by
  rw [nameExpression, nameStart, literalPattern_append, String.append_assoc]
  rfl

theorem seeks_iff {root? : Option String} {measurement start : String} :
    Seeks root? measurement start ↔ start = nameStart root? measurement := by
  have expression := nameExpression_eq root? measurement
  constructor
  · rintro ⟨same, -⟩
    have same := Lookup.tagKeys.inj same
    rw [expression, String.append_right_inj] at same
    exact (literalPattern_injective same).symm
  · rintro rfl
    exact ⟨congrArg Lookup.tagKeys expression,
      fun tag => congrArg (Lookup.tagValues tag) expression⟩

/-! ## Reads of lines -/

theorem not_blank_of_single {text : String} (single : Single text) (nonempty : text ≠ "") :
    Text.isBlankText text = false := by
  rw [Text.isBlankText, List.all_eq_false]
  obtain ⟨c, member⟩ := List.exists_mem_of_ne_nil _ (mt String.toList_eq_nil_iff.1 nonempty)
  exact ⟨c, member, by simp [(single c member).2]⟩

theorem component_ne_empty {text : String} (nonempty : text ≠ "") : component text ≠ "" := by
  intro empty
  have none := congrArg String.toList empty
  rw [toList_component] at none
  exact nonempty (String.toList_inj.1 (List.map_eq_nil_iff.1 none))

/-- A line about a field, and the reads that find its series: those of the components that stand for
the measurement and the field, and those of the measurement and the field where nothing stands for
them but themselves. -/
structure Found (root? : Option String) (point : Point) (field text : String) : Prop where
  line : ∃ value, text = writtenName root? point.measurement field ++ tagSuffix point ++ " " ++
    value ++ " " ++ toString point.timestamp.seconds
  name : (∀ c ∈ (writtenName root? point.measurement field).toList, isNamed c = true) →
    text.toList.takeWhile isNamed = (writtenName root? point.measurement field).toList
  query : field ≠ wildcard → Reads root? (component point.measurement) (component field)
    (writtenName root? point.measurement field)
  lookup : ∃ start, Seeks root? (component point.measurement) start ∧
    start.toList <+: (writtenName root? point.measurement field).toList
  ownQuery : field ≠ wildcard →
    (Reads root? point.measurement field (writtenName root? point.measurement field) ↔
      Single point.measurement ∧ Single field)
  ownLookup : (∃ start, Seeks root? point.measurement start ∧
    start.toList <+: (writtenName root? point.measurement field).toList) ↔
      Single point.measurement

theorem exists_seeks_iff {root? : Option String} {measurement name : String} :
    (∃ start, Seeks root? measurement start ∧ start.toList <+: name.toList) ↔
      (nameStart root? measurement).toList <+: name.toList := by
  simp only [seeks_iff, exists_eq_left]

/-- Reads look where a point was written. -/
theorem lines_found {root? : Option String} {point : Point} {written : List String}
    (accepted : lines root? point = .ok written) :
    (tagSuffix point = "" ∨ (tagSuffix point).toList.head? = some ';') ∧
      List.Forall₂ (fun field text => Found root? point field.1 text) point.fields.entries
        written := by
  obtain ⟨nonempty, each⟩ := lines_eq accepted
  refine ⟨tagSuffix_start point, each.imp ?_⟩
  rintro ⟨field, value⟩ text ⟨printed, -, rfl⟩
  have single := single_component point.measurement
  constructor
  · exact ⟨printed, rfl⟩
  · intro all
    have behind := stops_tagSuffix point
      (printed ++ " " ++ toString point.timestamp.seconds).toList
    simp only [String.toList_append, List.append_assoc] at behind ⊢
    rw [List.takeWhile_append_of_pos all]
    exact (congrArg _ (takeWhile_of_stops behind)).trans (List.append_nil _)
  · exact fun other => (reads_iff (component_ne_wildcard other)).2
      ⟨not_blank_of_single single (component_ne_empty nonempty), rfl⟩
  · exact exists_seeks_iff.2 (nameStart_prefix_readName _ _ _)
  · intro other
    rw [reads_iff other, readName_eq_writtenName_iff]
    exact ⟨And.right, fun singles => ⟨not_blank_of_single singles.1 nonempty, singles⟩⟩
  · rw [exists_seeks_iff, nameStart_prefix_iff]

def diskPoint (measurement : String) : Point where
  measurement
  fields := .ofList [("read.bytes", .integer 7), ("util", .integer 3)]
  tags := .ofList [("mount", "/var lib")]
  timestamp := ⟨1698404400, 0, by decide⟩

theorem lines_found_disk :
    (lines (some "stats") (diskPoint "disk")).isOk ∧
      Reads (some "stats") "disk" "util" "stats.disk.util" ∧
      Reads (some "stats") "disk" "read_bytes" "stats.disk.read_bytes" ∧
      ¬ Reads (some "stats") "disk" "read.bytes" "stats.disk.read_bytes" := by
  have accepted : lines (some "stats") (diskPoint "disk") =
      .ok ["stats.disk.read_bytes;mount=/var_lib 7 1698404400",
        "stats.disk.util;mount=/var_lib 3 1698404400"] := by
    decide +kernel
  have fields : (diskPoint "disk").fields.entries =
      [("read.bytes", .integer 7), ("util", .integer 3)] := by decide +kernel
  have each := (lines_found accepted).2
  rw [fields] at each
  obtain - | ⟨bytes, - | ⟨util, -⟩⟩ := each
  have disk : component "disk" = "disk" := by decide +kernel
  have bytesPart : component "read.bytes" = "read_bytes" := by decide +kernel
  have utilPart : component "util" = "util" := by decide +kernel
  have bytesName : writtenName (some "stats") "disk" "read.bytes" = "stats.disk.read_bytes" := by
    decide +kernel
  have utilName : writtenName (some "stats") "disk" "util" = "stats.disk.util" := by
    decide +kernel
  refine ⟨by rw [accepted]; rfl, ?_, ?_, ?_⟩
  · simpa only [diskPoint, disk, utilPart, utilName] using util.query (by decide)
  · simpa only [diskPoint, disk, bytesPart, bytesName] using bytes.query (by decide)
  · have own := bytes.ownQuery (by decide)
    simp only [diskPoint, bytesName] at own
    rw [own]
    decide +kernel

/-- Nothing that is read of a measurement or a field with a space or a point is where it was
written. -/
theorem lines_missed :
    lines none (diskPoint "disk io") =
        .ok ["disk_io.read_bytes;mount=/var_lib 7 1698404400",
          "disk_io.util;mount=/var_lib 3 1698404400"] ∧
      compile none ((Query.ofMeasurement "disk io").select ["read.bytes"]) =
        .ok ⟨"disk io.read.bytes", "-1h", "now", none⟩ ∧
      compileMetadata none (.tagKeys "disk io") = .tagKeys "name=~^disk io\\." ∧
      ¬ "disk io.".toList <+: "disk_io.read_bytes".toList := by
  decide +kernel

end SeriesQuery.Graphite
