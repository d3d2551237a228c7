import SeriesQuery.Proofs.Rrd.Variables
import SeriesQuery.Proofs.Text.Escapes

/-!
Definitions of data sources. Colons divide a definition, and those of the path are told from the
dividing ones by a backslash. A backslash of the path that stands before a colon is not taken for
one of these, and none ends the path, so a definition has four parts and tells which path it is of.
-/

set_option autoImplicit false

namespace SeriesQuery.Rrd

/-! ## Parts of statements -/

def isColon (c : Char) : Bool := c == ':'

/-- The stretches between colons that have no backslash before them. Whether one stands before the
first character is told from outside. -/
def splitColons (afterBackslash : Bool) : List Char → List (List Char)
  | [] => [[]]
  | c :: rest =>
    if isColon c && !afterBackslash then [] :: splitColons false rest
    else (splitColons (c == '\\') rest).modifyHead (c :: ·)

def partsOf (statement : String) : List String :=
  (splitColons false statement.toList).map String.ofList

/-- The text without the backslashes that stand before colons. -/
def dropEscapes : List Char → List Char
  | [] => []
  | '\\' :: ':' :: rest => ':' :: dropEscapes rest
  | c :: rest => c :: dropEscapes rest

def unescapeColons (text : String) : String := String.ofList (dropEscapes text.toList)

theorem toList_escapeColons (text : String) :
    (escapeColons text).toList = escaped isColon text.toList := by
  have each (c : Char) : (if c = ':' then ['\\', ':'] else [c]) =
      if isColon c then ['\\', c] else [c] := by
    by_cases colon : c = ':' <;> simp [isColon, colon]
  rw [escapeColons, Text.toList_replaceEach, escaped]
  exact List.flatMap_congr fun c _ => each c

theorem splitColons_escaped_append {text : List Char} (told : text.getLast? ≠ some '\\')
    {afterBackslash : Bool} (start : text = [] → afterBackslash = false) (rest : List Char) :
    splitColons afterBackslash (escaped isColon text ++ rest) =
      (splitColons false rest).modifyHead (escaped isColon text ++ ·) := by
  induction text generalizing afterBackslash with
  | nil =>
    rw [start rfl]
    exact (congrFun List.modifyHead_id _).symm
  | cons c text ih =>
    have toldRest : text.getLast? ≠ some '\\' := by
      intro last
      exact told (by rw [List.getLast?_cons, last]; rfl)
    by_cases colon : isColon c = true
    · cases beq_iff_eq.1 colon
      rw [escaped_cons_of_special colon, List.cons_append, List.cons_append]
      simp [splitColons, isColon, ih toldRest fun _ => rfl, Function.comp_def]
    · have other : isColon c = false := Bool.eq_false_iff.2 colon
      -- What stands before the rest is this character only where the text ends with it, and then it
      -- is no backslash.
      have next : text = [] → (c == '\\') = false := by
        rintro rfl
        exact beq_eq_false_iff_ne.2 fun same => told (congrArg some same)
      rw [escaped_cons other, List.cons_append, splitColons, other, ih toldRest next]
      simp [Function.comp_def]

theorem splitColons_escaped {first : List Char} {others : List (List Char)}
    (told : ∀ text ∈ first :: others, text.getLast? ≠ some '\\') :
    splitColons false
        (escaped isColon first ++ others.flatMap fun other => ':' :: escaped isColon other) =
      (first :: others).map (escaped isColon) := by
  induction others generalizing first with
  | nil =>
    rw [splitColons_escaped_append (told first List.mem_cons_self) fun _ => rfl]
    simp [splitColons]
  | cons second rest ih =>
    have ⟨toldFirst, told⟩ := List.forall_mem_cons.1 told
    rw [splitColons_escaped_append toldFirst fun _ => rfl, List.flatMap_cons, List.cons_append]
    simp [splitColons, isColon, ih told]

theorem partsOf_intercalate {first : String} {others : List String}
    (told : ∀ text ∈ first :: others, text.toList.getLast? ≠ some '\\') :
    partsOf (":".intercalate ((first :: others).map escapeColons)) =
      (first :: others).map escapeColons := by
  have told : ∀ text ∈ first.toList :: others.map String.toList, text.getLast? ≠ some '\\' := by
    intro text member
    rw [← List.map_cons] at member
    obtain ⟨text, known, rfl⟩ := List.mem_map.1 member
    exact told text known
  have written : (":".intercalate ((first :: others).map escapeColons)).toList =
      escaped isColon first.toList ++
        (others.map String.toList).flatMap fun other => ':' :: escaped isColon other := by
    rw [List.map_cons, toList_intercalate_cons, List.flatMap_map, List.flatMap_map]
    simp only [toList_escapeColons]
    rfl
  rw [partsOf, written, splitColons_escaped told, ← List.map_cons, List.map_map, List.map_map]
  refine List.map_congr_left fun text _ => ?_
  rw [Function.comp_apply, Function.comp_apply, ← toList_escapeColons, String.ofList_toList]

theorem dropEscapes_cons {c : Char} {rest : List Char} (apart : c = '\\' → Stops isColon rest) :
    dropEscapes (c :: rest) = c :: dropEscapes rest := by
  rw [dropEscapes]
  rintro more rfl rfl
  exact absurd (apart rfl ':' more rfl) (by decide)

theorem dropEscapes_escaped (text : List Char) : dropEscapes (escaped isColon text) = text := by
  induction text with
  | nil => rfl
  | cons c text ih =>
    by_cases colon : isColon c = true
    · cases beq_iff_eq.1 colon
      rw [escaped_cons_of_special colon, dropEscapes, ih]
    · -- A backslash before a colon of the text has the inserted one behind it.
      have stops : Stops isColon (escaped isColon text ++ []) :=
        stops_escaped_append (by decide) fun _ => stops_nil _
      rw [List.append_nil] at stops
      rw [escaped_cons (Bool.eq_false_iff.2 colon), dropEscapes_cons fun _ => stops, ih]

theorem unescapeColons_escapeColons (text : String) :
    unescapeColons (escapeColons text) = text := by
  rw [unescapeColons, toList_escapeColons, dropEscapes_escaped, String.ofList_toList]

/-! ## Paths -/

theorem Layout.exists_fileName (layout : Layout) (measurement : String) (tags : Tags) :
    ∃ folders stem, layout.components measurement tags = folders ++ [fileName stem] := by
  cases layout with
  | flat => exact ⟨[], _, rfl⟩
  | folder => exact ⟨_, _, rfl⟩
  | untagged => exact ⟨[], _, rfl⟩

theorem exists_append_join (base path : String) :
    ∃ front, Files.join base path = front ++ path := by
  unfold Files.join
  split
  · exact ⟨"", by simp⟩
  · split
    · exact ⟨base, rfl⟩
    · exact ⟨base ++ "/", rfl⟩

theorem Layout.exists_path_eq (layout : Layout) (base measurement : String) (tags : Tags) :
    ∃ front, layout.path base measurement tags = front ++ ".rrd" := by
  obtain ⟨folders, stem, components⟩ := layout.exists_fileName measurement tags
  obtain ⟨front, joined⟩ := exists_append_join (folders.foldl Files.join base) (fileName stem)
  refine ⟨front ++ stem, ?_⟩
  rw [Layout.path, components, Files.joinAll, List.foldl_append, List.foldl_cons, List.foldl_nil,
    joined, fileName, String.append_assoc]

/-- No backslash of a path comes to stand before the colon behind it. -/
theorem Layout.getLast?_path (layout : Layout) (base measurement : String) (tags : Tags) :
    (layout.path base measurement tags).toList.getLast? = some 'd' := by
  obtain ⟨front, ends⟩ := layout.exists_path_eq base measurement tags
  rw [ends, String.toList_append, List.getLast?_append_of_ne_nil _ (by decide)]
  rfl

/-! ## Definitions -/

theorem escapeColons_append (first last : String) :
    escapeColons (first ++ last) = escapeColons first ++ escapeColons last := by
  rw [← String.toList_inj, String.toList_append, toList_escapeColons, toList_escapeColons,
    toList_escapeColons, String.toList_append, escaped_append]

theorem Clean.escapeColons_eq {name : String} (clean : Clean name) : escapeColons name = name := by
  rw [← String.toList_inj, toList_escapeColons]
  refine escaped_eq_self fun c member => ?_
  have avoided : (c != ':') = true := clean.avoids (by decide) c member
  simpa [isColon] using avoided

theorem Clean.getLast?_ne {name : String} (clean : Clean name) :
    name.toList.getLast? ≠ some '\\' := by
  intro last
  have avoided : ('\\' != '\\') = true := clean.avoids (by decide) _ (List.mem_of_getLast? last)
  exact absurd avoided (by decide)

theorem clean_name (function : Consolidation) : Clean function.name := by
  cases function <;> decide

theorem partsOf_definition {name source path : String} (cleanName : Clean name)
    (cleanSource : Clean source) {final : Char} (ends : path.toList.getLast? = some final)
    (told : final ≠ '\\') (function : Consolidation) :
    partsOf (definition name path source function) =
      ["DEF", name ++ "=" ++ escapeColons path, source, function.name] := by
  have cleanFirst : Clean "DEF" := by decide
  have cleanFunction := clean_name function
  have variableText : escapeColons (name ++ "=" ++ path) = name ++ "=" ++ escapeColons path := by
    rw [escapeColons_append, escapeColons_append, cleanName.escapeColons_eq]
    rfl
  have escapedParts : ["DEF", name ++ "=" ++ path, source, function.name].map escapeColons =
      ["DEF", name ++ "=" ++ escapeColons path, source, function.name] := by
    simp only [List.map_cons, List.map_nil, variableText, cleanFirst.escapeColons_eq,
      cleanSource.escapeColons_eq, cleanFunction.escapeColons_eq]
  -- A part that ended in a backslash would escape the colon behind it.
  have toldVariable : (name ++ "=" ++ path).toList.getLast? ≠ some '\\' := by
    have nonempty : path.toList ≠ [] := by
      intro empty
      rw [empty] at ends
      cases ends
    rw [String.toList_append, List.getLast?_append_of_ne_nil _ nonempty, ends]
    exact fun same => told (Option.some.inj same)
  have toldParts : ∀ text ∈ ["DEF", name ++ "=" ++ path, source, function.name],
      text.toList.getLast? ≠ some '\\' := by
    simp only [List.forall_mem_cons, List.not_mem_nil, false_implies, implies_true, and_true]
    exact ⟨cleanFirst.getLast?_ne, toldVariable, cleanSource.getLast?_ne,
      cleanFunction.getLast?_ne⟩
  have parts := partsOf_intercalate toldParts
  rw [escapedParts] at parts
  exact parts

def definesSource (statement : String) : Bool :=
  (Text.dropStart? "DEF:".toList statement.toList).isSome

/-- The statements of a command that define data sources. -/
def Command.sourceDefinitions : Command → List String
  | .xport _ _ _ _ statements => statements.filter definesSource
  | _ => []

theorem definesSource_definition (name path source : String) (function : Consolidation) :
    definesSource (definition name path source function) = true := by
  have written : (definition name path source function).toList = "DEF:".toList ++
      (name ++ "=" ++ escapeColons path ++ ":" ++ source ++ ":" ++ function.name).toList := by
    simp [definition]
  rw [definesSource, written, Text.dropStart?_append]
  rfl

theorem definesSource_computed (variableName expression : String) :
    definesSource ("CDEF:" ++ variableName ++ "=" ++ expression) = false := by
  rw [definesSource, String.append_assoc, String.append_assoc, String.toList_append]
  rfl

theorem definesSource_export (variableName legend : String) :
    definesSource ("XPORT:" ++ variableName ++ ":" ++ legend) = false := by
  rw [definesSource, String.append_assoc, String.append_assoc, String.toList_append]
  rfl

theorem sourceDefinitions_command {compiled : Compiled} (exports : compiled.mode = .xport) :
    compiled.command.sourceDefinitions =
      compiled.fields.map fun field => definition field compiled.path field compiled.function := by
  have sources : (compiled.fields.map fun field =>
      definition field compiled.path field compiled.function).filter definesSource =
        compiled.fields.map fun field => definition field compiled.path field compiled.function :=
    List.filter_eq_self.2 <| List.forall_mem_map.2 fun _ _ => definesSource_definition _ _ _ _
  have computed : (compiled.math.zipIdx.map fun numbered =>
      "CDEF:" ++ computedVariable numbered.2 ++ "=" ++ numbered.1.expression).filter
        definesSource = [] := by
    refine List.filter_eq_nil_iff.2 <| List.forall_mem_map.2 fun _ _ => ?_
    rw [definesSource_computed]
    exact Bool.false_ne_true
  have exported : (compiled.exports.map fun column =>
      "XPORT:" ++ column.1 ++ ":" ++ column.2).filter definesSource = [] := by
    refine List.filter_eq_nil_iff.2 <| List.forall_mem_map.2 fun _ _ => ?_
    rw [definesSource_export]
    exact Bool.false_ne_true
  unfold Compiled.command
  rw [exports]
  dsimp only [Command.sourceDefinitions]
  rw [Compiled.statements_eq, List.filter_append, exported, Compiled.definitions,
    List.filter_append, sources, computed, List.append_nil, List.append_nil]

/-- A statement that defines the data source of a field in a file: four parts, of which the second
one names a variable and has the path of the file behind the equals sign. -/
structure Defines (statement field path : String) (function : Consolidation) : Prop where
  fits : FitsSource field
  parts : ∃ written, partsOf statement = ["DEF", field ++ "=" ++ written, field, function.name] ∧
    unescapeColons written = path

/-- An export defines the data source of each of its fields in the file of the query, whatever
colons and backslashes the path of the file has. -/
theorem sourceDefinitions_defines {layout : Layout} {base : String} {query : Query}
    {compiled : Compiled} (compiles : compile layout base .xport query = .ok compiled) :
    List.Forall₂ (fun field statement => Defines statement field
        (layout.path base query.measurement (labelsOf query)) (functionOf query))
      compiled.fields compiled.command.sourceDefinitions := by
  have fits := fitsSource_of_compile compiles
  obtain ⟨exports, path, function⟩ : compiled.mode = .xport ∧
      compiled.path = layout.path base query.measurement (labelsOf query) ∧
      compiled.function = functionOf query := by
    obtain ⟨-, -, made⟩ := exists_of_bind compiles
    obtain ⟨interval?, -, made⟩ := exists_of_bind made
    cases made
    exact ⟨rfl, rfl, rfl⟩
  rw [sourceDefinitions_command exports, path, function, List.forall₂_map_right_iff,
    List.forall₂_same]
  intro field member
  have clean := (fits field member).clean
  refine ⟨fits field member, _, ?_, unescapeColons_escapeColons _⟩
  exact partsOf_definition clean clean (layout.getLast?_path ..) (by decide) _

/-- A tag with a colon, for a file in a directory with a colon behind a backslash. -/
def colonQuery : Query :=
  ((Query.ofMeasurement "cpu").select ["user time"]).condition
    ⟨"host", .equal, .scalar (.string "a:b"), .and⟩

theorem sourceDefinitions_defines_colons :
    ∃ compiled, compile .flat "/srv/a\\:b =c" .xport colonQuery = .ok compiled ∧
      compiled.command.sourceDefinitions =
        ["DEF:user_time=/srv/a\\\\:b =c/cpu__host=a\\:b.rrd:user_time:AVERAGE"] ∧
      List.Forall₂ (fun field statement => Defines statement field
          (Layout.flat.path "/srv/a\\:b =c" "cpu" (labelsOf colonQuery)) .average)
        compiled.fields compiled.command.sourceDefinitions := by
  obtain ⟨compiled, compiles, written⟩ : ∃ compiled,
      compile .flat "/srv/a\\:b =c" .xport colonQuery = .ok compiled ∧
        compiled.command.sourceDefinitions =
          ["DEF:user_time=/srv/a\\\\:b =c/cpu__host=a\\:b.rrd:user_time:AVERAGE"] :=
    ⟨_, rfl, by decide +kernel⟩
  exact ⟨compiled, compiles, written, sourceDefinitions_defines compiles⟩

end SeriesQuery.Rrd
