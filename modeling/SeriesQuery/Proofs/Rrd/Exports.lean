import SeriesQuery.Proofs.Json.Members
import SeriesQuery.Proofs.Language.Trimming
import SeriesQuery.Proofs.Rrd.Resolution
import SeriesQuery.Rrd.Store

/-!
Exported columns. The statements of an export name variables that are defined before them, their
legends are the names that are looked for in the answer, and every statement gets the series of its
own column.
-/

set_option autoImplicit false

namespace SeriesQuery.Rrd

open Json

/-! ## Statements -/

/-- The variable that a statement exports, and its legend, which is all that stands after the second
colon. -/
def exporting? (statement : String) : Option (String × String) :=
  (Text.dropStart? "XPORT:".toList statement.toList).map fun text =>
    (String.ofList (text.takeWhile (· != ':')),
      String.ofList ((text.dropWhile (· != ':')).drop 1))

theorem exporting?_export {name : String} (clean : Clean name) (legend : String) :
    exporting? ("XPORT:" ++ name ++ ":" ++ legend) = some (name, legend) := by
  have written : ("XPORT:" ++ name ++ ":" ++ legend).toList =
      "XPORT:".toList ++ (name.toList ++ ':' :: legend.toList) := by
    simp
  have noColon : ∀ c ∈ name.toList, (c != ':') = true := clean.avoids (by decide)
  rw [exporting?, written, Text.dropStart?_append, Option.map_some,
    List.takeWhile_append_of_pos noColon, List.dropWhile_append_of_pos noColon]
  simp

namespace Compiled

theorem exporting?_of_mem_definitions {compiled : Compiled} {statement : String}
    (member : statement ∈ compiled.definitions) : exporting? statement = none := by
  rcases List.mem_append.1 member with source | computed
  · obtain ⟨field, -, rfl⟩ := List.mem_map.1 source
    rw [exporting?, definition, String.append_assoc, String.append_assoc, String.append_assoc,
      String.append_assoc, String.append_assoc, String.append_assoc, String.toList_append]
    rfl
  · obtain ⟨numbered, -, rfl⟩ := List.mem_map.1 computed
    rw [exporting?, String.append_assoc, String.append_assoc, String.toList_append]
    rfl

variable {compiled : Compiled} (clean : ∀ field ∈ compiled.fields, Clean field)
include clean

theorem clean_of_mem_exports {column : String × String} (member : column ∈ compiled.exports) :
    Clean column.1 := by
  rcases List.mem_append.1 member with source | computed
  · obtain ⟨field, known, rfl⟩ := List.mem_map.1 source
    exact clean field known
  · obtain ⟨numbered, -, rfl⟩ := List.mem_map.1 computed
    exact clean_computedVariable _

theorem filterMap_exporting? : compiled.statements.filterMap exporting? = compiled.exports := by
  rw [statements_eq, List.filterMap_append,
    List.filterMap_eq_nil_iff.2 fun _ member => exporting?_of_mem_definitions member,
    List.nil_append, List.filterMap_map]
  refine (List.filterMap_eq_map_iff_forall_eq_some.2 fun column member => ?_).trans (List.map_id _)
  exact exporting?_export (clean_of_mem_exports clean member) column.2

theorem exists_definition {column : String × String} (member : column ∈ compiled.exports) :
    ∃ statement ∈ compiled.definitions, defined? statement = some column.1 := by
  rcases List.mem_append.1 member with source | computed
  · obtain ⟨field, known, rfl⟩ := List.mem_map.1 source
    refine ⟨_, List.mem_append_left _ (List.mem_map_of_mem known), ?_⟩
    exact defined?_definition (clean field known).assignable _ _ _
  · obtain ⟨numbered, known, rfl⟩ := List.mem_map.1 computed
    refine ⟨_, List.mem_append_right _ (List.mem_map_of_mem known), ?_⟩
    exact defined?_computed _ _

theorem exists_earlier {before after : List String} {statement : String}
    (split : compiled.statements = before ++ statement :: after) {column : String × String}
    (exports : exporting? statement = some column) :
    ∃ earlier ∈ before, defined? earlier = some column.1 := by
  have known : column ∈ compiled.exports := by
    rw [← filterMap_exporting? clean, split]
    exact List.mem_filterMap.2 ⟨statement, by simp, exports⟩
  obtain ⟨earlier, member, defines⟩ := exists_definition clean known
  refine ⟨earlier, ?_, defines⟩
  rw [statements_eq] at split
  -- The export stands behind all definitions, or among them.
  rcases List.append_eq_append_iff.1 split with ⟨more, rfl, -⟩ | ⟨more, same, rest⟩
  · exact List.mem_append_left _ member
  · cases more with
    | nil => rwa [same, List.append_nil] at member
    | cons first others =>
      -- Among them it would be a definition itself.
      obtain ⟨rfl, -⟩ := List.cons.inj rest
      have inside : statement ∈ compiled.definitions := by simp [same]
      rw [exporting?_of_mem_definitions inside] at exports
      cases exports

end Compiled

theorem map_exports (compiled : Compiled) :
    compiled.exports.map (·.2) = compiled.outputNames := by
  have computed : (compiled.math.zipIdx.map fun numbered =>
      (computedVariable numbered.2, numbered.1.name)).map (·.2) = compiled.math.map (·.name) := by
    rw [← List.zipIdx_map_fst 0 compiled.math, List.map_map, List.map_map, List.zipIdx_map_fst]
    rfl
  rw [Compiled.exports, Compiled.outputNames, List.map_append, computed, List.map_map]
  exact congrArg (· ++ _) (List.map_id _)

/-! ## Columns -/

namespace Exported

/-- The seconds at which a row is, however many digits they have. -/
def seconds (answer : Exported) (row : Nat) : Int :=
  answer.start.toInt + row * answer.step.toInt

/-- A row can be counted: its distance from the first one and its time fit 64 bits. -/
def Counts (answer : Exported) (row : Nat) : Prop :=
  (-2 ^ 63 ≤ row * answer.step.toInt ∧ row * answer.step.toInt < 2 ^ 63) ∧
    -2 ^ 63 ≤ answer.seconds row ∧ answer.seconds row < 2 ^ 63

/-- The row is the first one that cannot be counted. -/
def OverflowsAt (answer : Exported) (row : Nat) : Prop :=
  row < answer.rows.length ∧ ¬ answer.Counts row ∧ ∀ earlier < row, answer.Counts earlier

instance (answer : Exported) (row : Nat) : Decidable (answer.Counts row) :=
  inferInstanceAs (Decidable (_ ∧ _))

def readings (answer : Exported) (place : Nat) : List Reading :=
  answer.rows.zipIdx.filterMap fun numbered =>
    (Time.Instant.ofSeconds? (answer.seconds numbered.2)).map
      fun timestamp => ⟨timestamp, numbered.1[place]?.bind cellNumber?⟩

def exactRows (answer : Exported) : List Row :=
  answer.rows.zipIdx.map fun numbered =>
    ⟨Time.Instant.ofSeconds? (answer.seconds numbered.2), numbered.1.map cellNumber?⟩

end Exported

theorem word?_of_fits {number : Int} (fits : -2 ^ 63 ≤ number ∧ number < 2 ^ 63) :
    word? number = some (.ofInt number) :=
  if_pos ⟨fits.1, Int.le_sub_one_of_lt fits.2⟩

theorem word?_of_not_fits {number : Int} (overflows : ¬ (-2 ^ 63 ≤ number ∧ number < 2 ^ 63)) :
    word? number = none :=
  if_neg fun range => overflows ⟨range.1, Int.lt_of_le_sub_one range.2⟩

namespace Exported

variable {answer : Exported} {row : Nat}

theorem rowSeconds?_of_counts (counts : answer.Counts row) :
    rowSeconds? answer.start answer.step row = some (.ofInt (answer.seconds row)) := by
  obtain ⟨distance, time⟩ := counts
  have back : (Int64.ofInt (row * answer.step.toInt)).toInt = row * answer.step.toInt :=
    Int64.toInt_ofInt_of_le distance.1 distance.2
  rw [rowSeconds?, word?_of_fits distance, Option.bind_eq_bind, Option.bind_some, back]
  exact word?_of_fits time

theorem rowSeconds?_of_not_counts (overflows : ¬ answer.Counts row) :
    rowSeconds? answer.start answer.step row = none := by
  rw [rowSeconds?, Option.bind_eq_bind]
  by_cases distance : -2 ^ 63 ≤ row * answer.step.toInt ∧ row * answer.step.toInt < 2 ^ 63
  · have back : (Int64.ofInt (row * answer.step.toInt)).toInt = row * answer.step.toInt :=
      Int64.toInt_ofInt_of_le distance.1 distance.2
    rw [word?_of_fits distance, Option.bind_some, back]
    exact word?_of_not_fits fun time => overflows ⟨distance, time⟩
  · rw [word?_of_not_fits distance, Option.bind_none]

theorem timedRow_of_counts (counts : answer.Counts row) (cells : List Value) :
    answer.timedRow cells row =
      .ok ⟨Time.Instant.ofSeconds? (answer.seconds row), cells.map cellNumber?⟩ := by
  have back : (Int64.ofInt (answer.seconds row)).toInt = answer.seconds row :=
    Int64.toInt_ofInt_of_le counts.2.1 counts.2.2
  rw [timedRow, rowSeconds?_of_counts counts]
  dsimp only
  rw [back]

theorem timedRow_of_not_counts (overflows : ¬ answer.Counts row) (cells : List Value) :
    answer.timedRow cells row = .error (.rowTime row) := by
  rw [timedRow, rowSeconds?_of_not_counts overflows]

theorem timedRow_eq_error_iff {cells : List Value} {problem : ResponseProblem} :
    answer.timedRow cells row = .error problem ↔ ¬ answer.Counts row ∧ problem = .rowTime row := by
  by_cases counts : answer.Counts row
  · rw [timedRow_of_counts counts]
    exact iff_of_false nofun fun failed => failed.1 counts
  · rw [timedRow_of_not_counts counts, Except.error.injEq]
    exact ⟨fun same => ⟨counts, same.symm⟩, fun failed => failed.2.symm⟩

theorem timedRows_of_counts (counts : ∀ row < answer.rows.length, answer.Counts row) :
    answer.timedRows = .ok answer.exactRows :=
  mapM_of_forall_ok fun _ member =>
    timedRow_of_counts (counts _ (List.snd_lt_of_mem_zipIdx member)) _

theorem timedRows_eq_error_iff {problem : ResponseProblem} :
    answer.timedRows = .error problem ↔ ∃ row, problem = .rowTime row ∧ answer.OverflowsAt row := by
  have numbered (place : Nat) (_ : place < answer.rows.length) :
      answer.rows.zipIdx[place]? = some (answer.rows[place], place) := by
    simp [*]
  rw [timedRows, mapM_eq_error_iff]
  constructor
  · rintro ⟨row, item, found, failed, passed⟩
    have bound : row < answer.rows.length := by
      simpa using (List.getElem?_eq_some_iff.1 found).1
    rw [numbered row bound, Option.some_inj] at found
    subst found
    obtain ⟨overflows, rfl⟩ := timedRow_eq_error_iff.1 failed
    refine ⟨row, rfl, bound, overflows, fun earlier before => ?_⟩
    by_contra overflows
    obtain ⟨result, made⟩ := passed earlier before _ (numbered earlier (before.trans bound))
    rw [timedRow_of_not_counts overflows] at made
    cases made
  · rintro ⟨row, rfl, bound, overflows, counted⟩
    refine ⟨row, _, numbered row bound, timedRow_of_not_counts overflows _, ?_⟩
    intro earlier before item found
    rw [numbered earlier (before.trans bound), Option.some_inj] at found
    subst found
    exact ⟨_, timedRow_of_counts (counted earlier before) _⟩

theorem columnReadings_exactRows (place : Nat) :
    columnReadings place answer.exactRows = answer.readings place := by
  rw [columnReadings, exactRows, List.filterMap_map]
  refine List.filterMap_congr fun numbered _ => ?_
  have cell : ((numbered.1.map cellNumber?)[place]?).join = numbered.1[place]?.bind cellNumber? := by
    rw [List.getElem?_map]
    cases numbered.1[place]? with
    | none => rfl
    | some _ => rfl
  rw [← cell]
  rfl

end Exported

/-- A cell shows a number, finite or not. -/
inductive Shows : Value → Float → Prop where
  | integer (value : Int) : Shows (.integer value) (Decimal.ofInt value)
  | float (value : Float) : Shows (.float value) value
  | text {text : String} {value : Float} (reads : Decimal.readFloat? text = some value) :
      Shows (.string text) value

theorem cellNumber?_eq_some_iff {cell : Value} {value : Float} :
    cellNumber? cell = some value ↔ Shows cell value ∧ Decimal.isFinite value = true := by
  constructor
  · intro found
    unfold cellNumber? finite? at found
    split at found
    · obtain ⟨same, finite⟩ := Option.filter_eq_some_iff.1 found
      cases same
      exact ⟨.integer _, finite⟩
    · obtain ⟨same, finite⟩ := Option.filter_eq_some_iff.1 found
      cases same
      exact ⟨.float _, finite⟩
    · obtain ⟨reads, finite⟩ := Option.filter_eq_some_iff.1 found
      exact ⟨.text reads, finite⟩
    · cases found
  · rintro ⟨shows, finite⟩
    cases shows with
    | integer => exact Option.filter_eq_some_iff.2 ⟨rfl, finite⟩
    | float => exact Option.filter_eq_some_iff.2 ⟨rfl, finite⟩
    | text reads => exact Option.filter_eq_some_iff.2 ⟨reads, finite⟩

theorem selectedPlaces_self (legend : List String) :
    selectedPlaces legend legend = List.range legend.length := by
  have all : legend.zipIdx.filter (fun column => legend.contains column.1) = legend.zipIdx := by
    refine List.filter_eq_self.2 fun column member => ?_
    exact List.contains_iff_mem.2 (List.fst_mem_of_mem_zipIdx member)
  unfold selectedPlaces
  dsimp only
  rw [all, ite_self, List.zipIdx_map_snd, List.range_eq_range']

theorem seriesOfRows_self (measurement : String) (labels : Tags) (legend : List String)
    (rows : List Row) :
    seriesOfRows measurement legend labels legend rows = legend.zipIdx.map fun numbered =>
      ⟨seriesName measurement numbered.1, labels, columnReadings numbered.2 rows⟩ := by
  rw [seriesOfRows, selectedPlaces_self]
  apply List.ext_getElem
  · simp
  · intro place bound _
    have bound : place < legend.length := by simpa using bound
    simp [bound]

/-! ## Answers -/

/-- The answer stands in a tree. Its legend and its rows are empty where they are left out. -/
inductive Exported.ShownBy (answer : Exported) (tree : Tree) : Prop where
  | intro {parts headParts : List (String × Tree)} {head : Tree}
      (gives : tree.Gives ["meta", "data"] parts) (headed : ("meta", head) ∈ parts)
      (headGives : head.Gives ["start", "step", "legend"] headParts)
      (start : Given headParts "start" Tree.int64? answer.start)
      (step : Given headParts "step" Tree.int64? answer.step)
      (legend : GivenOr [] headParts "legend" (Tree.list? Tree.string?) answer.legend)
      (rows : GivenOr [] parts "data"
        (Tree.list? (Tree.list? (Tree.value? (Tree.deepest - 3)))) answer.rows)

theorem exported?_of_shownBy {answer : Exported} {tree : Tree} (shown : answer.ShownBy tree) :
    exported? tree = some answer := by
  obtain ⟨gives, headed, headGives, start, step, legend, rows⟩ := shown
  obtain ⟨named, members⟩ := gives.members?
  obtain ⟨headNamed, headMembers⟩ := headGives.members?
  have distinct := gives.nodup (by decide)
  have headDistinct := headGives.nodup (by decide)
  simp only [exported?, members, headMembers, Option.bind_eq_bind, Option.bind_some,
    required_of_mem distinct headed, start.required headDistinct, step.required headDistinct,
    legend.defaulted headDistinct, rows.defaulted distinct]
  rfl

/-- A printed object has no white space around it. -/
theorem trim_compact_object (members : List (String × Value)) :
    Text.trim (Value.object members).compact = (Value.object members).compact := by
  have starts : Stops Text.isBlank (Value.object members).compact.toList := by
    rw [toList_compact_object]
    exact stops_cons (by decide) _
  have ends : Language.EndsSolid (Value.object members).compact.toList := by
    rw [Language.EndsSolid, toList_compact_object, List.reverse_cons, List.reverse_append]
    exact stops_cons (by decide) _
  rw [Text.trim, Language.trimChars_eq starts ends, String.ofList_toList]

theorem readExported_of_told {body measurement : String} {requested : List String} {labels : Tags}
    {answer : Exported} (told : (Json.read? (Text.trim body)).bind exported? = some answer) :
    readExported body measurement requested labels = answer.timedRows.map fun rows =>
      (SeriesResult.ofSeries (seriesOfRows measurement requested labels answer.legend rows)).note
        "step" (.integer answer.step.toInt) := by
  rw [readExported, told]
  rfl

theorem readExported_of_untold {body measurement : String} {requested : List String} {labels : Tags}
    (untold : (Json.read? (Text.trim body)).bind exported? = none) :
    readExported body measurement requested labels = .error (.notJson .xport) := by
  rw [readExported, untold]
  rfl

/-! ## Reads -/

/-- A read as it may be run: as the query was compiled, or with the data sources of its file. -/
inductive Ready (compiled : Compiled) : Compiled → Prop where
  | unresolved : Ready compiled compiled
  | resolved {sources : List String} (clean : ∀ name ∈ sources, Clean name) :
      Ready compiled (compiled.resolve sources)

theorem Ready.mode_eq {compiled read : Compiled} (ready : Ready compiled read) :
    read.mode = compiled.mode := by
  cases ready with
  | unresolved => rfl
  | resolved => rw [Compiled.resolve_eq]

theorem Ready.clean {compiled read : Compiled} (ready : Ready compiled read)
    (clean : ∀ field ∈ compiled.fields, Clean field) : ∀ field ∈ read.fields, Clean field := by
  cases ready with
  | unresolved => exact clean
  | @resolved sources names =>
    intro field member
    by_cases nonempty : sources = []
    · subst nonempty
      exact clean field member
    · exact names field ((resolvesTo_resolve compiled nonempty).declared field member)

section
variable {read : Compiled} {body : String} {tree : Tree} {answer : Exported}

theorem result_eq_of_shownBy (exports : read.mode = .xport)
    (reads : Json.read? (Text.trim body) = some tree) (shown : answer.ShownBy tree)
    (legend : answer.legend = read.outputNames) :
    read.result body = answer.timedRows.map fun rows => (SeriesResult.ofSeries (seriesOfRows
      read.measurement read.outputNames read.labels read.outputNames rows)).note
        "step" (.integer answer.step.toInt) := by
  rw [Compiled.result, exports, ← legend]
  exact readExported_of_told (by rw [reads, Option.bind_some, exported?_of_shownBy shown])

theorem result_of_shownBy (exports : read.mode = .xport)
    (reads : Json.read? (Text.trim body) = some tree) (shown : answer.ShownBy tree)
    (legend : answer.legend = read.outputNames)
    (counts : ∀ row < answer.rows.length, answer.Counts row) :
    read.result body = .ok ((SeriesResult.ofSeries (read.exports.zipIdx.map fun numbered =>
      ⟨seriesName read.measurement numbered.1.2, read.labels, answer.readings numbered.2⟩)).note
        "step" (.integer answer.step.toInt)) := by
  have series : seriesOfRows read.measurement read.outputNames read.labels read.outputNames
      answer.exactRows = read.exports.zipIdx.map fun numbered =>
        ⟨seriesName read.measurement numbered.1.2, read.labels, answer.readings numbered.2⟩ := by
    rw [seriesOfRows_self, ← map_exports, List.zipIdx_map, List.map_map]
    exact List.map_congr_left fun numbered _ =>
      congrArg _ (Exported.columnReadings_exactRows numbered.2)
  rw [result_eq_of_shownBy exports reads shown legend, Exported.timedRows_of_counts counts, ← series]
  rfl

end

/-- The statements of an export fit what is returned of its answer. -/
structure Returns (read : Compiled) (statements : List String) : Prop where
  /-- An export names a variable that is defined before it. -/
  defined : ∀ before statement after variableName legend, statements = before ++ statement :: after →
    exporting? statement = some (variableName, legend) →
      ∃ earlier ∈ before, defined? earlier = some variableName
  legends : (statements.filterMap exporting?).map (·.2) = read.outputNames
  /-- An answer with these legends gives one series for each export, with the readings in the column
  of the same place, if all its rows can be counted. -/
  series : ∀ (body : String) (tree : Tree) (answer : Exported),
    Json.read? (Text.trim body) = some tree → answer.ShownBy tree →
      answer.legend = read.outputNames → (∀ row < answer.rows.length, answer.Counts row) →
        ∃ result, read.result body = .ok result ∧
          result.series = (statements.filterMap exporting?).zipIdx.map (fun numbered =>
            ⟨if numbered.1.2 = "value" then read.measurement
              else read.measurement ++ "." ++ numbered.1.2,
              read.labels, answer.readings numbered.2⟩)
  /-- Nothing is returned if and only if some row cannot be counted. -/
  overflow : ∀ (body : String) (tree : Tree) (answer : Exported),
    Json.read? (Text.trim body) = some tree → answer.ShownBy tree →
      answer.legend = read.outputNames → ∀ problem,
        read.result body = .error problem ↔ ∃ row, problem = .rowTime row ∧ answer.OverflowsAt row
  /-- A reading is the number that the cell shows, if that is finite. -/
  numbers : ∀ (cell : Value) (value : Float),
    cellNumber? cell = some value ↔ Shows cell value ∧ Decimal.isFinite value = true

/-- What a read exports is what it returns, with the data sources of the query and with those of its
file. -/
theorem exports_eq_returns {layout : Layout} {base : String} {query : Query}
    {compiled read : Compiled} (compiles : compile layout base .xport query = .ok compiled)
    (ready : Ready compiled read) :
    ∃ statements, read.command = .xport read.window.start read.window.finish read.window.step?
      read.window.maxRows? statements ∧ Returns read statements := by
  obtain ⟨mode, -, -⟩ := exports_of_compile compiles
  have mode : read.mode = .xport := ready.mode_eq.trans mode
  have clean := ready.clean (clean_fields_of_compile compiles)
  refine ⟨read.statements, by rw [Compiled.command, mode], ?defined, ?legends, ?series,
    ?overflow, fun _ _ => cellNumber?_eq_some_iff⟩
  case defined =>
    intro before statement after variableName legend split exports
    exact Compiled.exists_earlier clean split exports
  case legends =>
    rw [Compiled.filterMap_exporting? clean]
    exact map_exports read
  case series =>
    intro body tree answer reads shown legend counts
    refine ⟨_, result_of_shownBy mode reads shown legend counts, ?_⟩
    rw [Compiled.filterMap_exporting? clean]
    rfl
  case overflow =>
    intro body tree answer reads shown legend problem
    rw [result_eq_of_shownBy mode reads shown legend, map_eq_error_iff,
      Exported.timedRows_eq_error_iff]

/-- Two data sources and their sum. -/
def totalQuery : Query :=
  { (Query.ofMeasurement "cpu").select ["usage", "idle"] with math := [⟨"usage,idle,+", "total"⟩] }

def totalHead : List (String × Value) :=
  [("start", .integer 1698408000), ("end", .integer 1698408120), ("step", .integer 60),
    ("legend", .ofTexts ["usage", "idle", "total"])]

def totalRows : List (List Value) :=
  [[.integer 3, .integer 5, .integer 8], [.null, .string "2.5", .null]]

/-- What the tool prints about them, with one number as text. -/
def totalBody : Value :=
  .object [("about", .string "RRDtool graph JSON output"), ("meta", .object totalHead),
    ("data", .ofList .array totalRows)]

theorem shownBy_totalBody :
    (⟨1698408000, 60, ["usage", "idle", "total"], totalRows⟩ : Exported).ShownBy
      totalBody.tree := by
  refine .intro (gives_object (by decide)) (.head _) (gives_object (by decide))
    ⟨_, .head _, ?start⟩ ⟨_, .tail _ (.head _), ?step⟩ (.inl ⟨_, .tail _ (.tail _ (.head _)), ?legend⟩)
    (.inl ⟨_, .tail _ (.head _), ?rows⟩)
  case start => exact int64?_integer 1698408000
  case step => exact int64?_integer 60
  case legend => exact list?_ofTexts _
  case rows => rfl

theorem exports_eq_returns_total :
    ∃ compiled, compile .flat "/data" .xport totalQuery = .ok compiled ∧
      Ready compiled (compiled.resolve ["idle", "usage"]) ∧
      ∃ result, (compiled.resolve ["idle", "usage"]).result totalBody.compact = .ok result ∧
        result.series =
          [⟨"cpu.usage", .empty, [⟨⟨1698408000, 0, by decide⟩, some 3⟩,
              ⟨⟨1698408060, 0, by decide⟩, none⟩]⟩,
            ⟨"cpu.idle", .empty, [⟨⟨1698408000, 0, by decide⟩, some 5⟩,
              ⟨⟨1698408060, 0, by decide⟩, some 2.5⟩]⟩,
            ⟨"cpu.total", .empty, [⟨⟨1698408000, 0, by decide⟩, some 8⟩,
              ⟨⟨1698408060, 0, by decide⟩, none⟩]⟩] := by
  obtain ⟨compiled, compiles⟩ : ∃ compiled,
      compile .flat "/data" .xport totalQuery = .ok compiled := ⟨_, rfl⟩
  have ready : Ready compiled (compiled.resolve ["idle", "usage"]) := .resolved (by decide)
  obtain ⟨statements, issued, returns⟩ := exports_eq_returns compiles ready
  have reads : Json.read? (Text.trim totalBody.compact) = some totalBody.tree := by
    rw [totalBody, trim_compact_object]
    exact read?_compact _
  have names : (compiled.resolve ["idle", "usage"]).outputNames = ["usage", "idle", "total"] := by
    cases compiles
    decide +kernel
  obtain ⟨result, returned, series⟩ := returns.series _ _ _ reads shownBy_totalBody names.symm
    (by decide)
  refine ⟨compiled, compiles, ready, result, returned, series.trans ?_⟩
  cases compiles
  cases issued
  decide +kernel

end SeriesQuery.Rrd
