import SeriesQuery.Proofs.Rrd.Tables
import SeriesQuery.Proofs.Rrd.Timestamps

/-!
One table, exported and fetched. The two answers have the same series, as far as JSON text gives the
numbers that it writes: an answer as a table is read by the nearest double of each word, and one in
JSON by a double that need not be the nearest one.
-/

set_option autoImplicit false

namespace SeriesQuery.Rrd

open Json

/-! ## Columns of rows -/

theorem filterMap_eq_filterMap_iff {α β : Type} {first second : α → Option β} {items : List α}
    (fewer : ∀ item ∈ items, (second item).isSome = true → (first item).isSome = true) :
    items.filterMap first = items.filterMap second ↔ ∀ item ∈ items, first item = second item := by
  refine ⟨fun same => ?_, List.filterMap_congr⟩
  -- The lengths tell that an item is kept on one side only.
  have length {items : List α} (fewer : ∀ item ∈ items, (second item).isSome = true →
      (first item).isSome = true) :
      (items.filterMap second).length ≤ (items.filterMap first).length := by
    rw [List.length_filterMap_eq_countP, List.length_filterMap_eq_countP]
    exact List.countP_mono_left fewer
  induction items with
  | nil => exact List.forall_mem_nil _
  | cons item others ih =>
    have ⟨kept, fewer⟩ := List.forall_mem_cons.1 fewer
    have shorter := length fewer
    rw [List.filterMap_cons, List.filterMap_cons] at same
    rw [List.forall_mem_cons]
    cases made : first item with
    | none =>
      rw [made] at same kept
      cases other : second item with
      | some b => exact absurd (kept (by rw [other]; rfl)) (by simp)
      | none =>
        rw [other] at same
        exact ⟨rfl, ih fewer same⟩
    | some a =>
      rw [made] at same
      cases other : second item with
      | none =>
        -- One item more in front cannot be made up for.
        rw [other] at same
        have longer := congrArg List.length same
        simp only [List.length_cons] at longer
        omega
      | some b =>
        rw [other] at same
        obtain ⟨rfl, rest⟩ := List.cons.inj same
        exact ⟨rfl, ih fewer rest⟩

theorem columnReadings_eq_iff {α : Type} {first second : α → Row} {items : List α}
    (fewer : ∀ item ∈ items, (second item).timestamp?.isSome = true →
      (first item).timestamp?.isSome = true) (place : Nat) :
    columnReadings place (items.map first) = columnReadings place (items.map second) ↔
      ∀ item ∈ items,
        (first item).timestamp?.map (Reading.mk · (first item).values[place]?.join) =
          (second item).timestamp?.map (Reading.mk · (second item).values[place]?.join) := by
  rw [columnReadings, columnReadings, List.filterMap_map, List.filterMap_map]
  exact filterMap_eq_filterMap_iff fun item member => by simpa using fewer item member

theorem seriesOfRows_eq_iff {measurement : String} {requested legend : List String} {labels : Tags}
    {rows others : List Row} :
    seriesOfRows measurement requested labels legend rows =
        seriesOfRows measurement requested labels legend others ↔
      ∀ place ∈ selectedPlaces legend requested,
        columnReadings place rows = columnReadings place others := by
  simp [seriesOfRows]

theorem isSome_ofSeconds?_iff {second : Int} :
    (Time.Instant.ofSeconds? second).isSome = true ↔ Time.IsInstant second 0 := by
  simp [Time.Instant.ofSeconds?, Time.Instant.ofParts?]

/-! ## Cells -/

namespace Figure

/-- What stands in an array for a number or a gap. -/
def tree : Option Figure → Tree
  | none => .null
  | some figure => .number figure.literal

def read : Option Figure → Value
  | none => .null
  | some figure =>
    match figure.literal.number? with
    | some (.integer value) => .integer value
    | some (.float value) => .float value
    | none => .null

/-- JSON text gives the number that it writes. -/
def IsExact (figure : Figure) : Prop :=
  figure.literal.number?.map Number.toFloat = some figure.value

instance (figure : Figure) : Decidable figure.IsExact :=
  inferInstanceAs (Decidable (_ = _))

theorem isSome_value?_tree (room : Nat) (cell? : Option Figure) :
    ((tree cell?).value? room).isSome = true ↔
      ∀ figure, cell? = some figure → figure.literal.number?.isSome = true := by
  cases cell? with
  | none => exact iff_of_true rfl (by simp)
  | some figure => simp [tree, Tree.value?]

theorem value?_tree {room : Nat} {cell? : Option Figure}
    (found : ((tree cell?).value? room).isSome = true) :
    (tree cell?).value? room = some (read cell?) := by
  cases cell? with
  | none => rfl
  | some figure =>
    have found := (isSome_value?_tree room _).1 found figure rfl
    unfold tree read Tree.value?
    dsimp only
    cases number : figure.literal.number? with
    | none =>
      rw [number] at found
      cases found
    | some given => cases given <;> rfl

/-- A row is read where JSON text gives some number for each of its numbers. -/
theorem list?_cells_eq_some_iff {room : Nat} {cells : List (Option Figure)} {results : List Value} :
    (Tree.array (cells.map tree)).list? (Tree.value? room) = some results ↔
      (∀ figure, some figure ∈ cells → figure.literal.number?.isSome = true) ∧
        results = cells.map read := by
  rw [Tree.list?, mapM_map, mapM_eq_some_iff fun _ => value?_tree]
  simp only [isSome_value?_tree]
  refine and_congr_left fun _ => ⟨fun each figure member => each _ member figure rfl, ?_⟩
  rintro each cell member figure rfl
  exact each figure member

theorem cellNumber?_read_eq_iff (figure : Figure) :
    cellNumber? (read (some figure)) = some figure.value ↔ figure.IsExact := by
  have finite (value : Float) :
      (some value).filter Decimal.isFinite = some figure.value ↔ value = figure.value := by
    rw [Option.filter_eq_some_iff]
    constructor
    · exact fun found => Option.some.inj found.1
    · rintro rfl
      exact ⟨rfl, figure.finite⟩
  unfold IsExact read
  dsimp only
  cases figure.literal.number? with
  | none => exact iff_of_false nofun (by simp)
  | some number =>
    rw [Option.map_some, Option.some_inj]
    cases number with
    | integer value => exact finite _
    | float value => exact finite _

end Figure

/-! ## Tables in JSON -/

namespace Table

variable (table : Table)

inductive ShownBy (tree : Tree) : Prop where
  | intro {parts headParts : List (String × Tree)} {head : Tree}
      (gives : tree.Gives ["meta", "data"] parts) (headed : ("meta", head) ∈ parts)
      (headGives : head.Gives ["start", "step", "legend"] headParts)
      (start : ("start", .number (integerLiteral table.start)) ∈ headParts)
      (step : ("step", .number (integerLiteral table.step)) ∈ headParts)
      (legend : Given headParts "legend" (Tree.list? Tree.string?) table.names)
      (data : ("data", .array (table.rows.map fun cells => .array (cells.map Figure.tree))) ∈ parts)

/-- JSON text gives some number for each number, and the times fit 64 bits. -/
structure Readable : Prop where
  start : table.start < 2 ^ 63
  step : table.step < 2 ^ 63
  numbers : ∀ cells ∈ table.rows, ∀ figure, some figure ∈ cells →
    figure.literal.number?.isSome = true

/-- Each number that is asked for, in a row at an instant, is given as it is. -/
def Exact (requested : List String) : Prop :=
  ∀ numbered ∈ table.rows.zipIdx, Time.IsInstant (table.seconds numbered.2) 0 →
    ∀ place ∈ selectedPlaces table.names requested, ∀ figure,
      numbered.1[place]? = some (some figure) → figure.IsExact

def exported : Exported where
  start := .ofNat table.start
  step := .ofNat table.step
  legend := table.names
  rows := table.rows.map (·.map Figure.read)

variable {table}

theorem list?_rows_eq_some_iff {room : Nat} {rows : List (List (Option Figure))}
    {results : List (List Value)} :
    (Tree.array (rows.map fun cells => .array (cells.map Figure.tree))).list?
        (Tree.list? (Tree.value? room)) = some results ↔
      (∀ cells ∈ rows, ∀ figure, some figure ∈ cells → figure.literal.number?.isSome = true) ∧
        results = rows.map (·.map Figure.read) := by
  have same (cells : List (Option Figure))
      (found : ((Tree.array (cells.map Figure.tree)).list? (Tree.value? room)).isSome = true) :
      (Tree.array (cells.map Figure.tree)).list? (Tree.value? room) =
        some (cells.map Figure.read) := by
    obtain ⟨results, found⟩ := Option.isSome_iff_exists.1 found
    rw [found, (Figure.list?_cells_eq_some_iff.1 found).2]
  rw [Tree.list?, mapM_map, mapM_eq_some_iff same]
  simp only [Option.isSome_iff_exists, Figure.list?_cells_eq_some_iff, exists_and_left, exists_eq,
    and_true]

theorem exported?_eq_some_iff {tree : Tree} (shown : table.ShownBy tree) {answer : Exported} :
    exported? tree = some answer ↔ table.Readable ∧ answer = table.exported := by
  obtain ⟨gives, headed, headGives, start, step, ⟨legend, named, reads⟩, data⟩ := shown
  obtain ⟨_, members⟩ := gives.members?
  obtain ⟨_, headMembers⟩ := headGives.members?
  have distinct := gives.nodup (by decide)
  have headDistinct := headGives.nodup (by decide)
  simp only [exported?, members, headMembers, Option.bind_eq_bind, Option.bind_some,
    required_of_mem distinct headed, required_of_mem headDistinct start,
    required_of_mem headDistinct step, int64?_integerLiteral,
    defaulted_of_mem headDistinct named, reads, defaulted_of_mem distinct data]
  -- Whatever the rows are, the two times have to fit a word.
  by_cases startFits : table.start < 2 ^ 63
  · by_cases stepFits : table.step < 2 ^ 63
    · rw [if_pos startFits, if_pos stepFits]
      simp only [Option.bind_some, Option.pure_def, Option.bind_eq_some_iff,
        list?_rows_eq_some_iff]
      constructor
      · rintro ⟨rows, ⟨numbers, rfl⟩, made⟩
        exact ⟨⟨startFits, stepFits, numbers⟩, (Option.some.inj made).symm⟩
      · rintro ⟨readable, rfl⟩
        exact ⟨_, ⟨readable.numbers, rfl⟩, rfl⟩
    · rw [if_pos startFits, if_neg stepFits]
      exact iff_of_false (by simp) fun found => stepFits found.1.step
  · rw [if_neg startFits]
    exact iff_of_false (by simp) fun found => startFits found.1.start

/-! ## Rows -/

/-- The rows of a table as its answer in JSON gives them. -/
def exportedRows (table : Table) : List Row :=
  table.rows.zipIdx.map fun numbered =>
    ⟨Time.Instant.ofSeconds? (table.seconds numbered.2),
      (numbered.1.map Figure.read).map cellNumber?⟩

def writtenRows (table : Table) : List Row :=
  table.rows.zipIdx.map fun numbered =>
    ⟨Time.Instant.ofSeconds? (table.seconds numbered.2),
      numbered.1.map (·.map Figure.value)⟩

theorem seconds_exported (readable : table.Readable) (row : Nat) :
    table.exported.seconds row = table.seconds row := by
  rw [Exported.seconds, exported, Int64.toInt_ofNat_of_lt readable.start,
    Int64.toInt_ofNat_of_lt readable.step, Table.seconds, Nat.cast_add, Nat.cast_mul]

theorem counts_exported (readable : table.Readable) {row : Nat} (bound : row < table.rows.length) :
    table.exported.Counts row := by
  have fits : (table.seconds row : Int) < 2 ^ 63 := by exact_mod_cast table.fits row bound
  have step : table.exported.step.toInt = table.step := Int64.toInt_ofNat_of_lt readable.step
  -- The distance from the first row is no more than the time of the row.
  have distance : (table.seconds row : Int) = table.start + row * table.step := by
    rw [Table.seconds, Nat.cast_add, Nat.cast_mul]
  have least : (0 : Int) ≤ row * table.step := by positivity
  rw [Exported.Counts, seconds_exported readable, step]
  omega

theorem timedRows_exported (readable : table.Readable) :
    table.exported.timedRows = .ok table.exportedRows := by
  rw [Exported.timedRows_of_counts fun row bound =>
    counts_exported readable (by simpa [exported] using bound)]
  rw [Exported.exactRows, exportedRows, exported, List.zipIdx_map, List.map_map]
  refine congrArg _ (List.map_congr_left fun numbered _ => ?_)
  exact congrArg (Row.mk · _) (congrArg _ (seconds_exported readable numbered.2))

theorem join_eq_iff (cells : List (Option Figure)) (place : Nat) :
    ((cells.map Figure.read).map cellNumber?)[place]?.join =
        (cells.map (·.map Figure.value))[place]?.join ↔
      ∀ figure, cells[place]? = some (some figure) → figure.IsExact := by
  rw [List.map_map, List.getElem?_map, List.getElem?_map]
  cases cells[place]? with
  | none => exact iff_of_true rfl (by simp)
  | some cell =>
    cases cell with
    | none => exact iff_of_true rfl (by simp)
    | some figure =>
      -- A gap is no number, so that only the number itself will do.
      refine (Figure.cellNumber?_read_eq_iff figure).trans ?_
      simp

theorem series_eq_iff {measurement : String} {requested : List String} {labels : Tags} :
    seriesOfRows measurement requested labels table.names table.exportedRows =
        seriesOfRows measurement requested labels table.names table.writtenRows ↔
      table.Exact requested := by
  have column (place : Nat) :
      columnReadings place table.exportedRows = columnReadings place table.writtenRows ↔
        ∀ numbered ∈ table.rows.zipIdx, Time.IsInstant (table.seconds numbered.2) 0 →
          ∀ figure, numbered.1[place]? = some (some figure) → figure.IsExact := by
    rw [exportedRows, writtenRows, columnReadings_eq_iff ?fewer]
    case fewer => exact fun _ _ own => own
    -- Both rows are at one instant or both are left out.
    refine forall₂_congr fun numbered _ => ?_
    rw [← join_eq_iff, ← isSome_ofSeconds?_iff]
    dsimp only
    cases Time.Instant.ofSeconds? (table.seconds numbered.2) with
    | none => simp
    | some instant => simp
  rw [seriesOfRows_eq_iff]
  simp only [column, Exact]
  constructor
  · exact fun same numbered member instant place selected =>
      same place selected numbered member instant
  · exact fun exact place selected numbered member instant =>
      exact numbered member instant place selected

end Table

/-! ## Both answers -/

section
variable {table : Table} {measurement : String} {requested : List String} {labels : Tags}

theorem readExported_eq_ok_iff_of_shownBy {body : String} {tree : Tree}
    (reads : Json.read? (Text.trim body) = some tree) (shown : table.ShownBy tree)
    {result : SeriesResult} :
    readExported body measurement requested labels = .ok result ↔
      table.Readable ∧ result =
        (SeriesResult.ofSeries (seriesOfRows measurement requested labels table.names
          table.exportedRows)).note "step" (.integer table.step) := by
  rw [readExported_eq_ok_iff, reads, Option.bind_some]
  simp only [Table.exported?_eq_some_iff shown]
  constructor
  · rintro ⟨_, ⟨readable, rfl⟩, rows, timed, rfl⟩
    rw [Table.timedRows_exported readable] at timed
    cases timed
    refine ⟨readable, ?_⟩
    rw [Table.exported, Int64.toInt_ofNat_of_lt readable.step]
  · rintro ⟨readable, rfl⟩
    refine ⟨_, ⟨readable, rfl⟩, _, Table.timedRows_exported readable, ?_⟩
    rw [Table.exported, Int64.toInt_ofNat_of_lt readable.step]

theorem series_fetched :
    (table.fetched.result measurement requested labels).series =
      seriesOfRows measurement requested labels table.names table.writtenRows := by
  have rows : (table.fetched.rows.map fun row =>
      (⟨Time.Instant.ofSeconds? row.1.toInt, row.2⟩ : Row)) = table.writtenRows := by
    rw [Table.fetched, List.map_map, Table.stamped, List.map_map]
    refine List.map_congr_left fun numbered member => ?_
    have fits := table.fits _ (List.snd_lt_of_mem_zipIdx member)
    exact congrArg (Row.mk · _) (congrArg Time.Instant.ofSeconds? (Int64.toInt_ofNat_of_lt fits))
  rw [← rows]
  rfl

end

/-- A table that is printed is read, and the same table in JSON has the same series if and only if
JSON text gives the numbers that are asked for as they are. -/
theorem exported_eq_fetched_iff {table : Table} {body output : String} {tree : Tree}
    (reads : Json.read? (Text.trim body) = some tree) (shown : table.ShownBy tree)
    (printed : table.PrintedAs output) (measurement : String) (requested : List String)
    (labels : Tags) :
    ∃ fetched, readFetched output = .ok fetched ∧
      ((∃ exported, readExported body measurement requested labels = .ok exported ∧
          exported.series = (fetched.result measurement requested labels).series) ↔
        table.Readable ∧ table.Exact requested) := by
  refine ⟨_, table.readFetched_of_printed printed, ?_⟩
  rw [series_fetched, ← Table.series_eq_iff]
  simp only [readExported_eq_ok_iff_of_shownBy reads shown]
  constructor
  · rintro ⟨_, ⟨readable, rfl⟩, same⟩
    exact ⟨readable, same⟩
  · rintro ⟨readable, same⟩
    exact ⟨_, ⟨readable, rfl⟩, same⟩

/-! ## One number and a gap -/

def halfFigure : Figure where
  literal := ⟨false, ['1'], ['5'], none⟩
  value := 1.5
  reads := by decide +kernel
  finite := by decide +kernel

def tinyFigure : Figure where
  literal := ⟨false, ['1'], [], some (-23)⟩
  value := Decimal.nearest false 1 (-23)
  reads := by decide +kernel
  finite := by decide +kernel

def usageTable (figure : Figure) : Table where
  names := ["usage"]
  start := 1698408000
  step := 60
  rows := [[some figure], [none]]
  fits := by
    intro row (bound : row < 2)
    omega

def usageBody (figure : Figure) : Value :=
  .object [("meta", .object [("start", .integer 1698408000), ("step", .integer 60),
      ("legend", .ofTexts ["usage"])]),
    ("data", .ofList .array [[.float figure.value], [.null]])]

def usageText (figure : Figure) : String :=
  "usage\n\n1698408000: " ++ String.ofList figure.literal.text ++ "\n1698408060: -nan\n"

theorem read?_usageBody (figure : Figure) :
    Json.read? (Text.trim (usageBody figure).compact) = some (usageBody figure).tree := by
  rw [usageBody, trim_compact_object]
  exact read?_compact _

section
variable {figure : Figure}

theorem shownBy_usageBody (written : floatTree figure.value = .number figure.literal) :
    (usageTable figure).ShownBy (usageBody figure).tree := by
  have data : (Value.ofList .array [[.float figure.value], [.null]]).tree =
      .array ((usageTable figure).rows.map fun cells => .array (cells.map Figure.tree)) := by
    change Tree.array [.array [floatTree figure.value], .array [.null]] = _
    rw [written]
    rfl
  refine .intro (gives_object (show ["meta", "data"].Nodup by decide)) (.head _)
    (gives_object (by decide)) (.head _) (.tail _ (.head _))
    ⟨_, .tail _ (.tail _ (.head _)), list?_ofTexts _⟩ ?_
  rw [← data]
  exact .tail _ (.head _)

theorem eq_of_mem_usageTable {cells : List (Option Figure)} (inside : cells ∈ (usageTable figure).rows)
    {other : Figure} (member : some other ∈ cells) : other = figure := by
  have flat := List.mem_flatten.2 ⟨cells, inside, member⟩
  simpa [usageTable] using flat

theorem readable_usageTable (given : figure.literal.number?.isSome = true) :
    (usageTable figure).Readable := by
  refine ⟨(by decide : 1698408000 < 2 ^ 63), (by decide : 60 < 2 ^ 63),
    fun cells inside other member => ?_⟩
  rw [eq_of_mem_usageTable inside member]
  exact given

theorem exact_usageTable (exact : figure.IsExact) (requested : List String) :
    (usageTable figure).Exact requested := by
  intro numbered inside _ place _ other found
  have inside := List.fst_mem_of_mem_zipIdx inside
  rw [eq_of_mem_usageTable inside (List.mem_of_getElem? found)]
  exact exact

theorem printedAs_usageText
    (printed : (Text.lines (usageText figure)).filter (fun line => !line.all Text.isBlank) =
      ["usage".toList, "1698408000: ".toList ++ figure.literal.text, "1698408060: -nan".toList])
    (nonempty : figure.literal.text ≠ []) (solid : Language.Solid figure.literal.text) :
    (usageTable figure).PrintedAs (usageText figure) := by
  have names : Spaced Text.isBlank ["usage".toList] ([' '] ++ ("usage".toList ++ [])) :=
    .cons (by decide) (by decide) (by decide) (by decide) (.nil (by decide))
  let first : Language.Digits := ⟨"1698408000".toList, by decide, by decide⟩
  let second : Language.Digits := ⟨"1698408060".toList, by decide, by decide⟩
  have number : PrintsRow 1698408000 [some figure.value] (first.text ++ ':' :: ' ' :: _) :=
    printsRow_single (by decide) nonempty solid (.number figure.reads figure.finite)
  have gap : PrintsRow 1698408060 [none] (second.text ++ ':' :: ' ' :: "-nan".toList) :=
    printsRow_single (by decide) (by decide) (by decide)
      (.gap (by decide +kernel : Decimal.readFloat? "-nan" = some Decimal.notANumber)
        (by decide +kernel))
  have stamped : (usageTable figure).stamped =
      [(1698408000, [some figure.value]), (1698408060, [none])] := rfl
  refine .intro printed names ?_
  rw [stamped]
  exact .cons number (.cons gap .nil)

end

theorem exported_eq_fetched_iff_half :
    ∃ exported fetched,
      readExported (usageBody halfFigure).compact "cpu" ["usage"] .empty = .ok exported ∧
        readFetched (usageText halfFigure) = .ok fetched ∧
          exported.series = (fetched.result "cpu" ["usage"] .empty).series := by
  have written : floatTree halfFigure.value = .number halfFigure.literal :=
    floatTree_of_finite ⟨.of_digit (by decide), by decide⟩ (by decide +kernel)
  have printed : (usageTable halfFigure).PrintedAs (usageText halfFigure) :=
    printedAs_usageText (by decide +kernel) (by decide) (by decide)
  obtain ⟨fetched, read, agree⟩ := exported_eq_fetched_iff (read?_usageBody halfFigure)
    (shownBy_usageBody written) printed "cpu" ["usage"] .empty
  obtain ⟨exported, made, same⟩ := agree.2
    ⟨readable_usageTable (by decide +kernel), exact_usageTable (by decide +kernel) _⟩
  exact ⟨exported, fetched, made, read, same⟩

/-- A number that JSON text does not give as it is, in a table with both answers. -/
theorem exported_ne_fetched_tiny :
    Json.read? (Text.trim (usageBody tinyFigure).compact) = some (usageBody tinyFigure).tree ∧
      (usageTable tinyFigure).ShownBy (usageBody tinyFigure).tree ∧
      (usageTable tinyFigure).PrintedAs (usageText tinyFigure) ∧
      ∃ exported fetched,
        readExported (usageBody tinyFigure).compact "cpu" ["usage"] .empty = .ok exported ∧
          readFetched (usageText tinyFigure) = .ok fetched ∧
            exported.series ≠ (fetched.result "cpu" ["usage"] .empty).series := by
  have written : floatTree tinyFigure.value = .number tinyFigure.literal :=
    floatTree_of_finite ⟨.of_digit (by decide), by decide⟩ (by decide +kernel)
  have shown := shownBy_usageBody written
  have printed : (usageTable tinyFigure).PrintedAs (usageText tinyFigure) :=
    printedAs_usageText (by decide +kernel) (by decide) (by decide)
  have readable := readable_usageTable (by decide +kernel : tinyFigure.literal.number?.isSome = true)
  refine ⟨read?_usageBody tinyFigure, shown, printed, _, _,
    (readExported_eq_ok_iff_of_shownBy (read?_usageBody tinyFigure) shown).2 ⟨readable, rfl⟩,
    Table.readFetched_of_printed _ printed, ?_⟩
  rw [series_fetched]
  intro same
  have exact := Table.series_eq_iff.1 same _ (.head _) (by decide) 0 (by decide) tinyFigure rfl
  revert exact
  decide +kernel

end SeriesQuery.Rrd
