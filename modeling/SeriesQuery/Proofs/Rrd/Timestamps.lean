import SeriesQuery.Proofs.Rrd.Exports

/-!
Times of exported rows. They are counted in 64 bits: an answer with a row whose time cannot be counted
so is not read at all, and every other answer is read with each row at its exact instant.
-/

set_option autoImplicit false

namespace SeriesQuery.Rrd

open Json

namespace Exported

variable {answer : Exported}

theorem exists_overflowsAt_iff :
    (∃ row, answer.OverflowsAt row) ↔ ¬ ∀ row < answer.rows.length, answer.Counts row := by
  constructor
  · rintro ⟨row, bound, overflows, -⟩ counts
    exact overflows (counts row bound)
  · intro overflows
    have some : ∃ row, row < answer.rows.length ∧ ¬ answer.Counts row := by
      simpa using overflows
    refine ⟨Nat.find some, (Nat.find_spec some).1, (Nat.find_spec some).2, fun earlier before => ?_⟩
    -- A row before the first one that cannot be counted is a row all the same.
    by_contra overflows
    exact Nat.find_min some before ⟨before.trans (Nat.find_spec some).1, overflows⟩

theorem timedRows_eq_ok_iff {rows : List Row} :
    answer.timedRows = .ok rows ↔
      (∀ row < answer.rows.length, answer.Counts row) ∧ rows = answer.exactRows := by
  by_cases counts : ∀ row < answer.rows.length, answer.Counts row
  · rw [timedRows_of_counts counts, Except.ok.injEq]
    exact ⟨fun same => ⟨counts, same.symm⟩, fun made => made.2.symm⟩
  · obtain ⟨row, overflows⟩ := exists_overflowsAt_iff.2 counts
    rw [timedRows_eq_error_iff.2 ⟨row, rfl, overflows⟩]
    exact iff_of_false nofun fun made => counts made.1

/-- What an answer says, with each row at its exact instant. A row that is at none is left out. -/
def result (answer : Exported) (measurement : String) (requested : List String) (labels : Tags) :
    SeriesResult :=
  (SeriesResult.ofSeries ((selectedPlaces answer.legend requested).map fun place =>
    ⟨seriesName measurement (answer.legend[place]?.getD ""), labels, answer.readings place⟩)).note
      "step" (.integer answer.step.toInt)

end Exported

section
variable {body measurement : String} {requested : List String} {labels : Tags}

theorem readExported_eq_ok_iff {result : SeriesResult} :
    readExported body measurement requested labels = .ok result ↔
      ∃ answer, (Json.read? (Text.trim body)).bind exported? = some answer ∧
        ∃ rows, answer.timedRows = .ok rows ∧
          (SeriesResult.ofSeries (seriesOfRows measurement requested labels answer.legend
            rows)).note "step" (.integer answer.step.toInt) = result := by
  cases told : (Json.read? (Text.trim body)).bind exported? with
  | none =>
    rw [readExported_of_untold told]
    simp
  | some answer =>
    rw [readExported_of_told told]
    constructor
    · exact fun read => ⟨answer, rfl, exists_of_map read⟩
    · rintro ⟨_, ⟨⟩, rows, timed, rfl⟩
      rw [timed]
      rfl

theorem readExported_eq_rowTime_iff {row : Nat} :
    readExported body measurement requested labels = .error (.rowTime row) ↔
      ∃ answer, (Json.read? (Text.trim body)).bind exported? = some answer ∧
        answer.OverflowsAt row := by
  cases told : (Json.read? (Text.trim body)).bind exported? with
  | none =>
    rw [readExported_of_untold told]
    simp
  | some answer =>
    rw [readExported_of_told told, map_eq_error_iff, Exported.timedRows_eq_error_iff]
    simp

end

/-- An answer is read if and only if all its rows can be counted, and then each row is at its exact
instant. Any other answer fails at the first row that cannot be counted. -/
theorem readExported_exact_iff (body measurement : String) (requested : List String)
    (labels : Tags) :
    (∀ result, readExported body measurement requested labels = .ok result ↔
      ∃ answer, (Json.read? (Text.trim body)).bind exported? = some answer ∧
        (∀ row < answer.rows.length, answer.Counts row) ∧
        answer.result measurement requested labels = result) ∧
    ∀ row, readExported body measurement requested labels = .error (.rowTime row) ↔
      ∃ answer, (Json.read? (Text.trim body)).bind exported? = some answer ∧
        answer.OverflowsAt row := by
  refine ⟨fun result => ?_, fun row => readExported_eq_rowTime_iff⟩
  rw [readExported_eq_ok_iff]
  refine exists_congr fun answer => and_congr_right fun _ => ?_
  simp only [Exported.timedRows_eq_ok_iff, Exported.result, seriesOfRows,
    and_assoc, exists_and_left, exists_eq_left, Exported.columnReadings_exactRows]

/-- Three rows in one column. -/
def countedBody (start step : Int64) : Value :=
  .object [("meta", .object [("start", .integer start.toInt), ("step", .integer step.toInt),
      ("legend", .ofTexts ["usage"])]),
    ("data", .ofList .array [[.integer 1], [.integer 2], [.integer 3]])]

theorem read?_countedBody (start step : Int64) :
    (Json.read? (Text.trim (countedBody start step).compact)).bind exported? =
      some ⟨start, step, ["usage"], [[.integer 1], [.integer 2], [.integer 3]]⟩ := by
  have reads : Json.read? (Text.trim (countedBody start step).compact) =
      some (countedBody start step).tree := by
    rw [countedBody, trim_compact_object]
    exact read?_compact _
  rw [reads, Option.bind_some]
  refine exported?_of_shownBy (.intro (gives_object (show ["meta", "data"].Nodup by decide))
    (.head _) (gives_object (show ["start", "step", "legend"].Nodup by decide))
    ⟨_, .head _, int64?_integer start⟩ ⟨_, .tail _ (.head _), int64?_integer step⟩
    (.inl ⟨_, .tail _ (.tail _ (.head _)), list?_ofTexts _⟩) (.inl ⟨_, .tail _ (.head _), rfl⟩))

/-- Rows that start at the last instant there is, and rows with the longest step there is. -/
theorem readExported_exact_iff_late :
    (∃ result, readExported (countedBody 8210266876799 1).compact "cpu" [] .empty = .ok result ∧
      result.series = [⟨"cpu.usage", .empty, [⟨⟨8210266876799, 0, by decide⟩, some 1⟩]⟩]) ∧
    readExported (countedBody 1698408000 9223372036854775807).compact "cpu" [] .empty =
      .error (.rowTime 1) := by
  have late := (readExported_exact_iff (countedBody 8210266876799 1).compact "cpu" [] .empty).1
  have long := (readExported_exact_iff
    (countedBody 1698408000 9223372036854775807).compact "cpu" [] .empty).2
  refine ⟨⟨_, (late _).2 ⟨_, read?_countedBody _ _, by decide, rfl⟩, ?_⟩,
    (long 1).2 ⟨_, read?_countedBody _ _, by decide, by decide, by decide⟩⟩
  decide +kernel

end SeriesQuery.Rrd
