import SeriesQuery.Influx.LineProtocol
import SeriesQuery.Proofs.Outcomes
import SeriesQuery.Proofs.Points
import SeriesQuery.Proofs.Time.Earlier

/-!
Timestamps of lines. In every unit the timestamp of an instant is rounded down, before 1970 as well
as after it, so that the order of instants is kept and a coarse timestamp can be told from a fine
one. Only nanoseconds may not fit in 64 bits, and a line is refused for its timestamp just where
they do not.
-/

set_option autoImplicit false

namespace SeriesQuery.Influx

open Time

def FitsWord (number : Int) : Prop :=
  Int64.minValue.toInt ≤ number ∧ number ≤ Int64.maxValue.toInt

instance (number : Int) : Decidable (FitsWord number) :=
  inferInstanceAs (Decidable (_ ∧ _))

namespace Precision

theorem unit_pos (precision : Precision) : 0 < precision.unit := by
  cases precision <;> decide

/-- Coarser units are made of whole finer ones. -/
theorem unit_mul_div {fine coarse : Precision} (finer : fine.unit ≤ coarse.unit) :
    fine.unit * (coarse.unit / fine.unit) = coarse.unit := by
  revert finer
  cases fine <;> cases coarse <;> decide

section
variable {instant : Instant} (usual : instant.isLeapSecond = false)
include usual

theorem timestamp?_eq (precision : Precision) :
    precision.timestamp? instant =
      if precision = .nanoseconds ∧ ¬ FitsWord instant.totalNanos then none
      else some (instant.totalNanos / precision.unit) := by
  have small := Instant.nanos_lt usual
  unfold nanosPerSecond at small
  cases precision with
  | nanoseconds =>
    simp only [timestamp?, unit, true_and, Int.natCast_one, Int.ediv_one, FitsWord, ite_not]
  | _ =>
    simp [timestamp?, unit, Instant.totalNanos, nanosPerSecond]
    omega

theorem fitsWord_timestamp {precision : Precision} {stamp : Int}
    (stamped : precision.timestamp? instant = some stamp) : FitsWord stamp := by
  have ⟨least, most, _⟩ := instant.valid
  have small := Instant.nanos_lt usual
  unfold earliestSecond at least
  unfold latestSecond at most
  unfold nanosPerSecond at small
  cases precision with
  | nanoseconds =>
    simp only [timestamp?] at stamped
    split at stamped
    · next fits =>
      cases stamped
      exact fits
    · cases stamped
  | _ =>
    cases stamped
    have low : Int64.minValue.toInt = -2 ^ 63 := by decide
    have high : Int64.maxValue.toInt = 2 ^ 63 - 1 := by decide
    unfold FitsWord
    omega

theorem eq_floor_of_timestamp? {precision : Precision} {stamp : Int}
    (stamped : precision.timestamp? instant = some stamp) :
    stamp = instant.totalNanos / precision.unit := by
  rw [timestamp?_eq usual] at stamped
  split at stamped
  · cases stamped
  · exact (Option.some.inj stamped).symm

theorem timestamp?_le {later : Instant} (laterUsual : later.isLeapSecond = false)
    (order : instant.totalNanos ≤ later.totalNanos) {precision : Precision} {stamp laterStamp : Int}
    (stamped : precision.timestamp? instant = some stamp)
    (laterStamped : precision.timestamp? later = some laterStamp) : stamp ≤ laterStamp := by
  rw [eq_floor_of_timestamp? usual stamped, eq_floor_of_timestamp? laterUsual laterStamped]
  exact Int.ediv_le_ediv (Int.natCast_pos.2 precision.unit_pos) order

theorem timestamp?_coarse {fine coarse : Precision} (finer : fine.unit ≤ coarse.unit) {stamp : Int}
    (stamped : fine.timestamp? instant = some stamp) :
    coarse.timestamp? instant = some (stamp / (coarse.unit / fine.unit : Nat)) := by
  have whole : (fine.unit : Int) * (coarse.unit / fine.unit : Nat) = coarse.unit := by
    rw [← Int.natCast_mul, unit_mul_div finer]
  have floor := eq_floor_of_timestamp? usual stamped
  have fits : ¬ (coarse = .nanoseconds ∧ ¬ FitsWord instant.totalNanos) := by
    rintro ⟨rfl, wide⟩
    -- No unit is finer than nanoseconds, so the fine timestamp would be missing too.
    have same : fine = .nanoseconds := by
      revert finer
      cases fine <;> decide
    rw [timestamp?_eq usual, if_pos ⟨same, wide⟩] at stamped
    cases stamped
  rw [timestamp?_eq usual, if_neg fits, floor, Int.ediv_ediv_of_nonneg (Int.natCast_nonneg _),
    whole]

end

end Precision

/-! ## Lines -/

/-- All that a line asks of a point, but for its timestamp. -/
structure Expressible (point : Point) : Prop where
  measurement : point.measurement ≠ ""
  fields : point.fields.entries ≠ []
  finite : ∀ field ∈ point.fields.entries, ∀ value,
    field.2 = .float value → Decimal.isFinite value = true

theorem exists_fieldText_iff {field : String} {value : FieldValue} :
    (∃ text, fieldText field value = .ok text) ↔
      ∀ number, value = .float number → Decimal.isFinite number = true := by
  cases value with
  | integer number => simp [fieldText]
  | float number =>
    cases finite : Decimal.isFinite number <;> simp [fieldText, finite]

/-- The part of a line that comes before the timestamp can be made of just those points. -/
theorem expressible_iff {point : Point} :
    Expressible point ↔ point.checkContent = .ok () ∧
      ∃ texts, (point.fields.entries.mapM fun (key, value) => do
        return escapeKey key ++ "=" ++ (← fieldText key value)) = .ok texts := by
  have each (field : String × FieldValue) :
      (∃ text, (do return escapeKey field.1 ++ "=" ++ (← fieldText field.1 field.2) :
        Except WriteProblem String) = .ok text) ↔
      ∀ number, field.2 = .float number → Decimal.isFinite number = true :=
    exists_bind_pure_iff.trans exists_fieldText_iff
  rw [Point.checkContent_eq_ok_iff, exists_mapM_iff]
  constructor
  · rintro ⟨measurement, fields, finite⟩
    exact ⟨⟨measurement, fields⟩, fun field member => (each field).2 (finite field member)⟩
  · rintro ⟨⟨measurement, fields⟩, finite⟩
    exact ⟨measurement, fields, fun field member => (each field).1 (finite field member)⟩

theorem fieldText_ne_timestampRange {field : String} {value : FieldValue} {instant : Instant} :
    fieldText field value ≠ .error (.timestampRange instant) := by
  cases value with
  | integer number => nofun
  | float number =>
    unfold fieldText
    dsimp only
    split <;> nofun

theorem line_of_expressible {point : Point} (expressible : Expressible point)
    (precision : Precision) :
    line precision point = .error (.timestampRange point.timestamp) ↔
      precision.timestamp? point.timestamp = none := by
  obtain ⟨checked, texts, made⟩ := expressible_iff.1 expressible
  unfold line
  rw [checked, ok_bind, made, ok_bind]
  cases precision.timestamp? point.timestamp <;> simp

theorem line_eq_timestampRange_iff {precision : Precision} {point : Point} {instant : Instant} :
    line precision point = .error (.timestampRange instant) ↔
      instant = point.timestamp ∧ Expressible point ∧
        precision.timestamp? point.timestamp = none := by
  constructor
  · intro failed
    unfold line at failed
    rcases error_of_bind failed with failed | ⟨_, checked, failed⟩
    · exact absurd failed Point.checkContent_ne_timestampRange
    · rcases error_of_bind failed with failed | ⟨texts, made, failed⟩
      · obtain ⟨field, -, failed⟩ := error_of_mapM failed
        exact absurd ((error_of_bind failed).resolve_right nofun) fieldText_ne_timestampRange
      · split at failed
        · next missing =>
          cases failed
          exact ⟨rfl, expressible_iff.2 ⟨checked, texts, made⟩, missing⟩
        · cases failed
  · rintro ⟨rfl, expressible, missing⟩
    exact (line_of_expressible expressible precision).2 missing

/-- Every unit tells the instant rounded down. -/
structure Stamped (instant : Instant) : Prop where
  floor : ∀ precision, Precision.timestamp? precision instant =
    if precision = .nanoseconds ∧ ¬ FitsWord instant.totalNanos then none
    else some (instant.totalNanos / precision.unit)
  word : ∀ precision stamp, Precision.timestamp? precision instant = some stamp → FitsWord stamp
  monotone : ∀ later : Instant, later.isLeapSecond = false →
    instant.totalNanos ≤ later.totalNanos →
      ∀ precision stamp laterStamp, Precision.timestamp? precision instant = some stamp →
        precision.timestamp? later = some laterStamp → stamp ≤ laterStamp
  coarse : ∀ fine coarse : Precision, fine.unit ≤ coarse.unit →
    ∀ stamp, fine.timestamp? instant = some stamp →
      coarse.timestamp? instant = some (stamp / (coarse.unit / fine.unit : Nat))

/-- Timestamps are rounded down in every unit. A line fails for its timestamp just when all else
about the point can be written and its nanoseconds are asked for, but do not fit. -/
theorem timestamps_floor {instant : Instant} (usual : instant.isLeapSecond = false) :
    Stamped instant ∧
      ∀ point : Point, point.timestamp = instant → ∀ precision refused,
        line precision point = .error (.timestampRange refused) ↔
          refused = instant ∧ Expressible point ∧ precision = .nanoseconds ∧
            ¬ FitsWord instant.totalNanos := by
  refine ⟨⟨Precision.timestamp?_eq usual, fun _ _ => Precision.fitsWord_timestamp usual,
    fun _ laterUsual order _ _ _ => Precision.timestamp?_le usual laterUsual order,
    fun _ _ finer _ => Precision.timestamp?_coarse usual finer⟩, ?_⟩
  rintro point rfl precision refused
  rw [line_eq_timestampRange_iff, Precision.timestamp?_eq usual]
  simp

/-- A nanosecond before the first one that 64 bits hold. -/
def beforeWords : Instant := ⟨-9223372037, 145224191, by decide⟩

def beforeWordsPoint : Point where
  measurement := "ice core"
  fields := .ofList [("depth", .integer 3)]
  tags := .empty
  timestamp := beforeWords

/-- The timestamp is rounded down before 1970 too, and the line is refused for its nanoseconds. -/
theorem timestamps_floor_beforeWords :
    beforeWords.isLeapSecond = false ∧ ¬ FitsWord beforeWords.totalNanos ∧
      Precision.microseconds.timestamp? beforeWords = some (-9223372036854776) ∧
      Precision.milliseconds.timestamp? beforeWords = some (-9223372036855) ∧
      line .nanoseconds beforeWordsPoint = .error (.timestampRange beforeWords) := by
  have usual : beforeWords.isLeapSecond = false := by decide
  obtain ⟨stamped, refused⟩ := timestamps_floor usual
  have micros : Precision.microseconds.timestamp? beforeWords = some (-9223372036854776) :=
    (stamped.floor .microseconds).trans (by decide)
  have millis := stamped.coarse .microseconds .milliseconds (by decide) _ micros
  have entries : beforeWordsPoint.fields.entries = [("depth", .integer 3)] := by decide +kernel
  refine ⟨usual, by decide, micros, millis.trans (by decide), ?_⟩
  refine (refused beforeWordsPoint rfl .nanoseconds beforeWords).2 ⟨rfl, ⟨by decide, ?_, ?_⟩, rfl,
    by decide⟩
  · simp [entries]
  · simp [entries]

end SeriesQuery.Influx
