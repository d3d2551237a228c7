import SeriesQuery.Proofs.Decimal.Numerals
import SeriesQuery.Time.Format
import SeriesQuery.Query.Duration

/-!
Texts without double quotes and backslashes. What is not a name, a value or an expression of its own
is written so: numbers, durations and instants.
-/

set_option autoImplicit false

namespace SeriesQuery

def Unquoted (text : String) : Prop := ∀ c ∈ text.toList, c ≠ '"' ∧ c ≠ '\\'

instance (text : String) : Decidable (Unquoted text) :=
  inferInstanceAs (Decidable (∀ c ∈ text.toList, c ≠ '"' ∧ c ≠ '\\'))

theorem Unquoted.append {first last : String} (left : Unquoted first) (right : Unquoted last) :
    Unquoted (first ++ last) := by
  intro c member
  rw [String.toList_append, List.mem_append] at member
  exact member.elim (left c) (right c)

theorem unquoted_of_isNumeral {text : String}
    (numerals : ∀ c ∈ text.toList, Decimal.isNumeral c = true) : Unquoted text := by
  intro c member
  have numeral := numerals c member
  constructor
  · rintro rfl
    cases numeral
  · rintro rfl
    cases numeral

theorem unquoted_toString_nat (value : Nat) : Unquoted (toString value) :=
  unquoted_of_isNumeral (Decimal.numeric_toString_nat value).numerals

theorem unquoted_toString_int (value : Int) : Unquoted (toString value) :=
  unquoted_of_isNumeral (Decimal.numeric_toString_int value).numerals

/-- A double is written without quotes even where it is not a number. -/
theorem unquoted_plain (value : Float) : Unquoted (Decimal.plain value) := by
  intro c member
  have written := Decimal.isNumeral_or_isAlpha_of_mem_plain member
  constructor
  · rintro rfl
    exact absurd written (by decide)
  · rintro rfl
    exact absurd written (by decide)

/-! ## Times -/

namespace Time

theorem unquoted_padded (width value : Nat) : Unquoted (padded width value) := by
  apply unquoted_of_isNumeral
  intro c member
  rw [padded, String.toList_ofList, List.mem_append] at member
  rcases member with zero | digit
  · exact Decimal.isNumeral_of_mem_replicate zero
  · exact Decimal.isNumeral_of_isDigit (Decimal.isDigit_of_mem_toDigits digit)

theorem unquoted_yearText (year : Int) : Unquoted (yearText year) := by
  unfold yearText
  split
  · exact unquoted_padded _ _
  · apply Unquoted.append _ (unquoted_padded _ _)
    split
    · decide
    · decide

theorem unquoted_fractionText (nanos : Nat) : Unquoted (fractionText nanos) := by
  have point : Unquoted "." := by decide
  unfold fractionText
  split
  · decide
  · split
    · exact point.append (unquoted_padded _ _)
    · split
      · exact point.append (unquoted_padded _ _)
      · exact point.append (unquoted_padded _ _)

theorem unquoted_date (date : Date) : Unquoted date.text := by
  have dash : Unquoted "-" := by decide
  exact ((((unquoted_yearText _).append dash).append (unquoted_padded _ _)).append dash).append
    (unquoted_padded _ _)

theorem Instant.unquoted_timeText (instant : Instant) : Unquoted instant.timeText := by
  have colon : Unquoted ":" := by decide
  exact (((((unquoted_padded _ _).append colon).append (unquoted_padded _ _)).append colon).append
    (unquoted_padded _ _)).append (unquoted_fractionText _)

theorem Instant.unquoted_zulu (instant : Instant) : Unquoted instant.zulu :=
  (((unquoted_date _).append (by decide)).append instant.unquoted_timeText).append (by decide)

end Time

theorem Duration.unquoted_text (duration : Duration) : Unquoted duration.text := by
  apply (unquoted_toString_nat _).append
  cases duration.unit <;> decide

end SeriesQuery
