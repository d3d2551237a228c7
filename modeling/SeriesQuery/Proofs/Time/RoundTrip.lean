import SeriesQuery.Proofs.Decimal.Numerals
import SeriesQuery.Proofs.Time.Dates
import SeriesQuery.Time.Format
import SeriesQuery.Time.Reader

/-!
An instant in a year of four digits is read back from the internet date format, which has only
digits and a few marks.
-/

set_option autoImplicit false

namespace SeriesQuery.Time

/-! ## Padded numbers -/

section
variable {width value : Nat}

theorem isDigit_of_mem_padded {c : Char} (member : c ∈ (padded width value).toList) :
    c.isDigit = true := by
  rw [padded, String.toList_ofList, List.mem_append] at member
  rcases member with zero | digit
  · rw [(List.mem_replicate.1 zero).2]
    rfl
  · exact Decimal.isDigit_of_mem_toDigits digit

theorem digitsValue_padded (width value : Nat) :
    Decimal.digitsValue (padded width value).toList = value := by
  change Nat.ofDigitChars 10 _ 0 = value
  rw [padded, String.toList_ofList, Nat.ofDigitChars_append, Nat.ofDigitChars_replicate_zero,
    Nat.mul_zero, Nat.ofDigitChars_toDigits (by decide) (by decide)]

theorem length_padded (positive : 0 < width) (fits : value < 10 ^ width) :
    (padded width value).toList.length = width := by
  have short := (Nat.length_toDigits_le_iff (by decide) positive).2 fits
  rw [padded, String.toList_ofList, List.length_append, List.length_replicate]
  exact Nat.sub_add_cancel short

theorem readDigits_padded_of_le {least : Nat} (enough : least ≤ width) (positive : 0 < width)
    (fits : value < 10 ^ width) (rest : List Char) :
    readDigits least (some width) ((padded width value).toList ++ rest) = some (value, rest) := by
  have length := length_padded positive fits
  have taken : ((padded width value).toList ++ rest).take width = (padded width value).toList := by
    exact List.take_left' length
  have all : (padded width value).toList.takeWhile Char.isDigit = (padded width value).toList :=
    List.takeWhile_eq_self_iff.2 fun c => isDigit_of_mem_padded
  rw [readDigits]
  simp only [taken, all, length, Nat.not_lt.2 enough, if_false, digitsValue_padded]
  rw [List.drop_left' length]

theorem readDigits_padded (positive : 0 < width) (fits : value < 10 ^ width) (rest : List Char) :
    readDigits width (some width) ((padded width value).toList ++ rest) = some (value, rest) :=
  readDigits_padded_of_le (Nat.le_refl width) positive fits rest

end

/-- A fraction of so many digits counts in units of the next places. -/
theorem readFraction_padded {width value : Nat} (positive : 0 < width) (most : width ≤ 9)
    (fits : value < 10 ^ width) {rest : List Char} (stops : Stops Char.isDigit rest) :
    readFraction ('.' :: ((padded width value).toList ++ rest)) =
      some (value * 10 ^ (9 - width), rest) := by
  have length := length_padded positive fits
  have all : ∀ c ∈ (padded width value).toList, c.isDigit = true :=
    fun _ member => isDigit_of_mem_padded member
  have split := span_append all stops
  rw [List.span_eq_takeWhile_dropWhile] at split
  obtain ⟨digits, after⟩ := Prod.mk.inj split
  have nonempty : (padded width value).toList.isEmpty = false := by
    rw [List.isEmpty_eq_false_iff, ← List.length_pos_iff]
    omega
  have kept : (padded width value).toList.take 9 = (padded width value).toList :=
    List.take_of_length_le (by omega)
  simp only [readFraction, digits, after, nonempty, kept, digitsValue_padded, length]
  rfl

theorem readFraction_fractionText {nanos : Nat} (small : nanos < nanosPerSecond)
    (rest : List Char) :
    readFraction ((fractionText nanos).toList ++ 'Z' :: rest) = some (nanos, 'Z' :: rest) := by
  have small : nanos < 1000000000 := small
  have stops : Stops Char.isDigit ('Z' :: rest) := stops_cons (by decide) rest
  have point : ".".toList = ['.'] := by decide
  unfold fractionText
  split
  · next zero => rw [zero]; rfl
  · split
    · next milliseconds =>
      rw [String.toList_append, List.append_assoc, point, List.singleton_append,
        readFraction_padded (by decide) (by decide) (by omega) stops,
        show nanos / 1000000 * 10 ^ (9 - 3) = nanos by omega]
    · split
      · next microseconds =>
        rw [String.toList_append, List.append_assoc, point, List.singleton_append,
          readFraction_padded (by decide) (by decide) (by omega) stops,
          show nanos / 1000 * 10 ^ (9 - 6) = nanos by omega]
      · rw [String.toList_append, List.append_assoc, point, List.singleton_append,
          readFraction_padded (by decide) (by decide) (by omega) stops, Nat.sub_self,
          Nat.pow_zero, Nat.mul_one]

/-! ## Instants -/

namespace Instant

variable (instant : Instant)

theorem secondOfDay_lt : instant.secondOfDay < 86400 := by
  have low := Int.emod_nonneg instant.seconds (by decide : daySeconds ≠ 0)
  have high : instant.seconds % daySeconds < 86400 :=
    Int.emod_lt_of_pos instant.seconds (by decide)
  unfold secondOfDay
  omega

def reading : Reading where
  date := instant.date
  hour := instant.secondOfDay / 3600
  minute := instant.secondOfDay / 60 % 60
  second := instant.secondOfDay % 60 + (if instant.isLeapSecond then 1 else 0)
  nanos := instant.nanos % nanosPerSecond
  offset := 0

theorem ofParts?_eq : ofParts? instant.seconds instant.nanos = some instant := by
  rw [ofParts?, dif_pos instant.valid]

theorem seconds_eq :
    instant.date.dayNumber * daySeconds + instant.secondOfDay = instant.seconds := by
  have low := Int.emod_nonneg instant.seconds (by decide : daySeconds ≠ 0)
  have sum := Int.mul_ediv_add_emod instant.seconds daySeconds
  rw [Int.mul_comm] at sum
  rw [date, dayNumber_ofDayNumber, secondOfDay, Int.toNat_of_nonneg low, sum]

theorem second_reading :
    if instant.isLeapSecond then instant.secondOfDay % 60 = 59 ∧
      instant.nanos = nanosPerSecond + instant.nanos % nanosPerSecond
    else instant.nanos = instant.nanos % nanosPerSecond := by
  obtain ⟨-, -, most, leap⟩ := instant.valid
  have low := Int.emod_nonneg instant.seconds (by decide : daySeconds ≠ 0)
  unfold isLeapSecond secondOfDay
  split
  · next isLeap =>
    have large : nanosPerSecond ≤ instant.nanos := of_decide_eq_true isLeap
    have minuteEnd := leap large
    simp only [nanosPerSecond, daySeconds] at *
    omega
  · next isUsual =>
    have small : ¬ nanosPerSecond ≤ instant.nanos := fun large => isUsual (decide_eq_true large)
    simp only [nanosPerSecond] at *
    omega

theorem year_bounds :
    earliestYear ≤ instant.date.year ∧ instant.date.year ≤ latestYear := by
  obtain ⟨least, most, -, -⟩ := instant.valid
  have valid : instant.date.exists = true := exists_ofDayNumber _
  have number : instant.date.dayNumber = instant.seconds / daySeconds := dayNumber_ofDayNumber _
  have ⟨monthly, daily⟩ := le_of_exists valid
  simp only [Date.exists, Bool.and_eq_true, decide_eq_true_eq] at valid
  obtain ⟨⟨⟨firstMonth, -⟩, firstDay⟩, -⟩ := valid
  rw [dayNumber_eq] at number
  generalize instant.date = date at *
  obtain ⟨year, month, day⟩ := date
  simp only [earliestSecond, latestSecond, daySeconds, earliestYear, latestYear, epochDay] at *
  -- January and February belong to the year that began with the March before.
  constructor
  · by_contra before
    have months := daysBefore_le (by omega : year ≤ -262144)
    have more := daysBefore_le (by omega : year - 1 ≤ -262145)
    have early : daysBefore (-262144) = -95746130 := by decide
    have earlier : daysBefore (-262145) = -95746496 := by decide
    split at number <;> omega
  · by_contra after
    have months := daysBefore_le (by omega : 262143 ≤ year)
    have more := daysBefore_le (by omega : 262142 ≤ year - 1)
    have late : daysBefore 262142 = 95745399 := by decide
    have later : daysBefore 262143 = 95745764 := by decide
    split at number <;> omega

theorem instant?_reading : instant.reading.instant? = some instant := by
  have valid : instant.date.exists = true := exists_ofDayNumber _
  have ofDay := instant.secondOfDay_lt
  have seconds := instant.seconds_eq
  have written := instant.second_reading
  have inYears := instant.year_bounds
  unfold Reading.instant? reading
  simp only [valid]
  -- Second 60 is read as second 59 with a second more in the fraction.
  cases leap : instant.isLeapSecond with
  | true =>
    simp only [leap, if_true] at written ⊢
    obtain ⟨last, nanos⟩ := written
    rw [if_pos (by refine ⟨inYears, trivial, ?_, by decide⟩; omega), if_pos (by omega), ← nanos]
    simp only [daySeconds] at seconds ⊢
    refine (congrArg (ofParts? · _) ?_).trans instant.ofParts?_eq
    omega
  | false =>
    simp only [leap, Bool.false_eq_true, if_false] at written ⊢
    rw [if_pos (by refine ⟨inYears, trivial, ?_, by decide⟩; omega), if_neg (by omega), ← written]
    simp only [daySeconds] at seconds ⊢
    refine (congrArg (ofParts? · _) ?_).trans instant.ofParts?_eq
    omega

end Instant

theorem readChar_cons (c : Char) (rest : List Char) : readChar c (c :: rest) = some rest := by
  rw [readChar, if_pos rfl]

theorem readDivider_cons (rest : List Char) : readDivider ('T' :: rest) = some rest := by
  rw [readDivider, if_pos (.inl rfl)]

theorem readOffset_cons (divider : List Char → Option (List Char)) (rest : List Char) :
    readOffset divider ('Z' :: rest) = some (0, rest) := by
  rw [readOffset, if_pos (.inl rfl)]
  rfl

theorem bind_of_some {α β : Type} {read : Option α} {value : α} (found : read = some value)
    (next : α → Option β) : (read >>= next) = next value := by
  rw [found]
  rfl

namespace Reading

/-- The characters of a date and a time in universal time, behind the year. -/
def behindYear (reading : Reading) : List Char :=
  '-' :: ((padded 2 reading.date.month).toList ++ '-' :: ((padded 2 reading.date.day).toList ++
    'T' :: ((padded 2 reading.hour).toList ++ ':' :: ((padded 2 reading.minute).toList ++
    ':' :: ((padded 2 reading.second).toList ++ ((fractionText reading.nanos).toList ++ ['Z']))))))

/-- Every part has its two digits, and the fraction its nine. -/
structure Fits (reading : Reading) : Prop where
  month : reading.date.month < 10 ^ 2
  day : reading.date.day < 10 ^ 2
  hour : reading.hour < 10 ^ 2
  minute : reading.minute < 10 ^ 2
  second : reading.second < 10 ^ 2
  nanos : reading.nanos < nanosPerSecond

end Reading

theorem Instant.fits_reading (instant : Instant) : instant.reading.Fits := by
  have ⟨monthly, daily⟩ := le_of_exists (exists_ofDayNumber (instant.seconds / daySeconds))
  have ofDay := instant.secondOfDay_lt
  refine ⟨Nat.lt_of_le_of_lt monthly (by decide), Nat.lt_of_le_of_lt daily (by decide), ?_, ?_, ?_,
    Nat.mod_lt _ (by decide)⟩
  · simp only [Instant.reading]
    omega
  · simp only [Instant.reading]
    omega
  · simp only [Instant.reading]
    split <;> omega

theorem Instant.toList_zulu_eq (instant : Instant) :
    instant.zulu.toList = (yearText instant.date.year).toList ++ instant.reading.behindYear := by
  have dash : "-".toList = ['-'] := by decide
  have colon : ":".toList = [':'] := by decide
  have divider : "T".toList = ['T'] := by decide
  have zone : "Z".toList = ['Z'] := by decide
  simp only [Instant.zulu, Date.text, Instant.timeText, Instant.reading, Reading.behindYear,
    String.toList_append, List.append_assoc, dash, colon, divider, zone, List.cons_append,
    List.nil_append]

theorem readStrict?_padded {text : String} {year : Nat} {reading : Reading}
    (written : text.toList = (padded 4 year).toList ++ reading.behindYear)
    (years : year < 10 ^ 4) (fits : reading.Fits) :
    readStrict? text =
      Reading.instant? { reading with date := { reading.date with year }, offset := 0 } := by
  have two : 0 < 2 := by decide
  unfold readStrict?
  rw [written, Reading.behindYear]
  refine (bind_of_some (readDigits_padded (by decide) years _) _).trans ?_
  refine (bind_of_some (readChar_cons '-' _) _).trans ?_
  refine (bind_of_some (readDigits_padded two fits.month _) _).trans ?_
  refine (bind_of_some (readChar_cons '-' _) _).trans ?_
  refine (bind_of_some (readDigits_padded two fits.day _) _).trans ?_
  refine (bind_of_some (readDivider_cons _) _).trans ?_
  refine (bind_of_some (readDigits_padded two fits.hour _) _).trans ?_
  refine (bind_of_some (readChar_cons ':' _) _).trans ?_
  refine (bind_of_some (readDigits_padded two fits.minute _) _).trans ?_
  refine (bind_of_some (readChar_cons ':' _) _).trans ?_
  refine (bind_of_some (readDigits_padded two fits.second _) _).trans ?_
  refine (bind_of_some (readFraction_fractionText fits.nanos []) _).trans ?_
  exact bind_of_some (readOffset_cons _ []) _

section
variable {instant : Instant} (low : 0 ≤ instant.date.year) (high : instant.date.year ≤ 9999)
include low high

theorem toList_zulu :
    instant.zulu.toList =
      (padded 4 instant.date.year.toNat).toList ++ instant.reading.behindYear := by
  rw [instant.toList_zulu_eq, yearText, if_pos ⟨low, high⟩]

theorem readStrict?_zulu : readStrict? instant.zulu = some instant := by
  have year : ((instant.date.year.toNat : Nat) : Int) = instant.date.year := Int.toNat_of_nonneg low
  rw [readStrict?_padded (toList_zulu low high) (by omega) instant.fits_reading, year]
  exact instant.instant?_reading

end

/-! ## Characters -/

/-- A character of a written instant. -/
def isMark (c : Char) : Bool := c.isDigit || ['-', 'T', ':', '.', 'Z'].contains c

theorem isMark_padded (width value : Nat) : ∀ c ∈ (padded width value).toList, isMark c = true := by
  intro c member
  rw [isMark, isDigit_of_mem_padded member, Bool.true_or]

theorem isMark_fractionText (nanos : Nat) : ∀ c ∈ (fractionText nanos).toList, isMark c = true := by
  have pointed (width value : Nat) : ∀ c ∈ ("." ++ padded width value).toList, isMark c = true := by
    rw [String.toList_append]
    exact List.forall_mem_append.2 ⟨by decide, isMark_padded width value⟩
  unfold fractionText
  split
  · exact fun _ member => absurd member List.not_mem_nil
  · split
    · exact pointed _ _
    · split <;> exact pointed _ _

theorem isMark_zulu {instant : Instant} (low : 0 ≤ instant.date.year)
    (high : instant.date.year ≤ 9999) : ∀ c ∈ instant.zulu.toList, isMark c = true := by
  rw [toList_zulu low high]
  simp only [Reading.behindYear, List.forall_mem_append, List.forall_mem_cons]
  have dash : isMark '-' = true := by decide
  have colon : isMark ':' = true := by decide
  exact ⟨isMark_padded _ _, dash, isMark_padded _ _, dash, isMark_padded _ _, by decide,
    isMark_padded _ _, colon, isMark_padded _ _, colon, isMark_padded _ _,
    isMark_fractionText _, by decide⟩

end SeriesQuery.Time
