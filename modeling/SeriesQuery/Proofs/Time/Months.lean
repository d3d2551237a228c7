import Mathlib.Tactic.IntervalCases
import SeriesQuery.Proofs.Time.Dates

/-!
Months one after the other. Each starts on the day after the last one of the month before, so that
dates have their day numbers in the order of the calendar, and no two dates share one.
-/

set_option autoImplicit false

namespace SeriesQuery.Time

/-- Months since the first one of the year 0. -/
def Date.monthCount (date : Date) : Int := date.year * 12 + (date.month - 1)

/-- The day number of the first day of a month. -/
def monthStart (count : Int) : Int := (Date.mk (count / 12) ((count % 12).toNat + 1) 1).dayNumber

def monthLength (count : Int) : Nat := daysInMonth (count / 12) ((count % 12).toNat + 1)

/-! ## The calendar by months -/

theorem daysBefore_year (year : Int) :
    daysBefore year = daysBefore (year - 1) + (if isLeapYear year then 366 else 365) := by
  unfold daysBefore
  split
  · next leap =>
    simp only [isLeapYear, Bool.and_eq_true, Bool.or_eq_true, beq_iff_eq, bne_iff_ne] at leap
    omega
  · next usual =>
    simp only [isLeapYear, Bool.and_eq_true, Bool.or_eq_true, beq_iff_eq, bne_iff_ne] at usual
    omega

section
variable {month : Nat} (inYear : month < 12) (year : Int)
include inYear

theorem parts_of_count :
    (year * 12 + month) / 12 = year ∧ ((year * 12 + month) % 12).toNat = month := by
  constructor
  · omega
  · omega

theorem monthStart_eq :
    monthStart (year * 12 + month) = (Date.mk year (month + 1) 1).dayNumber := by
  have ⟨whole, rest⟩ := parts_of_count inYear year
  rw [monthStart, whole, rest]

theorem monthLength_eq : monthLength (year * 12 + month) = daysInMonth year (month + 1) := by
  have ⟨whole, rest⟩ := parts_of_count inYear year
  rw [monthLength, whole, rest]

theorem monthStart_next : monthStart (year * 12 + month + 1) =
    (if month = 11 then Date.mk (year + 1) 1 1 else Date.mk year (month + 2) 1).dayNumber := by
  split
  · next last =>
    have count : year * 12 + month + 1 = (year + 1) * 12 + (0 : Nat) := by omega
    rw [count, monthStart_eq (by decide)]
  · next other =>
    have count : year * 12 + month + 1 = year * 12 + (month + 1 : Nat) := by omega
    rw [count, monthStart_eq (by omega)]

end

theorem monthStart_succ (count : Int) :
    monthStart (count + 1) = monthStart count + monthLength count := by
  obtain ⟨year, month, inYear, rfl⟩ : ∃ (year : Int) (month : Nat), month < 12 ∧
      count = year * 12 + month := ⟨count / 12, (count % 12).toNat, by omega, by omega⟩
  rw [monthStart_next inYear, monthStart_eq inYear, monthLength_eq inYear]
  -- February ends a year that is reckoned from March, so that only its length takes the year.
  by_cases february : month = 1
  · subst february
    have days := daysBefore_year year
    by_cases leap : isLeapYear year
    · simp [dayNumber_eq, daysInMonth, leap] at days ⊢
      omega
    · simp [dayNumber_eq, daysInMonth, leap] at days ⊢
      omega
  · interval_cases month <;> simp [dayNumber_eq, daysInMonth] at february ⊢ <;> omega

theorem monthStart_add (count : Int) (more : Nat) :
    monthStart count + monthLength count ≤ monthStart (count + 1 + more) := by
  induction more with
  | zero => rw [Int.natCast_zero, Int.add_zero, monthStart_succ]
  | succ more ih =>
    have next := monthStart_succ (count + 1 + more)
    have same : count + 1 + (more + 1 : Nat) = count + 1 + more + 1 := by omega
    rw [same, next]
    omega

theorem monthStart_of_lt {count other : Int} (later : count < other) :
    monthStart count + monthLength count ≤ monthStart other := by
  obtain ⟨more, rfl⟩ : ∃ more : Nat, other = count + 1 + more :=
    ⟨(other - count - 1).toNat, by omega⟩
  exact monthStart_add count more

/-! ## The order of dates -/

namespace Date

structure InMonth (date : Date) : Prop where
  month : 1 ≤ date.month ∧ date.month ≤ 12
  day : 1 ≤ date.day ∧ date.day ≤ monthLength date.monthCount

variable {date other : Date}

theorem month_eq_count (first : 1 ≤ date.month) :
    date.monthCount = date.year * 12 + (date.month - 1 : Nat) := by
  unfold monthCount
  omega

theorem inMonth_of_exists (valid : date.exists = true) : InMonth date := by
  simp only [Date.exists, Bool.and_eq_true, decide_eq_true_eq] at valid
  obtain ⟨⟨⟨firstMonth, lastMonth⟩, firstDay⟩, lastDay⟩ := valid
  refine ⟨⟨firstMonth, lastMonth⟩, firstDay, ?_⟩
  rwa [month_eq_count firstMonth, monthLength_eq (by omega), Nat.sub_add_cancel firstMonth]

namespace InMonth

variable (valid : InMonth date) (otherValid : InMonth other)
include valid

theorem dayNumber_eq_start : date.dayNumber = monthStart date.monthCount + (date.day - 1) := by
  rw [month_eq_count valid.month.1, monthStart_eq (by have := valid.month; omega),
    Nat.sub_add_cancel valid.month.1, dayNumber_eq, dayNumber_eq]
  dsimp only
  omega

include otherValid

theorem dayNumber_lt_of_count (earlier : date.monthCount < other.monthCount) :
    date.dayNumber < other.dayNumber := by
  have ⟨_, _, inMonth⟩ := valid
  have ⟨_, first, _⟩ := otherValid
  have ended := monthStart_of_lt earlier
  rw [valid.dayNumber_eq_start, otherValid.dayNumber_eq_start]
  omega

theorem eq_of_dayNumber (same : date.dayNumber = other.dayNumber) : date = other := by
  have count : date.monthCount = other.monthCount := by
    apply Int.le_antisymm
    · exact Int.not_lt.1 fun later => absurd same
        (Int.ne_of_gt (otherValid.dayNumber_lt_of_count valid later))
    · exact Int.not_lt.1 fun earlier => absurd same
        (Int.ne_of_lt (valid.dayNumber_lt_of_count otherValid earlier))
  have months := valid.month
  have otherMonths := otherValid.month
  have days := valid.day
  have otherDays := otherValid.day
  -- With the same month, the days are at the same distance from its start.
  rw [valid.dayNumber_eq_start, otherValid.dayNumber_eq_start, count] at same
  unfold monthCount at count
  obtain ⟨year, month, day⟩ := date
  obtain ⟨otherYear, otherMonth, otherDay⟩ := other
  simp only at *
  rw [Date.mk.injEq]
  refine ⟨?_, ?_, ?_⟩
  · omega
  · omega
  · omega

end InMonth

theorem inMonth_ofDayNumber (number : Int) : InMonth (ofDayNumber number) :=
  inMonth_of_exists (exists_ofDayNumber number)

theorem InMonth.ofDayNumber_dayNumber (valid : InMonth date) :
    ofDayNumber date.dayNumber = date :=
  (inMonth_ofDayNumber _).eq_of_dayNumber valid (Time.dayNumber_ofDayNumber _)

theorem InMonth.yearStart_le_iff (valid : InMonth date) (year : Int) :
    (Date.mk year 1 1).dayNumber ≤ date.dayNumber ↔ year ≤ date.year := by
  have start : InMonth ⟨year, 1, 1⟩ := inMonth_of_exists (by simp [Date.exists, daysInMonth])
  have months := valid.month
  constructor
  · intro reached
    by_contra before
    apply Int.not_lt.2 reached
    apply valid.dayNumber_lt_of_count start
    simp only [monthCount]
    omega
  · intro within
    rcases Int.lt_or_eq_of_le (by simp only [monthCount]; omega :
      (Date.mk year 1 1).monthCount ≤ date.monthCount) with later | same
    · exact Int.le_of_lt (start.dayNumber_lt_of_count valid later)
    · have first := valid.day.1
      rw [start.dayNumber_eq_start, valid.dayNumber_eq_start, same]
      dsimp only
      omega

/-! ## Earlier months -/

theorem monthCount_monthsEarlier (months : Int) :
    (date.monthsEarlier months).monthCount = date.monthCount - months := by
  simp only [monthCount, Date.monthsEarlier]
  omega

theorem monthLength_pos (count : Int) : 28 ≤ monthLength count := by
  unfold monthLength daysInMonth
  split
  · split <;> decide
  · split <;> decide

section
variable (valid : InMonth date)
include valid

theorem InMonth.monthsEarlier (months : Int) : InMonth (date.monthsEarlier months) := by
  have some := monthLength_pos (date.monthCount - months)
  have length : monthLength (date.monthCount - months) =
      daysInMonth (date.monthsEarlier months).year (date.monthsEarlier months).month := rfl
  obtain ⟨-, first, -⟩ := valid
  constructor
  · simp only [Date.monthsEarlier]
    omega
  · rw [monthCount_monthsEarlier, length]
    rw [length] at some
    simp only [Date.monthsEarlier] at some ⊢
    omega

theorem InMonth.monthsEarlier_zero : date.monthsEarlier 0 = date := by
  have count : date.year * 12 + (date.month - 1) - 0 = date.year * 12 + (date.month - 1 : Nat) := by
    have := valid.month
    omega
  have inYear : date.month - 1 < 12 := by
    have := valid.month
    omega
  have ⟨year, month⟩ := parts_of_count inYear date.year
  have days := valid.day.2
  rw [month_eq_count valid.month.1, monthLength_eq inYear,
    Nat.sub_add_cancel valid.month.1] at days
  rw [Date.monthsEarlier, count, year, month, Nat.sub_add_cancel valid.month.1,
    Nat.min_eq_left days]

theorem InMonth.dayNumber_monthsEarlier_le {months more : Int} (fewer : months ≤ more) :
    (date.monthsEarlier more).dayNumber ≤ (date.monthsEarlier months).dayNumber := by
  rcases Int.lt_or_eq_of_le fewer with less | rfl
  · apply Int.le_of_lt
    apply (valid.monthsEarlier more).dayNumber_lt_of_count (valid.monthsEarlier months)
    rw [monthCount_monthsEarlier, monthCount_monthsEarlier]
    omega
  · exact Int.le_refl _

end

/-- The same day of years earlier. February 28 stands for a leap day that the year does not have. -/
def yearsEarlier (date : Date) (years : Nat) : Date where
  year := date.year - years
  month := date.month
  day := if date.month = 2 ∧ date.day = 29 ∧ isLeapYear (date.year - years) = false then 28
    else date.day

theorem monthsEarlier_eq_yearsEarlier (valid : date.exists = true) (years : Nat) :
    date.monthsEarlier (years * 12 : Nat) = date.yearsEarlier years := by
  simp only [Date.exists, Bool.and_eq_true, decide_eq_true_eq] at valid
  obtain ⟨⟨⟨first, last⟩, -⟩, inMonth⟩ := valid
  have count : date.year * 12 + (date.month - 1) - (years * 12 : Nat) =
      (date.year - years) * 12 + (date.month - 1 : Nat) := by omega
  obtain ⟨year, month⟩ := parts_of_count (by omega : date.month - 1 < 12) (date.year - years)
  rw [Date.monthsEarlier, count, year, month, Nat.sub_add_cancel first, yearsEarlier, Date.mk.injEq]
  refine ⟨rfl, rfl, ?_⟩
  unfold daysInMonth at inMonth ⊢
  -- Every month but February is as long in one year as in another.
  by_cases february : date.month = 2
  · simp only [february, if_true, true_and] at inMonth ⊢
    have most : date.day ≤ 29 := by
      split at inMonth
      · exact inMonth
      · exact inMonth.trans (by decide)
    cases isLeapYear (date.year - years) with
    | true => simpa using most
    | false =>
      simp only [Bool.false_eq_true, if_false, and_true]
      split
      · omega
      · omega
  · simp only [february, if_false, false_and] at inMonth ⊢
    exact Nat.min_eq_left inMonth

end Date

end SeriesQuery.Time
