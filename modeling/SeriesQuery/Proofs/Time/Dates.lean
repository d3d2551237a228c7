import Mathlib.Tactic.IntervalCases
import SeriesQuery.Time.Calendar

/-!
Every day number is that of a date that the calendar has.
-/

set_option autoImplicit false

namespace SeriesQuery.Time

/-! ## Days of a cycle -/

/-- A day of a cycle of 400 years in its century, its group of four years, its year of that group
and its day of the year. The leap day comes last in its year. -/
structure CycleDay (day century group year rest : Int) : Prop where
  sum : day = 36524 * century + 1461 * group + 365 * year + rest
  centuries : 0 ≤ century ∧ century ≤ 3
  groups : 0 ≤ group ∧ group ≤ 24
  years : 0 ≤ year ∧ year ≤ 3
  rests : 0 ≤ rest ∧ rest ≤ 365
  leap : rest = 365 → year = 3 ∧ (group = 24 → century = 3)

theorem exists_cycleDay {day : Int} (low : 0 ≤ day) (high : day < daysPerCycle) :
    ∃ century group year rest, CycleDay day century group year rest := by
  have high : day < 146097 := high
  let century := min 3 (day / 36524)
  let group := (day - 36524 * century) / 1461
  let year := min 3 ((day - 36524 * century - 1461 * group) / 365)
  refine ⟨century, group, year, day - 36524 * century - 1461 * group - 365 * year, ?_, ?_, ?_, ?_,
    ?_, ?_⟩
  · omega
  · omega
  · omega
  · omega
  · omega
  · omega

section
variable {day century group year rest : Int}

theorem CycleDay.year_eq (parts : CycleDay day century group year rest) :
    (day - day / 1460 + day / 36524 - day / 146096) / 365 = 100 * century + 4 * group + year := by
  obtain ⟨sum, centuries, groups, years, rests, leap⟩ := parts
  -- The two corrections for whole centuries differ on no day but meet on the last one.
  have within : 1461 * group + 365 * year + rest ≤ 36523 ∨ day = 146096 ∧ century = 3 := by omega
  have same : day / 36524 = century + day / 146096 := by
    rcases within with within | ⟨rfl, rfl⟩
    · have first : day / 36524 = century := by omega
      have none : day / 146096 = 0 := by omega
      omega
    · rfl
  obtain ⟨shift, quotient, low, high⟩ : ∃ shift : Int,
      day / 1460 = 25 * century + group + shift ∧ 0 ≤ rest - shift ∧ rest - shift ≤ 364 := by
    refine ⟨(24 * century + group + 365 * year + rest) / 1460, ?_, ?_, ?_⟩
    · omega
    · omega
    · omega
  omega

theorem CycleDay.rest_eq (parts : CycleDay day century group year rest) :
    let years := 100 * century + 4 * group + year
    day - (365 * years + years / 4 - years / 100) = rest := by
  obtain ⟨sum, centuries, groups, years, rests, leap⟩ := parts
  intro years
  omega

end

/-! ## Dates -/

def Date.ofMarch (year dayOfYear : Int) : Date :=
  let month := (5 * dayOfYear + 2) / 153
  let civilMonth := if month < 10 then month + 3 else month - 9
  { year := year + (if civilMonth ≤ 2 then 1 else 0)
    month := civilMonth.toNat
    day := (dayOfYear - (153 * month + 2) / 5 + 1).toNat }

theorem ofDayNumber_eq (number : Int) : ∃ cycle day century group year rest,
    CycleDay day century group year rest ∧ number + epochDay = cycle * daysPerCycle + day ∧
      Date.ofDayNumber number =
        .ofMarch (100 * century + 4 * group + year + cycle * 400) rest := by
  have low := Int.emod_nonneg (number + epochDay) (by decide : daysPerCycle ≠ 0)
  have high := Int.emod_lt_of_pos (number + epochDay) (by decide : 0 < daysPerCycle)
  have remainder : number + epochDay - (number + epochDay) / daysPerCycle * daysPerCycle =
      (number + epochDay) % daysPerCycle := by
    rw [Int.emod_def, Int.mul_comm]
  obtain ⟨century, group, year, rest, parts⟩ := exists_cycleDay low high
  refine ⟨(number + epochDay) / daysPerCycle, _, century, group, year, rest, parts, by omega, ?_⟩
  unfold Date.ofDayNumber Date.ofMarch
  simp only [remainder, parts.year_eq, parts.rest_eq]

theorem day_ofMarch (year rest : Int) :
    ((Date.ofMarch year rest).day : Int) = rest - (153 * ((5 * rest + 2) / 153) + 2) / 5 + 1 := by
  simp only [Date.ofMarch]
  omega

section
variable {rest : Int} (low : 0 ≤ rest) (high : rest ≤ 365) (year : Int)
include low high

theorem month_range : 0 ≤ (5 * rest + 2) / 153 ∧ (5 * rest + 2) / 153 ≤ 11 := by omega

theorem year_ofMarch :
    (if (Date.ofMarch year rest).month ≤ 2 then (Date.ofMarch year rest).year - 1
      else (Date.ofMarch year rest).year) = year := by
  have range := month_range low high
  simp only [Date.ofMarch]
  by_cases early : (5 * rest + 2) / 153 < 10
  · simp only [early, if_true]
    split <;> split <;> omega
  · simp only [early, if_false]
    split <;> split <;> omega

theorem month_ofMarch :
    (((Date.ofMarch year rest).month : Int) + 9) % 12 = (5 * rest + 2) / 153 := by
  have range := month_range low high
  simp only [Date.ofMarch]
  generalize (5 * rest + 2) / 153 = month at range
  split
  · omega
  · omega

end

theorem dayNumber_ofMarch {day century group year rest : Int}
    (parts : CycleDay day century group year rest) (cycle : Int) :
    (Date.ofMarch (100 * century + 4 * group + year + cycle * 400) rest).dayNumber =
      cycle * daysPerCycle + day - epochDay := by
  obtain ⟨sum, centuries, groups, years, ⟨low, high⟩, leap⟩ := parts
  have whole : (100 * century + 4 * group + year + cycle * 400) / 400 = cycle := by omega
  have same : 100 * century + 4 * group + year + cycle * 400 - cycle * 400 =
      100 * century + 4 * group + year := by omega
  have fourth : (100 * century + 4 * group + year) / 4 = 25 * century + group := by omega
  have hundredth : (100 * century + 4 * group + year) / 100 = century := by omega
  unfold Date.dayNumber
  simp only [year_ofMarch low high, month_ofMarch low high, day_ofMarch, whole, same, fourth,
    hundredth]
  omega

theorem dayNumber_ofDayNumber (number : Int) : (Date.ofDayNumber number).dayNumber = number := by
  obtain ⟨cycle, day, century, group, year, rest, parts, sum, same⟩ := ofDayNumber_eq number
  rw [same, dayNumber_ofMarch parts]
  omega

/-- A year that is reckoned from March has a leap day where the next civil year has one. -/
theorem CycleDay.isLeapYear {day century group year rest : Int}
    (parts : CycleDay day century group year rest) (last : rest = 365) (cycle : Int) :
    Time.isLeapYear (100 * century + 4 * group + year + cycle * 400 + 1) = true := by
  obtain ⟨sum, centuries, groups, years, rests, leap⟩ := parts
  obtain ⟨rfl, turn⟩ := leap last
  simp only [Time.isLeapYear, Bool.and_eq_true, Bool.or_eq_true, beq_iff_eq, bne_iff_ne]
  omega

theorem exists_of_ofMarch {day century group year rest : Int}
    (parts : CycleDay day century group year rest) (cycle : Int) :
    (Date.ofMarch (100 * century + 4 * group + year + cycle * 400) rest).exists = true := by
  have leap := parts.isLeapYear
  obtain ⟨-, -, -, -, ⟨low, high⟩, -⟩ := parts
  have range := month_range low high
  obtain ⟨month, same⟩ : ∃ month, (5 * rest + 2) / 153 = month := ⟨_, rfl⟩
  rw [same] at range
  simp only [Date.ofMarch, Date.exists, same, Bool.and_eq_true, decide_eq_true_eq]
  -- February, the last month, is the only one whose length is not the same in every year.
  by_cases february : month = 11
  · subst february
    have small : rest ≤ 364 ∨ rest = 365 := by omega
    rcases small with small | last
    · have least : 28 ≤ daysInMonth (100 * century + 4 * group + year + cycle * 400 + 1) 2 := by
        rw [daysInMonth, if_pos rfl]
        split <;> decide
      simp
      omega
    · simp [daysInMonth, leap last, last]
  · obtain ⟨first, last⟩ := range
    have last : month ≤ 10 := by omega
    interval_cases month <;> simp [daysInMonth] <;> omega

theorem exists_ofDayNumber (number : Int) : (Date.ofDayNumber number).exists = true := by
  obtain ⟨cycle, day, century, group, year, rest, parts, sum, same⟩ := ofDayNumber_eq number
  rw [same, exists_of_ofMarch parts]

theorem le_of_exists {date : Date} (valid : date.exists = true) :
    date.month ≤ 12 ∧ date.day ≤ 31 := by
  simp only [Date.exists, Bool.and_eq_true, decide_eq_true_eq] at valid
  obtain ⟨⟨⟨-, month⟩, -⟩, day⟩ := valid
  refine ⟨month, day.trans ?_⟩
  unfold daysInMonth
  split
  · split <;> decide
  · split <;> decide

/-! ## Years of instants -/

def daysBefore (year : Int) : Int := 365 * year + year / 4 - year / 100 + year / 400

theorem daysBefore_le {first second : Int} (order : first ≤ second) :
    daysBefore first ≤ daysBefore second := by
  unfold daysBefore
  rcases Int.lt_or_eq_of_le order with less | same
  · omega
  · rw [same]

theorem dayNumber_eq (date : Date) :
    date.dayNumber = daysBefore (if date.month ≤ 2 then date.year - 1 else date.year) +
      ((153 * ((date.month + 9 : Int) % 12) + 2) / 5 + date.day - 1) - epochDay := by
  unfold Date.dayNumber daysBefore daysPerCycle
  generalize (if date.month ≤ 2 then date.year - 1 else date.year) = year
  dsimp only
  omega

end SeriesQuery.Time
