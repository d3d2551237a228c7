/-!
The proleptic calendar: dates and day numbers, counted from 1970-01-01. Years are reckoned from
March, so that the leap day is the last day of its year.
-/

set_option autoImplicit false

namespace SeriesQuery.Time

structure Date where
  year : Int
  month : Nat
  day : Nat
  deriving Repr, DecidableEq

def isLeapYear (year : Int) : Bool := year % 4 == 0 && (year % 100 != 0 || year % 400 == 0)

def daysInMonth (year : Int) (month : Nat) : Nat :=
  if month = 2 then (if isLeapYear year then 29 else 28)
  else if month = 4 ∨ month = 6 ∨ month = 9 ∨ month = 11 then 30
  else 31

def Date.exists (date : Date) : Bool :=
  1 ≤ date.month && date.month ≤ 12 && 1 ≤ date.day && date.day ≤ daysInMonth date.year date.month

def daysPerCycle : Int := 146097

def epochDay : Int := 719468

def Date.dayNumber (date : Date) : Int :=
  let year := if date.month ≤ 2 then date.year - 1 else date.year
  let cycle := year / 400
  let yearOfCycle := year - cycle * 400
  let month : Int := (date.month + 9) % 12
  let dayOfYear := (153 * month + 2) / 5 + date.day - 1
  let dayOfCycle := yearOfCycle * 365 + yearOfCycle / 4 - yearOfCycle / 100 + dayOfYear
  cycle * daysPerCycle + dayOfCycle - epochDay

def Date.ofDayNumber (dayNumber : Int) : Date :=
  let day := dayNumber + epochDay
  let cycle := day / daysPerCycle
  let dayOfCycle := day - cycle * daysPerCycle
  let yearOfCycle :=
    (dayOfCycle - dayOfCycle / 1460 + dayOfCycle / 36524 - dayOfCycle / 146096) / 365
  let dayOfYear := dayOfCycle - (365 * yearOfCycle + yearOfCycle / 4 - yearOfCycle / 100)
  let month := (5 * dayOfYear + 2) / 153
  let civilMonth := if month < 10 then month + 3 else month - 9
  { year := yearOfCycle + cycle * 400 + (if civilMonth ≤ 2 then 1 else 0)
    month := civilMonth.toNat
    day := (dayOfYear - (153 * month + 2) / 5 + 1).toNat }

/-- The same day of the month, months earlier; the last day of that month when it is too short. -/
def Date.monthsEarlier (date : Date) (months : Int) : Date :=
  let count := date.year * 12 + (date.month - 1) - months
  let year := count / 12
  let month := (count % 12).toNat + 1
  { year, month, day := min date.day (daysInMonth year month) }

def daySeconds : Int := 86400

end SeriesQuery.Time
