import SeriesQuery.Proofs.Time.Months
import SeriesQuery.Proofs.Time.RoundTrip
import SeriesQuery.Query.Duration

/-!
Steps back in time. A duration leads from an instant to one that is no later, by so many seconds or
by so many years of the calendar. Steps that lead beyond all instants end at the earliest one, so
that a longer duration never leads to a later instant.
-/

set_option autoImplicit false

namespace SeriesQuery

namespace Time.Instant

/-! ## Parts of earlier instants -/

theorem nanos_lt {instant : Instant} (usual : instant.isLeapSecond = false) :
    instant.nanos < nanosPerSecond := by
  unfold isLeapSecond at usual
  exact Nat.not_le.1 (of_decide_eq_false usual)

section
variable {seconds : Int} {nanos : Nat}

theorem ofParts?_eq_none (early : seconds < earliestSecond) : ofParts? seconds nanos = none := by
  rw [ofParts?, dif_neg fun valid => Int.not_le.2 early valid.1]

theorem exists_ofParts? (least : earliestSecond ≤ seconds) (most : seconds ≤ latestSecond)
    (usual : nanos < nanosPerSecond) :
    ∃ instant : Instant, ofParts? seconds nanos = some instant ∧ instant.seconds = seconds ∧
      instant.nanos = nanos := by
  have valid : IsInstant seconds nanos :=
    ⟨least, most, by unfold nanosPerSecond at *; omega,
      fun leap => absurd leap (Nat.not_le.2 usual)⟩
  exact ⟨⟨seconds, nanos, valid⟩, dif_pos valid, rfl, rfl⟩

theorem totalNanos_ofParts? (most : seconds ≤ latestSecond) (usual : nanos < nanosPerSecond) :
    ((ofParts? seconds nanos).getD .earliest).totalNanos =
      max (seconds * nanosPerSecond + nanos) earliest.totalNanos := by
  rcases Int.lt_or_le seconds earliestSecond with early | least
  · rw [ofParts?_eq_none early, Option.getD_none]
    simp only [totalNanos, earliest, nanosPerSecond] at usual ⊢
    omega
  · obtain ⟨instant, made, rfl, rfl⟩ := exists_ofParts? least most usual
    rw [made, Option.getD_some]
    simp only [totalNanos, earliest, nanosPerSecond] at usual ⊢
    omega

theorem isLeapSecond_ofParts? (usual : nanos < nanosPerSecond) :
    ((ofParts? seconds nanos).getD .earliest).isLeapSecond = false := by
  unfold ofParts?
  split
  · exact decide_eq_false (Nat.not_le.2 usual)
  · rfl

end

theorem inMonth_date (instant : Instant) : instant.date.InMonth := Date.inMonth_ofDayNumber _

section
variable (instant : Instant)

theorem secondsEarlier?_eq (usual : instant.isLeapSecond = false) (count : Nat) :
    instant.secondsEarlier? count = ofParts? (instant.seconds - count) instant.nanos := by
  unfold secondsEarlier?
  split
  · next none =>
    rw [none, Int.natCast_zero, Int.sub_zero, instant.ofParts?_eq]
  · rw [usual, if_neg Bool.false_ne_true]

/-- The second at the same time of day, months earlier. -/
def secondMonthsEarlier (months : Nat) : Int :=
  (instant.date.monthsEarlier months).dayNumber * daySeconds + instant.secondOfDay

theorem monthsEarlier?_eq (months : Nat) :
    instant.monthsEarlier? months =
      ofParts? (instant.secondMonthsEarlier months) instant.nanos := by
  unfold monthsEarlier?
  split
  · next none =>
    have same : instant.date.monthsEarlier (0 : Nat) = instant.date :=
      instant.inMonth_date.monthsEarlier_zero
    rw [none, secondMonthsEarlier, same, instant.seconds_eq, instant.ofParts?_eq]
  · rfl

theorem secondMonthsEarlier_le {months more : Nat} (fewer : months ≤ more) :
    instant.secondMonthsEarlier more ≤ instant.secondMonthsEarlier months := by
  have order := instant.inMonth_date.dayNumber_monthsEarlier_le (Int.ofNat_le.2 fewer)
  unfold secondMonthsEarlier daySeconds
  omega

theorem secondMonthsEarlier_le_seconds (months : Nat) :
    instant.secondMonthsEarlier months ≤ instant.seconds := by
  have order := instant.secondMonthsEarlier_le (Nat.zero_le months)
  have same : instant.date.monthsEarlier (0 : Nat) = instant.date :=
    instant.inMonth_date.monthsEarlier_zero
  rwa [secondMonthsEarlier.eq_def _ 0, same, instant.seconds_eq] at order

/-- Months lead beyond all instants just when they lead into a year before all of theirs. -/
theorem secondMonthsEarlier_lt_iff (months : Nat) :
    instant.secondMonthsEarlier months < earliestSecond ↔
      (instant.date.monthsEarlier months).year < earliestYear := by
  have valid := instant.inMonth_date.monthsEarlier months
  have started := valid.yearStart_le_iff earliestYear
  have ofDay := instant.secondOfDay_lt
  rw [← Int.not_le, ← Int.not_le, ← started, earliestSecond_eq]
  unfold secondMonthsEarlier daySeconds
  constructor
  · intro before reached
    apply before
    omega
  · intro before reached
    apply before
    omega

theorem date_eq_of_seconds {date : Date} (valid : date.InMonth) {ofDay : Nat}
    (within : ofDay < 86400)
    (sum : instant.seconds = date.dayNumber * daySeconds + ofDay) :
    instant.date = date ∧ instant.secondOfDay = ofDay := by
  unfold daySeconds at sum
  have day : instant.seconds / daySeconds = date.dayNumber := by
    unfold daySeconds
    omega
  constructor
  · rw [Instant.date, day, valid.ofDayNumber_dayNumber]
  · unfold secondOfDay daySeconds
    omega

/-- More months than lie between all instants lead beyond them. -/
theorem monthsEarlier?_eq_none {months : Nat}
    (many : (latestYear - earliestYear + 1) * 12 ≤ months) :
    instant.monthsEarlier? months = none := by
  have count : (instant.date.monthsEarlier months).monthCount = instant.date.monthCount - months :=
    Date.monthCount_monthsEarlier months
  have inMonth := instant.inMonth_date.month
  have earlierInMonth := (instant.inMonth_date.monthsEarlier months).month
  have bounds := instant.year_bounds
  rw [monthsEarlier?_eq]
  apply ofParts?_eq_none
  rw [secondMonthsEarlier_lt_iff]
  unfold Date.monthCount at count
  unfold earliestYear latestYear at *
  omega

end

end Time.Instant

/-! ## Durations -/

namespace Duration

open Time Time.Instant

variable (duration : Duration) {finish : Instant}

/-- The second that a duration leads back to, whether an instant is there or not. -/
def target (duration : Duration) (finish : Instant) : Int :=
  match duration.unit with
  | .years => finish.secondMonthsEarlier (duration.amount.toNat * 12)
  | _ => finish.seconds - duration.seconds

theorem before_eq (usual : finish.isLeapSecond = false) :
    duration.before finish = (ofParts? (duration.target finish) finish.nanos).getD .earliest := by
  unfold before target
  cases duration.unit with
  | years => rw [monthsEarlier?_eq]
  | _ => rw [secondsEarlier?_eq finish usual]

theorem target_le (finish : Instant) : duration.target finish ≤ finish.seconds := by
  unfold target
  cases duration.unit with
  | years => exact finish.secondMonthsEarlier_le_seconds _
  | _ => exact Int.sub_le_self _ (Int.natCast_nonneg _)

theorem target_antitone {amount more : UInt32} (fewer : amount ≤ more) (unit : DurationUnit)
    (finish : Instant) :
    (Duration.mk more unit).target finish ≤ (Duration.mk amount unit).target finish := by
  have fewer : amount.toNat ≤ more.toNat := UInt32.le_iff_toNat_le.1 fewer
  have longer : amount.toNat * unit.length ≤ more.toNat * unit.length :=
    Nat.mul_le_mul_right _ fewer
  unfold target
  cases unit with
  | years => exact finish.secondMonthsEarlier_le (Nat.mul_le_mul_right 12 fewer)
  | _ => exact Int.sub_le_sub_left (Int.ofNat_le.2 longer) _

theorem totalNanos_before (usual : finish.isLeapSecond = false) :
    (duration.before finish).totalNanos =
      max (duration.target finish * nanosPerSecond + finish.nanos) earliest.totalNanos := by
  rw [before_eq duration usual]
  exact totalNanos_ofParts? ((duration.target_le finish).trans finish.valid.2.1) (nanos_lt usual)

/-! ## Words -/

/-- The length of a duration, multiplied in 64 bits. -/
def secondsWord (duration : Duration) : Int64 :=
  Int64.ofNat duration.amount.toNat * Int64.ofNat duration.unit.length

/-- The months of so many years in 32 bits, or as many as there is room for. -/
def monthsWord (duration : Duration) : UInt32 :=
  if duration.amount.toNat * 12 < UInt32.size then duration.amount * 12
  else .ofNat (UInt32.size - 1)

/-- A step back by lengths that are words. -/
def beforeByWords (duration : Duration) (finish : Instant) : Instant :=
  let start := match duration.unit with
    | .years => finish.monthsEarlier? duration.monthsWord.toNat
    | _ => finish.secondsEarlier? duration.secondsWord.toInt.toNat
  start.getD .earliest

theorem toInt_secondsWord : duration.secondsWord.toInt = duration.seconds := by
  obtain ⟨amount, unit⟩ := duration
  have amounts : amount.toNat < 2 ^ 32 := amount.toNat_lt
  have lengths : unit.length ≤ 31536000 := by cases unit <;> decide
  have product : amount.toNat * unit.length ≤ 2 ^ 32 * 31536000 :=
    Nat.mul_le_mul (Nat.le_of_lt amounts) lengths
  unfold secondsWord seconds
  dsimp only
  rw [Int64.toInt_mul, Int64.toInt_ofNat_of_lt (by omega), Int64.toInt_ofNat_of_lt (by omega),
    ← Int.natCast_mul]
  apply Int.bmod_eq_of_le
  · omega
  · omega

/-- Where the months do not fit, both counts of them lead beyond all instants. -/
theorem monthsEarlier?_monthsWord (finish : Instant) :
    finish.monthsEarlier? duration.monthsWord.toNat =
      finish.monthsEarlier? (duration.amount.toNat * 12) := by
  unfold monthsWord
  split
  · next fits =>
    rw [UInt32.toNat_mul, Nat.mod_eq_of_lt]
    · rfl
    · exact fits
  · next many =>
    unfold UInt32.size at many ⊢
    rw [finish.monthsEarlier?_eq_none (by decide), finish.monthsEarlier?_eq_none]
    unfold latestYear earliestYear
    omega

theorem beforeByWords_eq (finish : Instant) :
    duration.beforeByWords finish = duration.before finish := by
  have months := duration.monthsEarlier?_monthsWord finish
  have counted : duration.secondsWord.toInt.toNat = duration.seconds := by
    rw [toInt_secondsWord, Int.toNat_natCast]
  unfold beforeByWords before
  cases duration.unit with
  | years => exact congrArg (Option.getD · .earliest) months
  | _ => exact congrArg (fun count => (finish.secondsEarlier? count).getD .earliest) counted

/-! ## Steps back -/

structure StepsBack (duration : Duration) (finish start : Instant) : Prop where
  usual : start.isLeapSecond = false
  notAfter : start.totalNanos ≤ finish.totalNanos
  seconds : duration.unit ≠ .years → start.totalNanos =
    max (finish.totalNanos - duration.amount.toNat * duration.unit.length * nanosPerSecond)
      earliest.totalNanos
  years : duration.unit = .years →
    if earliestYear ≤ finish.date.year - duration.amount.toNat then
      start.date = finish.date.yearsEarlier duration.amount.toNat ∧
        start.secondOfDay = finish.secondOfDay ∧ start.nanos = finish.nanos
    else start = .earliest

theorem totalNanos_before_seconds (usual : finish.isLeapSecond = false)
    (counted : duration.unit ≠ .years) :
    (duration.before finish).totalNanos =
      max (finish.totalNanos - duration.amount.toNat * duration.unit.length * nanosPerSecond)
        earliest.totalNanos := by
  have target : duration.target finish =
      finish.seconds - duration.amount.toNat * duration.unit.length := by
    unfold Duration.target
    split
    · contradiction
    · rw [seconds, Int.natCast_mul]
  have parts : finish.totalNanos = finish.seconds * nanosPerSecond + finish.nanos := rfl
  rw [totalNanos_before duration usual, target, parts, Int.sub_mul]
  congr 1
  omega

theorem before_years (usual : finish.isLeapSecond = false) (years : duration.unit = .years) :
    if earliestYear ≤ finish.date.year - duration.amount.toNat then
      (duration.before finish).date = finish.date.yearsEarlier duration.amount.toNat ∧
        (duration.before finish).secondOfDay = finish.secondOfDay ∧
        (duration.before finish).nanos = finish.nanos
    else duration.before finish = .earliest := by
  have target : duration.target finish =
      finish.secondMonthsEarlier (duration.amount.toNat * 12) := by rw [Duration.target, years]
  have beyond := finish.secondMonthsEarlier_lt_iff (duration.amount.toNat * 12)
  have date := Date.monthsEarlier_eq_yearsEarlier
    (exists_ofDayNumber (finish.seconds / daySeconds)) duration.amount.toNat
  have valid := finish.inMonth_date.monthsEarlier (duration.amount.toNat * 12 : Nat)
  change finish.date.monthsEarlier _ = finish.date.yearsEarlier _ at date
  rw [date] at beyond valid
  rw [before_eq duration usual, target]
  -- The date is an instant's as long as its year is, whatever the time of day.
  split
  · next within =>
    have least := Int.not_lt.1 (mt beyond.1 (Int.not_lt.2 within))
    have most := (finish.secondMonthsEarlier_le_seconds (duration.amount.toNat * 12)).trans
      finish.valid.2.1
    obtain ⟨start, made, second, nanos⟩ := exists_ofParts? least most (nanos_lt usual)
    rw [secondMonthsEarlier, date] at second
    have ⟨onDate, atTime⟩ := start.date_eq_of_seconds valid finish.secondOfDay_lt second
    rw [made]
    exact ⟨onDate, atTime, nanos⟩
  · next before =>
    rw [ofParts?_eq_none (beyond.2 (Int.not_le.1 before)), Option.getD_none]

theorem stepsBack_before (usual : finish.isLeapSecond = false) :
    duration.StepsBack finish (duration.before finish) where
  usual := by
    rw [before_eq duration usual]
    exact isLeapSecond_ofParts? (nanos_lt usual)
  notAfter := by
    have noLater := duration.target_le finish
    have ⟨least, _⟩ := finish.valid
    rw [totalNanos_before duration usual]
    simp only [totalNanos, earliest, nanosPerSecond]
    omega
  seconds := totalNanos_before_seconds duration usual
  years := before_years duration usual

/-- A duration leads back as far as it counts, or to the earliest instant; its lengths fit the words
that hold them; and a longer duration in the same unit leads at least as far. -/
theorem before_stepsBack (usual : finish.isLeapSecond = false) :
    (duration.secondsWord.toInt = duration.seconds ∧
      duration.beforeByWords finish = duration.before finish) ∧
    duration.StepsBack finish (duration.before finish) ∧
    ∀ amount, duration.amount ≤ amount →
      ((Duration.mk amount duration.unit).before finish).totalNanos ≤
        (duration.before finish).totalNanos := by
  refine ⟨⟨duration.toInt_secondsWord, duration.beforeByWords_eq finish⟩,
    duration.stepsBack_before usual, fun amount longer => ?_⟩
  have further := target_antitone longer duration.unit finish
  rw [totalNanos_before _ usual, totalNanos_before _ usual]
  change (Duration.mk amount duration.unit).target finish ≤ duration.target finish at further
  simp only [nanosPerSecond]
  omega

/-- Half a second past noon on a leap day. -/
def leapNoon : Instant := ⟨1709208000, 500000000, by decide⟩

/-- A year leads from a leap day to the last of a shorter February, and the most years to the
earliest instant. -/
theorem before_stepsBack_leapNoon :
    leapNoon.isLeapSecond = false ∧
      ((Duration.mk 1 .years).before leapNoon).date = ⟨2023, 2, 28⟩ ∧
      ((Duration.mk 1 .years).before leapNoon).nanos = 500000000 ∧
      (Duration.mk 4294967295 .years).before leapNoon = .earliest ∧
      ((Duration.mk 4294967295 .weeks).before leapNoon).totalNanos = earliest.totalNanos := by
  have usual : leapNoon.isLeapSecond = false := by decide
  have year := (before_stepsBack ⟨1, .years⟩ usual).2.1.years rfl
  have most := (before_stepsBack ⟨4294967295, .years⟩ usual).2.1.years rfl
  have weeks := (before_stepsBack ⟨4294967295, .weeks⟩ usual).2.1.seconds (by decide)
  rw [if_pos (by decide)] at year
  rw [if_neg (by decide)] at most
  refine ⟨usual, year.1.trans (by decide), year.2.2, most, weeks.trans (by decide)⟩

end Duration

end SeriesQuery
