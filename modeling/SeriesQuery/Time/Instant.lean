import SeriesQuery.Time.Calendar

/-!
Instants in universal time, within the years -262143 to 262142. A leap second is written as second
59 with a billion nanoseconds or more.
-/

set_option autoImplicit false

namespace SeriesQuery.Time

def earliestYear : Int := -262143

def latestYear : Int := 262142

/-- The first second of the year -262143. -/
def earliestSecond : Int := -8334601228800

def latestSecond : Int := 8210266876799

theorem earliestSecond_eq :
    earliestSecond = (Date.mk earliestYear 1 1).dayNumber * daySeconds := by decide

def nanosPerSecond : Nat := 1000000000

def IsInstant (seconds : Int) (nanos : Nat) : Prop :=
  earliestSecond ≤ seconds ∧ seconds ≤ latestSecond ∧ nanos < 2 * nanosPerSecond ∧
    (nanosPerSecond ≤ nanos → seconds % 60 = 59)

instance (seconds : Int) (nanos : Nat) : Decidable (IsInstant seconds nanos) := by
  unfold IsInstant
  infer_instance

/-- Seconds since 1970-01-01, rounded down, and the nanoseconds above them. -/
structure Instant where
  seconds : Int
  nanos : Nat
  valid : IsInstant seconds nanos
  deriving DecidableEq

namespace Instant

def ofParts? (seconds : Int) (nanos : Nat) : Option Instant :=
  if valid : IsInstant seconds nanos then some ⟨seconds, nanos, valid⟩ else none

def earliest : Instant := ⟨earliestSecond, 0, by decide⟩

def ofSeconds? (seconds : Int) : Option Instant := ofParts? seconds 0

def ofMillis? (millis : Int) : Option Instant :=
  ofParts? (millis / 1000) ((millis % 1000).toNat * 1000000)

def isLeapSecond (instant : Instant) : Bool := decide (nanosPerSecond ≤ instant.nanos)

/-- The instant a number of seconds earlier. A leap second that is left behind counts as the second
after it. -/
def secondsEarlier? (instant : Instant) (count : Nat) : Option Instant :=
  if count = 0 then some instant
  else if instant.isLeapSecond then
    ofParts? (instant.seconds + 1 - count) (instant.nanos - nanosPerSecond)
  else ofParts? (instant.seconds - count) instant.nanos

def date (instant : Instant) : Date := Date.ofDayNumber (instant.seconds / daySeconds)

def secondOfDay (instant : Instant) : Nat := (instant.seconds % daySeconds).toNat

def monthsEarlier? (instant : Instant) (months : Nat) : Option Instant :=
  if months = 0 then some instant
  else
    ofParts? ((instant.date.monthsEarlier months).dayNumber * daySeconds + instant.secondOfDay)
      instant.nanos

def totalNanos (instant : Instant) : Int := instant.seconds * nanosPerSecond + instant.nanos

/-- Chronological order; a leap second comes between the seconds around it. -/
def before (first second : Instant) : Bool :=
  decide (first.seconds < second.seconds ∨
    first.seconds = second.seconds ∧ first.nanos < second.nanos)

end Instant

end SeriesQuery.Time
