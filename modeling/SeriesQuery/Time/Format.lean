import SeriesQuery.Time.Instant

/-!
Written forms of instants: the internet date format, with a `Z` or a zero offset, and a form with
spaces for messages. Fractions have three, six or nine digits, the fewest that are exact.
-/

set_option autoImplicit false

namespace SeriesQuery.Time

def padded (width : Nat) (value : Nat) : String :=
  let digits := Nat.toDigits 10 value
  String.ofList (List.replicate (width - digits.length) '0' ++ digits)

/-- Years of four digits stand alone; any other year has a sign and at least four digits. -/
def yearText (year : Int) : String :=
  if 0 ≤ year ∧ year ≤ 9999 then padded 4 year.toNat
  else (if year < 0 then "-" else "+") ++ padded 4 year.natAbs

def fractionText (nanos : Nat) : String :=
  if nanos = 0 then ""
  else if nanos % 1000000 = 0 then "." ++ padded 3 (nanos / 1000000)
  else if nanos % 1000 = 0 then "." ++ padded 6 (nanos / 1000)
  else "." ++ padded 9 nanos

def Date.text (date : Date) : String :=
  yearText date.year ++ "-" ++ padded 2 date.month ++ "-" ++ padded 2 date.day

namespace Instant

/-- The time of day; a leap second is second 60. -/
def timeText (instant : Instant) : String :=
  let second := instant.secondOfDay
  padded 2 (second / 3600) ++ ":" ++ padded 2 (second / 60 % 60) ++ ":" ++
    padded 2 (second % 60 + (if instant.isLeapSecond then 1 else 0)) ++
    fractionText (instant.nanos % nanosPerSecond)

def zulu (instant : Instant) : String := instant.date.text ++ "T" ++ instant.timeText ++ "Z"

def withOffset (instant : Instant) : String :=
  instant.date.text ++ "T" ++ instant.timeText ++ "+00:00"

def spaced (instant : Instant) : String :=
  instant.date.text ++ " " ++ instant.timeText ++ " UTC"

end Instant

instance : Repr Instant where
  reprPrec instant _ := instant.zulu

end SeriesQuery.Time
