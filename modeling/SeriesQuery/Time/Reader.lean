import SeriesQuery.Text.Blank
import SeriesQuery.Text.Split
import SeriesQuery.Decimal.Text
import SeriesQuery.Time.Instant

/-!
Reading instants. The strict form is the internet date format; the lenient one also takes spaces
around the parts, short numbers, signed years, and `UTC` for the offset.
-/

set_option autoImplicit false

namespace SeriesQuery.Time

abbrev Read (α : Type) := Option (α × List Char)

def readDigits (least : Nat) (most : Option Nat) (text : List Char) : Read Nat :=
  let digits := (match most with
    | some most => text.take most
    | none => text).takeWhile Char.isDigit
  if digits.length < least then none
  else some (Decimal.digitsValue digits, text.drop digits.length)

def readChar (expected : Char) : List Char → Option (List Char)
  | c :: rest => if c = expected then some rest else none
  | [] => none

/-- The separator of date and time. -/
def readDivider : List Char → Option (List Char)
  | c :: rest => if c = 'T' ∨ c = 't' ∨ c = ' ' then some rest else none
  | [] => none

/-- A fraction of a second, if there is one: the first nine digits count. -/
def readFraction : List Char → Read Nat
  | '.' :: rest =>
    let digits := rest.takeWhile Char.isDigit
    let kept := digits.take 9
    if digits.isEmpty then none
    else some (Decimal.digitsValue kept * Nat.pow 10 (9 - kept.length), rest.dropWhile Char.isDigit)
  | rest => some (0, rest)

/-- An offset from universal time in minutes: `Z`, or a sign and two digits each of hours and
minutes. What may stand between hours and minutes is dropped by `divider`. -/
def readOffset (divider : List Char → Option (List Char)) : List Char → Option (Int × List Char)
  | [] => none
  | c :: rest => do
    if c = 'Z' ∨ c = 'z' then return (0, rest)
    if c ≠ '+' ∧ c ≠ '-' ∧ c ≠ '−' then none
    let (hours, rest) ← readDigits 2 (some 2) rest
    let rest ← divider rest
    let (minutes, rest) ← readDigits 2 (some 2) rest
    if 60 ≤ minutes then none
    let offset : Int := hours * 60 + minutes
    return (if c = '+' then offset else -offset, rest)

structure Reading where
  date : Date
  hour : Nat
  minute : Nat
  second : Nat
  nanos : Nat
  /-- Minutes ahead of universal time. -/
  offset : Int

/-- The instant a reading denotes. Second 60 is a leap second of any minute; the date itself must
lie within the years that instants have. -/
def Reading.instant? (reading : Reading) : Option Instant :=
  let inYears := earliestYear ≤ reading.date.year ∧ reading.date.year ≤ latestYear
  let inDay := reading.hour ≤ 23 ∧ reading.minute ≤ 59 ∧ reading.second ≤ 60
  if inYears ∧ reading.date.exists ∧ inDay ∧ reading.offset.natAbs < 1440 then
    let (second, nanos) :=
      if reading.second = 60 then (59, nanosPerSecond + reading.nanos)
      else (reading.second, reading.nanos)
    Instant.ofParts?
      (reading.date.dayNumber * daySeconds + reading.hour * 3600 + reading.minute * 60 + second
        - reading.offset * 60) nanos
  else none

/-- The internet date format: four digits of year, two of every other part. -/
def readStrict? (text : String) : Option Instant := do
  let (year, rest) ← readDigits 4 (some 4) text.toList
  let rest ← readChar '-' rest
  let (month, rest) ← readDigits 2 (some 2) rest
  let rest ← readChar '-' rest
  let (day, rest) ← readDigits 2 (some 2) rest
  let rest ← readDivider rest
  let (hour, rest) ← readDigits 2 (some 2) rest
  let rest ← readChar ':' rest
  let (minute, rest) ← readDigits 2 (some 2) rest
  let rest ← readChar ':' rest
  let (second, rest) ← readDigits 2 (some 2) rest
  let (nanos, rest) ← readFraction rest
  let (offset, rest) ← readOffset (readChar ':') rest
  if rest.isEmpty then
    Reading.instant? ⟨⟨year, month, day⟩, hour, minute, second, nanos, offset⟩
  else none

def readLoose (most : Nat) (text : List Char) : Read Nat :=
  readDigits 1 (some most) (text.dropWhile Text.isBlank)

def readLooseYear (text : List Char) : Read Int :=
  match text.dropWhile Text.isBlank with
  | '-' :: rest => (readDigits 1 none rest).map fun (year, rest) => (-(year : Int), rest)
  | '+' :: rest => (readDigits 1 none rest).map fun (year, rest) => ((year : Int), rest)
  | rest => (readDigits 1 (some 4) rest).map fun (year, rest) => ((year : Int), rest)

def readLooseChar (expected : Char) (text : List Char) : Option (List Char) :=
  readChar expected (text.dropWhile Text.isBlank)

def dropDividers (text : List Char) : Option (List Char) :=
  some (text.dropWhile fun c => c == ':' || Text.isBlank c)

def readLooseOffset (text : List Char) : Read Int :=
  let text := text.dropWhile Text.isBlank
  if (text.take 3).map Char.toUpper = ['U', 'T', 'C'] then some (0, text.drop 3)
  else readOffset dropDividers text

def readLenient? (text : String) : Option Instant := do
  let (year, rest) ← readLooseYear text.toList
  let rest ← readLooseChar '-' rest
  let (month, rest) ← readLoose 2 rest
  let rest ← readLooseChar '-' rest
  let (day, rest) ← readLoose 2 rest
  let rest ← readDivider rest
  let (hour, rest) ← readLoose 2 rest
  let rest ← readLooseChar ':' rest
  let (minute, rest) ← readLoose 2 rest
  let rest ← readLooseChar ':' rest
  let (second, rest) ← readLoose 2 rest
  let (nanos, rest) ← readFraction rest
  let (offset, rest) ← readLooseOffset rest
  if rest.all Text.isBlank then
    Reading.instant? ⟨⟨year, month, day⟩, hour, minute, second, nanos, offset⟩
  else none

end SeriesQuery.Time
