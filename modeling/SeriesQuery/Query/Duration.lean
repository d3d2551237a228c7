import SeriesQuery.Text.Blank
import SeriesQuery.Decimal.Text
import SeriesQuery.Time.Instant

/-!
Durations of the form `5m`: an amount and a unit. Each backend spells the unit in its own way.
-/

set_option autoImplicit false

namespace SeriesQuery

inductive DurationUnit where
  | seconds
  | minutes
  | hours
  | days
  | weeks
  | years
  deriving Repr, DecidableEq

namespace DurationUnit

def symbol : DurationUnit → Char
  | .seconds => 's'
  | .minutes => 'm'
  | .hours => 'h'
  | .days => 'd'
  | .weeks => 'w'
  | .years => 'y'

def ofSymbol? : Char → Option DurationUnit
  | 's' => some .seconds
  | 'm' => some .minutes
  | 'h' => some .hours
  | 'd' => some .days
  | 'w' => some .weeks
  | 'y' => some .years
  | _ => none

@[simp] theorem ofSymbol?_symbol (unit : DurationUnit) : ofSymbol? unit.symbol = some unit := by
  cases unit <;> rfl

theorem eq_symbol_of_ofSymbol? {c : Char} {unit : DurationUnit} (found : ofSymbol? c = some unit) :
    c = unit.symbol := by
  unfold ofSymbol? at found
  split at found <;> simp_all <;> subst found <;> rfl

/-- Length in seconds; a year counts as 365 days. -/
def length : DurationUnit → Nat
  | .seconds => 1
  | .minutes => 60
  | .hours => 3600
  | .days => 86400
  | .weeks => 7 * 86400
  | .years => 365 * 86400

def graphiteName : DurationUnit → String
  | .seconds => "second"
  | .minutes => "minute"
  | .hours => "hour"
  | .days => "day"
  | .weeks => "week"
  | .years => "year"

def rrdName : DurationUnit → String
  | .seconds => "s"
  | .minutes => "min"
  | .hours => "h"
  | .days => "d"
  | .weeks => "w"
  | .years => "y"

end DurationUnit

structure Duration where
  amount : UInt32
  unit : DurationUnit
  deriving Repr, DecidableEq

namespace Duration

def ofChars? (text : List Char) : Option Duration :=
  match text.reverse with
  | [] => none
  | symbol :: digits =>
    match DurationUnit.ofSymbol? symbol, Decimal.readDigits? digits.reverse with
    | some unit, some amount =>
      if amount < UInt32.size then some ⟨UInt32.ofNat amount, unit⟩ else none
    | _, _ => none

def read? (text : String) : Option Duration := ofChars? (Text.trimChars text.toList)

def amountText (duration : Duration) : String := toString duration.amount.toNat

def text (duration : Duration) : String :=
  duration.amountText ++ String.singleton duration.unit.symbol

def graphiteText (duration : Duration) : String :=
  duration.amountText ++ duration.unit.graphiteName

def rrdText (duration : Duration) : String := duration.amountText ++ duration.unit.rrdName

def seconds (duration : Duration) : Nat := duration.amount.toNat * duration.unit.length

/-- The instant this long before another one. Years step back by calendar months, so that a year
before February 29 is February 28. What would be before the earliest instant is the earliest
instant. -/
def before (duration : Duration) (finish : Time.Instant) : Time.Instant :=
  let start := match duration.unit with
    | .years => finish.monthsEarlier? (duration.amount.toNat * 12)
    | _ => finish.secondsEarlier? duration.seconds
  start.getD .earliest

end Duration

end SeriesQuery
