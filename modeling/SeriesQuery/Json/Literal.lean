import SeriesQuery.Decimal.Text

/-!
Number literals of JSON and what they stand for. A literal without fraction and exponent stands for
a whole number when it fits 64 bits. Any other stands for a double: its leading digits, as many as
fit 64 bits, make a double, which one more multiplication or division by a power of ten scales. Each
of the two steps rounds, so that the result can differ from the double nearest to the literal.
-/

set_option autoImplicit false

namespace SeriesQuery.Json

structure Literal where
  negative : Bool
  whole : List Char
  fraction : List Char
  exponent? : Option Int

inductive Number where
  | integer (value : Int)
  | float (value : Float)

def Number.toFloat : Number → Float
  | .integer value => Decimal.ofInt value
  | .float value => value

def wordBound : Nat := UInt64.size

/-- Appends digits to a number while it fits 64 bits; also the digits that are left over. -/
def absorb (significand : Nat) : List Char → Nat × List Char
  | [] => (significand, [])
  | digit :: rest =>
    let next := 10 * significand + (digit.toNat - '0'.toNat)
    if next < wordBound then absorb next rest else (significand, digit :: rest)

def highestPower : Nat := 308

def powerOfTen (exponent : Nat) : Float := Decimal.nearest false 1 exponent

/-- A double times a power of ten; nothing when the product is too large. Quotients that are too
small are zero. -/
def scaled? (value : Float) (exponent : Int) : Option Float :=
  let size := exponent.natAbs
  if 0 ≤ exponent then
    if size ≤ highestPower then
      let product := value * powerOfTen size
      if Decimal.isFinite product then some product else none
    else if value == 0 then some 0 else none
  else if size ≤ highestPower then some (value / powerOfTen size)
  else if size ≤ 2 * highestPower then
    some (value / powerOfTen highestPower / powerOfTen (size - highestPower))
  else some 0

namespace Literal

def isWhole (literal : Literal) : Bool := literal.fraction.isEmpty && literal.exponent?.isNone

def float? (literal : Literal) : Option Float :=
  let (wholePart, unused) := absorb 0 literal.whole
  let (significand, dropped) := absorb wholePart literal.fraction
  let shift : Int := unused.length - ((literal.fraction.length : Int) - dropped.length)
  let magnitude? := scaled? (Decimal.nearest false significand 0)
    (shift + literal.exponent?.getD 0)
  magnitude?.map fun value => if literal.negative then -value else value

/-- What a literal stands for; nothing when it is beyond the range of doubles. Negative zero is a
double. -/
def number? (literal : Literal) : Option Number :=
  let magnitude := Decimal.digitsValue literal.whole
  if literal.isWhole && decide (magnitude < wordBound) then
    if !literal.negative then some (.integer magnitude)
    else if 0 < magnitude ∧ magnitude ≤ Int64.minValue.toInt.natAbs then some (.integer (-magnitude))
    else some (.float (-(Decimal.nearest false magnitude 0)))
  else literal.float?.map .float

end Literal

end SeriesQuery.Json
