/-!
Doubles as exact numbers: the value of a double as `mantissa · 2^exponent`, and the double nearest
to a fraction.
-/

set_option autoImplicit false

namespace SeriesQuery.Decimal

inductive Parts where
  | notANumber
  | infinite (negative : Bool)
  /-- The number `±mantissa · 2^exponent`; both zeros have mantissa zero. -/
  | finite (negative : Bool) (mantissa : Nat) (exponent : Int)
  deriving Repr, DecidableEq

/-- The exponent shared by the subnormal doubles and the smallest normal ones. -/
def leastExponent : Int := -1074

def infinityBits : Nat := 0x7ff0000000000000

def signBit : Nat := 0x8000000000000000

def partsOfBits (bits : Nat) : Parts :=
  let negative := decide (signBit ≤ bits)
  let magnitude := bits % signBit
  let exponentField : Nat := magnitude / Nat.pow 2 52
  let fraction : Nat := magnitude % Nat.pow 2 52
  if exponentField = 0x7ff then
    if fraction = 0 then .infinite negative else .notANumber
  else if exponentField = 0 then .finite negative fraction leastExponent
  else .finite negative (fraction + Nat.pow 2 52) ((exponentField : Int) + leastExponent - 1)

def parts (value : Float) : Parts := partsOfBits value.toBits.toNat

def isFinite (value : Float) : Bool :=
  match parts value with
  | .finite _ _ _ => true
  | _ => false

/-- A non-negative fraction, as the text of a number or the value of a double gives it. -/
structure Ratio where
  numerator : Nat
  denominator : Nat
  deriving Repr, DecidableEq

def Ratio.scaled (coefficient : Nat) (base : Nat) (exponent : Int) : Ratio :=
  if 0 ≤ exponent then ⟨coefficient * Nat.pow base exponent.toNat, 1⟩
  else ⟨coefficient, Nat.pow base (-exponent).toNat⟩

/-- The quotient rounded to the nearest whole number; a half goes to the even neighbour. -/
def roundHalfEven (numerator denominator : Nat) : Nat :=
  let quotient := numerator / denominator
  let twice := 2 * (numerator % denominator)
  if twice < denominator then quotient
  else if denominator < twice then quotient + 1
  else quotient + quotient % 2

/-- The exponent at which the fraction has a 53 digit binary mantissa, or the least exponent. -/
def Ratio.binaryExponent (ratio : Ratio) : Int :=
  let guess : Int := (ratio.numerator.log2 : Int) - ratio.denominator.log2 - 53
  let scaled := if 0 ≤ guess then ratio.numerator / (ratio.denominator * Nat.pow 2 guess.toNat)
    else ratio.numerator * Nat.pow 2 (-guess).toNat / ratio.denominator
  max leastExponent (if scaled < Nat.pow 2 53 then guess else guess + 1)

/-- The bits of the non-negative double nearest to a fraction; a half goes to the even mantissa, and
what is too large becomes infinite. -/
def Ratio.nearestBits (ratio : Ratio) : Nat :=
  if ratio.numerator = 0 then 0
  else
    let exponent := ratio.binaryExponent
    let mantissa :=
      if 0 ≤ exponent then
        roundHalfEven ratio.numerator (ratio.denominator * Nat.pow 2 exponent.toNat)
      else roundHalfEven (ratio.numerator * Nat.pow 2 (-exponent).toNat) ratio.denominator
    min infinityBits ((exponent - leastExponent).toNat * Nat.pow 2 52 + mantissa)

def withSign (negative : Bool) (bits : Nat) : Float :=
  Float.ofBits (UInt64.ofNat (if negative then signBit + bits else bits))

/-- The double nearest to `±coefficient · 10^exponent`. Far outside the range of doubles the power
is not computed: `8^n ≤ 10^n` decides. -/
def nearest (negative : Bool) (coefficient : Nat) (exponent : Int) : Float :=
  let size : Int := coefficient.log2 + 3 * exponent
  withSign negative <|
    if coefficient = 0 then 0
    else if 0 ≤ exponent ∧ 1100 < size then infinityBits
    else if exponent < 0 ∧ size < -1100 then 0
    else (Ratio.scaled coefficient 10 exponent).nearestBits

def notANumber : Float := Float.ofBits 0x7ff8000000000000

def infinity (negative : Bool) : Float := withSign negative infinityBits

def ofInt (value : Int) : Float := nearest (decide (value < 0)) value.natAbs 0

/-- The whole number nearest to a finite double; a half goes away from zero. -/
def roundToInt? (value : Float) : Option Int :=
  match parts value with
  | .finite negative mantissa exponent =>
    let ratio := Ratio.scaled mantissa 2 exponent
    let magnitude := (2 * ratio.numerator + ratio.denominator) / (2 * ratio.denominator)
    some (if negative then -(magnitude : Int) else magnitude)
  | _ => none

end SeriesQuery.Decimal
