import SeriesQuery.Decimal.Binary64

/-!
The shortest decimal number that reads back as a given double. Decimal numbers are searched from
coarse powers of ten to fine ones; on each grid only the two neighbours of the double can be the
nearest ones, and of two that read back the nearer is taken.
-/

set_option autoImplicit false

namespace SeriesQuery.Decimal

structure Scaled where
  coefficient : Nat
  exponent : Int
  deriving Repr, DecidableEq

def Scaled.ratio (decimal : Scaled) : Ratio :=
  Ratio.scaled decimal.coefficient 10 decimal.exponent

/-- The multiple of `10^exponent` that reads back as the double with these bits; of two, the nearer,
and of two equally near, the larger. -/
def neighbour? (ratio : Ratio) (bits : Nat) (exponent : Int) : Option Scaled :=
  let (numerator, denominator) :=
    if 0 ≤ exponent then (ratio.numerator, ratio.denominator * Nat.pow 10 exponent.toNat)
    else (ratio.numerator * Nat.pow 10 (-exponent).toNat, ratio.denominator)
  let below : Scaled := ⟨numerator / denominator, exponent⟩
  let above : Scaled := ⟨numerator / denominator + 1, exponent⟩
  let readsBack (decimal : Scaled) : Bool :=
    decimal.coefficient != 0 && decimal.ratio.nearestBits == bits
  match readsBack below, readsBack above with
  | true, true =>
    some (if 2 * (numerator % denominator) < denominator then below else above)
  | true, false => some below
  | false, true => some above
  | false, false => none

def searchGrids (ratio : Ratio) (bits : Nat) : (count : Nat) → (exponent : Int) → Option Scaled
  | 0, _ => none
  | count + 1, exponent =>
    match neighbour? ratio bits exponent with
    | some decimal => some decimal
    | none => searchGrids ratio bits count (exponent - 1)

def exactDecimal (mantissa : Nat) (exponent : Int) : Scaled :=
  if 0 ≤ exponent then ⟨mantissa * Nat.pow 2 exponent.toNat, 0⟩
  else ⟨mantissa * Nat.pow 5 (-exponent).toNat, exponent⟩

/-- The shortest decimal for the double `mantissa · 2^exponent`. Seventeen digits always suffice;
were none found, all digits would be given. -/
def shortest (mantissa : Nat) (exponent : Int) : Scaled :=
  if mantissa = 0 then ⟨0, 0⟩
  else
    let ratio := Ratio.scaled mantissa 2 exponent
    let bound : Int := ((mantissa.log2 + 1 : Nat) + exponent) * 30103 / 100000 + 1
    match searchGrids ratio ratio.nearestBits 20 bound with
    | some decimal => decimal
    | none => exactDecimal mantissa exponent

end SeriesQuery.Decimal
