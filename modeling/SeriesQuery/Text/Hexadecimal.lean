/-!
Hexadecimal digits, in either letter case.
-/

set_option autoImplicit false

namespace SeriesQuery.Text

def hexDigit? (c : Char) : Option Nat :=
  if '0' ≤ c ∧ c ≤ '9' then some (c.toNat - '0'.toNat)
  else if 'a' ≤ c ∧ c ≤ 'f' then some (c.toNat - 'a'.toNat + 10)
  else if 'A' ≤ c ∧ c ≤ 'F' then some (c.toNat - 'A'.toNat + 10)
  else none

def hexValue? (digits : List Char) : Option Nat := do
  let values ← digits.mapM hexDigit?
  return values.foldl (fun value digit => 16 * value + digit) 0

end SeriesQuery.Text
