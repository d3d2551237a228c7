import SeriesQuery.Decimal.Shortest

/-!
Numbers as text. The formats that this library writes differ in where positional notation ends and
in whether a whole number keeps a fraction; `FloatStyle` holds those decisions.
-/

set_option autoImplicit false

namespace SeriesQuery.Decimal

def digitsOf (value : Nat) : List Char := Nat.toDigits 10 value

/-- The digits with a point after the first `whole` of them, padded with zeros on either side. -/
def positional (digits : List Char) (whole : Int) (fraction : Bool) : List Char :=
  if whole ≤ 0 then ['0', '.'] ++ List.replicate (-whole).toNat '0' ++ digits
  else if digits.length ≤ whole.toNat then
    digits ++ List.replicate (whole.toNat - digits.length) '0' ++
      (if fraction then ['.', '0'] else [])
  else digits.take whole.toNat ++ ['.'] ++ digits.drop whole.toNat

def scientific (digits : List Char) (exponent : Int) : List Char :=
  let mantissa := match digits with
    | [] => ['0']
    | [digit] => [digit]
    | digit :: others => digit :: '.' :: others
  mantissa ++ ['e'] ++ (toString exponent).toList

/-- How finite doubles are written. A number whose first digit stands for `10^(point - 1)` is
written positionally when `point` lies from `lowest` to `highest`, and with an exponent otherwise.
-/
structure FloatStyle where
  lowest : Option Int
  highest : Option Int
  /-- Whether a whole number is written with a final `.0`. -/
  keepsFraction : Bool

/-- Plain notation: never an exponent, no fraction on whole numbers. -/
def plainStyle : FloatStyle := ⟨none, none, false⟩

def taggedStyle : FloatStyle := ⟨some (-3), some 16, true⟩

def jsonStyle : FloatStyle := ⟨some (-4), some 16, true⟩

def FloatStyle.isPositional (style : FloatStyle) (point : Int) : Bool :=
  (style.lowest.all fun lowest => decide (lowest ≤ point)) &&
    style.highest.all fun highest => decide (point ≤ highest)

def FloatStyle.magnitude (style : FloatStyle) (decimal : Scaled) : List Char :=
  let digits := digitsOf decimal.coefficient
  let point := decimal.exponent + digits.length
  if decimal.coefficient = 0 then positional ['0'] 1 style.keepsFraction
  else if style.isPositional point then positional digits point style.keepsFraction
  else scientific digits (point - 1)

/-- The sign is written for negative zero too, and never for a value that is not a number. -/
def FloatStyle.write (style : FloatStyle) (value : Float) : String :=
  match parts value with
  | .notANumber => "NaN"
  | .infinite negative => if negative then "-inf" else "inf"
  | .finite negative mantissa exponent =>
    String.ofList ((if negative then ['-'] else []) ++ style.magnitude (shortest mantissa exponent))

/-- The shortest plain notation that reads back as the same double. -/
def plain (value : Float) : String := plainStyle.write value

/-- A fraction with exactly `places` digits after the point, rounded from the exact value with a
half going to the even neighbour. -/
def fixedMagnitude (places : Nat) (ratio : Ratio) : List Char :=
  let digits := digitsOf (roundHalfEven (ratio.numerator * Nat.pow 10 places) ratio.denominator)
  let padded := List.replicate (places + 1 - digits.length) '0' ++ digits
  let whole := padded.length - places
  padded.take whole ++ (if places = 0 then [] else '.' :: padded.drop whole)

def fixed (places : Nat) (value : Float) : String :=
  match parts value with
  | .notANumber => "NaN"
  | .infinite negative => if negative then "-inf" else "inf"
  | .finite negative mantissa exponent =>
    String.ofList ((if negative then ['-'] else []) ++
      fixedMagnitude places (Ratio.scaled mantissa 2 exponent))

def isWholeBelow (bound : Nat) (value : Float) : Bool :=
  match parts value with
  | .finite _ mantissa exponent =>
    let ratio := Ratio.scaled mantissa 2 exponent
    ratio.numerator % ratio.denominator == 0 && ratio.numerator < bound * ratio.denominator
  | _ => false

/-! ## Reading -/

def digitsValue (digits : List Char) : Nat :=
  digits.foldl (fun value digit => 10 * value + (digit.toNat - '0'.toNat)) 0

def readDigits? (text : List Char) : Option Nat :=
  if !text.isEmpty && text.all Char.isDigit then some (digitsValue text) else none

/-- A natural number below `bound`, with an optional plus sign. -/
def readNat? (bound : Nat) (text : String) : Option Nat :=
  let digits := match text.toList with
    | '+' :: rest => rest
    | other => other
  (readDigits? digits).filter (· < bound)

def readInt64? (text : String) : Option Int64 :=
  let (negative, digits) := match text.toList with
    | '+' :: rest => (false, rest)
    | '-' :: rest => (true, rest)
    | other => (false, other)
  (readDigits? digits).bind fun magnitude =>
    let value : Int := if negative then -magnitude else magnitude
    if Int64.minValue.toInt ≤ value ∧ value ≤ Int64.maxValue.toInt then some (Int64.ofInt value)
    else none

/-- An exponent part, `e` or `E` with an optionally signed number, up to the end of the text. An
absent part stands for zero. -/
def readExponent? : List Char → Option Int
  | [] => some 0
  | mark :: rest =>
    if mark = 'e' ∨ mark = 'E' then
      match rest with
      | '+' :: digits => (readDigits? digits).map Int.ofNat
      | '-' :: digits => (readDigits? digits).map fun magnitude => -(magnitude : Int)
      | digits => (readDigits? digits).map Int.ofNat
    else none

def readMagnitude? (negative : Bool) (text : List Char) : Option Float :=
  let (whole, rest) := text.span Char.isDigit
  let (fraction, rest) := match rest with
    | '.' :: afterPoint => afterPoint.span Char.isDigit
    | other => ([], other)
  if whole.isEmpty && fraction.isEmpty then none
  else (readExponent? rest).map fun exponent =>
    nearest negative (digitsValue (whole ++ fraction)) (exponent - fraction.length)

/-- A floating point number: an optional sign, then digits with an optional point and an optional
exponent, or the name of infinity or of the value that is not a number, in any letter case. -/
def readFloat? (text : String) : Option Float :=
  let (negative, rest) := match text.toList with
    | '+' :: rest => (false, rest)
    | '-' :: rest => (true, rest)
    | other => (false, other)
  let word := rest.map Char.toLower
  if word = "inf".toList ∨ word = "infinity".toList then some (infinity negative)
  else if word = "nan".toList then some notANumber
  else readMagnitude? negative rest

end SeriesQuery.Decimal
