import SeriesQuery.Json.Tree
import SeriesQuery.Text.Hexadecimal

/-!
Reading JSON text. The grammar is the strict one: no comments, no trailing commas, no control
characters inside strings, nothing after the value.
-/

set_option autoImplicit false

namespace SeriesQuery.Json

def isBlank (c : Char) : Bool := c == ' ' || c == '\t' || c == '\n' || c == '\r'

def skipBlank (text : List Char) : List Char := text.dropWhile isBlank

/-! ## Strings -/

/-- What a string is made of: characters and the sixteen bit units of `\u` escapes. -/
inductive Piece where
  | char (value : Char)
  | unit (value : Nat)

def isHighSurrogate (unit : Nat) : Bool := decide (0xD800 ≤ unit ∧ unit < 0xDC00)

def isLowSurrogate (unit : Nat) : Bool := decide (0xDC00 ≤ unit ∧ unit < 0xE000)

/-- The characters, with each pair of surrogates joined; nothing when a surrogate stands alone. -/
def joinPieces : List Piece → Option (List Char)
  | [] => some []
  | .char value :: rest => (joinPieces rest).map (value :: ·)
  | .unit high :: .unit low :: rest =>
    if isHighSurrogate high && isLowSurrogate low then
      (joinPieces rest).map
        (Char.ofNat (0x10000 + (high - 0xD800) * 0x400 + (low - 0xDC00)) :: ·)
    else if isHighSurrogate high || isLowSurrogate high then none
    else (joinPieces (.unit low :: rest)).map (Char.ofNat high :: ·)
  | .unit unit :: rest =>
    if isHighSurrogate unit || isLowSurrogate unit then none
    else (joinPieces rest).map (Char.ofNat unit :: ·)

def escaped? : Char → Option Char
  | '"' => some '"'
  | '\\' => some '\\'
  | '/' => some '/'
  | 'b' => some (Char.ofNat 8)
  | 'f' => some (Char.ofNat 12)
  | 'n' => some '\n'
  | 'r' => some '\r'
  | 't' => some '\t'
  | _ => none

def readPieces : List Char → Option (List Piece × List Char)
  | '\\' :: 'u' :: a :: b :: c :: d :: rest => do
    let unit ← Text.hexValue? [a, b, c, d]
    let (pieces, rest) ← readPieces rest
    return (.unit unit :: pieces, rest)
  | '\\' :: letter :: rest => do
    let c ← escaped? letter
    let (pieces, rest) ← readPieces rest
    return (.char c :: pieces, rest)
  | '"' :: rest => some ([], rest)
  | c :: rest =>
    if c.toNat < 32 ∨ c = '\\' then none
    else do
      let (pieces, rest) ← readPieces rest
      return (.char c :: pieces, rest)
  | [] => none

def readString (text : List Char) : Option (Option String × List Char) :=
  (readPieces text).map fun (pieces, rest) => ((joinPieces pieces).map String.ofList, rest)

/-! ## Numbers -/

/-- A zero alone, or digits of which the first is not zero. -/
def readWhole (text : List Char) : Option (List Char × List Char) :=
  match text.span Char.isDigit with
  | ([], _) => none
  | ('0' :: _ :: _, _) => none
  | found => some found

def readFraction : List Char → Option (List Char × List Char)
  | '.' :: rest =>
    match rest.span Char.isDigit with
    | ([], _) => none
    | found => some found
  | text => some ([], text)

def readExponentDigits (negative : Bool) (text : List Char) : Option (Option Int × List Char) :=
  match text.span Char.isDigit with
  | ([], _) => none
  | (digits, rest) =>
    let magnitude : Int := Decimal.digitsValue digits
    some (some (if negative then -magnitude else magnitude), rest)

def readExponent : List Char → Option (Option Int × List Char)
  | mark :: rest =>
    if mark = 'e' ∨ mark = 'E' then
      match rest with
      | '+' :: digits => readExponentDigits false digits
      | '-' :: digits => readExponentDigits true digits
      | digits => readExponentDigits false digits
    else some (none, mark :: rest)
  | [] => some (none, [])

def readMagnitude (negative : Bool) (text : List Char) : Option (Literal × List Char) := do
  let (whole, rest) ← readWhole text
  let (fraction, rest) ← readFraction rest
  let (exponent?, rest) ← readExponent rest
  return (⟨negative, whole, fraction, exponent?⟩, rest)

def readLiteral : List Char → Option (Literal × List Char)
  | '-' :: rest => readMagnitude true rest
  | text => readMagnitude false text

/-! ## Values -/

mutual

def readValue : Nat → List Char → Option (Tree × List Char)
  | 0, _ => none
  | fuel + 1, text =>
    match skipBlank text with
    | 'n' :: 'u' :: 'l' :: 'l' :: rest => some (.null, rest)
    | 't' :: 'r' :: 'u' :: 'e' :: rest => some (.bool true, rest)
    | 'f' :: 'a' :: 'l' :: 's' :: 'e' :: rest => some (.bool false, rest)
    | '"' :: rest => (readString rest).map fun (text?, rest) => (.string text?, rest)
    | '[' :: rest =>
      match skipBlank rest with
      | ']' :: rest => some (.array [], rest)
      | rest => (readItems fuel rest).map fun (items, rest) => (.array items, rest)
    | '\x7b' :: rest =>
      match skipBlank rest with
      | '\x7d' :: rest => some (.object [], rest)
      | rest => (readMembers fuel rest).map fun (members, rest) => (.object members, rest)
    | text => (readLiteral text).map fun (literal, rest) => (.number literal, rest)

def readItems : Nat → List Char → Option (List Tree × List Char)
  | 0, _ => none
  | fuel + 1, text => do
    let (item, rest) ← readValue fuel text
    match skipBlank rest with
    | ',' :: rest => do
      let (items, rest) ← readItems fuel rest
      return (item :: items, rest)
    | ']' :: rest => return ([item], rest)
    | _ => none

def readMembers : Nat → List Char → Option (List (Option String × Tree) × List Char)
  | 0, _ => none
  | fuel + 1, text => do
    let '"' :: rest := skipBlank text | none
    let (key?, rest) ← readString rest
    let ':' :: rest := skipBlank rest | none
    let (value, rest) ← readValue fuel rest
    match skipBlank rest with
    | ',' :: rest => do
      let (members, rest) ← readMembers fuel rest
      return ((key?, value) :: members, rest)
    | '\x7d' :: rest => return ([(key?, value)], rest)
    | _ => none

end

/-- Reads a whole text. Two units of fuel for each character are enough, since a step that takes no
character is followed by one that does. -/
def read? (text : String) : Option Tree :=
  match readValue (2 * text.length + 2) text.toList with
  | some (tree, rest) => if (skipBlank rest).isEmpty then some tree else none
  | none => none

end SeriesQuery.Json
