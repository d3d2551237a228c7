import SeriesQuery.Decimal.Text
import SeriesQuery.Text.Hexadecimal
import SeriesQuery.Time.Reader
import SeriesQuery.Toml.Value

/-!
Reading a configuration document: lines with a key and a value, a table's header in single brackets,
or the header of one more element in double brackets. The lines after a header belong to it.
-/

set_option autoImplicit false

namespace SeriesQuery.Toml

/-! ## White space and comments -/

def isBlank (c : Char) : Bool := c == ' ' || c == '\t'

def skipBlank (text : List Char) : List Char := text.dropWhile isBlank

def isPrintable (c : Char) : Bool := c == '\t' || (32 ≤ c.toNat && c.toNat ≠ 127)

def dropNewline? : List Char → Option (List Char)
  | '\n' :: rest => some rest
  | '\r' :: '\n' :: rest => some rest
  | _ => none

def dropComment : List Char → List Char
  | '#' :: rest => rest.dropWhile isPrintable
  | text => text

def endLine? (text : List Char) : Option (List Char) :=
  match dropComment (skipBlank text) with
  | [] => some []
  | rest => dropNewline? rest

def skipLines : Nat → List Char → List Char
  | 0, text => text
  | fuel + 1, text =>
    let text := skipBlank text
    match dropNewline? (dropComment text) with
    | some rest => skipLines fuel rest
    | none => text

/-! ## Strings -/

def escaped? : Char → Option Char
  | '"' => some '"'
  | '\\' => some '\\'
  | 'b' => some (Char.ofNat 8)
  | 'f' => some (Char.ofNat 12)
  | 'n' => some '\n'
  | 'r' => some '\r'
  | 't' => some '\t'
  | _ => none

def readCode (count : Nat) (text : List Char) : Option (Char × List Char) := do
  let digits := text.take count
  let value ← Text.hexValue? digits
  if digits.length = count ∧ value.isValidChar then return (Char.ofNat value, text.drop count)
  else none

def readEscape : List Char → Option (Char × List Char)
  | 'u' :: rest => readCode 4 rest
  | 'U' :: rest => readCode 8 rest
  | letter :: rest => (escaped? letter).map (·, rest)
  | [] => none

def readBasic : Nat → List Char → Option (List Char × List Char)
  | 0, _ => none
  | _, [] => none
  | _, '"' :: rest => some ([], rest)
  | fuel + 1, '\\' :: rest => do
    let (c, rest) ← readEscape rest
    let (text, rest) ← readBasic fuel rest
    return (c :: text, rest)
  | fuel + 1, c :: rest =>
    if isPrintable c then (readBasic fuel rest).map fun (text, rest) => (c :: text, rest) else none

def readLiteral (text : List Char) : Option (List Char × List Char) :=
  let inside := text.takeWhile fun c => isPrintable c && c != '\''
  match text.drop inside.length with
  | '\'' :: rest => some (inside, rest)
  | _ => none

def skipBreaks : List Char → List Char
  | '\n' :: rest => skipBreaks rest
  | '\r' :: '\n' :: rest => skipBreaks rest
  | c :: rest => if isBlank c then skipBreaks rest else c :: rest
  | [] => []

/-- The end of a string in three quotes each: up to two more quotes belong to the string. -/
def readClosing? (quote : Char) (text : List Char) : Option (List Char × List Char) :=
  let quotes := (text.takeWhile (· == quote)).length
  if quotes < 3 then none
  else
    let inside := min (quotes - 3) 2
    some (List.replicate inside quote, text.drop (inside + 3))

def readLong (quote : Char) (escapes : Bool) : Nat → List Char → Option (List Char × List Char)
  | 0, _ => none
  | fuel + 1, text =>
    match readClosing? quote text with
    | some found => some found
    | none =>
      match text with
      | [] => none
      | c :: rest =>
        let continued := fun (head : List Char) (rest : List Char) =>
          (readLong quote escapes fuel rest).map fun (text, rest) => (head ++ text, rest)
        if c = '\\' ∧ escapes then
          if (dropNewline? (skipBlank rest)).isSome then continued [] (skipBreaks rest)
          else (readEscape rest).bind fun (c, rest) => continued [c] rest
        else if isPrintable c then continued [c] rest
        else (dropNewline? text).bind fun rest => continued ['\n'] rest

/-- Without a newline at the very start. -/
def afterOpening (text : List Char) : List Char := (dropNewline? text).getD text

def readString : List Char → Option (List Char × List Char)
  | '"' :: '"' :: '"' :: rest => readLong '"' true (rest.length + 1) (afterOpening rest)
  | '\'' :: '\'' :: '\'' :: rest => readLong '\'' false (rest.length + 1) (afterOpening rest)
  | '"' :: rest => readBasic (rest.length + 1) rest
  | '\'' :: rest => readLiteral rest
  | _ => none

/-! ## Keys -/

def isBareKeyChar (c : Char) : Bool := c.isAlphanum || c == '-' || c == '_'

def readKeyPart (text : List Char) : Option (String × List Char) :=
  let quoted := fun (found : Option (List Char × List Char)) =>
    found.map fun (key, rest) => (String.ofList key, rest)
  match text with
  | '"' :: rest => quoted (readBasic (rest.length + 1) rest)
  | '\'' :: rest => quoted (readLiteral rest)
  | _ =>
    let key := text.takeWhile isBareKeyChar
    if key.isEmpty then none else some (String.ofList key, text.drop key.length)

def readKeyParts : Nat → List Char → Option (List String × List Char)
  | 0, _ => none
  | fuel + 1, text => do
    let (part, rest) ← readKeyPart (skipBlank text)
    match skipBlank rest with
    | '.' :: rest => do
      let (parts, rest) ← readKeyParts fuel rest
      return (part :: parts, rest)
    | rest => return ([part], rest)

/-- Tables, arrays and keys go less deep than this. -/
def depthBound : Nat := 80

def readKey (text : List Char) : Option (List String × List Char) :=
  readKeyParts (depthBound - 1) text

/-! ## Numbers -/

/-- More digits, where an underscore may stand between two of them. -/
def readMoreDigits (isDigit : Char → Bool) : List Char → Option (List Char × List Char)
  | [] => some ([], [])
  | ['_'] => none
  | '_' :: c :: rest =>
    if isDigit c then (readMoreDigits isDigit rest).map fun (digits, rest) => (c :: digits, rest)
    else none
  | c :: rest =>
    if isDigit c then (readMoreDigits isDigit rest).map fun (digits, rest) => (c :: digits, rest)
    else some ([], c :: rest)

def readDigits (isDigit : Char → Bool) : List Char → Option (List Char × List Char)
  | c :: rest =>
    if isDigit c then (readMoreDigits isDigit rest).map fun (digits, rest) => (c :: digits, rest)
    else none
  | [] => none

def readWhole : List Char → Option (List Char × List Char)
  | '0' :: rest => some (['0'], rest)
  | text => readDigits Char.isDigit text

def readFraction : List Char → Option (List Char × List Char)
  | '.' :: rest => (readDigits Char.isDigit rest).map fun (digits, rest) => ('.' :: digits, rest)
  | text => some ([], text)

def readExponent : List Char → Option (List Char × List Char)
  | [] => some ([], [])
  | mark :: rest =>
    if mark = 'e' ∨ mark = 'E' then
      let (sign, rest) := match rest with
        | '+' :: rest => (['+'], rest)
        | '-' :: rest => (['-'], rest)
        | rest => ([], rest)
      (readDigits Char.isDigit rest).map fun (digits, rest) => ('e' :: sign ++ digits, rest)
    else some ([], mark :: rest)

def integer? (value : Int) : Option Value :=
  if Int64.minValue.toInt ≤ value ∧ value ≤ Int64.maxValue.toInt then some (.integer value) else none

/-- A number after its sign. A float may not be too large for a double, but a negative one may be
too small. -/
def readMagnitude (negative : Bool) (text : List Char) : Option (Value × List Char) :=
  match text with
  | 'i' :: 'n' :: 'f' :: rest => some (.float (Decimal.infinity negative), rest)
  | 'n' :: 'a' :: 'n' :: rest => some (.float Decimal.notANumber, rest)
  | _ => do
    let (whole, rest) ← readWhole text
    let (fraction, rest) ← readFraction rest
    let (exponent, rest) ← readExponent rest
    if fraction.isEmpty ∧ exponent.isEmpty then
      let magnitude : Int := Decimal.digitsValue whole
      return (← integer? (if negative then -magnitude else magnitude), rest)
    else
      let sign := if negative then ['-'] else []
      let value ← Decimal.readFloat? (String.ofList (sign ++ whole ++ fraction ++ exponent))
      if Decimal.isFinite value ∨ negative then return (.float value, rest) else none

def readBased (base : Nat) (text : List Char) : Option (Value × List Char) := do
  let isDigit := fun c => decide (((Text.hexDigit? c).getD base) < base)
  let (digits, rest) ← readDigits isDigit text
  let values ← digits.mapM Text.hexDigit?
  let value := values.foldl (fun value digit => base * value + digit) 0
  return (← integer? value, rest)

def readNumber : List Char → Option (Value × List Char)
  | '0' :: 'x' :: rest => readBased 16 rest
  | '0' :: 'o' :: rest => readBased 8 rest
  | '0' :: 'b' :: rest => readBased 2 rest
  | '+' :: rest => readMagnitude false rest
  | '-' :: rest => readMagnitude true rest
  | text => readMagnitude false text

/-! ## Dates and times -/

def dropPair? (least most : Nat) (text : List Char) : Option (List Char) := do
  let (value, rest) ← Time.readDigits 2 (some 2) text
  if least ≤ value ∧ value ≤ most then return rest else none

def startsTime (text : List Char) : Bool :=
  ((dropPair? 0 23 text).bind (Time.readChar ':')).isSome

def dropTime? (text : List Char) : Option (List Char) := do
  let rest ← Time.readChar ':' (← dropPair? 0 23 text)
  let rest ← Time.readChar ':' (← dropPair? 0 59 rest)
  let rest ← dropPair? 0 60 rest
  return (← Time.readFraction rest).2

def dropOffset? : List Char → Option (List Char)
  | [] => some []
  | c :: rest =>
    if c = 'Z' ∨ c = 'z' then some rest
    else if c = '+' ∨ c = '-' then do
      let rest ← Time.readChar ':' (← dropPair? 0 23 rest)
      dropPair? 0 59 rest
    else some (c :: rest)

def dropDate? (text : List Char) : Option (List Char) := do
  let (year, rest) ← Time.readDigits 4 (some 4) text
  let (month, rest) ← Time.readDigits 2 (some 2) (← Time.readChar '-' rest)
  let (day, rest) ← Time.readDigits 2 (some 2) (← Time.readChar '-' rest)
  if (Time.Date.mk year month day).exists then
    match Time.readDivider rest with
    | some time => if startsTime time then dropOffset? (← dropTime? time) else return rest
    | none => return rest
  else none

def startsDate (text : List Char) : Bool :=
  ((Time.readDigits 4 (some 4) text).bind fun (_, rest) => Time.readChar '-' rest).isSome

/-! ## Values -/

mutual

/-- A value, with at most `room` brackets and braces around another. -/
def readValue : Nat → Nat → List Char → Option (Value × List Char)
  | 0, _, _ => none
  | fuel + 1, room, text =>
    match text with
    | 't' :: 'r' :: 'u' :: 'e' :: rest => some (.bool true, rest)
    | 'f' :: 'a' :: 'l' :: 's' :: 'e' :: rest => some (.bool false, rest)
    | '[' :: rest =>
      if room = 0 then none
      else (readItems fuel (room - 1) rest).map fun (items, rest) => (.array items, rest)
    | '\x7b' :: rest =>
      if room = 0 then none
      else
        match skipBlank rest with
        | '\x7d' :: rest => some (.table .braces [], rest)
        | rest => do
          let (pairs, rest) ← readPairs fuel (room - 1) rest
          return (.table .braces (← Entries.addAll pairs []), rest)
    | c :: _ =>
      if c = '"' ∨ c = '\'' then
        (readString text).map fun (inside, rest) => (.string (String.ofList inside), rest)
      else if startsDate text then (dropDate? text).map fun rest => (.moment, rest)
      else if startsTime text then (dropTime? text).map fun rest => (.moment, rest)
      else readNumber text
    | [] => none

/-- The items of an array up to its closing bracket. A comma may follow the last one. -/
def readItems : Nat → Nat → List Char → Option (List Value × List Char)
  | 0, _, _ => none
  | fuel + 1, room, text =>
    match skipLines text.length text with
    | ']' :: rest => some ([], rest)
    | text => do
      let (item, rest) ← readValue fuel room text
      match skipLines rest.length rest with
      | ',' :: rest => do
        let (items, rest) ← readItems fuel room rest
        return (item :: items, rest)
      | ']' :: rest => return ([item], rest)
      | _ => none

def readPairs : Nat → Nat → List Char → Option (List (List String × Value) × List Char)
  | 0, _, _ => none
  | fuel + 1, room, text => do
    let (key, rest) ← readKey text
    let (value, rest) ← readValue fuel room (skipBlank (← Time.readChar '=' rest))
    match skipBlank rest with
    | ',' :: rest => do
      let (pairs, rest) ← readPairs fuel room rest
      return ((key, value) :: pairs, rest)
    | '\x7d' :: rest => return ([(key, value)], rest)
    | _ => none

end

/-! ## Documents -/

inductive Line where
  | blank
  | pair (key : List String) (value : Value)
  | table (path : List String)
  | element (path : List String)

def readLine (text : List Char) : Option (Line × List Char) :=
  match skipBlank text with
  | '[' :: '[' :: rest => do
    let (path, rest) ← readKey rest
    let rest ← Time.readChar ']' (← Time.readChar ']' rest)
    return (.element path, ← endLine? rest)
  | '[' :: rest => do
    let (path, rest) ← readKey rest
    return (.table path, ← endLine? (← Time.readChar ']' rest))
  | text =>
    match endLine? text with
    | some rest => some (.blank, rest)
    | none => do
      let (key, rest) ← readKey text
      let rest := skipBlank (← Time.readChar '=' rest)
      let (value, rest) ← readValue (2 * rest.length + 2) (depthBound - 1) rest
      return (.pair key value, ← endLine? rest)

def readLines : Nat → List Char → Option (List Line)
  | 0, _ => none
  | _, [] => some []
  | fuel + 1, text => do
    let (line, rest) ← readLine text
    return line :: (← readLines fuel rest)

structure Section where
  repeats : Bool
  path : List String
  pairs : List (List String × Value)

def sections : List Line → List (List String × Value) × List Section
  | [] => ([], [])
  | line :: rest =>
    let (pairs, following) := sections rest
    match line with
    | .blank => (pairs, following)
    | .pair key value => ((key, value) :: pairs, following)
    | .table path => ([], ⟨false, path, pairs⟩ :: following)
    | .element path => ([], ⟨true, path, pairs⟩ :: following)

def Section.add (part : Section) (entries : Entries) : Option Entries :=
  let finish := if part.repeats then Entries.openElement else Entries.openTable
  Entries.followHeader (finish part.pairs) part.path entries

def read? (document : String) : Option Entries := do
  let text := document.toList
  let text := match text with
    | '\ufeff' :: rest => rest
    | text => text
  let (pairs, parts) := sections (← readLines (text.length + 1) text)
  parts.foldlM (fun entries part => part.add entries) (← Entries.addAll pairs [])

end SeriesQuery.Toml
