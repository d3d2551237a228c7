import SeriesQuery.Decimal.Text

/-!
JSON values and their written forms. An object keeps its members in the order in which they are
given; `compact` has no white space and `indented` puts every item on a line of its own.
-/

set_option autoImplicit false

namespace SeriesQuery.Json

inductive Value where
  | null
  | bool (value : Bool)
  | integer (value : Int)
  | float (value : Float)
  | string (value : String)
  | array (items : List Value)
  | object (members : List (String × Value))
  deriving Inhabited

def controlEscape (c : Char) : List Char :=
  let digits := Nat.toDigits 16 c.toNat
  ['\\', 'u'] ++ List.replicate (4 - digits.length) '0' ++ digits

def escapeChar (c : Char) : List Char :=
  if c = '"' ∨ c = '\\' then ['\\', c]
  else if c = '\n' then ['\\', 'n']
  else if c = '\r' then ['\\', 'r']
  else if c = '\t' then ['\\', 't']
  else if c.toNat = 8 then ['\\', 'b']
  else if c.toNat = 12 then ['\\', 'f']
  else if c.toNat < 32 then controlEscape c
  else [c]

def stringText (text : String) : String :=
  String.ofList ('"' :: text.toList.flatMap escapeChar ++ ['"'])

/-- A double that is not finite has no JSON form and is written as null. -/
def floatText (value : Float) : String :=
  if Decimal.isFinite value then Decimal.jsonStyle.write value else "null"

def braced (inside : String) : String := "\x7b" ++ inside ++ "\x7d"

namespace Value

mutual

def compact : Value → String
  | .null => "null"
  | .bool value => if value then "true" else "false"
  | .integer value => toString value
  | .float value => floatText value
  | .string value => stringText value
  | .array items => "[" ++ ",".intercalate (compactItems items) ++ "]"
  | .object members => braced (",".intercalate (compactMembers members))

def compactItems : List Value → List String
  | [] => []
  | item :: rest => item.compact :: compactItems rest

def compactMembers : List (String × Value) → List String
  | [] => []
  | (name, value) :: rest => (stringText name ++ ":" ++ value.compact) :: compactMembers rest

end

def block (depth : Nat) (opening closing : String) : List String → String
  | [] => opening ++ closing
  | lines =>
    let margin := "\n" ++ String.ofList (List.replicate (2 * depth) ' ')
    opening ++ ",".intercalate (lines.map fun line => margin ++ "  " ++ line) ++ margin ++ closing

mutual

def indentedAt (depth : Nat) : Value → String
  | .array items => block depth "[" "]" (indentedItems (depth + 1) items)
  | .object members => block depth "\x7b" "\x7d" (indentedMembers (depth + 1) members)
  | .null => "null"
  | .bool value => if value then "true" else "false"
  | .integer value => toString value
  | .float value => floatText value
  | .string value => stringText value

def indentedItems (depth : Nat) : List Value → List String
  | [] => []
  | item :: rest => item.indentedAt depth :: indentedItems depth rest

def indentedMembers (depth : Nat) : List (String × Value) → List String
  | [] => []
  | (name, value) :: rest =>
    (stringText name ++ ": " ++ value.indentedAt depth) :: indentedMembers depth rest

end

def indented (value : Value) : String := value.indentedAt 0

def ofOption {α : Type} (encode : α → Value) : Option α → Value
  | some value => encode value
  | none => .null

def ofList {α : Type} (encode : α → Value) (values : List α) : Value := .array (values.map encode)

def ofTexts (texts : List String) : Value := ofList .string texts

end Value

end SeriesQuery.Json
