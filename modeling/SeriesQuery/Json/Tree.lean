import SeriesQuery.Dictionary
import SeriesQuery.Json.Literal
import SeriesQuery.Json.Value

/-!
JSON text as it was read, before anything in it is given a type. Members of an object keep their
order and may repeat. A number may be beyond all doubles and a string may hold half of a surrogate
pair; such a leaf is in the way only of those who ask for its value.
-/

set_option autoImplicit false

namespace SeriesQuery.Json

inductive Tree where
  | null
  | bool (value : Bool)
  | number (literal : Literal)
  | string (text? : Option String)
  | array (items : List Tree)
  | object (members : List (Option String × Tree))

namespace Tree

/-! ## Leaves -/

def string? : Tree → Option String
  | .string text? => text?
  | _ => none

def bool? : Tree → Option Bool
  | .bool value => some value
  | _ => none

def number? : Tree → Option Number
  | .number literal => literal.number?
  | _ => none

/-- A whole number from `least` to `most`. A literal with a fraction or an exponent is none. -/
def integer? (least most : Int) (tree : Tree) : Option Int :=
  match tree.number? with
  | some (.integer value) => if least ≤ value ∧ value ≤ most then some value else none
  | _ => none

def int64? (tree : Tree) : Option Int64 :=
  (tree.integer? Int64.minValue.toInt Int64.maxValue.toInt).map Int64.ofInt

def nat? (bound : Nat) (tree : Tree) : Option Nat := (tree.integer? 0 (bound - 1)).map Int.toNat

def uint64? (tree : Tree) : Option UInt64 := (tree.nat? UInt64.size).map UInt64.ofNat

def float? (tree : Tree) : Option Float := tree.number?.map Number.toFloat

def isNull : Tree → Bool
  | .null => true
  | _ => false

/-! ## Containers -/

def nullable? {α : Type} (read : Tree → Option α) : Tree → Option (Option α)
  | .null => some none
  | other => (read other).map some

def list? {α : Type} (read : Tree → Option α) : Tree → Option (List α)
  | .array items => items.mapM read
  | _ => none

def pair? {α β : Type} (first : Tree → Option α) (second : Tree → Option β) : Tree → Option (α × β)
  | .array [left, right] => return (← first left, ← second right)
  | _ => none

/-- The members of an object by their keys; the last of several with one key counts. -/
def dictionary? {α : Type} (read : Tree → Option α) : Tree → Option (Dictionary α)
  | .object members => do
    return .ofList (← members.mapM fun (key?, value) => return (← key?, ← read value))
  | _ => none

mutual

/-- The whole tree as a value, if arrays and objects are nested at most `room` deep and every leaf
has a value. Members come out in the order of their keys. -/
def value? (room : Nat) : Tree → Option Value
  | .null => some .null
  | .bool value => some (.bool value)
  | .number literal => literal.number?.map fun
    | .integer value => .integer value
    | .float value => .float value
  | .string text? => text?.map .string
  | .array items => if room = 0 then none else (itemValues? (room - 1) items).map .array
  | .object members =>
    if room = 0 then none
    else (memberValues? (room - 1) members).map fun members =>
      .object (Dictionary.ofList members).entries

def itemValues? (room : Nat) : List Tree → Option (List Value)
  | [] => some []
  | item :: rest => do
    let value ← item.value? room
    return value :: (← itemValues? room rest)

def memberValues? (room : Nat) : List (Option String × Tree) → Option (List (String × Value))
  | [] => some []
  | (key?, item) :: rest => do
    let key ← key?
    let value ← item.value? room
    return (key, value) :: (← memberValues? room rest)

end

/-! ## Choices -/

/-- One of some names, as a string or as the only key of an object with the member null. -/
def choice? {α : Type} (choices : List (String × α)) : Tree → Option α
  | .string text? => text?.bind fun text => choices.lookup text
  | .object [(key?, .null)] => key?.bind fun key => choices.lookup key
  | _ => none

end Tree

/-! ## Records -/

/-- The parts of a record that were given: by name in an object, by position in an array. -/
structure Members where
  named : Bool
  found : List (String × Tree)

namespace Members

def required {α : Type} (members : Members) (name : String) (read : Tree → Option α) : Option α :=
  (members.found.lookup name).bind read

/-- A part that may be null, and that an object may leave out. -/
def optional {α : Type} (members : Members) (name : String) (read : Tree → Option α) :
    Option (Option α) :=
  match members.found.lookup name with
  | some tree => tree.nullable? read
  | none => if members.named then some none else none

/-- A part with a default. -/
def defaulted {α : Type} (members : Members) (name : String) (absent : α) (read : Tree → Option α) :
    Option α :=
  match members.found.lookup name with
  | some tree => read tree
  | none => some absent

end Members

namespace Tree

def namedMembers? (names : List String) (members : List (Option String × Tree)) :
    Option (List (String × Tree)) := do
  let members ← members.mapM fun (key?, value) => return (← key?, value)
  let found := members.filter fun member => names.contains member.1
  if (found.map (·.1)).eraseDups.length = found.length then some found else none

def members? (names : List String) : Tree → Option Members
  | .object members => (namedMembers? names members).map fun found => ⟨true, found⟩
  | .array items => if items.length ≤ names.length then some ⟨false, names.zip items⟩ else none
  | _ => none

def deepest : Nat := 127

/-- A record that says itself, in the member `tag`, which of several forms it has: the name of the
form and the record without that member. An array gives the name first. Every part must have a
value, nested at most `room` deep. -/
def tagged? (room : Nat) (tag : String) (tree : Tree) : Option (String × Tree) :=
  match tree with
  | .object members =>
    if (tree.value? room).isNone then none
    else
      match members.filter fun member => member.1 == some tag with
      | [(_, name)] => do
        return (← name.string?, .object (members.filter fun member => member.1 != some tag))
      | _ => none
  | .array (name :: rest) =>
    if (tree.value? room).isNone then none else name.string?.map fun name => (name, .array rest)
  | _ => none

/-- Nothing beside the tag of a tagged record: the rest of an array is empty, and the other members
of an object do not matter. -/
def nothingElse? : Tree → Option Unit
  | .array [] => some ()
  | .object _ => some ()
  | _ => none

/-- A choice in the member `tag` and what belongs to it in the member `content`, which an object may
leave out. -/
def chosen? {α : Type} (tag content : String) (choices : List (String × α)) (tree : Tree) :
    Option (α × Option Tree) := do
  let members ← tree.members? [tag, content]
  let choice ← members.required tag (choice? choices)
  match members.found.lookup content with
  | some found => return (choice, some found)
  | none => if members.named then return (choice, none) else none

end Tree

end SeriesQuery.Json
