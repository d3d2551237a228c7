/-!
Values of a configuration document, and what may be added to a table that is there already. A table
remembers how it arose: braces close it for good, a header may open it only once, and a dotted key
goes on only where dotted keys began.
-/

set_option autoImplicit false

namespace SeriesQuery.Toml

inductive Origin where
  | braces
  | header
  /-- The header of a table inside it. -/
  | innerHeader
  | dottedKey
  deriving Repr, DecidableEq

inductive Value where
  | string (text : String)
  | integer (value : Int)
  | float (value : Float)
  | bool (value : Bool)
  /-- A date, a time, or both. -/
  | moment
  | array (items : List Value)
  | table (origin : Origin) (entries : List (String × Value))
  /-- One table for every header in double brackets. -/
  | tables (elements : List (List (String × Value)))
  deriving Inhabited

abbrev Entries := List (String × Value)

namespace Entries

def replace (key : String) (value : Value) (entries : Entries) : Entries :=
  entries.map fun entry => if entry.1 = key then (key, value) else entry

def renew (key : String) (value : Value) (entries : Entries) : Entries :=
  entries.filter (fun entry => entry.1 ≠ key) ++ [(key, value)]

def changeLast (change : Entries → Option Entries) : List Entries → Option (List Entries)
  | [] => none
  | [last] => (change last).map ([·])
  | first :: rest => (changeLast change rest).map (first :: ·)

/-- Adds a value under a dotted key. The tables on its way must have no header of their own, and the
one that it ends in must be made by dotted keys alone. -/
def addDotted (value : Value) : List String → Entries → Option Entries
  | [], _ => none
  | [key], entries =>
    if (entries.lookup key).isSome then none else some (entries ++ [(key, value)])
  | key :: rest, entries =>
    match entries.lookup key with
    | none => (addDotted value rest []).map fun inner => entries ++ [(key, .table .dottedKey inner)]
    | some (.table origin inner) =>
      if origin = .dottedKey ∨ (origin = .innerHeader ∧ 2 ≤ rest.length) then
        (addDotted value rest inner).map fun inner => replace key (.table origin inner) entries
      else none
    | some (.tables elements) =>
      if 2 ≤ rest.length then
        (changeLast (addDotted value rest) elements).map fun elements =>
          replace key (.tables elements) entries
      else none
    | some _ => none

def addAll (pairs : List (List String × Value)) (entries : Entries) : Option Entries :=
  pairs.foldlM (fun entries pair => addDotted pair.2 pair.1 entries) entries

def followHeader (finish : String → Entries → Option Entries) :
    List String → Entries → Option Entries
  | [], _ => none
  | [key], entries => finish key entries
  | key :: rest, entries =>
    match entries.lookup key with
    | none =>
      (followHeader finish rest []).map fun inner => entries ++ [(key, .table .innerHeader inner)]
    | some (.table origin inner) =>
      if origin = .braces then none
      else
        (followHeader finish rest inner).map fun inner => replace key (.table origin inner) entries
    | some (.tables elements) =>
      (changeLast (followHeader finish rest) elements).map fun elements =>
        replace key (.tables elements) entries
    | some _ => none

/-- The table of a header in single brackets: a new one, or one that so far had only inner headers.
-/
def openTable (pairs : List (List String × Value)) (key : String) (entries : Entries) :
    Option Entries :=
  match entries.lookup key with
  | none => (addAll pairs []).map fun inner => entries ++ [(key, .table .header inner)]
  | some (.table .innerHeader inner) =>
    (addAll pairs inner).map fun inner => renew key (.table .header inner) entries
  | some _ => none

/-- The table of a header in double brackets: one more element. -/
def openElement (pairs : List (List String × Value)) (key : String) (entries : Entries) :
    Option Entries :=
  match entries.lookup key with
  | none => (addAll pairs []).map fun inner => entries ++ [(key, .tables [inner])]
  | some (.tables elements) =>
    (addAll pairs []).map fun inner => replace key (.tables (elements ++ [inner])) entries
  | some _ => none

end Entries

/-! ## Settings from values -/

namespace Value

def string? : Value → Option String
  | .string text => some text
  | _ => none

def bool? : Value → Option Bool
  | .bool value => some value
  | _ => none

def nat? (bound : Nat) : Value → Option Nat
  | .integer value => if 0 ≤ value ∧ value < bound then some value.toNat else none
  | _ => none

def items? : Value → Option (List Value)
  | .array items => some items
  | .tables elements => some (elements.map (.table .header))
  | _ => none

def list? {α : Type} (read : Value → Option α) (value : Value) : Option (List α) := do
  (← value.items?).mapM read

def isEmpty : Value → Bool
  | .array items => items.isEmpty
  | .table _ entries => entries.isEmpty
  | _ => false

/-- One of some names: as a string, or as the first key of a table with nothing under it. Braces
hold that key alone. -/
def choice? {α : Type} (choices : List (String × α)) : Value → Option α
  | .string text => choices.lookup text
  | .table origin ((key, content) :: rest) =>
    if content.isEmpty ∧ (rest = [] ∨ origin ≠ .braces) then choices.lookup key else none
  | _ => none

/-- The settings in a section, by name in a table and by position in an array. A date names none. -/
def section? (names : List String) (value : Value) : Option Entries :=
  match value with
  | .table _ entries => some entries
  | .moment => some []
  | other => other.items?.map names.zip

end Value

def Entries.setting {α : Type} (entries : Entries) (name : String) (absent : α)
    (read : Value → Option α) : Option α :=
  match entries.lookup name with
  | some value => read value
  | none => some absent

end SeriesQuery.Toml
