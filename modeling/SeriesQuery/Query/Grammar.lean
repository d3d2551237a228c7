import SeriesQuery.Text.Blank
import SeriesQuery.Text.Split

/-!
Readers of grammar rules. A reader takes what a rule covers from the start of a text and returns the
rest, or fails; alternatives are tried in order and the first that succeeds is kept.
-/

set_option autoImplicit false

namespace SeriesQuery.Grammar

abbrev Reader (α : Type) := List Char → Option (α × List Char)

variable {α : Type}

def char (expected : Char) : List Char → Option (List Char)
  | c :: rest => if c = expected then some rest else none
  | [] => none

/-- A keyword in any letter case; it may be the start of a longer word. -/
def keyword : List Char → List Char → Option (List Char)
  | [], text => some text
  | _ :: _, [] => none
  | c :: word, d :: text => if d.toLower = c.toLower then keyword word text else none

def skipGap (text : List Char) : List Char := text.dropWhile Text.isGap

def gap : List Char → Option (List Char)
  | c :: rest => if Text.isGap c then some (skipGap rest) else none
  | [] => none

def stretch (p : Char → Bool) (text : List Char) : Option (List Char × List Char) :=
  match text.span p with
  | ([], _) => none
  | found => some found

def enclosed (opening closing : Char) (text : List Char) : Option (List Char × List Char) := do
  let rest ← char opening text
  let (content, rest) := rest.span (· != closing)
  return (content, ← char closing rest)

def optional (reader : Reader α) (text : List Char) : Option α × List Char :=
  match reader text with
  | some (value, rest) => (some value, rest)
  | none => (none, text)

def repeated (reader : Reader α) (text : List Char) : List α × List Char :=
  match reader text with
  | none => ([], text)
  | some (value, rest) =>
    if rest.length < text.length then
      let (others, rest) := repeated reader rest
      (value :: others, rest)
    else ([], text)
  termination_by text.length

/-- One or more items with commas between them; a comma that no item follows is left unread. -/
def commaList (item : Reader α) (text : List Char) : Option (List α × List Char) := do
  let (first, rest) ← item text
  let (others, rest) := repeated (fun text => do
    let rest ← char ',' (skipGap text)
    item (skipGap rest)) rest
  return (first :: others, rest)

end SeriesQuery.Grammar
