/-!
Splitting text at characters and at line ends.
-/

set_option autoImplicit false

namespace SeriesQuery.Text

def splitAt (separator : Char) (text : String) : List String :=
  (text.toList.splitOn separator).map String.ofList

def splitFirst? (separator : Char) (text : List Char) : Option (List Char × List Char) :=
  match text.span (· != separator) with
  | (before, _ :: after) => some (before, after)
  | (_, []) => none

def dropStart? : List Char → List Char → Option (List Char)
  | [], text => some text
  | _ :: _, [] => none
  | c :: word, d :: text => if c = d then dropStart? word text else none

theorem dropStart?_append (word rest : List Char) : dropStart? word (word ++ rest) = some rest := by
  induction word with
  | nil => cases rest <;> rfl
  | cons c word ih => simp [dropStart?, ih]

theorem eq_append_of_dropStart? {word text rest : List Char}
    (found : dropStart? word text = some rest) : text = word ++ rest := by
  induction word generalizing text with
  | nil => cases text <;> simp_all [dropStart?]
  | cons c word ih =>
    cases text with
    | nil => simp [dropStart?] at found
    | cons d text =>
      simp only [dropStart?] at found
      split at found
      · next same => subst same; simp [ih found]
      · simp at found

def dropEnd? (word text : List Char) : Option (List Char) :=
  (dropStart? word.reverse text.reverse).map List.reverse

def occursIn (word : List Char) : List Char → Bool
  | [] => word.isEmpty
  | c :: text => word.isPrefixOf (c :: text) || occursIn word text

def dropReturn (line : List Char) : List Char :=
  match line.getLast? with
  | some '\r' => line.dropLast
  | _ => line

/-- The lines of a text: what stands between line feeds, without a final empty line and without the
carriage return before a line feed. A last line that no line feed ends keeps its carriage return. -/
def lines (text : String) : List (List Char) :=
  match (text.toList.splitOn '\n').reverse with
  | [] => []
  | last :: ended =>
    let ended := ended.reverse.map dropReturn
    if last.isEmpty then ended else ended ++ [last]

def replaceEach (replacement : Char → List Char) (text : String) : String :=
  String.ofList (text.toList.flatMap replacement)

@[simp] theorem toList_replaceEach (replacement : Char → List Char) (text : String) :
    (replaceEach replacement text).toList = text.toList.flatMap replacement := by
  simp [replaceEach]

end SeriesQuery.Text
