/-!
Text as a regular expression that matches exactly that text.
-/

set_option autoImplicit false

namespace SeriesQuery.Text

def isPatternSign (c : Char) : Bool :=
  c == '\\' || c == '.' || c == '+' || c == '*' || c == '?' || c == '(' || c == ')' || c == '|' ||
    c == '[' || c == ']' || c == '\x7b' || c == '\x7d' || c == '^' || c == '$' || c == '#' ||
    c == '&' || c == '-' || c == '~'

def literalChar (c : Char) : List Char := if isPatternSign c then ['\\', c] else [c]

def literalPattern (text : String) : String := String.ofList (text.toList.flatMap literalChar)

end SeriesQuery.Text
