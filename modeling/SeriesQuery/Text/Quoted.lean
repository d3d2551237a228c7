import SeriesQuery.Text.Split

/-!
Text between double quotes, as query languages write it: a backslash takes the next character as it
stands.
-/

set_option autoImplicit false

namespace SeriesQuery.Text

def escapeQuote (c : Char) : List Char :=
  if c = '\\' ∨ c = '"' then ['\\', c] else [c]

/-- As `escapeQuote`; a line feed is written as a backslash and an n. -/
def escapeQuoteAndLine (c : Char) : List Char := if c = '\n' then ['\\', 'n'] else escapeQuote c

def quotedBy (escape : Char → List Char) (text : String) : String :=
  String.ofList ('"' :: text.toList.flatMap escape ++ ['"'])

def quoted (text : String) : String := quotedBy escapeQuote text

def quotedLine (text : String) : String := quotedBy escapeQuoteAndLine text

@[simp] theorem toList_quotedBy (escape : Char → List Char) (text : String) :
    (quotedBy escape text).toList = '"' :: text.toList.flatMap escape ++ ['"'] := by
  simp [quotedBy]

end SeriesQuery.Text
