/-!
Comma separated values as written: a field stands between quotes only when it has to.
-/

set_option autoImplicit false

namespace SeriesQuery.Csv

def needsQuotes (c : Char) : Bool := c == ',' || c == '"' || c == '\n' || c == '\r'

def doubleQuote (c : Char) : List Char := if c = '"' then ['"', '"'] else [c]

def fieldWritten (field : String) : String :=
  if field.toList.any needsQuotes then
    String.ofList ('"' :: field.toList.flatMap doubleQuote ++ ['"'])
  else field

def recordWritten (fields : List String) : String :=
  ",".intercalate (fields.map fieldWritten) ++ "\n"

end SeriesQuery.Csv
