import SeriesQuery.Text.Split

/-!
Paths of files, written with slashes.
-/

set_option autoImplicit false

namespace SeriesQuery.Files

/-- A path below another one; an absolute path stands alone. -/
def join (base path : String) : String :=
  if path.startsWith "/" || base.isEmpty then path
  else if base.endsWith "/" then base ++ path
  else base ++ "/" ++ path

def joinAll (base : String) (components : List String) : String := components.foldl join base

def parts (path : String) : List String := Text.splitAt '/' path

/-- The name before a final extension; a name that is nothing but the extension has none. -/
def stem? (extension : String) (name : String) : Option String :=
  match Text.dropEnd? ('.' :: extension.toList) name.toList with
  | some [] => none
  | some stem => some (String.ofList stem)
  | none => none

end SeriesQuery.Files
