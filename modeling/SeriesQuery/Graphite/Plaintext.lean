import SeriesQuery.Write.Point

/-!
The plaintext protocol of carbon: for each field one line with a dotted path, tags behind it, the
value and the second.
-/

set_option autoImplicit false

namespace SeriesQuery.Graphite

/-- A component of a path: points and white space become underscores. -/
def component (text : String) : String :=
  text.map fun c => if c = '.' || Text.isBlank c then '_' else c

/-- A tag's key or value: signs of the tag notation and white space become underscores. -/
def tagPart (text : String) : String :=
  text.map fun c =>
    if c = ';' || c = '=' || c = '!' || c = '^' || c = '~' || Text.isBlank c then '_' else c

def valueText (field : String) : FieldValue → Except WriteProblem String
  | .integer value => .ok (toString value.toInt)
  | .float value =>
    if Decimal.isFinite value then .ok (Decimal.plain value) else .error (.notFinite field value)

/-- A tag; one without a value is left out. -/
def tagText (key value : String) : String :=
  if value.isEmpty then "" else ";" ++ tagPart key ++ "=" ++ tagPart value

def writtenBase (root? : Option String) (measurement : String) : String :=
  let name := component measurement
  match root? with
  | some root => if root.isEmpty then name else root ++ "." ++ name
  | none => name

def lines (root? : Option String) (point : Point) : Except WriteProblem (List String) := do
  point.checkContent
  let tags := String.join (point.tags.entries.map fun (key, value) => tagText key value)
  point.fields.entries.mapM fun (field, value) => do
    return writtenBase root? point.measurement ++ "." ++ component field ++ tags ++ " " ++
      (← valueText field value) ++ " " ++ toString point.timestamp.seconds

end SeriesQuery.Graphite
