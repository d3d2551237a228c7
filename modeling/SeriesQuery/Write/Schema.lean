import SeriesQuery.Write.Point

/-!
Schemas: which fields and tags the points of a measurement have. A measurement without a schema
takes any point.
-/

set_option autoImplicit false

namespace SeriesQuery

inductive FieldKind where
  | float
  | integer
  deriving Repr, DecidableEq

namespace FieldKind

def name : FieldKind → String
  | .float => "Float"
  | .integer => "Integer"

/-- A float field takes integers too. -/
def accepts : FieldKind → FieldValue → Bool
  | .float, _ => true
  | .integer, value => value.isInteger

end FieldKind

structure Schema where
  fields : Dictionary FieldKind
  requiredTags : Dictionary Unit
  deriving DecidableEq

inductive SchemaProblem where
  | alreadyRegistered (measurement : String)
  | noFields (measurement : String)
  | unknownField (field measurement : String)
  | wrongKind (field measurement : String) (kind : FieldKind)
  | missingTag (tag measurement : String)
  deriving Repr, DecidableEq

def SchemaProblem.message : SchemaProblem → String
  | .alreadyRegistered measurement => "schema for '" ++ measurement ++ "' already registered"
  | .noFields measurement => "schema for '" ++ measurement ++ "' declares no fields"
  | .unknownField field measurement =>
    "unknown field '" ++ field ++ "' for measurement '" ++ measurement ++ "'"
  | .wrongKind field measurement kind =>
    "field '" ++ field ++ "' of '" ++ measurement ++ "' expects " ++ kind.name
  | .missingTag tag measurement =>
    "missing required tag '" ++ tag ++ "' for measurement '" ++ measurement ++ "'"

def Schema.fieldProblem? (schema : Schema) (measurement field : String) (value : FieldValue) :
    Option SchemaProblem :=
  match schema.fields.get? field with
  | none => some (.unknownField field measurement)
  | some kind =>
    if kind.accepts value then none else some (.wrongKind field measurement kind)

/-- The first field that does not fit, else the first required tag that is missing. -/
def Schema.problem? (schema : Schema) (point : Point) : Option SchemaProblem :=
  (point.fields.entries.findSome? fun (field, value) =>
    schema.fieldProblem? point.measurement field value).or <|
  schema.requiredTags.keys.findSome? fun tag =>
    if point.tags.contains tag then none else some (.missingTag tag point.measurement)

abbrev SchemaRegistry := Dictionary Schema

namespace SchemaRegistry

def register (registry : SchemaRegistry) (measurement : String) (schema : Schema) :
    Except SchemaProblem SchemaRegistry :=
  if registry.contains measurement then .error (.alreadyRegistered measurement)
  else if schema.fields.isEmpty then .error (.noFields measurement)
  else .ok (registry.insert measurement schema)

def problem? (registry : SchemaRegistry) (point : Point) : Option SchemaProblem :=
  (registry.get? point.measurement).bind fun schema => schema.problem? point

end SchemaRegistry

end SeriesQuery
