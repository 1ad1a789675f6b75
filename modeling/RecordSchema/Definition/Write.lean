import RecordSchema.Definition.Basic
import RecordSchema.Json.Write
/-!
# Schema definitions as JSON

The JSON form of a definition: an object with `collation`, `ambiguity` and `columns`, in that
order. A column is an object with `name` as the array of its parts and `type` as the written
data type, then `nullable` and `declaredType` only when they are set.
-/

namespace RecordSchema

/-- A name as the JSON array of its parts. -/
def Name.toJson (n : Name) : Json := .array (n.parts.map .string)

/-- A column definition as JSON. -/
def ColumnDefinition.toJson (c : ColumnDefinition) : Json :=
  .object ([("name", c.name.toJson), ("type", .string c.dataType.display)] ++
    (match c.nullable with | some b => [("nullable", .bool b)] | none => []) ++
    (match c.declaredType with | some t => [("declaredType", .string t.name)] | none => []))

/-- A schema definition as JSON. -/
def SchemaDefinition.toJson (d : SchemaDefinition) : Json :=
  .object [("collation", .string d.collation.name), ("ambiguity", .string d.ambiguity.mode),
    ("columns", .array (d.columns.map ColumnDefinition.toJson))]

end RecordSchema
