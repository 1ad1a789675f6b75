import RecordSchema.Schema.Basic
/-!
# Schema definitions

A schema definition describes a schema as data: a collation, an ambiguity policy and a list
of column definitions. A column definition has a name, a data type, optionally a nullability
that overrides the data type's, and optionally a declared value type that overrides the one
the data type implies. Building a definition gives each column a new field.
-/

namespace RecordSchema

/-- A column of a schema definition. -/
structure ColumnDefinition where
  name : Name
  dataType : DataType
  nullable : Option Bool := none
  declaredType : Option ValueType := none
  deriving DecidableEq

/-- A schema described as data. -/
structure SchemaDefinition where
  collation : Collation := .caseSensitive
  ambiguity : AmbiguityPolicy := .warn
  columns : List ColumnDefinition := []
  deriving DecidableEq

namespace ColumnDefinition

/-- The data type of the column, with the nullability override applied. -/
def effectiveDataType (c : ColumnDefinition) : DataType :=
  match c.nullable with
  | some b => { c.dataType with nullable := b }
  | none => c.dataType

/-- A new field for the column: the declared value type if there is one, else the one the
data type implies. -/
def toField (src : IdSource) (c : ColumnDefinition) : Field × IdSource :=
  let dt := c.effectiveDataType
  Field.create src c.name (c.declaredType.getD dt.valueType) dt

end ColumnDefinition

/-- New fields for a list of column definitions, in order. -/
def ColumnDefinition.toFields (src : IdSource) : List ColumnDefinition → List Field × IdSource
  | [] => ([], src)
  | c :: cs =>
    let (f, src) := c.toField src
    let (fs, src) := toFields src cs
    (f :: fs, src)

/-- The schema a definition describes, with new fields. -/
def SchemaDefinition.build (src : IdSource) (d : SchemaDefinition) : Schema × IdSource :=
  let (fs, src) := ColumnDefinition.toFields src d.columns
  ({ fields := fs, collation := d.collation, policy := d.ambiguity }, src)

end RecordSchema
