import RecordSchema.Field
import RecordSchema.Definition.Error
/-!
# Schemas

A schema is an ordered list of fields with the collation used to compare names and the policy
told about ambiguous references. Two schemas are equal when they have the same collation and,
position by position, fields with the same name, value type and data type; identities and
policies do not count.
-/

namespace RecordSchema

/-- What a schema does with ambiguous references: warn about them or ignore them. -/
inductive AmbiguityPolicy where
  | warn
  | ignore
  deriving DecidableEq, Repr, Inhabited

namespace AmbiguityPolicy

/-- The name of a policy in reports. -/
def name : AmbiguityPolicy → String
  | .warn => "WarnOnAmbiguity"
  | .ignore => "IgnoreAmbiguity"

/-- The spelling of a policy in schema definitions. -/
def mode : AmbiguityPolicy → String
  | .warn => "warn"
  | .ignore => "ignore"

end AmbiguityPolicy

/-- An ordered list of fields, compared under a collation. -/
structure Schema where
  fields : List Field
  collation : Collation := .caseSensitive
  policy : AmbiguityPolicy := .warn

/-- Why a schema could not be made. -/
inductive SchemaError where
  /-- The column at this index has no valid name. -/
  | invalidName (index : Nat) (e : NameError)
  /-- The definition document does not read. -/
  | definition (e : DefinitionError)

/-- The text of a schema error. -/
def SchemaError.message : SchemaError → String
  | .invalidName index e => s!"column {index}: invalid name: " ++ e.message
  | .definition e => "failed to parse schema definition: " ++ e.message

namespace Schema

/-- The schema without fields. -/
def empty : Schema := { fields := [] }

/-- The number of fields. -/
def degree (s : Schema) : Nat := s.fields.length

/-- Whether the schema has no fields. -/
def isEmpty (s : Schema) : Bool := s.fields.isEmpty

/-- The field at a position. -/
def fieldAt? (s : Schema) (i : Nat) : Option Field := s.fields[i]?

/-- The same fields and collation under another policy. -/
def withPolicy (s : Schema) (p : AmbiguityPolicy) : Schema := { s with policy := p }

/-- The value types of the fields, in order. -/
def types (s : Schema) : List ValueType := s.fields.map (·.valueType)

/-- The data types of the fields, in order. -/
def dataTypes (s : Schema) : List DataType := s.fields.map (·.dataType)

/-- The written form of a schema: its fields in parentheses, separated by commas. -/
def display (s : Schema) : String := "(" ++ ", ".intercalate (s.fields.map Field.display) ++ ")"

/-- Whether two fields agree in name, value type and data type. -/
def Field.sameShape (a b : Field) : Bool :=
  a.name == b.name && a.valueType == b.valueType && a.dataType == b.dataType

/-- Equality of schemas: collation, length and the shape of each field; identities and
policies are ignored. -/
def equiv (a b : Schema) : Bool :=
  a.collation == b.collation && a.fields.length == b.fields.length &&
    (a.fields.zip b.fields).all fun (f, g) => Field.sameShape f g

/-- Makes one field per column, numbering the columns from `index`; the first column whose
parts are not a name is refused with its index. -/
def fieldsOfColumns (src : IdSource) (index : Nat) :
    List (List String × ValueType × DataType) → Except SchemaError (List Field × IdSource)
  | [] => .ok ([], src)
  | (parts, vt, dt) :: rest =>
    match Name.new parts with
    | .error e => .error (.invalidName index e)
    | .ok n =>
      let (f, src) := Field.create src n vt dt
      match fieldsOfColumns src (index + 1) rest with
      | .ok (fs, src) => .ok (f :: fs, src)
      | .error e => .error e

/-- A case-sensitive schema with one new field per column, the parts of each name taken
verbatim. -/
def ofColumns (src : IdSource) (columns : List (List String × ValueType × DataType)) :
    Except SchemaError (Schema × IdSource) :=
  (fieldsOfColumns src 0 columns).map fun (fs, src) => ({ fields := fs }, src)

end Schema

end RecordSchema
