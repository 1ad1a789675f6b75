import RecordSchema.Name.Display
import RecordSchema.Types.DataType
/-!
# Fields

A field is a column of a schema: an identity, a name, a value type and a data type. The
identity is handed out once, when the field is created, from an `IdSource`; copies and
coercions of a field keep it, so identity says "the same column" even where names or types
have been changed by coercion.

Coercion exposes a field under another value type or data type when its value type may be
read as the requested one, and reports a `TypeMismatch` otherwise. Coercing to a new value
type gives the field that type's default SQL type, with the nullability kept.
-/

namespace RecordSchema

/-- The identity of a field. -/
structure FieldId where
  val : Nat
  deriving DecidableEq, Repr

/-- A source of identities never handed out before: the next one to give. -/
structure IdSource where
  next : Nat := 0
  deriving DecidableEq, Repr

/-- A fresh identity and the source after handing it out. -/
def IdSource.fresh (s : IdSource) : FieldId × IdSource := (⟨s.next⟩, ⟨s.next + 1⟩)

/-- A column: identity, name, value type and data type. -/
structure Field where
  id : FieldId
  name : Name
  valueType : ValueType
  dataType : DataType
  deriving DecidableEq

/-- A field that cannot be read as the requested value type. -/
structure TypeMismatch where
  field : Name
  declared : ValueType
  requested : ValueType
  deriving DecidableEq

/-- The text of a type mismatch. -/
def TypeMismatch.message (m : TypeMismatch) : String :=
  "field '" ++ m.field.display ++ "' of type " ++ m.declared.name ++ " cannot be coerced to " ++
    m.requested.name

namespace Field

/-- A new field with a fresh identity. -/
def create (src : IdSource) (name : Name) (valueType : ValueType) (dataType : DataType) :
    Field × IdSource :=
  let (id, src) := src.fresh
  (⟨id, name, valueType, dataType⟩, src)

/-- A new field whose value type is the one its data type implies. -/
def ofDataType (src : IdSource) (name : Name) (dataType : DataType) : Field × IdSource :=
  create src name dataType.valueType dataType

/-- The simple name of the field. -/
def simple (f : Field) : String := f.name.simple

/-- Whether two fields are the same column, that is have the same identity. -/
def isSame (f g : Field) : Bool := f.id == g.id

/-- The written form of a field: its name and its data type. -/
def display (f : Field) : String := f.name.display ++ " " ++ f.dataType.display

/-- Refuses to read the field as `requested` unless its value type coerces to it. -/
def checkCoercion (f : Field) (requested : ValueType) : Except TypeMismatch Unit :=
  if f.valueType.canCoerceTo requested then .ok ()
  else .error ⟨f.name, f.valueType, requested⟩

/-- The field read as another value type: itself when the type is its own, otherwise with the
type's default SQL type and the nullability kept. -/
def coerceTo (f : Field) (t : ValueType) : Except TypeMismatch Field :=
  if f.valueType = t then .ok f
  else
    match f.checkCoercion t with
    | .error e => .error e
    | .ok () =>
      .ok { f with
        valueType := t
        dataType := { sqlType := t.defaultSqlType, nullable := f.dataType.nullable } }

/-- The field read as another data type, which replaces its own entirely. -/
def coerceToDataType (f : Field) (d : DataType) : Except TypeMismatch Field :=
  match f.checkCoercion d.valueType with
  | .error e => .error e
  | .ok () => .ok { f with valueType := d.valueType, dataType := d }

end Field

end RecordSchema
