import RecordSchema.Json.Error
import RecordSchema.Name.Basic
import RecordSchema.Types.DataType
/-!
# Errors in schema definitions

Why a JSON document is not a schema definition: a fault in its text, a value of the wrong
kind, length or spelling, a field that is missing, unknown or given twice, or a column name or
data type that does not read. An error read from text carries the line and column where it
was found; one found in an already parsed value carries none.
-/

namespace RecordSchema

/-- What is wrong with a definition document. -/
inductive DefinitionProblem where
  /-- The text is not JSON. -/
  | malformed (fault : Json.SyntaxFault)
  /-- A value of the wrong kind. -/
  | wrongType (found : Json.Found) (expected : String)
  /-- A value of the right kind that is not allowed. -/
  | wrongValue (found : Json.Found) (expected : String)
  /-- An array of the wrong length. -/
  | wrongLength (length : Nat) (expected : String)
  /-- A spelling that names no case of an enumeration. -/
  | unknownVariant (name : String) (allowed : List String)
  /-- A key that names no field. -/
  | unknownField (name : String) (allowed : List String)
  /-- A required field is absent. -/
  | missingField (name : String)
  /-- A field is given twice. -/
  | duplicateField (name : String)
  /-- A column name does not read as a name. -/
  | badName (e : NameError)
  /-- A column type does not read as a data type. -/
  | badDataType (e : DataTypeError)
  /-- A column name is neither a text nor an array of texts. -/
  | nameShape

/-- The text of a definition problem. -/
def DefinitionProblem.message : DefinitionProblem → String
  | .malformed f => f.message
  | .wrongType found expected => "invalid type: " ++ found.describe ++ ", expected " ++ expected
  | .wrongValue found expected => "invalid value: " ++ found.describe ++ ", expected " ++ expected
  | .wrongLength n expected => s!"invalid length {n}, expected " ++ expected
  | .unknownVariant name allowed =>
    "unknown variant `" ++ name ++ "`, " ++
      (if allowed.isEmpty then "there are no variants" else "expected " ++ Json.oneOf allowed)
  | .unknownField name allowed =>
    "unknown field `" ++ name ++ "`, " ++
      (if allowed.isEmpty then "there are no fields" else "expected " ++ Json.oneOf allowed)
  | .missingField name => "missing field `" ++ name ++ "`"
  | .duplicateField name => "duplicate field `" ++ name ++ "`"
  | .badName e => e.message
  | .badDataType e => e.message
  | .nameShape => "data did not match any variant of untagged enum Repr"

/-- A definition problem and, for text, where it was found. -/
structure DefinitionError where
  problem : DefinitionProblem
  position : Option Json.Position := none

/-- The text of a definition error, with its place when it has one. -/
def DefinitionError.message (e : DefinitionError) : String :=
  e.problem.message ++ (match e.position with | some p => p.suffix | none => "")

end RecordSchema
