import RecordSchema.Definition.Basic
import RecordSchema.Json.Error
import RecordSchema.Name.Parse
/-!
# Reading schema definitions from JSON values

Reads a definition from an already parsed JSON value. Objects are read as maps: their keys
in increasing order, the last of equal keys kept. A definition or a column is an object with
known keys only, or an array of its fields in declaration order; a column needs `name` and
`type`, everything else has a default. A collation or policy is its spelling as a string, or
an object with that spelling as its single key and `null` as its value. A column name is a
text read as a name, or an array of texts taken as its parts; a type is a text read as a data
type; a declared type is a text read as a value type.

Errors found in a value carry no position.
-/

namespace RecordSchema

namespace Definition

/-- The keys of a definition object, in declaration order. -/
def definitionKeys : List String := ["collation", "ambiguity", "columns"]

/-- The keys of a column object, in declaration order. -/
def columnKeys : List String := ["name", "type", "nullable", "declaredType"]

/-- The spellings of the collations. -/
def collationSpellings : List (String × Collation) :=
  [("caseSensitive", .caseSensitive), ("caseInsensitive", .caseInsensitive)]

/-- The spellings of the ambiguity policies. -/
def policySpellings : List (String × AmbiguityPolicy) := [("warn", .warn), ("ignore", .ignore)]

/-- The case of an enumeration a spelling names. -/
def variantOf {α : Type} (cases : List (String × α)) (s : String) : Except DefinitionProblem α :=
  match cases.find? (·.1 == s) with
  | some (_, v) => .ok v
  | none => .error (.unknownVariant s (cases.map (·.1)))

/-- The texts of an array whose items are all texts. -/
def allStrings : List Json → Option (List String)
  | [] => some []
  | .string s :: rest => (allStrings rest).map (s :: ·)
  | _ :: _ => none

/-- An array of texts gives its texts back. -/
theorem allStrings_map_string (ss : List String) : allStrings (ss.map .string) = some ss := by
  induction ss with
  | nil => rfl
  | cons s ss ih => simp [allStrings, ih]

/-- A column name from a JSON value: a text read as a name, or an array of texts as parts. -/
def nameOfJson (j : Json) : Except DefinitionProblem Name :=
  match j with
  | .string s =>
    match Name.parse s with
    | .ok n => .ok n
    | .error e => .error (.badName e)
  | .array items =>
    match allStrings items with
    | some parts =>
      match Name.new parts with
      | .ok n => .ok n
      | .error e => .error (.badName e)
    | none => .error .nameShape
  | _ => .error .nameShape

/-- A text, or the complaint that the value is not one. -/
def stringOfJson (j : Json) : Except DefinitionProblem String :=
  match j with
  | .string s => .ok s
  | other => .error (.wrongType (.ofJson other) "a string")

/-- A data type from a JSON text. -/
def dataTypeOfJson (j : Json) : Except DefinitionProblem DataType := do
  let s ← stringOfJson j
  match DataType.parse s with
  | .ok d => .ok d
  | .error e => .error (.badDataType e)

/-- An optional flag: `null` is absent. -/
def nullableOfJson (j : Json) : Except DefinitionProblem (Option Bool) :=
  match j with
  | .null => .ok none
  | .bool b => .ok (some b)
  | other => .error (.wrongType (.ofJson other) "a boolean")

/-- An optional value type: `null` is absent. -/
def declaredTypeOfJson (j : Json) : Except DefinitionProblem (Option ValueType) :=
  match j with
  | .null => .ok none
  | other => (stringOfJson other).map fun s => some (ValueType.ofText s)

/-- A case of an enumeration: its spelling, or an object with the spelling as its only key
and `null` as its value. -/
def variantOfJson {α : Type} (cases : List (String × α)) (j : Json) : Except DefinitionProblem α :=
  match j with
  | .object entries =>
    match Json.mapEntries entries with
    | [(k, v)] => do
      let r ← variantOf cases k
      match v with
      | .null => .ok r
      | other => .error (.wrongType (.ofJson other) "unit")
    | _ => .error (.wrongValue .map "map with a single key")
  | .string s => variantOf cases s
  | other => .error (.wrongType (.ofJson other) "string or map")

/-- The fields of a column object read so far. -/
structure ColumnFields where
  name : Option Name := none
  dataType : Option DataType := none
  nullable : Option (Option Bool) := none
  declaredType : Option (Option ValueType) := none

/-- Reads one entry of a column object. -/
def ColumnFields.take (acc : ColumnFields) : String × Json → Except DefinitionProblem ColumnFields
  | (k, v) =>
    if k = "name" then
      if acc.name.isSome then .error (.duplicateField k)
      else (nameOfJson v).map fun n => { acc with name := some n }
    else if k = "type" then
      if acc.dataType.isSome then .error (.duplicateField k)
      else (dataTypeOfJson v).map fun d => { acc with dataType := some d }
    else if k = "nullable" then
      if acc.nullable.isSome then .error (.duplicateField k)
      else (nullableOfJson v).map fun b => { acc with nullable := some b }
    else if k = "declaredType" then
      if acc.declaredType.isSome then .error (.duplicateField k)
      else (declaredTypeOfJson v).map fun t => { acc with declaredType := some t }
    else .error (.unknownField k columnKeys)

/-- The column once all entries are read: `name` and `type` must be there. -/
def ColumnFields.finish (acc : ColumnFields) : Except DefinitionProblem ColumnDefinition :=
  match acc.name, acc.dataType with
  | none, _ => .error (.missingField "name")
  | _, none => .error (.missingField "type")
  | some n, some d =>
    .ok { name := n, dataType := d, nullable := acc.nullable.getD none,
          declaredType := acc.declaredType.getD none }

/-- The expectation named when a column array is too short. -/
def columnArity : String := "struct ColumnDefinition with 4 elements"

/-- A column from a JSON value: an object of its fields, or an array of them in order. -/
def columnOfJson (j : Json) : Except DefinitionProblem ColumnDefinition :=
  match j with
  | .object entries => do
    let acc ← (Json.mapEntries entries).foldlM ColumnFields.take {}
    acc.finish
  | .array items =>
    match items with
    | [] => .error (.wrongLength 0 columnArity)
    | [n] => do
      let _ ← nameOfJson n
      .error (.wrongLength 1 columnArity)
    | n :: d :: rest => do
      let name ← nameOfJson n
      let dataType ← dataTypeOfJson d
      let nullable ← match rest with
        | b :: _ => nullableOfJson b
        | [] => .ok none
      let declaredType ← match rest.drop 1 with
        | t :: _ => declaredTypeOfJson t
        | [] => .ok none
      if 2 < rest.length then .error (.wrongLength items.length "fewer elements in array")
      else .ok { name, dataType, nullable, declaredType }
  | other => .error (.wrongType (.ofJson other) "struct ColumnDefinition")

/-- The columns from a JSON array. -/
def columnsOfJson (j : Json) : Except DefinitionProblem (List ColumnDefinition) :=
  match j with
  | .array items => items.mapM columnOfJson
  | other => .error (.wrongType (.ofJson other) "a sequence")

/-- The fields of a definition object read so far. -/
structure DefinitionFields where
  collation : Option Collation := none
  ambiguity : Option AmbiguityPolicy := none
  columns : Option (List ColumnDefinition) := none

/-- Reads one entry of a definition object. -/
def DefinitionFields.take (acc : DefinitionFields) :
    String × Json → Except DefinitionProblem DefinitionFields
  | (k, v) =>
    if k = "collation" then
      if acc.collation.isSome then .error (.duplicateField k)
      else (variantOfJson collationSpellings v).map fun c => { acc with collation := some c }
    else if k = "ambiguity" then
      if acc.ambiguity.isSome then .error (.duplicateField k)
      else (variantOfJson policySpellings v).map fun p => { acc with ambiguity := some p }
    else if k = "columns" then
      if acc.columns.isSome then .error (.duplicateField k)
      else (columnsOfJson v).map fun cs => { acc with columns := some cs }
    else .error (.unknownField k definitionKeys)

/-- The definition once all entries are read, with defaults for what is absent. -/
def DefinitionFields.finish (acc : DefinitionFields) : SchemaDefinition :=
  { collation := acc.collation.getD .caseSensitive, ambiguity := acc.ambiguity.getD .warn,
    columns := acc.columns.getD [] }

end Definition

open Definition in
/-- Reads a schema definition from a JSON value. -/
def SchemaDefinition.ofJson (j : Json) : Except DefinitionError SchemaDefinition :=
  let r : Except DefinitionProblem SchemaDefinition :=
    match j with
    | .object entries =>
      ((Json.mapEntries entries).foldlM DefinitionFields.take {}).map DefinitionFields.finish
    | .array items => do
      let collation ← match items with
        | c :: _ => variantOfJson collationSpellings c
        | [] => .ok .caseSensitive
      let ambiguity ← match items.drop 1 with
        | a :: _ => variantOfJson policySpellings a
        | [] => .ok .warn
      let columns ← match items.drop 2 with
        | cs :: _ => columnsOfJson cs
        | [] => .ok []
      if 3 < items.length then .error (.wrongLength items.length "fewer elements in array")
      else .ok { collation, ambiguity, columns }
    | other => .error (.wrongType (.ofJson other) "struct SchemaDefinition")
  r.mapError fun p => { problem := p }

/-- Reads a column definition from a JSON value. -/
def ColumnDefinition.ofJson (j : Json) : Except DefinitionError ColumnDefinition :=
  (Definition.columnOfJson j).mapError fun p => { problem := p }

/-- Reads a name from a JSON value: a text read as a name, or an array of texts as parts. -/
def Name.ofJson (j : Json) : Except DefinitionError Name :=
  (Definition.nameOfJson j).mapError fun p => { problem := p }

/-- Reads a collation from a JSON value: its spelling as a text, or an object with the spelling
as its only key and `null` as its value. -/
def Collation.ofJson (j : Json) : Except DefinitionError Collation :=
  (Definition.variantOfJson Definition.collationSpellings j).mapError fun p => { problem := p }

end RecordSchema
