import RecordSchema.Definition.OfValue
import RecordSchema.Json.Read
import RecordSchema.Definition.Write
/-!
# Reading schema definitions from JSON text

Reads a definition straight from JSON text, in one pass, checking each value against what the
definition expects there. A fault is reported at the first place the text shows it, so a
value of the wrong kind is reported before any fault later in the text.

Where a fault is reported:

* a fault of the JSON text itself, where it is found;
* a value of the wrong kind, just after that value, or before it for an array or object;
* an unknown enumeration spelling, just after the string;
* an unknown or repeated key, a missing field, a name or type that does not read, or an array
  of the wrong length, where the object or array around it ends: after white space, and after
  its closing brace or bracket when that comes next.
-/

namespace RecordSchema

namespace Definition

open Json

/-- A failure while reading a definition from text: the problem, its position once it has one,
and where the reader stood when it arose. -/
structure TextFailure where
  problem : DefinitionProblem
  position : Option Position
  cursor : Cursor

/-- A fault of the text at a position. -/
def faultAt (f : SyntaxFault) (p : Position) (c : Cursor) : TextFailure := ⟨.malformed f, some p, c⟩

/-- A problem that gets its position from the object or array around it. -/
def unplaced (p : DefinitionProblem) (c : Cursor) : TextFailure := ⟨p, none, c⟩

/-- A token reading as a text reading. -/
def lift {α : Type} (r : Reading α) (c : Cursor) : Except TextFailure (α × Cursor) :=
  match r with
  | .ok v => .ok v
  | .error e => .error ⟨.malformed e.fault, some e.position, c⟩

/-- Gives a failure the position of a cursor unless it has one. -/
def TextFailure.placeAt (f : TextFailure) (c : Cursor) : TextFailure :=
  match f.position with
  | some _ => f
  | none => { f with position := some c.position, cursor := c }

/-- Reads the value that stands where a value of another kind was expected, and reports it
just after the value; an array or object is reported before its bracket. -/
def wrongTypeAt (expected : String) (c : Cursor) : TextFailure :=
  let found (x : Found) (c' : Cursor) : TextFailure := ⟨.wrongType x expected, some c'.position, c'⟩
  let afterWord (word : List Char) (x : Found) : TextFailure :=
    match readWord word c.advance with
    | .ok c' => found x c'
    | .error e => ⟨.malformed e.fault, some e.position, c⟩
  let afterNumber (r : Reading JsonNumber) : TextFailure :=
    match r with
    | .ok (n, c') => found (.ofNumber n) c'
    | .error e => ⟨.malformed e.fault, some e.position, c⟩
  match c.rest with
  | 'n' :: _ => afterWord ['u', 'l', 'l'] .null
  | 't' :: _ => afterWord ['r', 'u', 'e'] (.boolean true)
  | 'f' :: _ => afterWord ['a', 'l', 's', 'e'] (.boolean false)
  | '-' :: _ => afterNumber (readNumber false c.advance)
  | '"' :: _ =>
    match readString c.advance with
    | .ok (s, c') => found (.string s) c'
    | .error e => ⟨.malformed e.fault, some e.position, c⟩
  | '[' :: _ => found .sequence c
  | '{' :: _ => found .map c
  | ch :: _ =>
    if ch.isDigit then afterNumber (readNumber true c) else faultAt .missingValue c.nextPosition c
  | [] => faultAt .missingValue c.nextPosition c

/-- The end of the text where a value should start. -/
def endInValueAt (c : Cursor) : TextFailure := faultAt .endInValue c.nextPosition c

/-- Reads a string value. -/
def readText (expected : String) (c : Cursor) : Except TextFailure (String × Cursor) :=
  let c := c.skipBlanks
  match c.rest with
  | [] => .error (endInValueAt c)
  | '"' :: _ => lift (readString c.advance) c
  | _ :: _ => .error (wrongTypeAt expected c)

/-- Reads an enumeration spelling as a string; an unknown one is reported after the string. -/
def readSpelling {α : Type} (cases : List (String × α)) (c : Cursor) : Except TextFailure (α × Cursor) :=
  match readText "variant identifier" c with
  | .error f => .error f
  | .ok (s, c') =>
    match variantOf cases s with
    | .ok v => .ok (v, c')
    | .error p => .error ⟨p, some c'.position, c'⟩

/-- Reads `null`. -/
def readNull (expected : String) (c : Cursor) : Except TextFailure (Unit × Cursor) :=
  let c := c.skipBlanks
  match c.rest with
  | [] => .error (endInValueAt c)
  | 'n' :: _ => lift ((readWord ['u', 'l', 'l'] c.advance).map ((), ·)) c
  | _ :: _ => .error (wrongTypeAt expected c)

/-- Reads a case of an enumeration: its spelling as a string, or an object with the spelling
as its only key and `null` as its value. Inside the object the spelling is read as an object
key: anything but a string there is a key that is not a string, and an object closed at once
lacks its value. -/
def readVariant {α : Type} (cases : List (String × α)) (depth : Nat) (c : Cursor) : Except TextFailure (α × Cursor) :=
  let c := c.skipBlanks
  match c.rest with
  | [] => .error (endInValueAt c)
  | '"' :: _ => readSpelling cases c
  | '{' :: _ =>
    if maxDepth ≤ depth then .error (faultAt .tooDeep c.nextPosition c)
    else do
      let c := c.advance.skipBlanks
      let (v, c) ← match c.rest with
        | [] => .error (faultAt .endInObject c.position c)
        | '"' :: _ => readSpelling cases c
        | '}' :: _ => .error (faultAt .missingValue c.nextPosition c)
        | _ :: _ => .error (faultAt .keyNotString c.nextPosition c)
      let c := c.skipBlanks
      match c.rest with
      | [] => .error (faultAt .endInObject c.nextPosition c)
      | ':' :: _ =>
        let ((), c) ← readNull "unit" c.advance
        let c := c.skipBlanks
        match c.rest with
        | '}' :: _ => .ok (v, c.advance)
        | [] => .error (faultAt .endInObject c.position c)
        | _ :: _ => .error (faultAt .missingValue c.position c)
      | _ :: _ => .error (faultAt .missingColon c.nextPosition c)
  | _ :: _ => .error (faultAt .missingValue c.nextPosition c)

/-- Reads a flag. -/
def readFlag (c : Cursor) : Except TextFailure (Bool × Cursor) :=
  let c := c.skipBlanks
  match c.rest with
  | [] => .error (endInValueAt c)
  | 't' :: _ => lift ((readWord ['r', 'u', 'e'] c.advance).map (true, ·)) c
  | 'f' :: _ => lift ((readWord ['a', 'l', 's', 'e'] c.advance).map (false, ·)) c
  | _ :: _ => .error (wrongTypeAt "a boolean" c)

/-- Reads an optional value: `null` is absent. -/
def readOptional {α : Type} (inner : Cursor → Except TextFailure (α × Cursor)) (c : Cursor) : Except TextFailure ((Option α) × Cursor) :=
  let c := c.skipBlanks
  match c.rest with
  | 'n' :: _ => lift ((readWord ['u', 'l', 'l'] c.advance).map (none, ·)) c
  | _ => (inner c).map fun (v, c) => (some v, c)

/-- Reads a column name: any JSON value, then a text read as a name or an array of texts taken
as parts. -/
def readName (depth : Nat) (c : Cursor) : Except TextFailure (Name × Cursor) := do
  let (j, c) ← lift (readValueAt depth c) c
  match nameOfJson j with
  | .ok n => .ok (n, c)
  | .error p => .error (unplaced p c)

/-- Reads a data type from a string. -/
def readDataType (c : Cursor) : Except TextFailure (DataType × Cursor) := do
  let (s, c) ← readText "a string" c
  match DataType.parse s with
  | .ok d => .ok (d, c)
  | .error e => .error (unplaced (.badDataType e) c)

/-- Reads a declared value type from an optional string. -/
def readDeclaredType (c : Cursor) : Except TextFailure ((Option ValueType) × Cursor) :=
  readOptional (fun c => (readText "a string" c).map fun (s, c) => (ValueType.ofText s, c)) c

/-- Reads the colon after a key. -/
def readColon (c : Cursor) : Except TextFailure Cursor :=
  let c := c.skipBlanks
  match c.rest with
  | ':' :: _ => .ok c.advance
  | [] => .error (faultAt .endInObject c.nextPosition c)
  | _ :: _ => .error (faultAt .missingColon c.nextPosition c)

/-- Reads the entries of an object after its brace up to its closing brace, which is left
unread. `step` reads the value of a key, the cursor just after the key. -/
def readEntriesWith {σ : Type} (step : σ → String → Cursor → Except TextFailure (σ × Cursor)) :
    Nat → Bool → σ → Cursor → Except TextFailure (σ × Cursor)
  | 0, _, _, c => .error (faultAt .endInObject c.endPosition c)
  | fuel + 1, first, acc, c =>
    let c := c.skipBlanks
    match c.rest with
    | [] => .error (faultAt .endInObject c.nextPosition c)
    | ch :: _ =>
      if ch = '}' then .ok (acc, c)
      else if !first && ch ≠ ',' then .error (faultAt .missingObjectSeparator c.nextPosition c)
      else
        let c := if first then c else c.advance.skipBlanks
        match c.rest with
        | [] => .error (endInValueAt c)
        | ch :: _ =>
          if ch = '"' then
            match lift (readString c.advance) c with
            | .error f => .error f
            | .ok (key, c) =>
              match step acc key c with
              | .ok (acc, c) => readEntriesWith step fuel false acc c
              | .error f => .error f
          else if ch = '}' then .error (faultAt .trailingComma c.nextPosition c)
          else .error (faultAt .keyNotString c.nextPosition c)

/-- Whether another element follows in an array; the first element needs no comma. -/
def nextElement (first : Bool) (c : Cursor) : Except TextFailure (Bool × Cursor) :=
  let c := c.skipBlanks
  match c.rest with
  | [] => .error (faultAt .endInList c.nextPosition c)
  | ch :: _ =>
    if ch = ']' then .ok (false, c)
    else if first then .ok (true, c)
    else if ch = ',' then
      let c := c.advance.skipBlanks
      match c.rest with
      | [] => .error (endInValueAt c)
      | ch :: _ => if ch = ']' then .error (faultAt .trailingComma c.nextPosition c) else .ok (true, c)
    else .error (faultAt .missingListSeparator c.nextPosition c)

/-- Where a failure inside an object is placed: after white space and a closing brace. -/
def afterObject (c : Cursor) : Cursor :=
  let c := c.skipBlanks
  match c.rest with
  | '}' :: _ => c.advance
  | _ => c

/-- Where a failure inside an array is placed: after white space and a closing bracket, or
after a comma and the white space behind it. -/
def afterArray (c : Cursor) : Cursor :=
  let c := c.skipBlanks
  match c.rest with
  | ']' :: _ => c.advance
  | ',' :: _ => c.advance.skipBlanks
  | _ => c

/-- Closes an array whose elements have all been read: its bracket must follow. -/
def closeArray (c : Cursor) : Except TextFailure Cursor :=
  let c := c.skipBlanks
  match c.rest with
  | [] => .error (faultAt .endInList c.nextPosition c)
  | ch :: _ =>
    if ch = ']' then .ok c.advance
    else if ch = ',' then
      let c := c.advance.skipBlanks
      match c.rest with
      | ']' :: _ => .error (faultAt .trailingComma c.nextPosition c)
      | _ => .error (faultAt .trailingText c.nextPosition c)
    else .error (faultAt .trailingText c.nextPosition c)

/-- Reads a record, as an object of named fields or an array of fields in order, placing the
failures that arise inside it. -/
def readRecord {α σ : Type} (expected : String) (depth : Nat) (init : σ)
    (step : σ → String → Cursor → Except TextFailure (σ × Cursor))
    (finish : σ → Except DefinitionProblem α)
    (inOrder : Cursor → Except TextFailure (α × Cursor)) (c : Cursor) : Except TextFailure (α × Cursor) :=
  let c := c.skipBlanks
  match c.rest with
  | [] => .error (endInValueAt c)
  | ch :: _ =>
    if ch = '{' then
      if maxDepth ≤ depth then .error (faultAt .tooDeep c.nextPosition c)
      else
        let inner : Except TextFailure (α × Cursor) :=
          match readEntriesWith step (c.rest.length + 1) true init c.advance with
          | .error f => .error f
          | .ok (acc, c) =>
            match finish acc with
            | .ok v => .ok (v, c)
            | .error p => .error (unplaced p c)
        match inner with
        | .ok (v, c) => .ok (v, afterObject c)
        | .error f => .error (f.placeAt (afterObject f.cursor))
    else if ch = '[' then
      if maxDepth ≤ depth then .error (faultAt .tooDeep c.nextPosition c)
      else
        let inner : Except TextFailure (α × Cursor) :=
          match inOrder c.advance with
          | .error f => .error f
          | .ok (v, c) =>
            match closeArray c with
            | .ok c => .ok (v, c)
            | .error f => .error f
        match inner with
        | .ok r => .ok r
        | .error f => .error (f.placeAt (afterArray f.cursor))
    else .error (wrongTypeAt expected c)

/-- Reads the next element of a record in array form with `read`, or takes `absent` when the
array has ended. -/
def readElement {α : Type} (first : Bool) (read : Cursor → Except TextFailure (α × Cursor))
    (absent : Cursor → Except TextFailure α) (c : Cursor) : Except TextFailure (α × Cursor) := do
  let (more, c) ← nextElement first c
  if more then read c else (absent c).map (·, c)

/-- Reads the value of one key of a column object. -/
def columnStep (depth : Nat) (acc : ColumnFields) (key : String) (c : Cursor) :
    Except TextFailure (ColumnFields × Cursor) :=
  if key = "name" then
    if acc.name.isSome then .error (unplaced (.duplicateField key) c)
    else do
      let (n, c) ← readName depth (← readColon c)
      .ok ({ acc with name := some n }, c)
  else if key = "type" then
    if acc.dataType.isSome then .error (unplaced (.duplicateField key) c)
    else do
      let (d, c) ← readDataType (← readColon c)
      .ok ({ acc with dataType := some d }, c)
  else if key = "nullable" then
    if acc.nullable.isSome then .error (unplaced (.duplicateField key) c)
    else do
      let (b, c) ← readOptional readFlag (← readColon c)
      .ok ({ acc with nullable := some b }, c)
  else if key = "declaredType" then
    if acc.declaredType.isSome then .error (unplaced (.duplicateField key) c)
    else do
      let (t, c) ← readDeclaredType (← readColon c)
      .ok ({ acc with declaredType := some t }, c)
  else .error (unplaced (.unknownField key columnKeys) c)

/-- Reads a column in array form: name, type, then optionally nullability and declared type. -/
def columnInOrder (depth : Nat) (c : Cursor) : Except TextFailure (ColumnDefinition × Cursor) := do
  let (name, c) ← readElement true (readName depth) (fun c => .error (unplaced (.wrongLength 0 columnArity) c)) c
  let (dataType, c) ← readElement false readDataType (fun c => .error (unplaced (.wrongLength 1 columnArity) c)) c
  let (nullable, c) ← readElement false (readOptional readFlag) (fun _ => .ok none) c
  let (declaredType, c) ← readElement false readDeclaredType (fun _ => .ok none) c
  .ok ({ name, dataType, nullable, declaredType }, c)

/-- Reads a column definition. -/
def readColumn (depth : Nat) (c : Cursor) : Except TextFailure (ColumnDefinition × Cursor) :=
  readRecord "struct ColumnDefinition" depth {} (columnStep (depth + 1)) ColumnFields.finish
    (columnInOrder (depth + 1)) c

/-- Reads the elements of the column array after its bracket. -/
def readColumnItems (depth : Nat) : Nat → Bool → List ColumnDefinition → Cursor →
    Except TextFailure ((List ColumnDefinition) × Cursor)
  | 0, _, _, c => .error (faultAt .endInList c.endPosition c)
  | fuel + 1, first, acc, c => do
    let (more, c) ← nextElement first c
    if more then
      let (col, c) ← readColumn depth c
      readColumnItems depth fuel false (col :: acc) c
    else .ok (acc.reverse, c.advance)

/-- Reads the array of column definitions. -/
def readColumns (depth : Nat) (c : Cursor) : Except TextFailure ((List ColumnDefinition) × Cursor) :=
  let c := c.skipBlanks
  match c.rest with
  | [] => .error (endInValueAt c)
  | ch :: _ =>
    if ch = '[' then
      if maxDepth ≤ depth then .error (faultAt .tooDeep c.nextPosition c)
      else
        match readColumnItems (depth + 1) (c.rest.length + 1) true [] c.advance with
        | .ok r => .ok r
        | .error f => .error (f.placeAt (afterArray f.cursor))
    else .error (wrongTypeAt "a sequence" c)

/-- Reads the value of one key of a definition object. -/
def definitionStep (depth : Nat) (acc : DefinitionFields) (key : String) (c : Cursor) :
    Except TextFailure (DefinitionFields × Cursor) :=
  if key = "collation" then
    if acc.collation.isSome then .error (unplaced (.duplicateField key) c)
    else do
      let (v, c) ← readVariant collationSpellings depth (← readColon c)
      .ok ({ acc with collation := some v }, c)
  else if key = "ambiguity" then
    if acc.ambiguity.isSome then .error (unplaced (.duplicateField key) c)
    else do
      let (v, c) ← readVariant policySpellings depth (← readColon c)
      .ok ({ acc with ambiguity := some v }, c)
  else if key = "columns" then
    if acc.columns.isSome then .error (unplaced (.duplicateField key) c)
    else do
      let (cs, c) ← readColumns depth (← readColon c)
      .ok ({ acc with columns := some cs }, c)
  else .error (unplaced (.unknownField key definitionKeys) c)

/-- Reads a definition in array form: collation, policy and columns, each optional. -/
def definitionInOrder (depth : Nat) (c : Cursor) : Except TextFailure (SchemaDefinition × Cursor) := do
  let (collation, c) ← readElement true (readVariant collationSpellings depth) (fun _ => .ok .caseSensitive) c
  let (ambiguity, c) ← readElement false (readVariant policySpellings depth) (fun _ => .ok .warn) c
  let (columns, c) ← readElement false (readColumns depth) (fun _ => .ok []) c
  .ok ({ collation, ambiguity, columns }, c)

end Definition

open Definition in
/-- Reads a schema definition from JSON text; only white space may follow it. -/
def SchemaDefinition.ofText (s : String) : Except DefinitionError SchemaDefinition :=
  let r := readRecord "struct SchemaDefinition" 0 {} (definitionStep 1)
    (fun acc => .ok acc.finish) (definitionInOrder 1) (Json.Cursor.ofString s)
  match r with
  | .error f => .error { problem := f.problem, position := f.position }
  | .ok (d, c) =>
    let c := c.skipBlanks
    match c.rest with
    | [] => .ok d
    | _ :: _ => .error { problem := .malformed .trailingText, position := some c.nextPosition }

/-- The result of writing a definition as JSON text and reading the text back. -/
structure RoundTrip where
  text : String
  sameDefinition : Bool
  sameSchema : Bool

/-- Writes a definition as JSON text, reads it back, and compares the two definitions and the
schemas built from them. A written text need not read back: a data type written as `NULL`,
the rest of `NULL NULL` once its nullability is taken off, reads as an empty data type, and
then the fault of reading the written text is the result. -/
def SchemaDefinition.roundTrip (d : SchemaDefinition) : Except DefinitionError RoundTrip :=
  let text := Json.write d.toJson
  (SchemaDefinition.ofText text).map fun d' =>
    ⟨text, d == d', (d.build {}).1.equiv (d'.build {}).1⟩

end RecordSchema
