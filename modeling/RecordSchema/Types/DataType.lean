import RecordSchema.Types.SqlType
/-!
# Data types

A data type is a SQL type with its optional length, precision and scale, and whether the
column may hold nulls. It is written as the SQL name, then `(length)`, `(precision, scale)` or
`(precision)`, then ` NOT NULL` when nulls are refused.

Reading a data type splits the text into white-space separated words. A last word `NULL`,
with a `NOT` before it, sets the nullability; a `NOT` left at the end is refused. The words
joined by single spaces are the type text: a name, optionally followed by arguments between
the first `(` and a `)` that must end the text. Arguments are separated by commas, each an
unsigned 32-bit decimal number, all read before their count is looked at. One argument is a
length for the character and binary types and a precision otherwise; two are a precision
and a scale, for types that accept a scale, with the scale at most the precision.
-/

namespace RecordSchema

/-- Why a text is not a data type. -/
inductive DataTypeError where
  /-- There is no type name. -/
  | empty
  /-- The arguments are not closed at the end, or their number is wrong; the type text. -/
  | malformedArguments (text : String)
  /-- An argument is not an unsigned 32-bit number; the argument, trimmed. -/
  | invalidArgument (arg : String)
  /-- A scale was given to a type that takes none. -/
  | scaleNotAllowed (sqlType : SqlType)
  /-- The text ends with `NOT`. -/
  | danglingNot
  /-- The scale is larger than the precision. -/
  | scaleExceedsPrecision (precision scale : Nat)
  deriving DecidableEq, Repr

/-- The text of a data type error. -/
def DataTypeError.message : DataTypeError → String
  | .empty => "data type is empty"
  | .malformedArguments text => s!"malformed type arguments in '{text}'"
  | .invalidArgument arg => s!"invalid type argument '{arg}'"
  | .scaleNotAllowed t => t.name ++ " does not take a scale"
  | .danglingNot => "NOT must be followed by NULL"
  | .scaleExceedsPrecision precision scale => s!"scale {scale} exceeds precision {precision}"

/-- A SQL type with its arguments and nullability. -/
structure DataType where
  sqlType : SqlType
  precision : Option Nat := none
  scale : Option Nat := none
  length : Option Nat := none
  nullable : Bool := true
  deriving DecidableEq, Repr

namespace DataType

/-- The nullable data type of a SQL type, without arguments. -/
def ofSqlType (t : SqlType) : DataType := { sqlType := t }

/-- The value type read for columns of this data type. -/
def valueType (d : DataType) : ValueType := d.sqlType.valueType

/-- The family of the value type. -/
def family (d : DataType) : TypeFamily := d.valueType.family

/-- The written form of a data type. -/
def display (d : DataType) : String :=
  let args :=
    match d.length, d.precision, d.scale with
    | some n, _, _ => s!"({n})"
    | none, some p, some s => s!"({p}, {s})"
    | none, some p, none => s!"({p})"
    | none, none, _ => ""
  d.sqlType.name ++ args ++ (if d.nullable then "" else " NOT NULL")

/-! ## Reading -/

/-- The value of a decimal digit character. -/
def digitValue (c : Char) : Nat := c.toNat - '0'.toNat

/-- Reads an unsigned 32-bit decimal number: an optional `+`, then at least one ASCII digit,
with a value of at most 4294967295. -/
def readU32? (s : String) : Option Nat :=
  let digits := match s.toList with
    | '+' :: ds => ds
    | ds => ds
  if digits.isEmpty || !digits.all Char.isDigit then none
  else
    let n := digits.foldl (fun acc c => 10 * acc + digitValue c) 0
    if n ≤ 4294967295 then some n else none

/-- Splits a character list at every comma; there is always at least one piece. -/
def splitCommas : List Char → List (List Char)
  | [] => [[]]
  | c :: cs =>
    match splitCommas cs with
    | [] => [[c]]
    | piece :: pieces => if c = ',' then [] :: piece :: pieces else (c :: piece) :: pieces

/-- Reads every argument in order; the first that is not a number is reported, trimmed. -/
def readArguments : List (List Char) → Except DataTypeError (List Nat)
  | [] => .ok []
  | arg :: args =>
    let text := String.ofList (Text.trim arg)
    match readU32? text with
    | none => .error (.invalidArgument text)
    | some n => (readArguments args).map (n :: ·)

/-- Removes a final `NULL`, and a `NOT` before it, from the words of a data type; the flag
says whether the type stays nullable. -/
def stripNullability (words : List String) : List String × Bool :=
  match words.reverse with
  | last :: rest =>
    if Text.sameIgnoringAsciiCase last "NULL" then
      match rest with
      | prev :: rest' =>
        if Text.sameIgnoringAsciiCase prev "NOT" then (rest'.reverse, false) else (rest.reverse, true)
      | [] => ([], true)
    else (words, true)
  | [] => (words, true)

/-- Applies arguments to a data type by their number and the kind of SQL type. -/
def withArguments (d : DataType) (text : String) : List Nat → Except DataTypeError DataType
  | [n] => if d.sqlType.hasLength then .ok { d with length := some n } else .ok { d with precision := some n }
  | [p, s] =>
    if !d.sqlType.acceptsScale then .error (.scaleNotAllowed d.sqlType)
    else if p < s then .error (.scaleExceedsPrecision p s)
    else .ok { d with precision := some p, scale := some s }
  | _ => .error (.malformedArguments text)

/-- Reads a data type from text, as the module documentation describes. -/
def parse (s : String) : Except DataTypeError DataType :=
  let (words, nullable) := stripNullability ((Text.words s.toList).map String.ofList)
  if words.getLast?.any (Text.sameIgnoringAsciiCase · "NOT") then .error .danglingNot
  else if words.isEmpty then .error .empty
  else
    let text := " ".intercalate words
    let (nameChars, rest) := text.toList.span (· ≠ '(')
    match rest with
    | [] =>
      if (Text.trim nameChars).isEmpty then .error .empty
      else .ok { sqlType := SqlType.ofName (String.ofList nameChars), nullable }
    | _ :: inner =>
      if inner.getLast? ≠ some ')' then .error (.malformedArguments text)
      else if (Text.trim nameChars).isEmpty then .error .empty
      else
        let d : DataType := { sqlType := SqlType.ofName (String.ofList nameChars), nullable }
        match readArguments (splitCommas inner.dropLast) with
        | .error e => .error e
        | .ok args => d.withArguments text args

/-- Whether columns of one data type may be read as another: decided by their value types. -/
def canCoerceTo (source target : DataType) : Bool := source.valueType.canCoerceTo target.valueType

example : (parse "decimal ( 10 , 2 ) not null").toOption.map display =
    some "DECIMAL(10, 2) NOT NULL" := by decide
example : parse "INT NOT" = .error .danglingNot := rfl

end DataType

end RecordSchema
