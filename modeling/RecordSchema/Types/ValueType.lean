import RecordSchema.Text.AsciiCase
import RecordSchema.Text.WhiteSpace
/-!
# Value types

A value type is the kind of value a reader produces for a column: seventeen built-in tags,
or a vendor tag known only by its name. Each belongs to a family, and coercion between value
types is decided by families: within a family, between text and identifiers or JSON, and
between temporal types except from dates to times and back. Vendor tags coerce to each other
when their names agree up to ASCII case.
-/

namespace RecordSchema

/-- The broad class of a value type. -/
inductive TypeFamily where
  | boolean
  | numeric
  | character
  | binary
  | temporal
  | uuid
  | json
  | other
  deriving DecidableEq, Repr

/-- The spelling of a family. -/
def TypeFamily.name : TypeFamily → String
  | .boolean => "Boolean"
  | .numeric => "Numeric"
  | .character => "Character"
  | .binary => "Binary"
  | .temporal => "Temporal"
  | .uuid => "Uuid"
  | .json => "Json"
  | .other => "Other"

/-- The kind of value materialised for a column. -/
inductive ValueType where
  | boolean
  | byte
  | short
  | int
  | long
  | bigInteger
  | float
  | double
  | bigDecimal
  | string
  | bytes
  | date
  | time
  | timestamp
  | offsetTimestamp
  | uuid
  | json
  /-- A vendor tag, known by its name only. -/
  | other (name : String)
  deriving DecidableEq, Repr

namespace ValueType

/-- The built-in tags, in declaration order. -/
def builtIn : List ValueType :=
  [.boolean, .byte, .short, .int, .long, .bigInteger, .float, .double, .bigDecimal, .string,
    .bytes, .date, .time, .timestamp, .offsetTimestamp, .uuid, .json]

/-- The name of a value type; a vendor tag is its own name. -/
def name : ValueType → String
  | .boolean => "boolean"
  | .byte => "byte"
  | .short => "short"
  | .int => "int"
  | .long => "long"
  | .bigInteger => "bigInteger"
  | .float => "float"
  | .double => "double"
  | .bigDecimal => "bigDecimal"
  | .string => "string"
  | .bytes => "bytes"
  | .date => "date"
  | .time => "time"
  | .timestamp => "timestamp"
  | .offsetTimestamp => "offsetTimestamp"
  | .uuid => "uuid"
  | .json => "json"
  | .other n => n

/-- The family of a value type. -/
def family : ValueType → TypeFamily
  | .boolean => .boolean
  | .byte | .short | .int | .long | .bigInteger | .float | .double | .bigDecimal => .numeric
  | .string => .character
  | .bytes => .binary
  | .date | .time | .timestamp | .offsetTimestamp => .temporal
  | .uuid => .uuid
  | .json => .json
  | .other _ => .other

/-- Whether a column of one value type may be read as another. Equal types always coerce;
otherwise the families decide, as the module documentation says. -/
def canCoerceTo (source target : ValueType) : Bool :=
  source == target ||
    match source.family, target.family with
    | .numeric, .numeric | .character, .character | .binary, .binary | .boolean, .boolean => true
    | .temporal, .temporal =>
      !((source == .date && target == .time) || (source == .time && target == .date))
    | .character, .uuid | .character, .json | .uuid, .character | .json, .character => true
    | .other, .other =>
      match source, target with
      | .other a, .other b => Text.sameIgnoringAsciiCase a b
      | _, _ => false
    | _, _ => false

/-- Reads a value type from text: white space around it is dropped, a built-in name is
recognised up to ASCII case, and any other text is a vendor tag of that (trimmed) name. -/
def ofText (s : String) : ValueType :=
  let t := Text.trimText s
  match builtIn.find? (fun v => Text.sameIgnoringAsciiCase v.name t) with
  | some v => v
  | none => .other t

example : ofText " BigInteger " = .bigInteger := by decide
example : canCoerceTo .date .time = false := by decide

end ValueType

end RecordSchema
