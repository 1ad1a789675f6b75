import RecordSchema.Types.ValueType
/-!
# SQL types

The declared SQL type of a column: twenty-two standard names or a vendor name. Reading a
type name collapses its white space to single spaces and ignores ASCII case, and knows the
usual aliases (`INT`, `TEXT`, `DOUBLE PRECISION`, `TIMESTAMPTZ`, …); any other name is a
vendor type spelled as given, trimmed.

Each SQL type determines the value type a reader materialises, and each value type has a
default SQL type, used when a field is coerced to another value type.
-/

namespace RecordSchema

/-- A declared SQL type. -/
inductive SqlType where
  | boolean
  | tinyInt
  | smallInt
  | integer
  | bigInt
  | decimal
  | numeric
  | real
  | float
  | double
  | char
  | varchar
  | clob
  | binary
  | varbinary
  | blob
  | date
  | time
  | timestamp
  | timestampWithTimeZone
  | uuid
  | json
  /-- A vendor type, known by its name only. -/
  | other (name : String)
  deriving DecidableEq, Repr

namespace SqlType

/-- The canonical name of a SQL type; a vendor type is its own name. -/
def name : SqlType → String
  | .boolean => "BOOLEAN"
  | .tinyInt => "TINYINT"
  | .smallInt => "SMALLINT"
  | .integer => "INTEGER"
  | .bigInt => "BIGINT"
  | .decimal => "DECIMAL"
  | .numeric => "NUMERIC"
  | .real => "REAL"
  | .float => "FLOAT"
  | .double => "DOUBLE"
  | .char => "CHAR"
  | .varchar => "VARCHAR"
  | .clob => "CLOB"
  | .binary => "BINARY"
  | .varbinary => "VARBINARY"
  | .blob => "BLOB"
  | .date => "DATE"
  | .time => "TIME"
  | .timestamp => "TIMESTAMP"
  | .timestampWithTimeZone => "TIMESTAMP WITH TIME ZONE"
  | .uuid => "UUID"
  | .json => "JSON"
  | .other n => n

/-- The standard type a normalised name (single spaces, ASCII uppercase) denotes, with the
aliases of common dialects. -/
def ofNormalName? : String → Option SqlType
  | "BOOLEAN" | "BOOL" => some .boolean
  | "TINYINT" | "INT1" => some .tinyInt
  | "SMALLINT" | "INT2" => some .smallInt
  | "INTEGER" | "INT" | "INT4" => some .integer
  | "BIGINT" | "INT8" => some .bigInt
  | "DECIMAL" | "DEC" => some .decimal
  | "NUMERIC" => some .numeric
  | "REAL" | "FLOAT4" => some .real
  | "FLOAT" => some .float
  | "DOUBLE" | "DOUBLE PRECISION" | "FLOAT8" => some .double
  | "CHAR" | "CHARACTER" | "NCHAR" => some .char
  | "VARCHAR" | "CHARACTER VARYING" | "NVARCHAR" | "VARCHAR2" => some .varchar
  | "CLOB" | "TEXT" | "NCLOB" => some .clob
  | "BINARY" => some .binary
  | "VARBINARY" | "BINARY VARYING" => some .varbinary
  | "BLOB" | "BYTEA" => some .blob
  | "DATE" => some .date
  | "TIME" => some .time
  | "TIMESTAMP" | "DATETIME" => some .timestamp
  | "TIMESTAMP WITH TIME ZONE" | "TIMESTAMPTZ" => some .timestampWithTimeZone
  | "UUID" => some .uuid
  | "JSON" | "JSONB" => some .json
  | _ => none

/-- Reads a SQL type name: its words joined by single spaces and made ASCII uppercase select a
standard type or alias; otherwise it is a vendor type named by the trimmed text. -/
def ofName (s : String) : SqlType :=
  match ofNormalName? (Text.asciiUpper (Text.collapseSpaces s)) with
  | some t => t
  | none => .other (Text.trimText s)

/-- The value type a reader materialises for a SQL type. -/
def valueType : SqlType → ValueType
  | .boolean => .boolean
  | .tinyInt => .byte
  | .smallInt => .short
  | .integer => .int
  | .bigInt => .long
  | .decimal | .numeric => .bigDecimal
  | .real => .float
  | .float | .double => .double
  | .char | .varchar | .clob => .string
  | .binary | .varbinary | .blob => .bytes
  | .date => .date
  | .time => .time
  | .timestamp => .timestamp
  | .timestampWithTimeZone => .offsetTimestamp
  | .uuid => .uuid
  | .json => .json
  | .other n => .other n

/-- Whether a single type argument is a length rather than a precision. -/
def hasLength : SqlType → Bool
  | .char | .varchar | .binary | .varbinary => true
  | _ => false

/-- Whether the type has a scale. -/
def hasScale : SqlType → Bool
  | .decimal | .numeric => true
  | _ => false

/-- Whether a second type argument, a scale, is accepted: by the decimal types, and by vendor
types, which are not checked. -/
def acceptsScale (t : SqlType) : Bool :=
  t.hasScale || match t with | .other _ => true | _ => false

end SqlType

/-- The SQL type a column of this value type gets when nothing else is declared. -/
def ValueType.defaultSqlType : ValueType → SqlType
  | .boolean => .boolean
  | .byte => .tinyInt
  | .short => .smallInt
  | .int => .integer
  | .long => .bigInt
  | .bigInteger => .numeric
  | .float => .real
  | .double => .double
  | .bigDecimal => .decimal
  | .string => .varchar
  | .bytes => .varbinary
  | .date => .date
  | .time => .time
  | .timestamp => .timestamp
  | .offsetTimestamp => .timestampWithTimeZone
  | .uuid => .uuid
  | .json => .json
  | .other n => .other n

example : SqlType.ofName " double   precision " = .double := by decide
example : SqlType.ofName " Geo  Point " = .other "Geo  Point" := by decide

end RecordSchema
