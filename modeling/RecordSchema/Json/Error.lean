import RecordSchema.Json.Cursor
import RecordSchema.Json.Write
import RecordSchema.Text.Literal
/-!
# Faults in JSON text

The faults a JSON text can have, each with its message, and the description of a value that
was found where a value of another kind was expected. A fault is reported with the line and
column where it was found, as `… at line L column C`.
-/

namespace RecordSchema

namespace Json

/-- A fault in the text of a JSON document. -/
inductive SyntaxFault where
  | endInList
  | endInObject
  | endInString
  | endInValue
  | missingColon
  | missingListSeparator
  | missingObjectSeparator
  | badLiteral
  | missingValue
  | badEscape
  | badNumber
  | numberTooLarge
  | controlInString
  | keyNotString
  | loneSurrogate
  | trailingComma
  | trailingText
  | brokenSurrogatePair
  | tooDeep
  deriving DecidableEq, Repr

/-- The message of a fault. -/
def SyntaxFault.message : SyntaxFault → String
  | .endInList => "EOF while parsing a list"
  | .endInObject => "EOF while parsing an object"
  | .endInString => "EOF while parsing a string"
  | .endInValue => "EOF while parsing a value"
  | .missingColon => "expected `:`"
  | .missingListSeparator => "expected `,` or `]`"
  | .missingObjectSeparator => "expected `,` or `\x7d`"
  | .badLiteral => "expected ident"
  | .missingValue => "expected value"
  | .badEscape => "invalid escape"
  | .badNumber => "invalid number"
  | .numberTooLarge => "number out of range"
  | .controlInString => "control character (\\u0000-\\u001F) found while parsing a string"
  | .keyNotString => "key must be a string"
  | .loneSurrogate => "lone leading surrogate in hex escape"
  | .trailingComma => "trailing comma"
  | .trailingText => "trailing characters"
  | .brokenSurrogatePair => "unexpected end of hex escape"
  | .tooDeep => "recursion limit exceeded"

/-- A fault and where it was found. -/
structure ReadError where
  fault : SyntaxFault
  position : Position

/-- The suffix that places a message in the text. -/
def Position.suffix (p : Position) : String :=
  s!" at line {p.line} column {p.column}"

/-- What a value turned out to be, for messages about values of the wrong kind. -/
inductive Found where
  | null
  | boolean (b : Bool)
  | unsigned (n : Nat)
  | signed (n : Int)
  | float (x : Float)
  | string (s : String)
  | sequence
  | map

/-- A double as a message shows it: laid out as written JSON lays it out, except that a
positive exponent carries a plus sign (`1e+16`, `2.5e-7`), and infinities and NaN, which no
JSON text holds, are spelled `inf`, `-inf` and `NaN`. -/
def Found.floatText (x : Float) : String :=
  shortestText true (if x.isNaN then "NaN" else if x < 0 then "-inf" else "inf") x

/-- The description of a found value, as messages give it. -/
def Found.describe : Found → String
  | .null => "null"
  | .boolean b => if b then "boolean `true`" else "boolean `false`"
  | .unsigned n => s!"integer `{n}`"
  | .signed n => s!"integer `{n}`"
  | .float x => "floating point `" ++ Found.floatText x ++ "`"
  | .string s => "string " ++ Text.quoteForMessage s
  | .sequence => "sequence"
  | .map => "map"

/-- What a number turned out to be. -/
def Found.ofNumber : JsonNumber → Found
  | .natural n => .unsigned n
  | .negative n => .signed n
  | .float x => .float x

/-- What a value turned out to be. -/
def Found.ofJson : Json → Found
  | .null => .null
  | .bool b => .boolean b
  | .number n => .ofNumber n
  | .string s => .string s
  | .array _ => .sequence
  | .object _ => .map

/-- A list of allowed names as messages give it: one in backticks, two joined by `or`, more
as `one of` a comma separated list. -/
def oneOf (names : List String) : String :=
  let ticked := names.map fun n => "`" ++ n ++ "`"
  match ticked with
  | [a] => a
  | [a, b] => a ++ " or " ++ b
  | _ => "one of " ++ ", ".intercalate ticked

end Json

end RecordSchema
