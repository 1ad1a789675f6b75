import RecordSchema.Name.Basic
import RecordSchema.Text.WhiteSpace
/-!
# Writing names as text

A name is written as its parts joined by dots. A part that holds a dot or a double quote, or
that starts or ends with white space, is wrapped in double quotes with every double quote in
it doubled; any other part is written as it is. This is the form that `Name.parse` reads
back.
-/

namespace RecordSchema

namespace Name

/-- Whether a part must be quoted to be read back unchanged. -/
def needsQuotes (part : List Char) : Bool :=
  part.any (fun c => c == '.' || c == '"') ||
    (match part.head? with | some c => Text.isWhiteSpace c | none => false) ||
    (match part.getLast? with | some c => Text.isWhiteSpace c | none => false)

/-- A part between double quotes, each double quote in it doubled. -/
def quotePart (part : List Char) : List Char :=
  '"' :: part.flatMap (fun c => if c = '"' then ['"', '"'] else [c]) ++ ['"']

/-- The written form of one part. -/
def writePart (part : String) : String :=
  let cs := part.toList
  if needsQuotes cs then String.ofList (quotePart cs) else part

/-- The written form of a name: its parts joined by dots, each quoted where needed. -/
def display (n : Name) : String := ".".intercalate (n.parts.map writePart)

end Name

end RecordSchema
