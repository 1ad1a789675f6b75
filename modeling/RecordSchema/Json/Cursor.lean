/-!
# Reading positions in JSON text

A cursor is the unread rest of a JSON text together with the place it starts: a line counted
from 1 and a column counted in bytes from the start of that line. A position reported for an
error is either where the cursor stands or one byte further (`Cursor.nextPosition`): one
byte past a line feed is the start of the next line, and one byte into a character that
takes several bytes is a column inside it. At the end of the text both are the same.
-/

namespace RecordSchema

namespace Json

/-- A place in a text: line from 1, column in bytes from the start of the line. -/
structure Position where
  line : Nat
  column : Nat
  deriving DecidableEq, Repr

/-- The unread rest of a JSON text and the position where it starts. -/
structure Cursor where
  rest : List Char
  line : Nat := 1
  column : Nat := 0

namespace Cursor

/-- A cursor at the start of a text. -/
def ofString (s : String) : Cursor := { rest := s.toList }

/-- Where the cursor stands. -/
def position (c : Cursor) : Position := ⟨c.line, c.column⟩

/-- The position one byte further, or the end of the text. -/
def nextPosition (c : Cursor) : Position :=
  match c.rest with
  | [] => c.position
  | '\n' :: _ => ⟨c.line + 1, 0⟩
  | _ :: _ => ⟨c.line, c.column + 1⟩

/-- The next character, if any. -/
def peek? (c : Cursor) : Option Char := c.rest.head?

/-- The cursor after its next character. -/
def advance (c : Cursor) : Cursor :=
  match c.rest with
  | [] => c
  | ch :: rest =>
    if ch = '\n' then { rest, line := c.line + 1, column := 0 }
    else { rest, line := c.line, column := c.column + ch.utf8Size }

/-- Whether a character is white space between JSON tokens. -/
def isBlank (ch : Char) : Bool := ch = ' ' || ch = '\n' || ch = '\t' || ch = '\r'

/-- Skips white space between tokens, at most `fuel` characters. -/
def skipBlanksFor : Nat → Cursor → Cursor
  | 0, c => c
  | fuel + 1, c =>
    match c.rest with
    | ch :: _ => if isBlank ch then skipBlanksFor fuel c.advance else c
    | [] => c

/-- Skips white space between tokens. -/
def skipBlanks (c : Cursor) : Cursor := skipBlanksFor c.rest.length c

/-- The number of bytes left to read. -/
def bytesLeft (c : Cursor) : Nat := c.rest.foldl (fun n ch => n + ch.utf8Size) 0

/-- The position `n` bytes into a list of characters that starts at a line and column; it
may end inside a character. -/
def positionAfterBytesIn : Nat → List Char → Nat → Nat → Position
  | 0, _, line, column => ⟨line, column⟩
  | _, [], line, column => ⟨line, column⟩
  | n + 1, ch :: rest, line, column =>
    if ch.utf8Size ≤ n + 1 then
      if ch = '\n' then positionAfterBytesIn n rest (line + 1) 0
      else positionAfterBytesIn (n + 1 - ch.utf8Size) rest line (column + ch.utf8Size)
    else ⟨line, column + n + 1⟩

/-- The position after `n` more bytes, which may end inside a character. -/
def positionAfterBytes (n : Nat) (c : Cursor) : Position :=
  positionAfterBytesIn n c.rest c.line c.column

end Cursor

end Json

end RecordSchema
