import RecordSchema.Json.Number
/-!
# Reading JSON text

Readers for the tokens of JSON text and for whole values. Strings take the escapes `\"`,
`\\`, `\/`, `\b`, `\f`, `\n`, `\r`, `\t` and `\uXXXX`, where a surrogate pair of two `\u`
escapes stands for one character and a surrogate alone is refused; control characters must
be escaped. Arrays and objects may nest at most 127 deep. Object entries are kept in the
order written, duplicates included.

Each reader takes a cursor and returns the value with the cursor after it, or the first
fault with its position.
-/

namespace RecordSchema

namespace Json

/-- The most arrays and objects that may be open at once. -/
def maxDepth : Nat := 127

/-- Reads the rest of a literal after its first letter: a different character is a bad
literal, placed one byte into it. -/
def readWord : List Char → Cursor → Except ReadError Cursor
  | [], c => .ok c
  | w :: ws, c =>
    match c.rest with
    | [] => fault .endInValue c.position
    | ch :: _ => if ch = w then readWord ws c.advance else fault .badLiteral c.nextPosition

/-- The value of a hexadecimal digit. -/
def hexValue? (c : Char) : Option Nat :=
  if '0' ≤ c && c ≤ '9' then some (c.toNat - 48)
  else if 'a' ≤ c && c ≤ 'f' then some (c.toNat - 87)
  else if 'A' ≤ c && c ≤ 'F' then some (c.toNat - 55)
  else none

/-- The position at the end of the text. -/
def Cursor.endPosition (c : Cursor) : Position := c.positionAfterBytes c.bytesLeft

/-- Reads the four hexadecimal digits of a `\u` escape. Fewer than four bytes left is an end
inside the string; four bytes that are not all hexadecimal digits are a bad escape, placed
after the four bytes. -/
def readHex4 (c : Cursor) : Reading Nat :=
  if c.bytesLeft < 4 then fault .endInString c.endPosition
  else
    match c.rest with
    | a :: b :: d :: e :: _ =>
      match hexValue? a, hexValue? b, hexValue? d, hexValue? e with
      | some x, some y, some z, some w =>
        .ok (((x * 16 + y) * 16 + z) * 16 + w, c.advance.advance.advance.advance)
      | _, _, _, _ => fault .badEscape (c.positionAfterBytes 4)
    | _ => fault .badEscape (c.positionAfterBytes 4)

/-- Reads the escape after `\u`, and a second one when the first is a leading surrogate. -/
def readUnicodeEscape (c : Cursor) : Reading Char :=
  match readHex4 c with
  | .error e => .error e
  | .ok (n, c) =>
  if 0xDC00 ≤ n && n ≤ 0xDFFF then fault .loneSurrogate c.position
  else if n < 0xD800 || 0xDBFF < n then .ok (Char.ofNat n, c)
  else
    match c.rest with
    | [] => fault .endInString c.position
    | ch :: _ =>
      if ch ≠ '\\' then fault .brokenSurrogatePair c.nextPosition
      else
        let c := c.advance
        match c.rest with
        | [] => fault .endInString c.position
        | ch :: _ =>
          if ch ≠ 'u' then fault .brokenSurrogatePair c.nextPosition
          else
            match readHex4 c.advance with
            | .error e => .error e
            | .ok (m, c) =>
              if m < 0xDC00 || 0xDFFF < m then fault .loneSurrogate c.position
              else .ok (Char.ofNat (0x10000 + (n - 0xD800) * 0x400 + (m - 0xDC00)), c)

/-- Reads an escape after its backslash. -/
def readEscape (c : Cursor) : Reading Char :=
  match c.rest with
  | [] => fault .endInString c.position
  | ch :: _ =>
    let c' := c.advance
    if ch = '"' then .ok ('"', c')
    else if ch = '\\' then .ok ('\\', c')
    else if ch = '/' then .ok ('/', c')
    else if ch = 'b' then .ok (Char.ofNat 8, c')
    else if ch = 'f' then .ok (Char.ofNat 12, c')
    else if ch = 'n' then .ok ('\n', c')
    else if ch = 'r' then .ok ('\r', c')
    else if ch = 't' then .ok ('\t', c')
    else if ch = 'u' then readUnicodeEscape c'
    else fault .badEscape c.nextPosition

/-- Reads the characters of a string up to its closing quote, the characters so far kept in
reverse. -/
def readStringChars : Nat → List Char → Cursor → Reading String
  | 0, _, c => fault .endInString c.endPosition
  | fuel + 1, acc, c =>
    match c.rest with
    | [] => fault .endInString c.position
    | ch :: _ =>
      if ch = '"' then .ok (String.ofList acc.reverse, c.advance)
      else if ch = '\\' then
        match readEscape c.advance with
        | .ok (e, c') => readStringChars fuel (e :: acc) c'
        | .error err => .error err
      else if ch.toNat < 0x20 then fault .controlInString c.nextPosition
      else readStringChars fuel (ch :: acc) c.advance

/-- Reads a string after its opening quote. -/
def readString (c : Cursor) : Reading String := readStringChars (c.rest.length + 1) [] c

mutual
/-- Reads one value after white space. -/
def readValue : Nat → Nat → Cursor → Reading Json
  | 0, _, c => fault .endInValue c.endPosition
  | fuel + 1, depth, c =>
    let c := c.skipBlanks
    match c.rest with
    | [] => fault .endInValue c.nextPosition
    | ch :: _ =>
      if ch = 'n' then (readWord ['u', 'l', 'l'] c.advance).map (.null, ·)
      else if ch = 't' then (readWord ['r', 'u', 'e'] c.advance).map (.bool true, ·)
      else if ch = 'f' then (readWord ['a', 'l', 's', 'e'] c.advance).map (.bool false, ·)
      else if ch = '-' then (readNumber false c.advance).map fun (n, c) => (.number n, c)
      else if ch.isDigit then (readNumber true c).map fun (n, c) => (.number n, c)
      else if ch = '"' then (readString c.advance).map fun (s, c) => (.string s, c)
      else if ch = '[' then
        if maxDepth ≤ depth then fault .tooDeep c.nextPosition
        else readItems fuel (depth + 1) true [] c.advance
      else if ch = '{' then
        if maxDepth ≤ depth then fault .tooDeep c.nextPosition
        else readEntries fuel (depth + 1) true [] c.advance
      else fault .missingValue c.nextPosition

/-- Reads the items of an array after its opening bracket, and the closing bracket. -/
def readItems : Nat → Nat → Bool → List Json → Cursor → Reading Json
  | 0, _, _, _, c => fault .endInList c.endPosition
  | fuel + 1, depth, first, acc, c =>
    let c := c.skipBlanks
    match c.rest with
    | [] => fault .endInList c.nextPosition
    | ch :: _ =>
      if ch = ']' then .ok (.array acc.reverse, c.advance)
      else if first then
        match readValue fuel depth c with
        | .ok (v, c') => readItems fuel depth false (v :: acc) c'
        | .error e => .error e
      else if ch = ',' then
        let c := c.advance.skipBlanks
        match c.rest with
        | [] => fault .endInValue c.nextPosition
        | ch :: _ =>
          if ch = ']' then fault .trailingComma c.nextPosition
          else
            match readValue fuel depth c with
            | .ok (v, c') => readItems fuel depth false (v :: acc) c'
            | .error e => .error e
      else fault .missingListSeparator c.nextPosition

/-- Reads the entries of an object after its opening brace, and the closing brace. -/
def readEntries : Nat → Nat → Bool → List (String × Json) → Cursor → Reading Json
  | 0, _, _, _, c => fault .endInObject c.endPosition
  | fuel + 1, depth, first, acc, c =>
    let c := c.skipBlanks
    match c.rest with
    | [] => fault .endInObject c.nextPosition
    | ch :: _ =>
      if ch = '}' then .ok (.object acc.reverse, c.advance)
      else if !first && ch ≠ ',' then fault .missingObjectSeparator c.nextPosition
      else
        let c := if first then c else c.advance.skipBlanks
        match c.rest with
        | [] => fault .endInValue c.nextPosition
        | ch :: _ =>
          if ch = '"' then
            match readString c.advance with
            | .error e => .error e
            | .ok (key, c) =>
              let c := c.skipBlanks
              match c.rest with
              | [] => fault .endInObject c.nextPosition
              | ch :: _ =>
                if ch ≠ ':' then fault .missingColon c.nextPosition
                else
                  match readValue fuel depth c.advance with
                  | .ok (v, c') => readEntries fuel depth false ((key, v) :: acc) c'
                  | .error e => .error e
          else if ch = '}' then fault .trailingComma c.nextPosition
          else fault .keyNotString c.nextPosition
end

/-- Enough steps for the readers to finish on a text of this many characters. -/
def fuelFor (c : Cursor) : Nat := 2 * c.rest.length + 2

/-- Reads one value, allowing `depth` open arrays and objects around it. -/
def readValueAt (depth : Nat) (c : Cursor) : Reading Json := readValue (fuelFor c) depth c

/-- Reads a whole text as one JSON value; anything but white space after it is refused. -/
def parse (s : String) : Except ReadError Json :=
  match readValueAt 0 (Cursor.ofString s) with
  | .error e => .error e
  | .ok (v, c) =>
    let c := c.skipBlanks
    match c.rest with
    | [] => .ok v
    | _ :: _ => fault .trailingText c.nextPosition

end Json

end RecordSchema
