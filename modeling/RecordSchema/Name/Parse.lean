import RecordSchema.Name.Basic
import RecordSchema.Text.WhiteSpace
/-!
# Reading names from text

The written form of a name is its parts separated by dots, with white space allowed around
every part. A part is either bare, a run of characters other than dot and double quote whose
surrounding white space is dropped, or quoted: a double quote, any characters with a doubled
double quote standing for one, and a closing double quote, kept verbatim. A part may not be
empty after this.

The reader is a machine with five states, fed one character at a time together with the
byte offset of that character; errors name the byte offset where they are found. A text of
white space only is refused as a whole before any part is read. Each transition of the machine
has its own lemma here (`readFrom_bare_cons`, `readFrom_quoted_quote`, …).
-/

namespace RecordSchema

namespace Name

/-- Where the reader stands inside the written form of a name. -/
inductive ReadState where
  /-- Before a part, skipping white space. -/
  | beforePart
  /-- Inside a bare part; the characters read so far, last first. -/
  | bare (acc : List Char)
  /-- Inside a quoted part that opened at byte offset `start`; the content so far, last first. -/
  | quoted (start : Nat) (acc : List Char)
  /-- Just after a double quote inside a quoted part: a second one continues the part, anything
  else ends it. -/
  | closing (start : Nat) (acc : List Char)
  /-- After a part, skipping white space up to a dot or the end. -/
  | afterPart
  deriving DecidableEq, Repr

/-- Adds a finished part to the parts read so far; an empty part is refused by its index. -/
def pushPart (parts : List String) (part : List Char) : Except NameError (List String) :=
  if part.isEmpty then .error (.emptyPart parts.length) else .ok (parts ++ [String.ofList part])

/-- The state after a part when the character `c` at byte offset `pos` follows: white space
is skipped, a dot starts the next part, and anything else is refused. -/
def stepAfterPart (c : Char) (pos : Nat) : Except NameError ReadState :=
  if Text.isWhiteSpace c then .ok .afterPart
  else if c = '.' then .ok .beforePart
  else .error (.unexpectedCharacter c pos)

/-- Runs the reader from a state over the remaining characters, the first of which stands at
byte offset `pos`, and returns all parts read. -/
def readFrom : ReadState → List String → Nat → List Char → Except NameError (List String)
  | .beforePart, parts, _, [] => .error (.emptyPart parts.length)
  | .bare acc, parts, _, [] => pushPart parts (Text.trim acc.reverse)
  | .quoted start _, _, _, [] => .error (.unterminatedQuote start)
  | .closing _ acc, parts, _, [] => pushPart parts acc.reverse
  | .afterPart, parts, _, [] => .ok parts
  | .beforePart, parts, pos, c :: cs =>
    if Text.isWhiteSpace c then readFrom .beforePart parts (pos + c.utf8Size) cs
    else if c = '"' then readFrom (.quoted pos []) parts (pos + 1) cs
    else if c = '.' then .error (.emptyPart parts.length)
    else readFrom (.bare [c]) parts (pos + c.utf8Size) cs
  | .bare acc, parts, pos, c :: cs =>
    if c = '.' then
      match pushPart parts (Text.trim acc.reverse) with
      | .ok parts => readFrom .beforePart parts (pos + 1) cs
      | .error e => .error e
    else if c = '"' then .error (.unexpectedCharacter c pos)
    else readFrom (.bare (c :: acc)) parts (pos + c.utf8Size) cs
  | .quoted start acc, parts, pos, c :: cs =>
    if c = '"' then readFrom (.closing start acc) parts (pos + 1) cs
    else readFrom (.quoted start (c :: acc)) parts (pos + c.utf8Size) cs
  | .closing start acc, parts, pos, c :: cs =>
    if c = '"' then readFrom (.quoted start ('"' :: acc)) parts (pos + 1) cs
    else
      match pushPart parts acc.reverse, stepAfterPart c pos with
      | .error e, _ => .error e
      | .ok _, .error e => .error e
      | .ok parts, .ok next => readFrom next parts (pos + c.utf8Size) cs
  | .afterPart, parts, pos, c :: cs =>
    match stepAfterPart c pos with
    | .ok next => readFrom next parts (pos + c.utf8Size) cs
    | .error e => .error e

/-! ## Transitions

One lemma per state for a step of the machine on a character, true by unfolding the reader once,
and from these one lemma per transition, so that proofs about whole runs never unfold the
reader. -/

section Transitions

variable (parts : List String) (pos : Nat) (cs : List Char)

/-- One step before a part: white space is skipped, a double quote opens a quoted part, a dot
ends an empty part, and anything else opens a bare part. -/
theorem readFrom_beforePart_step (c : Char) :
    readFrom .beforePart parts pos (c :: cs) =
      if Text.isWhiteSpace c then readFrom .beforePart parts (pos + c.utf8Size) cs
      else if c = '"' then readFrom (.quoted pos []) parts (pos + 1) cs
      else if c = '.' then .error (.emptyPart parts.length)
      else readFrom (.bare [c]) parts (pos + c.utf8Size) cs := rfl

/-- One step inside a bare part: a dot ends it, trimmed, a double quote is refused, and anything
else is kept. -/
theorem readFrom_bare_step (acc : List Char) (c : Char) :
    readFrom (.bare acc) parts pos (c :: cs) =
      if c = '.' then
        match pushPart parts (Text.trim acc.reverse) with
        | .ok parts => readFrom .beforePart parts (pos + 1) cs
        | .error e => .error e
      else if c = '"' then .error (.unexpectedCharacter c pos)
      else readFrom (.bare (c :: acc)) parts (pos + c.utf8Size) cs := rfl

/-- One step inside a quoted part: a double quote may close it, anything else is kept. -/
theorem readFrom_quoted_step (start : Nat) (acc : List Char) (c : Char) :
    readFrom (.quoted start acc) parts pos (c :: cs) =
      if c = '"' then readFrom (.closing start acc) parts (pos + 1) cs
      else readFrom (.quoted start (c :: acc)) parts (pos + c.utf8Size) cs := rfl

/-- One step after a double quote inside a quoted part: a second one continues the part with a
double quote kept; anything else ends the part and is read as after a part. -/
theorem readFrom_closing_step (start : Nat) (acc : List Char) (c : Char) :
    readFrom (.closing start acc) parts pos (c :: cs) =
      if c = '"' then readFrom (.quoted start ('"' :: acc)) parts (pos + 1) cs
      else
        match pushPart parts acc.reverse, stepAfterPart c pos with
        | .error e, _ => .error e
        | .ok _, .error e => .error e
        | .ok parts, .ok next => readFrom next parts (pos + c.utf8Size) cs := rfl

/-- After a part, a character is read by `stepAfterPart`. -/
theorem readFrom_afterPart_cons (c : Char) :
    readFrom .afterPart parts pos (c :: cs) =
      match stepAfterPart c pos with
      | .ok next => readFrom next parts (pos + c.utf8Size) cs
      | .error e => .error e := by
  rw [readFrom.eq_def]

/-- A double quote before a part opens a quoted part. -/
theorem readFrom_beforePart_quote :
    readFrom .beforePart parts pos ('"' :: cs) = readFrom (.quoted pos []) parts (pos + 1) cs := by
  rw [readFrom_beforePart_step, if_neg (by decide), if_pos rfl]

/-- Any other character that is neither white space nor a dot opens a bare part. -/
theorem readFrom_beforePart_bare {c : Char} (hws : Text.isWhiteSpace c = false) (hquote : c ≠ '"')
    (hdot : c ≠ '.') :
    readFrom .beforePart parts pos (c :: cs) = readFrom (.bare [c]) parts (pos + c.utf8Size) cs := by
  rw [readFrom_beforePart_step, if_neg (by simp [hws]), if_neg hquote, if_neg hdot]

/-- A bare part goes on through a character that is neither a dot nor a double quote. -/
theorem readFrom_bare_cons (acc : List Char) {c : Char} (hdot : c ≠ '.') (hquote : c ≠ '"') :
    readFrom (.bare acc) parts pos (c :: cs) =
      readFrom (.bare (c :: acc)) parts (pos + c.utf8Size) cs := by
  rw [readFrom_bare_step, if_neg hdot, if_neg hquote]

/-- A quoted part goes on through a character other than a double quote. -/
theorem readFrom_quoted_cons (start : Nat) (acc : List Char) {c : Char} (hquote : c ≠ '"') :
    readFrom (.quoted start acc) parts pos (c :: cs) =
      readFrom (.quoted start (c :: acc)) parts (pos + c.utf8Size) cs := by
  rw [readFrom_quoted_step, if_neg hquote]

/-- A double quote inside a quoted part may close it. -/
theorem readFrom_quoted_quote (start : Nat) (acc : List Char) :
    readFrom (.quoted start acc) parts pos ('"' :: cs) =
      readFrom (.closing start acc) parts (pos + 1) cs := by
  rw [readFrom_quoted_step, if_pos rfl]

/-- A second double quote right after one keeps the part open, with one double quote kept. -/
theorem readFrom_closing_quote (start : Nat) (acc : List Char) :
    readFrom (.closing start acc) parts pos ('"' :: cs) =
      readFrom (.quoted start ('"' :: acc)) parts (pos + 1) cs := by
  rw [readFrom_closing_step, if_pos rfl]

/-- After a part, a dot starts the next one. -/
theorem readFrom_afterPart_dot :
    readFrom .afterPart parts pos ('.' :: cs) = readFrom .beforePart parts (pos + 1) cs := by
  rw [readFrom_afterPart_cons, stepAfterPart, if_neg (by decide), if_pos rfl]
  rfl

/-- After a part, the end of the text ends the name. -/
theorem readFrom_afterPart_nil : readFrom .afterPart parts pos [] = .ok parts := rfl

/-- White space before a part is skipped. -/
theorem readFrom_beforePart_blank {c : Char} (hws : Text.isWhiteSpace c = true) :
    readFrom .beforePart parts pos (c :: cs) = readFrom .beforePart parts (pos + c.utf8Size) cs := by
  rw [readFrom_beforePart_step, if_pos hws]

/-- A text that ends before a part ends with an empty part. -/
theorem readFrom_beforePart_nil :
    readFrom .beforePart parts pos [] = .error (.emptyPart parts.length) := rfl

/-- A dot before a part ends an empty part. -/
theorem readFrom_beforePart_dot :
    readFrom .beforePart parts pos ('.' :: cs) = .error (.emptyPart parts.length) := by
  rw [readFrom_beforePart_step, if_neg (by decide), if_neg (by decide), if_pos rfl]

/-- A bare part ends at a dot, trimmed, and the next part starts. -/
theorem readFrom_bare_dot (acc : List Char) :
    readFrom (.bare acc) parts pos ('.' :: cs) =
      match pushPart parts (Text.trim acc.reverse) with
      | .ok parts => readFrom .beforePart parts (pos + 1) cs
      | .error e => .error e := by
  rw [readFrom_bare_step, if_pos rfl]

/-- A double quote may not stand inside a bare part. -/
theorem readFrom_bare_quote (acc : List Char) :
    readFrom (.bare acc) parts pos ('"' :: cs) = .error (.unexpectedCharacter '"' pos) := by
  rw [readFrom_bare_step, if_neg (by decide), if_pos rfl]

/-- A bare part ends at the end of the text, trimmed. -/
theorem readFrom_bare_nil (acc : List Char) :
    readFrom (.bare acc) parts pos [] = pushPart parts (Text.trim acc.reverse) := rfl

/-- A quoted part still open at the end of the text is refused by its opening offset. -/
theorem readFrom_quoted_nil (start : Nat) (acc : List Char) :
    readFrom (.quoted start acc) parts pos [] = .error (.unterminatedQuote start) := rfl

/-- A quoted part closed at the end of the text ends there. -/
theorem readFrom_closing_nil (start : Nat) (acc : List Char) :
    readFrom (.closing start acc) parts pos [] = pushPart parts acc.reverse := rfl

/-- A character other than a double quote after a closing one ends the quoted part, and is
then read as after a part. -/
theorem readFrom_closing_cons (start : Nat) (acc : List Char) {c : Char} (hquote : c ≠ '"') :
    readFrom (.closing start acc) parts pos (c :: cs) =
      match pushPart parts acc.reverse, stepAfterPart c pos with
      | .error e, _ => .error e
      | .ok _, .error e => .error e
      | .ok parts, .ok next => readFrom next parts (pos + c.utf8Size) cs := by
  rw [readFrom_closing_step, if_neg hquote]

end Transitions

/-- A part is added when it is not empty. -/
theorem pushPart_ok (parts : List String) {cs : List Char} (h : cs ≠ []) :
    pushPart parts cs = .ok (parts ++ [String.ofList cs]) := by
  rw [pushPart, if_neg (by simpa using h)]

/-- Reads a name from its written form. -/
def parse (text : String) : Except NameError Name :=
  if (Text.trim text.toList).isEmpty then .error .empty
  else
    match readFrom .beforePart [] 0 text.toList with
    | .ok parts => new parts
    | .error e => .error e

end Name

end RecordSchema
