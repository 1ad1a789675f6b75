/-!
# Unicode white space

The character class White_Space of the Unicode Character Database (25 code points) and the
text operations built on it: trimming both ends and splitting into maximal runs of non-blank
characters. Names, value-type texts and SQL type names are trimmed and split by this class,
never by ASCII blanks alone.
-/

namespace RecordSchema.Text

/-- Whether a character has the Unicode White_Space property: the ASCII controls TAB to CR,
SPACE, NEL, NO-BREAK SPACE, OGHAM SPACE MARK, the spaces EN QUAD to HAIR SPACE, LINE and
PARAGRAPH SEPARATOR, NARROW NO-BREAK SPACE, MEDIUM MATHEMATICAL SPACE and IDEOGRAPHIC SPACE. -/
def isWhiteSpace (c : Char) : Bool :=
  let n := c.toNat
  (0x09 ≤ n && n ≤ 0x0D) || n == 0x20 || n == 0x85 || n == 0xA0 || n == 0x1680 ||
    (0x2000 ≤ n && n ≤ 0x200A) || n == 0x2028 || n == 0x2029 || n == 0x202F ||
    n == 0x205F || n == 0x3000

/-- Drops white space at both ends of a character list. -/
def trim (cs : List Char) : List Char :=
  ((cs.dropWhile isWhiteSpace).reverse.dropWhile isWhiteSpace).reverse

/-- Drops white space at both ends of a text. -/
def trimText (s : String) : String :=
  String.ofList (trim s.toList)

/-- Splits a character list at its white space into the maximal runs of other characters,
in order; blanks at either end and runs of several blanks produce no empty word. The word
being read is kept reversed in the accumulator. -/
def wordsFrom : List Char → List Char → List (List Char)
  | [], acc => if acc.isEmpty then [] else [acc.reverse]
  | c :: cs, acc =>
    if isWhiteSpace c then
      if acc.isEmpty then wordsFrom cs [] else acc.reverse :: wordsFrom cs []
    else wordsFrom cs (c :: acc)

/-- The white-space separated words of a character list. -/
def words (cs : List Char) : List (List Char) := wordsFrom cs []

/-- The words of a text joined by single spaces. -/
def collapseSpaces (s : String) : String :=
  " ".intercalate ((words s.toList).map String.ofList)

example : words " ab  c ".toList = ["ab".toList, "c".toList] := by decide
example : trimText "　 a b\u0085" = "a b" := by decide

end RecordSchema.Text
