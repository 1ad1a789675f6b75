/-!
# ASCII case

Type names are compared and normalised ignoring the case of ASCII letters only: other
letters keep their case. Core's `Char.toLower` and `Char.toUpper` change exactly the ASCII
letters, so they are the mapping used here.
-/

namespace RecordSchema.Text

/-- Whether two texts are equal once ASCII letters are folded to lowercase. -/
def sameIgnoringAsciiCase (a b : String) : Bool :=
  a.toList.map Char.toLower == b.toList.map Char.toLower

/-- A text with its ASCII letters made uppercase. -/
def asciiUpper (s : String) : String := String.ofList (s.toList.map Char.toUpper)

theorem sameIgnoringAsciiCase_self (a : String) : sameIgnoringAsciiCase a a = true := by
  simp [sameIgnoringAsciiCase]

example : sameIgnoringAsciiCase "bigInteger" "BIGinteger" = true := by decide
example : sameIgnoringAsciiCase "é" "É" = false := by decide

end RecordSchema.Text
