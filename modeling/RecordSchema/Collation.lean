import RecordSchema.Text.Lowercase
/-!
# Collations

A collation decides when two name parts are the same: either character for character, or
after folding both to lowercase with the full Unicode mapping. Folding is per character and
may lengthen a part (`İ` folds to `i` and a combining dot), so the folded texts are compared
as wholes, not character by character.
-/

namespace RecordSchema

/-- How the parts of names are compared while resolving fields. -/
inductive Collation where
  /-- Parts must be identical. -/
  | caseSensitive
  /-- Parts are compared after full Unicode lowercase folding. -/
  | caseInsensitive
  deriving DecidableEq, Repr, Inhabited

namespace Collation

/-- Whether two name parts are equal under a collation. -/
def partEq : Collation → String → String → Bool
  | .caseSensitive, a, b => a == b
  | .caseInsensitive, a, b => Text.lowercaseAll a.toList == Text.lowercaseAll b.toList

/-- The spelling of a collation in schema definitions. -/
def name : Collation → String
  | .caseSensitive => "caseSensitive"
  | .caseInsensitive => "caseInsensitive"

/-- Parts that are identical match under every collation. -/
theorem partEq_self (c : Collation) (a : String) : c.partEq a a = true := by
  cases c <;> simp [partEq]

end Collation

end RecordSchema
