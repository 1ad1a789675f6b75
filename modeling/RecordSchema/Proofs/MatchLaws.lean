import RecordSchema.Proofs.TextKeys
import RecordSchema.Proofs.IgnoringCase
/-!
# Laws of name matching

Resolution compares names in two ways: exactly (`Name.equiv`: same length, parts matching
pairwise) and from the right (`Name.suffixEquiv`: the parts of the shorter name match the last
parts of the longer one). The second is the one the partial tier uses, and it is easy to get
wrong when the key is longer than the column name. This file collects what it satisfies:

* `Collation.partEq_comm`, `Name.AgreeFromRight.symm`, `Name.suffixEquiv_comm` — matching
  does not depend on which side is read first;
* `Name.suffixEquiv_self`, `Name.suffixEquiv_of_equiv` — a name matches itself from the right,
  and so does every name it matches exactly;
* `Name.suffixEquiv_of_length_one` — against a name of one part, the suffix test compares the
  simple names only;
* `Name.equiv_mono`, `Name.suffixEquiv_mono` — both tests only grow with a coarser collation;
* `Name.suffixEquiv_laws` — the main statement, with the pointwise reading of the suffix test.
-/

namespace RecordSchema

/-- Whether two parts match does not depend on their order. -/
theorem Collation.partEq_comm (c : Collation) (x y : String) : c.partEq x y = c.partEq y x := by
  cases c <;> simp only [Collation.partEq, Bool.beq_comm]

namespace Name

variable {c : Collation} {a b : Name}

/-- Agreeing from the right does not depend on which name is read first. -/
theorem AgreeFromRight.symm (h : a.AgreeFromRight c b) : b.AgreeFromRight c a := by
  intro j hb ha
  rw [Collation.partEq_comm]
  exact h j ha hb

/-- The suffix test does not depend on which name is read first. -/
theorem suffixEquiv_comm (c : Collation) (a b : Name) : a.suffixEquiv b c = b.suffixEquiv a c := by
  rw [Bool.eq_iff_iff, suffixEquiv_iff, suffixEquiv_iff]
  exact ⟨AgreeFromRight.symm, AgreeFromRight.symm⟩

/-- Every name matches itself from the right. -/
theorem suffixEquiv_self (c : Collation) (a : Name) : a.suffixEquiv a c = true :=
  (suffixEquiv_iff c a a).2 (sameParts_refl c a).agreeFromRight

/-- A name that matches another exactly matches it from the right. -/
theorem suffixEquiv_of_equiv (h : a.equiv b c = true) : a.suffixEquiv b c = true :=
  (suffixEquiv_iff c a b).2 ((equiv_iff c a b).1 h).agreeFromRight

/-- Against a name of one part, the suffix test compares the simple names only: the last
parts are the only ones it reaches. -/
theorem suffixEquiv_of_length_one (c : Collation) (ha : a.parts.length = 1) (b : Name) :
    a.suffixEquiv b c = c.partEq a.simple b.simple := by
  refine Bool.eq_iff_iff.2 ⟨fun h => ((suffixEquiv_iff c a b).1 h).simple, fun h => ?_⟩
  rw [suffixEquiv_iff]
  intro j hja hjb
  have hj : j = 0 := by omega
  subst hj
  simpa only [Nat.sub_zero, simple, List.getLast_eq_getElem] using h

section Finer

variable {d : Collation} (hcd : c.Finer d)
include hcd

/-- A coarser collation matches every pair of names a finer one matches exactly. -/
theorem equiv_mono (h : a.equiv b c = true) : a.equiv b d = true :=
  (equiv_iff d a b).2 (((equiv_iff c a b).1 h).mono hcd)

/-- A coarser collation matches from the right every pair of names a finer one does. -/
theorem suffixEquiv_mono (h : a.suffixEquiv b c = true) : a.suffixEquiv b d = true :=
  (suffixEquiv_iff d a b).2 (((suffixEquiv_iff c a b).1 h).mono hcd)

end Finer

/-- **The suffix test.** Two names match from the right exactly when they agree from the
right: for every `j` below both lengths, their `j`-th parts from the right match. So the test
is reflexive and symmetric, follows from exact matching, and compares the simple names when
either name has one part. Parts that are identical match ignoring case, so exact and suffix
matching case-sensitively imply the same ignoring case. -/
theorem suffixEquiv_laws (c : Collation) (a b : Name) :
    (a.suffixEquiv b c = true ↔ a.AgreeFromRight c b) ∧ a.suffixEquiv a c = true ∧
      a.suffixEquiv b c = b.suffixEquiv a c ∧
      (a.equiv b c = true → a.suffixEquiv b c = true) ∧
      (a.parts.length = 1 ∨ b.parts.length = 1 →
        a.suffixEquiv b c = c.partEq a.simple b.simple) ∧
      (∀ x y, Collation.caseSensitive.partEq x y = true →
        Collation.caseInsensitive.partEq x y = true) ∧
      (a.equiv b .caseSensitive = true → a.equiv b .caseInsensitive = true) ∧
      (a.suffixEquiv b .caseSensitive = true → a.suffixEquiv b .caseInsensitive = true) := by
  have hfiner := Collation.caseSensitive_finer .caseInsensitive
  refine ⟨suffixEquiv_iff c a b, suffixEquiv_self c a, suffixEquiv_comm c a b,
    suffixEquiv_of_equiv, ?_, hfiner, equiv_mono hfiner, suffixEquiv_mono hfiner⟩
  rintro (ha | hb)
  · exact suffixEquiv_of_length_one c ha b
  · -- read from `b`, whose one part is its simple name
    rw [suffixEquiv_comm, suffixEquiv_of_length_one c hb a, Collation.partEq_comm]

end Name

end RecordSchema
