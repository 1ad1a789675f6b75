import RecordSchema.Name.Basic
/-!
# Matching names, part by part

`Name.equiv` and `Name.suffixEquiv` compare two names by zipping their parts (reversed, for
the suffix test) and asking every pair to match under a collation. This file states what the
two tests mean without zips, as conditions on the parts at each position:

* `Name.SameParts c a b` — the names have the same length and equal parts at every
  position;
* `Name.AgreeFromRight c a b` — the parts of the shorter name equal the last parts of the
  longer one, the two aligned at their right ends.

The main statements are `Name.equiv_iff` and `Name.suffixEquiv_iff`; `all_zip_iff` is the
fact about lists both rest on.  A name matches itself in both senses under every collation
(`Name.sameParts_refl`).
-/

namespace RecordSchema

/-- A test holds of every pair of a zip exactly when it holds of the elements at every
position that both lists have. -/
theorem all_zip_iff {α β : Type} (p : α × β → Bool) :
    ∀ (xs : List α) (ys : List β), (xs.zip ys).all p = true ↔
      ∀ j (hx : j < xs.length) (hy : j < ys.length), p (xs[j], ys[j]) = true
  | [], _ => by simp
  | _ :: _, [] => by simp
  | x :: xs, y :: ys => by
    rw [List.zip_cons_cons, List.all_cons, Bool.and_eq_true, all_zip_iff p xs ys]
    constructor
    · rintro ⟨hxy, hrest⟩ j hx hy
      cases j with
      | zero => exact hxy
      | succ j => exact hrest j (by simpa using hx) (by simpa using hy)
    · intro h
      refine ⟨h 0 (by simp) (by simp), fun j hx hy => ?_⟩
      exact h (j + 1) (by simpa using hx) (by simpa using hy)

namespace Name

/-- Two names have the same length and, position by position, parts that are equal under
`c`. -/
def SameParts (c : Collation) (a b : Name) : Prop :=
  a.parts.length = b.parts.length ∧
    ∀ j (ha : j < a.parts.length) (hb : j < b.parts.length), c.partEq a.parts[j] b.parts[j] = true

/-- Two names agree on every part of the shorter one, the parts aligned from the right: the
`j`-th part from the end of one equals the `j`-th part from the end of the other. -/
def AgreeFromRight (c : Collation) (a b : Name) : Prop :=
  ∀ j (ha : j < a.parts.length) (hb : j < b.parts.length),
    c.partEq a.parts[a.parts.length - 1 - j] b.parts[b.parts.length - 1 - j] = true

/-- **The exact test.** Two names are equal under a collation exactly when they have the same
length and equal parts at every position. -/
theorem equiv_iff (c : Collation) (a b : Name) : a.equiv b c = true ↔ a.SameParts c b := by
  unfold equiv SameParts
  rw [Bool.and_eq_true, beq_iff_eq]
  exact and_congr_right fun _ => all_zip_iff (fun p => c.partEq p.1 p.2) a.parts b.parts

/-- **The suffix test.** Zipping the reversed parts compares the names from the right, as far
as the shorter one reaches. -/
theorem suffixEquiv_iff (c : Collation) (a b : Name) :
    a.suffixEquiv b c = true ↔ a.AgreeFromRight c b := by
  unfold suffixEquiv AgreeFromRight
  rw [all_zip_iff (fun p => c.partEq p.1 p.2) a.parts.reverse b.parts.reverse]
  simp only [List.length_reverse, List.getElem_reverse]

/-- A name has its own parts under every collation. -/
theorem sameParts_refl (c : Collation) (n : Name) : n.SameParts c n :=
  ⟨rfl, fun j _ _ => c.partEq_self n.parts[j]⟩

end Name

end RecordSchema
