import RecordSchema.Name.Basic
/-!
# The shape of names

Every name has at least one part and no empty part; these are fields of `Name`. From them:

* `Name.getLast?_parts`: the simple name is the last part, so no name lacks one;
* `Name.qualifier_isSome_iff`: a name has a qualifier exactly when it has two parts or more;
* `Name.append_simple_of_qualifier`: putting the simple name back on the qualifier gives the
  name again;
* `Name.qualifier_append_simple`: the four facts together, over every name.
-/

namespace RecordSchema

namespace Name

/-- The simple name is the last part. -/
theorem getLast?_parts (n : Name) : n.parts.getLast? = some n.simple := by
  simp [simple, List.getLast?_eq_some_getLast n.parts_ne_nil]

/-- The simple name is one of the parts, so it is not empty. -/
theorem simple_ne_empty (n : Name) : n.simple ≠ "" :=
  n.part_ne_empty _ (List.getLast_mem n.parts_ne_nil)

/-- A list without its last element is empty exactly when the list has at most one. -/
theorem dropLast_eq_nil_iff {α : Type} (l : List α) : l.dropLast = [] ↔ l.length ≤ 1 := by
  rw [← List.length_eq_zero_iff, List.length_dropLast]
  omega

/-- A name has a qualifier exactly when it has at least two parts. -/
theorem qualifier_isSome_iff (n : Name) : n.qualifier.isSome = true ↔ 2 ≤ n.length := by
  unfold qualifier length
  by_cases h : n.parts.dropLast = []
  · simp only [h, dite_true, Option.isSome_none, Bool.false_eq_true, false_iff]
    have := (dropLast_eq_nil_iff n.parts).1 h
    omega
  · simp only [h, dite_false, Option.isSome_some, true_iff]
    have := mt (dropLast_eq_nil_iff n.parts).2 h
    omega

/-- Putting the simple name back on the qualifier gives the name again. -/
theorem append_simple_of_qualifier {n q : Name} (h : n.qualifier = some q) :
    q.append n.simple = .ok n := by
  unfold qualifier at h
  split at h
  · exact absurd h (by simp)
  · cases h
    simp only [append, simple_ne_empty, dite_false]
    congr 1
    ext1
    exact List.dropLast_concat_getLast n.parts_ne_nil

/-- Every name is a non-empty list of non-empty parts whose last part is the simple name; it
has a qualifier exactly when it has two parts or more, and the qualifier extended by the simple
name is the name itself. -/
theorem qualifier_append_simple (n : Name) :
    n.parts ≠ [] ∧ "" ∉ n.parts ∧ n.parts.getLast? = some n.simple ∧
      n.qualifier.map (fun q => q.append n.simple) =
        if 2 ≤ n.length then some (.ok n) else none := by
  refine ⟨n.parts_ne_nil, fun hmem => n.part_ne_empty "" hmem rfl, n.getLast?_parts, ?_⟩
  cases hq : n.qualifier with
  | none =>
    have : ¬ 2 ≤ n.length := by
      rw [← qualifier_isSome_iff, hq]
      simp
    simp [this]
  | some q =>
    have : 2 ≤ n.length := by
      rw [← qualifier_isSome_iff, hq]
      rfl
    simp [this, append_simple_of_qualifier hq]

end Name

end RecordSchema
