import RecordSchema.Proofs.Resolution
import RecordSchema.Proofs.SessionIds
/-!
# A field resolves to the first field like it

The identity tier returns the least position holding the key field's identity, and the exact
tier the least position whose name has the key name's parts under the schema's collation.
So a field of a schema resolves to its own position exactly when no earlier position holds
its identity, and its name resolves there exactly when no earlier name matches it:

* `Schema.resolve_field_eq`, `Schema.resolve_name_eq` — the two tiers, read off a least
  position, with no ambiguity event;
* `Schema.resolve_first_like` — for every position: where its field and its name resolve,
  when that is the position itself, and that it always is when the schema's identities are
  pairwise distinct (as they are for column lists and definitions) or, for the name, when a
  case-sensitive schema has no other field of that name.

A builder that reuses a column twice, or a case-insensitive schema with names differing only
in case, has positions that resolve elsewhere (`Schema.builder_resolves_first`), while a column list
has none (`Schema.columns_resolve_own`).
-/

namespace RecordSchema

/-! ## Least positions -/

/-- A position whose field passes a test comes at or after the least such position. -/
theorem exists_isFirstPos {fs : List Field} (p : Field → Prop) {i : Nat} (hi : i < fs.length)
    (hp : p fs[i]) : ∃ j ≤ i, IsFirstPos fs p j := by
  classical
  cases hfind : fs.findIdx? (fun f => decide (p f)) with
  | none =>
    have hnot := List.findIdx?_eq_none_iff.1 hfind fs[i] (List.getElem_mem hi)
    rw [decide_eq_false_iff_not] at hnot
    exact absurd hp hnot
  | some j =>
    obtain ⟨hj, hpj, hbefore⟩ := List.findIdx?_eq_some_iff_getElem.1 hfind
    refine ⟨j, ?_, hj, of_decide_eq_true hpj, fun k hk => by simpa using hbefore k hk⟩
    -- `fs[i]` passes, so the least position is not after `i`
    refine Nat.le_of_not_lt fun hlt => ?_
    exact hbefore i hlt (decide_eq_true hp)

/-- The least position of a test is `i` exactly when `i` is a least position of it. -/
theorem IsFirstPos.eq_iff {fs : List Field} {p : Field → Prop} {i j : Nat}
    (hj : IsFirstPos fs p j) : j = i ↔ IsFirstPos fs p i := by
  constructor
  · rintro rfl
    exact hj
  · exact hj.unique

/-- Under the case-sensitive collation, two names have the same parts exactly when they are
equal. -/
theorem Name.sameParts_caseSensitive_iff (a b : Name) : a.SameParts .caseSensitive b ↔ a = b := by
  constructor
  · rintro ⟨hlen, hparts⟩
    apply Name.ext
    refine List.ext_getElem hlen fun j ha hb => ?_
    simpa [Collation.partEq] using hparts j ha hb
  · rintro rfl
    exact Name.sameParts_refl _ a

namespace Schema

/-! ## The identity and exact tiers -/

/-- **The identity tier.** A field key resolves, with no event, to the least position holding
its identity. -/
theorem resolve_field_eq {s : Schema} {f : Field} {j : Nat}
    (h : IsFirstPos s.fields (fun g => g.id = f.id) j) :
    s.resolve (.field f) = ⟨some ⟨j, .identity⟩, []⟩ := by
  obtain ⟨hj, hp, hbefore⟩ := h
  have hfind : s.fields.findIdx? (fun g => g.id == f.id) = some j :=
    List.findIdx?_eq_some_iff_getElem.2
      ⟨hj, beq_iff_eq.2 hp, fun k hk hk' => hbefore k hk (beq_iff_eq.1 hk')⟩
  dsimp only [resolve]
  rw [hfind]

/-- **The exact tier.** A name key resolves, with no event, to the least position of a name
with its parts. -/
theorem resolve_name_eq {s : Schema} {n : Name} {j : Nat}
    (h : IsFirstPos s.fields (fun g => g.name.SameParts s.collation n) j) :
    s.resolve (.name n) = ⟨some ⟨j, .exact⟩, []⟩ := by
  obtain ⟨hj, hp, hbefore⟩ := h
  have hfind : s.fields.findIdx? (fun g => g.name.equiv n s.collation) = some j :=
    List.findIdx?_eq_some_iff_getElem.2 ⟨hj, (Name.equiv_iff _ _ _).2 hp,
      fun k hk hk' => hbefore k hk ((Name.equiv_iff _ _ _).1 hk')⟩
  simp only [resolve, matchName, if_true, hfind]

/-- A key that resolves, with no event, to the least position of a test resolves so to `i`
exactly when `i` is that least position. -/
theorem resolve_eq_iff_isFirstPos {s : Schema} {k : LookupKey} {p : Field → Prop}
    {t : MatchTier} {i j : Nat} (hj : IsFirstPos s.fields p j)
    (hres : s.resolve k = ⟨some ⟨j, t⟩, []⟩) :
    s.resolve k = ⟨some ⟨i, t⟩, []⟩ ↔ IsFirstPos s.fields p i := by
  simp only [hres, Traced.mk.injEq, Option.some.injEq, Match.mk.injEq, and_true]
  exact hj.eq_iff

/-- The field a resolved position holds. -/
theorem field_value_of_resolve {s : Schema} {k : LookupKey} {m : Match}
    (h : s.resolve k = ⟨some m, []⟩) : (s.field k).value = s.fields[m.index]? := by
  simp [field, h, fieldAt?]

/-- **A field resolves to the first field like it.** For every position `i` of a schema:

* the field there, as a key, resolves at the identity tier and with no event to the least
  position `j ≤ i` holding its identity, and `field` answers with the field at `j`; `j` is `i`
  exactly when no earlier position holds that identity, so always when the schema's identities
  are pairwise distinct;
* its name resolves at the exact tier and with no event to the least position `j ≤ i` whose
  name has its parts under the schema's collation; `j` is `i` exactly when no earlier name
  does, so always when the schema is case-sensitive and no other field has that name. -/
theorem resolve_first_like (s : Schema) (i : Nat) (hi : i < s.fields.length) :
    (∃ j ≤ i, IsFirstPos s.fields (fun g => g.id = s.fields[i].id) j ∧
      s.resolve (.field s.fields[i]) = ⟨some ⟨j, .identity⟩, []⟩ ∧
      (s.field (.field s.fields[i])).value = s.fields[j]?) ∧
    (s.resolve (.field s.fields[i]) = ⟨some ⟨i, .identity⟩, []⟩ ↔
      ∀ k (hk : k < i), s.fields[k].id ≠ s.fields[i].id) ∧
    ((s.fields.map Field.id).Nodup →
      s.resolve (.field s.fields[i]) = ⟨some ⟨i, .identity⟩, []⟩ ∧
        (s.field (.field s.fields[i])).value = some s.fields[i]) ∧
    (∃ j ≤ i, IsFirstPos s.fields (fun g => g.name.SameParts s.collation s.fields[i].name) j ∧
      s.resolve (.name s.fields[i].name) = ⟨some ⟨j, .exact⟩, []⟩) ∧
    (s.resolve (.name s.fields[i].name) = ⟨some ⟨i, .exact⟩, []⟩ ↔
      ∀ k (hk : k < i), ¬ s.fields[k].name.SameParts s.collation s.fields[i].name) ∧
    (s.collation = .caseSensitive →
      (∀ k (hk : k < s.fields.length), k ≠ i → s.fields[k].name ≠ s.fields[i].name) →
      s.resolve (.name s.fields[i].name) = ⟨some ⟨i, .exact⟩, []⟩) := by
  obtain ⟨j, hji, hfirst⟩ := exists_isFirstPos (fun g => g.id = s.fields[i].id) hi rfl
  obtain ⟨jn, hjni, hnfirst⟩ :=
    exists_isFirstPos (fun g => g.name.SameParts s.collation s.fields[i].name) hi
      (Name.sameParts_refl _ _)
  have hres := resolve_field_eq hfirst
  have hnres := resolve_name_eq hnfirst
  -- each tier lands on `i` exactly when `i` is its least position; `fs[i]` passes both tests,
  -- so only the earlier positions are left to check
  have hself : s.resolve (.field s.fields[i]) = ⟨some ⟨i, .identity⟩, []⟩ ↔
      ∀ k (hk : k < i), s.fields[k].id ≠ s.fields[i].id :=
    (resolve_eq_iff_isFirstPos hfirst hres).trans
      ⟨fun ⟨_, _, hbefore⟩ => hbefore, fun hbefore => ⟨hi, rfl, hbefore⟩⟩
  have hnself : s.resolve (.name s.fields[i].name) = ⟨some ⟨i, .exact⟩, []⟩ ↔
      ∀ k (hk : k < i), ¬ s.fields[k].name.SameParts s.collation s.fields[i].name :=
    (resolve_eq_iff_isFirstPos hnfirst hnres).trans
      ⟨fun ⟨_, _, hbefore⟩ => hbefore, fun hbefore => ⟨hi, Name.sameParts_refl _ _, hbefore⟩⟩
  refine ⟨⟨j, hji, hfirst, hres, field_value_of_resolve hres⟩, hself, fun hnodup => ?_,
    ⟨jn, hjni, hnfirst, hnres⟩, hnself, fun hcs hother => ?_⟩
  · -- distinct identities: no earlier position holds `fs[i]`'s
    have hdistinct : ∀ k (hk : k < i), s.fields[k].id ≠ s.fields[i].id := fun k hk =>
      List.pairwise_iff_getElem.1 (List.pairwise_map.1 hnodup) k i (by omega) hi hk
    have hat := hself.2 hdistinct
    exact ⟨hat, by rw [field_value_of_resolve hat, List.getElem?_eq_getElem hi]⟩
  · refine hnself.2 fun k hk hsame => ?_
    rw [hcs, Name.sameParts_caseSensitive_iff] at hsame
    exact hother k (by omega) (by omega) hsame

/-- In a schema made from a column list, whose identities are pairwise distinct, the second
field resolves to its own position and `field` gives it back. -/
theorem columns_resolve_own :
    ∃ sc ∈ (({} : Session).after
        [.columns [.ok (["a"], "int", "INTEGER"), .ok (["b"], "long", "BIGINT")]]).schemas.getLast?,
      ∃ h : 1 < sc.fields.length,
        sc.resolve (.field sc.fields[1]) = ⟨some ⟨1, .identity⟩, []⟩ ∧
          (sc.field (.field sc.fields[1])).value = some sc.fields[1] :=
  ⟨_, rfl, by decide, (resolve_first_like _ 1 _).2.2.1 (by decide)⟩

/-- **Builders make fields that resolve elsewhere.** A builder that reuses a column, then the
same column read as another value type, makes a schema whose second field resolves to the
first position, and `field` answers with the first field, not the second. A case-insensitive
builder with columns `a` and `A` makes a schema whose `A` resolves to the position of `a`,
though no other field has the name `A`. -/
theorem builder_resolves_first :
    (∃ sc ∈ (({} : Session).after [.columns [.ok (["a"], "int", "INTEGER")],
        .builder .caseSensitive .warn
          [.reuse (some 0) 0 (.ok .asIs), .reuse (some 0) 0 (.ok (.valueType .long))]]).schemas.getLast?,
      ∃ h : 1 < sc.fields.length,
        sc.resolve (.field sc.fields[1]) = ⟨some ⟨0, .identity⟩, []⟩ ∧
          (sc.field (.field sc.fields[1])).value ≠ some sc.fields[1]) ∧
    ∃ sc ∈ (({} : Session).after [.builder .caseInsensitive .warn
        [.declared (.parts ["a"]) (.ok "INTEGER"), .declared (.parts ["A"]) (.ok "INTEGER")]]).schemas.getLast?,
      ∃ h : 1 < sc.fields.length, sc.fields[0].name ≠ sc.fields[1].name ∧
        sc.resolve (.name sc.fields[1].name) = ⟨some ⟨0, .exact⟩, []⟩ :=
  ⟨⟨_, rfl, by decide, rfl, by decide⟩, ⟨_, rfl, by decide, by decide, rfl⟩⟩

end Schema

end RecordSchema
