import RecordSchema.Proofs.SelfResolution
/-!
# Handles resolve back to their column

A lookup hands out the field it finds, or a coerced copy of it, and a caller may use that field
as a key of its own: a handle. This file proves that a handle resolves back to the position it
came from, in every schema a session builds:

* `Cascade.isFirstPos` — a cascade that finds a position at a tier finds the least position
  passing that tier;
* `LookupKey.passes_congr` — whether a field passes a tier depends on its identity and its name
  only;
* `Schema.isFirstPos_id_of_resolve` — in a schema whose fields with one identity have one name,
  no field before the position a name or field key finds holds the identity found there: an
  earlier field with it would have the same name and would have been found first;
* `Schema.handles_resolve_back_of_namesById` — so the found field and every coerced copy of it resolve to
  the least position holding their identity, which for a key other than a position is the
  found position itself;
* `Session.handles_resolve_back` — every schema of every run of a session is such a schema.

A position key finds its position without looking at names, so its handle may resolve to an
earlier copy of the same column.
-/

namespace RecordSchema

/-- A cascade that finds a position at a tier finds the least position passing that tier. -/
theorem Cascade.isFirstPos {fs : List Field} {passes : MatchTier → Field → Prop}
    {ts : List MatchTier} {i : Nat} {t : MatchTier} (h : Cascade fs passes ts (some ⟨i, t⟩)) :
    IsFirstPos fs (passes t) i := by
  generalize hr : (some ⟨i, t⟩ : Option Match) = r at h
  induction h with
  | exhausted => cases hr
  | found hi =>
    cases hr
    exact hi
  | next _ _ ih => exact ih hr

/-- Whether a field passes a tier depends only on its identity and its name. -/
theorem LookupKey.passes_congr (c : Collation) (k : LookupKey) (t : MatchTier) {f g : Field}
    (hid : f.id = g.id) (hname : f.name = g.name) : k.Passes c t f ↔ k.Passes c t g := by
  cases t <;> simp [LookupKey.Passes, Field.simple, hid, hname]

namespace Schema

/-- Fields of the schema with one identity have one name. -/
def NamesById (s : Schema) : Prop :=
  ∀ f ∈ s.fields, ∀ g ∈ s.fields, f.id = g.id → f.name = g.name

/-- A field key resolves to the least position holding its identity. -/
theorem indexOf_field_of_isFirstPos {s : Schema} {f : Field} {j : Nat}
    (h : IsFirstPos s.fields (fun g => g.id = f.id) j) : (s.indexOf (.field f)).value = some j := by
  simp [indexOf, resolve_field_eq h]

/-- **No earlier twin.** In a schema whose fields with one identity have one name, a key other
than a position resolves to the least position holding the identity of the field it finds. -/
theorem isFirstPos_id_of_resolve {s : Schema} (hnames : s.NamesById) {k : LookupKey}
    (hk : ∀ i, k ≠ .index i) {m : Match} (hm : (s.resolve k).value = some m) :
    ∃ h : m.index < s.fields.length,
      IsFirstPos s.fields (fun g => g.id = s.fields[m.index].id) m.index := by
  have hcascade : Cascade s.fields (k.Passes s.collation) k.tiers (some m) := by
    have hres := resolves_resolve s k
    rw [hm] at hres
    cases k with
    | index i => exact absurd rfl (hk i)
    | field f => exact hres
    | name n => exact hres
    | text t => exact hres
  obtain ⟨hi, hpass, hbefore⟩ := Cascade.isFirstPos hcascade
  refine ⟨hi, hi, rfl, fun j hj hid => hbefore j hj ?_⟩
  -- an earlier field with the found identity has the found name, so it passes the same tier
  have hname := hnames _ (List.getElem_mem _) _ (List.getElem_mem hi) hid
  exact (LookupKey.passes_congr s.collation k m.tier hid hname).2 hpass

/-- The field a lookup finds, and a copy of it coerced to a value type or a data type, carry
the identity of the field at the resolved position. -/
theorem handle_ids {s : Schema} {k : LookupKey} {m : Match} (hm : (s.resolve k).value = some m)
    (hi : m.index < s.fields.length) :
    (∀ t g, (s.fieldAs k t).value = .ok (some g) → g.id = s.fields[m.index].id) ∧
      ∀ d g, (s.fieldAsDataType k d).value = .ok (some g) → g.id = s.fields[m.index].id := by
  have hfield : (s.field k).value = some s.fields[m.index] := by
    simp [field, hm, fieldAt?, List.getElem?_eq_getElem hi]
  constructor
  · intro t g hg
    simp only [fieldAs, hfield] at hg
    obtain ⟨g', hg', hsome⟩ := except_map_eq_ok.1 hg
    cases hsome
    exact (Field.coerceTo_twin hg').1
  · intro d g hg
    simp only [fieldAsDataType, hfield] at hg
    obtain ⟨g', hg', hsome⟩ := except_map_eq_ok.1 hg
    cases hsome
    exact (Field.coerceToDataType_twin hg').1

/-- **Handles resolve back.** In a schema whose fields with one identity have one name, let a
key resolve to position `i`. The field at `i`, and every copy of it that `fieldAs` or
`fieldAsDataType` hands out for the key, resolve as keys to the least position `j` holding the
identity of the field at `i`; when the key is not a position, `j` is `i`. -/
theorem handles_resolve_back_of_namesById {s : Schema} (hnames : s.NamesById) (k : LookupKey) {m : Match}
    (hm : (s.resolve k).value = some m) :
    ∃ h : m.index < s.fields.length, ∃ j,
      IsFirstPos s.fields (fun g => g.id = s.fields[m.index].id) j ∧
      ((∀ i, k ≠ .index i) → j = m.index) ∧
      (s.indexOf (.field s.fields[m.index])).value = some j ∧
      (∀ t g, (s.fieldAs k t).value = .ok (some g) → (s.indexOf (.field g)).value = some j) ∧
      ∀ d g, (s.fieldAsDataType k d).value = .ok (some g) → (s.indexOf (.field g)).value = some j := by
  obtain ⟨hi, -⟩ := (resolve_eq_iff_resolves s k).2 m hm
  obtain ⟨j, -, hfirst⟩ := exists_isFirstPos (fun g => g.id = s.fields[m.index].id) hi rfl
  obtain ⟨hids, hdids⟩ := handle_ids hm hi
  -- a handle with the identity of the field at `i` resolves where that field does
  have hback : ∀ g : Field, g.id = s.fields[m.index].id → (s.indexOf (.field g)).value = some j :=
    fun g hg => indexOf_field_of_isFirstPos (by simpa only [hg] using hfirst)
  refine ⟨hi, j, hfirst, fun hk => ?_, hback _ rfl, fun t g hg => hback g (hids t g hg),
    fun d g hg => hback g (hdids d g hg)⟩
  obtain ⟨_, hown⟩ := isFirstPos_id_of_resolve hnames hk hm
  exact hfirst.unique hown

end Schema

namespace Session

/-- Every schema that a run of steps from the empty session holds has one name per identity. -/
theorem namesById_of_mem {steps : List Step} {sc : Schema}
    (hsc : sc ∈ (({} : Session).after steps).schemas) : sc.NamesById := by
  have hcoh := (after_spec {} steps coherent_initial).1.coherent
  intro f hf g hg hid
  exact hcoh.name_eq f (fields_subset hsc hf) g (fields_subset hsc hg) hid

/-- **Handles resolve back, in every schema a session builds.** Let a key resolve to position
`i` in a schema that some run of steps holds. The field at `i` and every copy of it that
`fieldAs` or `fieldAsDataType` hands out for the key resolve, as keys, to the least position
`j` holding the identity of the field at `i`, and `j` is `i` unless the key is a position. -/
theorem handles_resolve_back (steps : List Step) {sc : Schema}
    (hsc : sc ∈ (({} : Session).after steps).schemas) (k : LookupKey) {m : Match}
    (hm : (sc.resolve k).value = some m) :
    ∃ h : m.index < sc.fields.length, ∃ j,
      IsFirstPos sc.fields (fun g => g.id = sc.fields[m.index].id) j ∧
      ((∀ i, k ≠ .index i) → j = m.index) ∧
      (sc.indexOf (.field sc.fields[m.index])).value = some j ∧
      (∀ t g, (sc.fieldAs k t).value = .ok (some g) → (sc.indexOf (.field g)).value = some j) ∧
      ∀ d g, (sc.fieldAsDataType k d).value = .ok (some g) →
        (sc.indexOf (.field g)).value = some j :=
  Schema.handles_resolve_back_of_namesById (namesById_of_mem hsc) k hm

/-- In a column list `t.a INTEGER, t.b BIGINT`, the text `b` resolves to the second column by
its simple name, and the column read as a double resolves back there. -/
theorem coerced_handle_resolves_back :
    ∃ sc ∈ (({} : Session).after
        [.columns [.ok (["t", "a"], "int", "INTEGER"), .ok (["t", "b"], "long", "BIGINT")]]).schemas,
      (sc.resolve (.text "b")).value = some ⟨1, .simple⟩ ∧
        ∀ g, (sc.fieldAs (.text "b") .double).value = .ok (some g) →
          (sc.indexOf (.field g)).value = some 1 := by
  obtain ⟨sc, hsc, hres⟩ : ∃ sc ∈ (({} : Session).after
      [.columns [.ok (["t", "a"], "int", "INTEGER"), .ok (["t", "b"], "long", "BIGINT")]]).schemas,
      (sc.resolve (.text "b")).value = some ⟨1, .simple⟩ :=
    ⟨_, List.mem_singleton_self _, by decide⟩
  obtain ⟨_, j, -, hj, -, hback, -⟩ := handles_resolve_back _ hsc (.text "b") hres
  refine ⟨sc, hsc, hres, fun g hg => ?_⟩
  have hj1 : j = 1 := hj fun i h => LookupKey.noConfusion h
  rw [← hj1]
  exact hback _ g hg

end Session

end RecordSchema
