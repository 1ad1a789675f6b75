import RecordSchema.Schema.Resolve
/-!
# Reading a field as another type

`Schema.fieldAs` and `Schema.fieldAsDataType` resolve a key and hand out the field found under
a requested value type or data type. This file says what they answer, for every schema, key and
requested type:

* `ValueType.canCoerceTo_self` — a value type coerces to itself, so the shortcut that
  `Field.coerceTo` takes for a field's own type never skips a refusal;
* `ValueType.defaultSqlType_valueType` — the default SQL type of a value type is read as that
  value type again, except `bigInteger`: its default, `NUMERIC`, is read as `bigDecimal`;
* `Field.ReadAs` — what a field read as a value type is;
* `Field.coerceTo_cases`, `Field.coerceToDataType_cases` — a coercion is refused, with a type
  mismatch naming the field, its value type and the requested one, exactly when the value
  types do not coerce; otherwise it gives the field so described;
* `Schema.fieldAs_spec` — a lookup read as another type answers nothing exactly when the key
  resolves to nothing, and otherwise what coercing the field found gives;
* `Schema.coerced_bigInteger_reads_bigDecimal` — a field read as `bigInteger` carries a data
  type read as `bigDecimal`.
-/

namespace RecordSchema

namespace ValueType

/-- Every value type coerces to itself. -/
@[simp] theorem canCoerceTo_self (t : ValueType) : t.canCoerceTo t = true := by
  simp [canCoerceTo]

/-- The default SQL type of a value type is read as that value type, except for `bigInteger`:
no SQL type is read as `bigInteger`, and its default, `NUMERIC`, is read as `bigDecimal`. -/
theorem defaultSqlType_valueType (t : ValueType) :
    t.defaultSqlType.valueType = if t = .bigInteger then .bigDecimal else t := by
  cases t <;> simp [defaultSqlType, SqlType.valueType]

end ValueType

namespace Field

/-- The field `f` read as the value type `t` is `g`: `f`'s identity and name, the value type
`t` and `f`'s nullability; `f` itself when `t` is its own value type, and otherwise the
default data type of `t` with that nullability. -/
structure ReadAs (f : Field) (t : ValueType) (g : Field) : Prop where
  id_eq : g.id = f.id
  name_eq : g.name = f.name
  valueType_eq : g.valueType = t
  nullable_eq : g.dataType.nullable = f.dataType.nullable
  eq_self : t = f.valueType → g = f
  dataType_eq : t ≠ f.valueType →
    g.dataType = { sqlType := t.defaultSqlType, nullable := f.dataType.nullable }

/-- A field read as a new value type has a data type read as that value type, but for
`bigInteger`, whose data type is read as `bigDecimal`. -/
theorem ReadAs.dataType_valueType {f g : Field} {t : ValueType} (h : f.ReadAs t g)
    (hne : t ≠ f.valueType) :
    g.dataType.valueType = if t = .bigInteger then .bigDecimal else t := by
  rw [h.dataType_eq hne]
  exact ValueType.defaultSqlType_valueType t

/-- **Coercion to a value type.** Either the value types do not coerce and the field is refused
with a mismatch naming it, its value type and the requested one, or they coerce and the field
is read as the requested type. -/
theorem coerceTo_cases (f : Field) (t : ValueType) :
    (f.valueType.canCoerceTo t = false ∧ f.coerceTo t = .error ⟨f.name, f.valueType, t⟩) ∨
      (f.valueType.canCoerceTo t = true ∧ ∃ g, f.coerceTo t = .ok g ∧ f.ReadAs t g) := by
  by_cases heq : f.valueType = t
  · -- the shortcut: the field's own type, which it always coerces to
    subst heq
    refine .inr ⟨ValueType.canCoerceTo_self _, f, by simp [coerceTo], ?_⟩
    exact ⟨rfl, rfl, rfl, rfl, fun _ => rfl, fun hne => absurd rfl hne⟩
  · cases hc : f.valueType.canCoerceTo t
    · exact .inl ⟨rfl, by simp [coerceTo, heq, checkCoercion, hc]⟩
    · refine .inr ⟨rfl, { f with
        valueType := t
        dataType := { sqlType := t.defaultSqlType, nullable := f.dataType.nullable } },
        by simp [coerceTo, heq, checkCoercion, hc], ?_⟩
      exact ⟨rfl, rfl, rfl, rfl, fun h => absurd h.symm heq, fun _ => rfl⟩

/-- **Coercion to a data type.** Either the value types do not coerce and the field is refused
with a mismatch naming it, its value type and the data type's, or the field keeps its identity
and name and takes the data type and its value type. -/
theorem coerceToDataType_cases (f : Field) (d : DataType) :
    (f.valueType.canCoerceTo d.valueType = false ∧
        f.coerceToDataType d = .error ⟨f.name, f.valueType, d.valueType⟩) ∨
      (f.valueType.canCoerceTo d.valueType = true ∧ ∃ g, f.coerceToDataType d = .ok g ∧
        g.id = f.id ∧ g.name = f.name ∧ g.dataType = d ∧ g.valueType = d.valueType) := by
  cases hc : f.valueType.canCoerceTo d.valueType
  · exact .inl ⟨rfl, by simp [coerceToDataType, checkCoercion, hc]⟩
  · exact .inr ⟨rfl, { f with valueType := d.valueType, dataType := d },
      by simp [coerceToDataType, checkCoercion, hc], rfl, rfl, rfl, rfl⟩

end Field

namespace Schema

variable (s : Schema) (k : LookupKey)

/-- A key that resolves to nothing is read as any type as nothing. -/
theorem fieldAs_of_none (h : (s.field k).value = none) (t : ValueType) (d : DataType) :
    (s.fieldAs k t).value = .ok none ∧ (s.fieldAsDataType k d).value = .ok none := by
  simp [fieldAs, fieldAsDataType, h]

/-- A key that resolves to a field is read as a type by coercing that field. -/
theorem fieldAs_of_some {f : Field} (h : (s.field k).value = some f) (t : ValueType)
    (d : DataType) :
    (s.fieldAs k t).value = (f.coerceTo t).map some ∧
      (s.fieldAsDataType k d).value = (f.coerceToDataType d).map some := by
  simp [fieldAs, fieldAsDataType, h]

/-- A coercion's answer, wrapped as a found field, is never "nothing found". -/
theorem map_some_ne_ok_none {ε α : Type} (x : Except ε α) : x.map some ≠ .ok none := by
  cases x <;> simp [Except.map]

/-- **Lookups read as another type.** For every schema, key, value type `t` and data type `d`:
each lookup answers `.ok none` exactly when the key resolves to nothing. When it resolves to
a field `f`, reading it as `t` is refused with the mismatch `⟨f.name, f.valueType, t⟩` exactly
when `f`'s value type does not coerce to `t`, and otherwise gives the field `f` read as `t`,
whose data type, when `t` is not `f`'s own value type, is read as `t` itself, or as
`bigDecimal` for `t = bigInteger`. Reading it as `d` is refused with
`⟨f.name, f.valueType, d.valueType⟩` exactly when `f`'s value type does not coerce to `d`'s,
and otherwise gives `f`'s identity and name with the data type `d` and its value type. -/
theorem fieldAs_spec (t : ValueType) (d : DataType) :
    ((s.fieldAs k t).value = .ok none ↔ (s.field k).value = none) ∧
      ((s.fieldAsDataType k d).value = .ok none ↔ (s.field k).value = none) ∧
      ∀ f, (s.field k).value = some f →
        ((s.fieldAs k t).value = .error ⟨f.name, f.valueType, t⟩ ↔
            f.valueType.canCoerceTo t = false) ∧
          (f.valueType.canCoerceTo t = true → ∃ g, (s.fieldAs k t).value = .ok (some g) ∧
            f.ReadAs t g ∧
            (t ≠ f.valueType → g.dataType.valueType = if t = .bigInteger then .bigDecimal else t)) ∧
          ((s.fieldAsDataType k d).value = .error ⟨f.name, f.valueType, d.valueType⟩ ↔
            f.valueType.canCoerceTo d.valueType = false) ∧
          (f.valueType.canCoerceTo d.valueType = true → ∃ g,
            (s.fieldAsDataType k d).value = .ok (some g) ∧
            g.id = f.id ∧ g.name = f.name ∧ g.dataType = d ∧ g.valueType = d.valueType) := by
  -- nothing found: both lookups say so, and a found field never reads as nothing
  refine ⟨⟨fun h => ?_, fun h => (fieldAs_of_none s k h t d).1⟩,
    ⟨fun h => ?_, fun h => (fieldAs_of_none s k h t d).2⟩, fun f hf => ?_⟩
  · cases hf : (s.field k).value with
    | none => rfl
    | some f => exact absurd ((fieldAs_of_some s k hf t d).1 ▸ h) (map_some_ne_ok_none _)
  · cases hf : (s.field k).value with
    | none => rfl
    | some f => exact absurd ((fieldAs_of_some s k hf t d).2 ▸ h) (map_some_ne_ok_none _)
  obtain ⟨hvalue, hdata⟩ := fieldAs_of_some s k hf t d
  rw [hvalue, hdata]
  refine ⟨?_, fun hc => ?_, ?_, fun hc => ?_⟩
  · rcases f.coerceTo_cases t with ⟨hc, he⟩ | ⟨hc, g, hg, -⟩
    · simp [he, hc, Except.map]
    · simp [hg, hc, Except.map]
  · rcases f.coerceTo_cases t with ⟨hc', -⟩ | ⟨-, g, hg, hread⟩
    · rw [hc] at hc'
      cases hc'
    · exact ⟨g, by simp [hg, Except.map], hread, hread.dataType_valueType⟩
  · rcases f.coerceToDataType_cases d with ⟨hc, he⟩ | ⟨hc, g, hg, -⟩
    · simp [he, hc, Except.map]
    · simp [hg, hc, Except.map]
  · rcases f.coerceToDataType_cases d with ⟨hc', -⟩ | ⟨-, g, hg, hrest⟩
    · rw [hc] at hc'
      cases hc'
    · exact ⟨g, by simp [hg, Except.map], hrest⟩

/-- A column of value type `int`, read as `bigInteger`, gets the data type `NUMERIC`, which
is read as `bigDecimal`. -/
theorem coerced_bigInteger_reads_bigDecimal :
    ∃ g, (({ fields := [⟨⟨0⟩, ⟨["a"], by simp, by simp⟩, .int, { sqlType := .integer }⟩] } :
        Schema).fieldAs (.name ⟨["a"], by simp, by simp⟩) .bigInteger).value = .ok (some g) ∧
      g.valueType = .bigInteger ∧ g.dataType.sqlType = .numeric ∧
      g.dataType.valueType = .bigDecimal :=
  ⟨_, rfl, rfl, rfl, rfl⟩

end Schema

end RecordSchema
