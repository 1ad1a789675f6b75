import RecordSchema.Proofs.Resolution
/-!
# Equal schemas resolve alike

Schema equality ignores identities and ambiguity policies: two schemas are equal when they
have the same collation and, position by position, fields of the same shape, that is the same
name, value type and data type. Apart from the identity tier, resolution reads only names,
the collation and the number of fields, and the events it records name the key and positions.
So equal schemas answer every key that does not find a field by its identity in the same way,
events included, and the lookups built on resolution hand out fields of the same shape.

* `Field.shape`, `Schema.equiv_iff` — equality of schemas is equality of collations and of the
  lists of shapes;
* `Schema.firstMatch_congr`, `Schema.matchName_congr`, `Schema.resolve_congr` — resolution in
  schemas with the same collation and the same names, for a key whose identity neither holds;
* `Field.coerceTo_shape`, `Field.coerceToDataType_shape` — coercion looks at a field's shape
  and copies its identity, so fields of one shape coerce to fields of one shape;
* `Schema.resolve_eq_of_equiv` — the main statement.
-/

namespace RecordSchema

/-- What schema equality compares of a field: everything but its identity. -/
def Field.shape (f : Field) : Name × ValueType × DataType := (f.name, f.valueType, f.dataType)

/-- The key finds nothing in the schema by identity: it is not a field, or it is a field whose
identity no field of the schema has. -/
def LookupKey.IdentityAbsent (k : LookupKey) (s : Schema) : Prop :=
  ∀ f, k = .field f → ∀ g ∈ s.fields, g.id ≠ f.id

namespace Schema

/-- Two fields agree in shape exactly when their shapes are equal. -/
theorem Field.sameShape_iff (f g : Field) :
    Field.sameShape f g = true ↔ f.shape = g.shape := by
  simp [Field.sameShape, Field.shape, and_assoc]

/-- **Schema equality.** Two schemas are equal exactly when they have the same collation and,
position by position, fields of the same shape. -/
theorem equiv_iff (a b : Schema) :
    a.equiv b = true ↔
      a.collation = b.collation ∧ a.fields.map Field.shape = b.fields.map Field.shape := by
  -- the code's zip test, read pointwise; its pattern match is the pair's projections
  have hzip := all_zip_iff (fun p => Field.sameShape p.1 p.2) a.fields b.fields
  unfold equiv
  rw [Bool.and_eq_true, Bool.and_eq_true, beq_iff_eq, beq_iff_eq, and_assoc]
  refine and_congr_right fun _ => ⟨fun h => ?_, fun hmap => ?_⟩
  · obtain ⟨hlen, hall⟩ := h
    have hpos := hzip.1 hall
    refine List.ext_getElem (by simpa using hlen) fun j ha hb => ?_
    simp only [List.getElem_map]
    exact (Field.sameShape_iff _ _).1 (hpos j (by simpa using ha) (by simpa using hb))
  · have hlen : a.fields.length = b.fields.length := by simpa using congrArg List.length hmap
    refine ⟨hlen, hzip.2 fun j ha hb => (Field.sameShape_iff _ _).2 ?_⟩
    have hj := congrArg (·[j]?) hmap
    simpa [List.getElem?_map, List.getElem?_eq_getElem ha, List.getElem?_eq_getElem hb] using hj

/-- Fields of the same shapes have the same names. -/
theorem names_eq_of_shapes {a b : Schema}
    (h : a.fields.map Field.shape = b.fields.map Field.shape) :
    a.fields.map (·.name) = b.fields.map (·.name) := by
  have hfst := congrArg (List.map Prod.fst) h
  simpa [List.map_map, Function.comp_def, Field.shape] using hfst

/-! ## Resolution reads names only -/

section SameNames

variable {s₁ s₂ : Schema} (hnames : s₁.fields.map (·.name) = s₂.fields.map (·.name))
include hnames

/-- A test that reads the name only stops at the same position in both schemas. -/
theorem findIdx?_name_eq (q : Name → Bool) :
    s₁.fields.findIdx? (fun f => q f.name) = s₂.fields.findIdx? (fun f => q f.name) := by
  rw [← Function.comp_def, ← List.findIdx?_map, hnames, List.findIdx?_map]

/-- A tier whose test reads the name only has the same candidates in both schemas, so it
chooses the same position and reports the same event. -/
theorem firstMatch_congr (k : LookupKey) (t : MatchTier) (q : Name → Bool) :
    s₁.firstMatch k t (fun f => q f.name) = s₂.firstMatch k t (fun f => q f.name) := by
  have hcandidates :
      s₁.positionsWhere (fun f => q f.name) = s₂.positionsWhere (fun f => q f.name) := by
    rw [positionsWhere_eq_findIdxs, positionsWhere_eq_findIdxs, ← Function.comp_def,
      ← List.findIdxs_map, hnames, List.findIdxs_map]
  unfold firstMatch
  rw [hcandidates]

variable (hc : s₁.collation = s₂.collation)
include hc

/-- The simple tier compares simple names only. -/
theorem matchSimple_congr (k : LookupKey) (x : String) :
    s₁.matchSimple k x = s₂.matchSimple k x := by
  unfold matchSimple
  rw [hc]
  exact firstMatch_congr hnames k .simple fun n => s₂.collation.partEq n.simple x

/-- The tiers of a name compare names only. -/
theorem matchName_congr (k : LookupKey) (n : Name) (exact : Bool) :
    s₁.matchName k n exact = s₂.matchName k n exact := by
  unfold matchName
  rw [hc, findIdx?_name_eq hnames fun x => x.equiv n s₂.collation,
    firstMatch_congr hnames k .suffix fun x => x.suffixEquiv n s₂.collation,
    matchSimple_congr hnames hc]

/-- **Resolution reads names.** In schemas with the same collation and the same names, a key
resolves alike, events included, unless it is a field whose identity one of them holds. -/
theorem resolve_congr (k : LookupKey) (hk₁ : k.IdentityAbsent s₁) (hk₂ : k.IdentityAbsent s₂) :
    s₁.resolve k = s₂.resolve k := by
  cases k with
  | index i =>
    have hdeg : s₁.degree = s₂.degree := by simpa [degree] using congrArg List.length hnames
    simp only [resolve, hdeg]
  | field f =>
    -- neither schema holds the identity, so both go on with the tiers of the name
    have hnone : ∀ s : Schema, (∀ g ∈ s.fields, g.id ≠ f.id) →
        s.fields.findIdx? (fun g => g.id == f.id) = none := fun s hs =>
      List.findIdx?_eq_none_iff.2 fun g hg => by simpa using hs g hg
    simp only [resolve, hnone s₁ (hk₁ f rfl), hnone s₂ (hk₂ f rfl)]
    exact matchName_congr hnames hc _ _ _
  | name n => exact matchName_congr hnames hc _ _ _
  | text t =>
    simp only [resolve]
    cases Name.parse t with
    | ok n =>
      dsimp only
      split
      · exact matchName_congr hnames hc _ _ _
      · exact matchSimple_congr hnames hc _ _
    | error _ => exact matchSimple_congr hnames hc _ _

end SameNames

end Schema

/-! ## Lookups hand out fields of one shape -/

/-- Coercing to a value type looks at the field's shape and keeps its identity, so fields of
one shape coerce to fields of one shape, or are refused alike. -/
theorem Field.coerceTo_shape {f g : Field} (h : f.shape = g.shape) (t : ValueType) :
    (f.coerceTo t).map Field.shape = (g.coerceTo t).map Field.shape := by
  obtain ⟨_, n, vt, dt⟩ := f
  obtain ⟨_, n', vt', dt'⟩ := g
  simp only [Field.shape, Prod.mk.injEq] at h
  obtain ⟨rfl, rfl, rfl⟩ := h
  unfold Field.coerceTo Field.checkCoercion
  split_ifs <;> rfl

/-- Coercing to a data type looks at the field's shape and keeps its identity. -/
theorem Field.coerceToDataType_shape {f g : Field} (h : f.shape = g.shape) (d : DataType) :
    (f.coerceToDataType d).map Field.shape = (g.coerceToDataType d).map Field.shape := by
  obtain ⟨_, n, vt, dt⟩ := f
  obtain ⟨_, n', vt', dt'⟩ := g
  simp only [Field.shape, Prod.mk.injEq] at h
  obtain ⟨rfl, rfl, rfl⟩ := h
  unfold Field.coerceToDataType Field.checkCoercion
  split_ifs <;> rfl

/-- Wrapping a coerced field as found, then forgetting its identity, is forgetting first. -/
theorem map_some_shape (x : Except TypeMismatch Field) :
    (x.map some).map (Option.map Field.shape) = (x.map Field.shape).map some := by
  cases x <;> rfl

/-- A lookup that answers a missing field with nothing and reads a found one through `read`
gives answers of one shape for found fields of one shape, when `read` does. -/
theorem elim_read_shape {o₁ o₂ : Option Field} (h : o₁.map Field.shape = o₂.map Field.shape)
    (read : Field → Except TypeMismatch Field)
    (hread : ∀ f g, f.shape = g.shape → (read f).map Field.shape = (read g).map Field.shape) :
    (o₁.elim (.ok none) fun f => (read f).map some).map (Option.map Field.shape) =
      (o₂.elim (.ok none) fun f => (read f).map some).map (Option.map Field.shape) := by
  cases o₁ with
  | none =>
    cases o₂ with
    | none => rfl
    | some _ => cases h
  | some f =>
    cases o₂ with
    | none => cases h
    | some g =>
      simp only [Option.map_some, Option.some.injEq] at h
      simp only [Option.elim, map_some_shape, hread f g h]

namespace Schema

variable {s₁ s₂ : Schema} {k : LookupKey}

/-- Where two schemas of the same shapes resolve a key alike, `field` finds fields of one
shape. -/
theorem field_shape_congr
    (hshapes : s₁.fields.map Field.shape = s₂.fields.map Field.shape)
    (hres : s₁.resolve k = s₂.resolve k) :
    (s₁.field k).value.map Field.shape = (s₂.field k).value.map Field.shape := by
  simp only [field, fieldAt?, hres]
  cases (s₂.resolve k).value with
  | none => rfl
  | some m =>
    simp only [Option.bind_some]
    rw [← List.getElem?_map, ← List.getElem?_map, hshapes]

/-- Reading a lookup as a value type coerces the field found, if any. -/
theorem fieldAs_value (s : Schema) (k : LookupKey) (t : ValueType) :
    (s.fieldAs k t).value = (s.field k).value.elim (.ok none) fun f => (f.coerceTo t).map some := by
  unfold fieldAs
  dsimp only
  cases (s.field k).value <;> rfl

/-- Reading a lookup as a data type coerces the field found, if any. -/
theorem fieldAsDataType_value (s : Schema) (k : LookupKey) (d : DataType) :
    (s.fieldAsDataType k d).value =
      (s.field k).value.elim (.ok none) fun f => (f.coerceToDataType d).map some := by
  unfold fieldAsDataType
  dsimp only
  cases (s.field k).value <;> rfl

section FoundShape

variable (hfield : (s₁.field k).value.map Field.shape =
  (s₂.field k).value.map Field.shape)
include hfield

/-- Fields of one shape have one value type. -/
theorem typeOf_congr : (s₁.typeOf k).value = (s₂.typeOf k).value := by
  have h := congrArg (Option.map fun x => x.2.1) hfield
  rw [Option.map_map, Option.map_map] at h
  exact h

/-- Fields of one shape have one data type. -/
theorem dataTypeOf_congr : (s₁.dataTypeOf k).value = (s₂.dataTypeOf k).value := by
  have h := congrArg (Option.map fun x => x.2.2) hfield
  rw [Option.map_map, Option.map_map] at h
  exact h

/-- Fields of one shape read as a value type alike: both missing, both refused with one
mismatch, or both read, as fields of one shape. -/
theorem fieldAs_congr (t : ValueType) :
    (s₁.fieldAs k t).value.map (Option.map Field.shape) =
      (s₂.fieldAs k t).value.map (Option.map Field.shape) := by
  rw [fieldAs_value, fieldAs_value]
  exact elim_read_shape hfield (·.coerceTo t) fun _ _ h => Field.coerceTo_shape h t

/-- Fields of one shape read as a data type alike. -/
theorem fieldAsDataType_congr (d : DataType) :
    (s₁.fieldAsDataType k d).value.map (Option.map Field.shape) =
      (s₂.fieldAsDataType k d).value.map (Option.map Field.shape) := by
  rw [fieldAsDataType_value, fieldAsDataType_value]
  exact elim_read_shape hfield (·.coerceToDataType d) fun _ _ h => Field.coerceToDataType_shape h d

end FoundShape

/-- **Equal schemas resolve alike.** Let two schemas be equal: the same collation and,
position by position, fields with the same name, value type and data type, whatever their
identities and policies. A key that is a position, a name, a text, or a field whose identity
neither schema holds resolves in both to the same match with the same ambiguity events. The
field it finds has one shape in both, and so one value type and one data type; reading it as a
value type or a data type is refused in both alike or gives fields that differ at most in
their identities. -/
theorem resolve_eq_of_equiv (heq : s₁.equiv s₂ = true) (k : LookupKey)
    (hk₁ : k.IdentityAbsent s₁) (hk₂ : k.IdentityAbsent s₂) :
    s₁.resolve k = s₂.resolve k ∧
      (s₁.field k).value.map Field.shape =
        (s₂.field k).value.map Field.shape ∧
      (s₁.typeOf k).value = (s₂.typeOf k).value ∧
      (s₁.dataTypeOf k).value = (s₂.dataTypeOf k).value ∧
      (∀ t, (s₁.fieldAs k t).value.map (Option.map Field.shape) =
        (s₂.fieldAs k t).value.map (Option.map Field.shape)) ∧
      ∀ d, (s₁.fieldAsDataType k d).value.map (Option.map Field.shape) =
        (s₂.fieldAsDataType k d).value.map (Option.map Field.shape) := by
  obtain ⟨hc, hshapes⟩ := (equiv_iff s₁ s₂).1 heq
  have hres := resolve_congr (names_eq_of_shapes hshapes) hc k hk₁ hk₂
  have hfield := field_shape_congr hshapes hres
  exact ⟨hres, hfield, typeOf_congr hfield, dataTypeOf_congr hfield, fieldAs_congr hfield,
    fieldAsDataType_congr hfield⟩

/-- Two schemas of the fields `a INTEGER, t.a VARCHAR`, with other identities and another
policy, are equal, and a foreign field named `a` finds the first column in both. -/
theorem foreign_field_resolves_alike :
    let a : Name := ⟨["a"], by simp, by simp⟩
    let ta : Name := ⟨["t", "a"], by simp, by simp⟩
    let s₁ : Schema := { fields := [⟨⟨0⟩, a, .int, { sqlType := .integer }⟩,
      ⟨⟨1⟩, ta, .string, { sqlType := .varchar }⟩] }
    let s₂ : Schema := { fields := [⟨⟨5⟩, a, .int, { sqlType := .integer }⟩,
      ⟨⟨6⟩, ta, .string, { sqlType := .varchar }⟩], policy := .ignore }
    let k : LookupKey := .field ⟨⟨9⟩, a, .long, { sqlType := .bigInt }⟩
    s₁.equiv s₂ = true ∧ k.IdentityAbsent s₁ ∧ k.IdentityAbsent s₂ ∧
      s₁.resolve k = s₂.resolve k ∧
      (s₁.field k).value.map Field.shape =
        (s₂.field k).value.map Field.shape ∧
      (s₁.typeOf k).value = (s₂.typeOf k).value ∧
      (s₁.dataTypeOf k).value = (s₂.dataTypeOf k).value ∧
      (∀ t, (s₁.fieldAs k t).value.map (Option.map Field.shape) =
        (s₂.fieldAs k t).value.map (Option.map Field.shape)) ∧
      ∀ d, (s₁.fieldAsDataType k d).value.map (Option.map Field.shape) =
        (s₂.fieldAsDataType k d).value.map (Option.map Field.shape) := by
  intro a ta s₁ s₂ k
  have heq : s₁.equiv s₂ = true := by decide
  -- the key's identity is `9`, which neither schema holds
  have hk₁ : k.IdentityAbsent s₁ := by
    intro f hf
    obtain rfl := LookupKey.field.inj hf
    decide
  have hk₂ : k.IdentityAbsent s₂ := by
    intro f hf
    obtain rfl := LookupKey.field.inj hf
    decide
  exact ⟨heq, hk₁, hk₂, resolve_eq_of_equiv heq k hk₁ hk₂⟩

end Schema

end RecordSchema
